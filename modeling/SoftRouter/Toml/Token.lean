import SoftRouter.Text.Digits

/-!
# Tokens of TOML

A configuration is written in TOML. This module cuts a text into tokens: the four kinds of strings
with their escapes resolved, bare words, punctuation, blanks and line ends. Comments are left out.
Blanks are kept because the brackets of `[[` must stand next to each other, and spaces are told from
tabs because a space may stand between a date and a time.
-/

namespace SoftRouter.Toml

/-- A token. A string over several lines can be a value but not a key. -/
inductive Token where
  | bare (word : List Char)
  | text (content : List Char) (severalLines : Bool)
  | equals
  | dot
  | plus
  | colon
  | comma
  | openBracket
  | closeBracket
  | openBrace
  | closeBrace
  | space
  | tab
  | newline
  deriving DecidableEq, Repr

/-- The character may stand in a comment, and in a string where it has no meaning of its own. -/
def isPlain (c : Char) : Bool := c = '\t' || (0x20 ≤ c.toNat && c.toNat ≠ 0x7F)

/-- The character may stand in a bare key. -/
def isBare (c : Char) : Bool := c.isAlphanum || c = '-' || c = '_'

/-- Punctuation and blanks. -/
def punctuation? (c : Char) : Option Token :=
  match c with
  | '=' => some .equals
  | '.' => some .dot
  | '+' => some .plus
  | ':' => some .colon
  | ',' => some .comma
  | '[' => some .openBracket
  | ']' => some .closeBracket
  | '{' => some .openBrace
  | '}' => some .closeBrace
  | ' ' => some .space
  | '\t' => some .tab
  | '\n' => some .newline
  | _ => none

/-- The character that a letter after a backslash stands for. -/
def escaped? (c : Char) : Option Char :=
  match c with
  | 'b' => some '\x08'
  | 't' => some '\t'
  | 'n' => some '\n'
  | 'f' => some '\x0c'
  | 'r' => some '\r'
  | '"' => some '"'
  | '\\' => some '\\'
  | _ => none

/-- The character with a code point in hexadecimal. -/
def codePoint? (digits : List Char) : Option Char :=
  match Digits.span 16 digits with
  | (ds, []) =>
    let n := Digits.numeral 16 ds
    if n.isValidChar then some (Char.ofNat n) else none
  | _ => none

/-- After a backslash: only blanks stand before the end of the line. -/
def endsLine (cs : List Char) : Bool :=
  match cs.dropWhile (fun c => c = ' ' || c = '\t') with
  | '\n' :: _ => true
  | '\r' :: '\n' :: _ => true
  | _ => false

/-- Puts a character of a bare word in front of the tokens that follow it. -/
def consBare (c : Char) : List Token → List Token
  | .bare word :: rest => .bare (c :: word) :: rest
  | tokens => .bare [c] :: tokens

mutual

/-- The tokens of a text, outside strings and comments. -/
def scan : List Char → Option (List Token)
  | [] => some []
  | '#' :: rest => scanComment rest
  | '"' :: '"' :: '"' :: '\n' :: rest => scanBasicLines [] false rest
  | '"' :: '"' :: '"' :: '\r' :: '\n' :: rest => scanBasicLines [] false rest
  | '"' :: '"' :: '"' :: rest => scanBasicLines [] false rest
  | '"' :: rest => scanBasic [] rest
  | '\'' :: '\'' :: '\'' :: '\n' :: rest => scanLiteralLines [] rest
  | '\'' :: '\'' :: '\'' :: '\r' :: '\n' :: rest => scanLiteralLines [] rest
  | '\'' :: '\'' :: '\'' :: rest => scanLiteralLines [] rest
  | '\'' :: rest => scanLiteral [] rest
  | '\r' :: '\n' :: rest => (scan rest).map (.newline :: ·)
  | c :: rest =>
    match punctuation? c with
    | some token => (scan rest).map (token :: ·)
    | none => if isBare c then (scan rest).map (consBare c) else none
termination_by structural cs => cs

/-- The tokens after a comment. -/
def scanComment : List Char → Option (List Token)
  | [] => some []
  | '\n' :: rest => (scan rest).map (.newline :: ·)
  | '\r' :: '\n' :: rest => (scan rest).map (.newline :: ·)
  | c :: rest => if isPlain c then scanComment rest else none
termination_by structural cs => cs

/-- The tokens from inside a string between double quotes; what was read of it comes in reverse. -/
def scanBasic (read : List Char) : List Char → Option (List Token)
  | [] => none
  | '"' :: rest => (scan rest).map (.text read.reverse false :: ·)
  | '\\' :: 'u' :: a :: b :: c :: d :: rest => do scanBasic ((← codePoint? [a, b, c, d]) :: read) rest
  | '\\' :: 'U' :: a :: b :: c :: d :: e :: f :: g :: h :: rest => do
    scanBasic ((← codePoint? [a, b, c, d, e, f, g, h]) :: read) rest
  | '\\' :: c :: rest => do scanBasic ((← escaped? c) :: read) rest
  | c :: rest => if isPlain c && c ≠ '\\' then scanBasic (c :: read) rest else none
termination_by structural cs => cs

/-- The tokens from inside a string between single quotes. -/
def scanLiteral (read : List Char) : List Char → Option (List Token)
  | [] => none
  | '\'' :: rest => (scan rest).map (.text read.reverse false :: ·)
  | c :: rest => if isPlain c then scanLiteral (c :: read) rest else none
termination_by structural cs => cs

/-- The tokens from inside a string between three double quotes. Up to two more quotes before the
closing ones belong to it. `skipping` leaves out blanks and line ends, after a backslash that ends
a line. -/
def scanBasicLines (read : List Char) (skipping : Bool) : List Char → Option (List Token)
  | [] => none
  | '"' :: '"' :: '"' :: '"' :: '"' :: rest => (scan rest).map (.text ('"' :: '"' :: read).reverse true :: ·)
  | '"' :: '"' :: '"' :: '"' :: rest => (scan rest).map (.text ('"' :: read).reverse true :: ·)
  | '"' :: '"' :: '"' :: rest => (scan rest).map (.text read.reverse true :: ·)
  | '\\' :: 'u' :: a :: b :: c :: d :: rest => do scanBasicLines ((← codePoint? [a, b, c, d]) :: read) false rest
  | '\\' :: 'U' :: a :: b :: c :: d :: e :: f :: g :: h :: rest => do
    scanBasicLines ((← codePoint? [a, b, c, d, e, f, g, h]) :: read) false rest
  | '\\' :: c :: rest => do
    if endsLine (c :: rest) then scanBasicLines read true rest
    else scanBasicLines ((← escaped? c) :: read) false rest
  | '\r' :: '\n' :: rest => scanBasicLines (if skipping then read else '\n' :: read) skipping rest
  | c :: rest =>
    if c = '\n' then scanBasicLines (if skipping then read else '\n' :: read) skipping rest
    else if skipping && (c = ' ' || c = '\t') then scanBasicLines read true rest
    else if isPlain c && c ≠ '\\' then scanBasicLines (c :: read) false rest
    else none
termination_by structural cs => cs

/-- The tokens from inside a string between three single quotes. -/
def scanLiteralLines (read : List Char) : List Char → Option (List Token)
  | [] => none
  | '\'' :: '\'' :: '\'' :: '\'' :: '\'' :: rest => (scan rest).map (.text ('\'' :: '\'' :: read).reverse true :: ·)
  | '\'' :: '\'' :: '\'' :: '\'' :: rest => (scan rest).map (.text ('\'' :: read).reverse true :: ·)
  | '\'' :: '\'' :: '\'' :: rest => (scan rest).map (.text read.reverse true :: ·)
  | '\r' :: '\n' :: rest => scanLiteralLines ('\n' :: read) rest
  | c :: rest => if c = '\n' || isPlain c then scanLiteralLines (c :: read) rest else none
termination_by structural cs => cs

end

/-- The tokens of a text, which may begin with a byte order mark. -/
def tokens? (text : String) : Option (List Token) :=
  match text.toList with
  | '\uFEFF' :: rest => scan rest
  | cs => scan cs

end SoftRouter.Toml
