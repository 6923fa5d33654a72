import SoftRouter.Toml.Scalar
import SoftRouter.Toml.Token

/-!
# TOML documents

The statements of a TOML text: assignments and headers. No configuration gives a meaning to a value
that is neither a string nor a list nor an inline table, so that all others are kept as they are
written.
-/

namespace SoftRouter.Toml

/-- A value. -/
inductive Value where
  | text (content : String)
  /-- A boolean, a number, a date or a time. -/
  | scalar (word : String)
  | list (items : List Value)
  | table (fields : List (List String × Value))
  deriving Repr

/-- A statement. Keys are the parts between dots. -/
inductive Statement where
  /-- A key and its value. -/
  | assign (key : List String) (value : Value)
  /-- The header of a table. -/
  | table (key : List String)
  /-- The header of the next element of a list of tables. -/
  | element (key : List String)
  deriving Repr

/-- How deep lists and inline tables may lie in one another, and how many parts a key may have. -/
def depthLimit : Nat := 79

/-- Leaves out blanks. -/
def skipBlanks (tokens : List Token) : List Token := tokens.dropWhile fun t => t = .space || t = .tab

/-- Leaves out blanks and line ends. -/
def skipSpace (tokens : List Token) : List Token :=
  tokens.dropWhile fun t => t = .space || t = .tab || t = .newline

/-- Reads the parts of a key and the blanks behind it; `expecting` tells that a part must follow. -/
def readParts (expecting : Bool) : List Token → Option (List String × List Token)
  | .space :: rest => readParts expecting rest
  | .tab :: rest => readParts expecting rest
  | .bare word :: rest =>
    if expecting then (readParts false rest).map fun (parts, rest) => (String.ofList word :: parts, rest) else none
  | .text content false :: rest =>
    if expecting then (readParts false rest).map fun (parts, rest) => (String.ofList content :: parts, rest) else none
  | .dot :: rest => if expecting then none else readParts true rest
  | rest => if expecting then none else some ([], rest)

/-- Reads a key and the blanks around it. -/
def readKey (tokens : List Token) : Option (List String × List Token) := do
  let (key, rest) ← readParts true tokens
  if depthLimit < key.length then none else some (key, rest)

/-- No key is another one or the beginning of another one. -/
def distinct (keys : List (List String)) : Bool :=
  match keys with
  | [] => true
  | key :: rest => rest.all (fun other => !key.isPrefixOf other && !other.isPrefixOf key) && distinct rest

/-- The characters of the words and marks that tokens begin with. -/
def readWord : List Token → List Char × List Token
  | .bare word :: rest => let (cs, rest) := readWord rest; (word ++ cs, rest)
  | .dot :: rest => let (cs, rest) := readWord rest; ('.' :: cs, rest)
  | .plus :: rest => let (cs, rest) := readWord rest; ('+' :: cs, rest)
  | .colon :: rest => let (cs, rest) := readWord rest; (':' :: cs, rest)
  | rest => ([], rest)

/-- Reads a boolean, a number, a date or a time. A single space may stand between a date and a time. -/
def readScalar (tokens : List Token) : Option (Value × List Token) :=
  let (word, rest) := readWord tokens
  let (word, rest) := match rest with
    | .space :: behind =>
      match readWord behind with
      | ([], _) => (word, rest)
      | (time, behind) => (word ++ ' ' :: time, behind)
    | _ => (word, rest)
  if Scalar.isScalar word then some (.scalar (String.ofList word), rest) else none

mutual

/-- Reads a value with at most `depth` levels of lists and tables; `fuel` bounds the calls that follow. -/
def readValueWith : (fuel depth : Nat) → List Token → Option (Value × List Token)
  | 0, _, _ => none
  | fuel + 1, depth, tokens =>
    match tokens, depth with
    | .text content _ :: rest, _ => some (.text (String.ofList content), rest)
    | .openBracket :: _, 0 => none
    | .openBracket :: rest, depth + 1 =>
      (readItemsWith fuel depth rest).map fun (items, rest) => (.list items, rest)
    | .openBrace :: _, 0 => none
    | .openBrace :: rest, depth + 1 =>
      match skipBlanks rest with
      | .closeBrace :: rest => some (.table [], rest)
      | rest => do
        let (fields, rest) ← readFieldsWith fuel depth rest
        if distinct (fields.map Prod.fst) then some (.table fields, rest) else none
    | tokens, _ => readScalar tokens

/-- Reads the items of a list up to its end; a comma may stand behind the last one. -/
def readItemsWith : (fuel depth : Nat) → List Token → Option (List Value × List Token)
  | 0, _, _ => none
  | fuel + 1, depth, tokens =>
    match skipSpace tokens with
    | .closeBracket :: rest => some ([], rest)
    | tokens => do
      let (item, rest) ← readValueWith fuel depth tokens
      match skipSpace rest with
      | .comma :: rest => (readItemsWith fuel depth rest).map fun (items, rest) => (item :: items, rest)
      | .closeBracket :: rest => some ([item], rest)
      | _ => none

/-- Reads the fields of an inline table up to its end, all on one line. -/
def readFieldsWith : (fuel depth : Nat) → List Token → Option (List (List String × Value) × List Token)
  | 0, _, _ => none
  | fuel + 1, depth, tokens => do
    let (key, rest) ← readKey tokens
    match rest with
    | .equals :: rest =>
      let (value, rest) ← readValueWith fuel depth (skipBlanks rest)
      match skipBlanks rest with
      | .comma :: rest => (readFieldsWith fuel depth rest).map fun (fields, rest) => ((key, value) :: fields, rest)
      | .closeBrace :: rest => some ([(key, value)], rest)
      | _ => none
    | _ => none

end

/-- Reads a value. Between two tokens there are at most two calls. -/
def readValue (tokens : List Token) : Option (Value × List Token) :=
  readValueWith (2 * tokens.length + 1) depthLimit tokens

/-- Reads a statement up to the end of its line. -/
def readStatement : List Token → Option (Statement × List Token)
  | .openBracket :: .openBracket :: rest => do
    match ← readKey rest with
    | (key, .closeBracket :: .closeBracket :: rest) => some (.element key, rest)
    | _ => none
  | .openBracket :: rest => do
    match ← readKey rest with
    | (key, .closeBracket :: rest) => some (.table key, rest)
    | _ => none
  | tokens => do
    match ← readKey tokens with
    | (key, .equals :: rest) =>
      let (value, rest) ← readValue (skipBlanks rest)
      some (.assign key value, rest)
    | _ => none

/-- Reads statements to the end, one a line; `fuel` bounds their number. -/
def readStatementsWith : (fuel : Nat) → List Token → Option (List Statement)
  | 0, _ => none
  | fuel + 1, tokens =>
    match skipSpace tokens with
    | [] => some []
    | tokens => do
      let (statement, rest) ← readStatement tokens
      match skipBlanks rest with
      | [] => some [statement]
      | .newline :: rest => (readStatementsWith fuel rest).map (statement :: ·)
      | _ => none

/-- The statements of a text. Every statement takes at least a token. -/
def parse? (text : String) : Option (List Statement) := do
  let tokens ← tokens? text
  readStatementsWith (tokens.length + 1) tokens

end SoftRouter.Toml
