import SoftRouter.Text.Digits
import SoftRouter.Text.Unprintable

/-!
# Quoted text

A message quotes a faulty field between double quotes. Quotes, backslashes and characters that do
not print on their own are written as escapes, so that the reader sees every character.
-/

namespace SoftRouter.Quoted

/-- How a character is written between the quotes. -/
def escape (c : Char) : String :=
  match c with
  | '\x00' => "\\0"
  | '\t' => "\\t"
  | '\r' => "\\r"
  | '\n' => "\\n"
  | '"' => "\\\""
  | '\\' => "\\\\"
  | _ => if Unprintable.contains c then "\\u\x7b" ++ Digits.hex c.toNat ++ "\x7d" else c.toString

/-- The text between double quotes. -/
def quote (text : List Char) : String :=
  "\"" ++ String.join (text.map escape) ++ "\""

end SoftRouter.Quoted
