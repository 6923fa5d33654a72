/-!
# Blank characters, lines and fields

What separates the fields of a line, for every script: the characters of Unicode's white space
property. `fields` cuts a line into its maximal runs of other characters.
-/

namespace SoftRouter.Blank

/-- The character is white space. -/
def isBlank (c : Char) : Bool :=
  let n := c.toNat
  (9 ≤ n && n ≤ 13) || n = 0x20 || n = 0x85 || n = 0xA0 || n = 0x1680 || (0x2000 ≤ n && n ≤ 0x200A) ||
    n = 0x2028 || n = 0x2029 || n = 0x202F || n = 0x205F || n = 0x3000

/-- The lines of a text. A carriage return at the end of a line stays part of it; it is blank. -/
def lines (text : String) : List (List Char) := text.toList.splitOn '\n'

/-- The maximal runs of characters that are not blank. -/
def fields : List Char → List (List Char)
  | [] => []
  | c :: cs =>
    if isBlank c then fields cs
    else
      match cs with
      | [] => [[c]]
      | d :: _ =>
        if isBlank d then [c] :: fields cs
        else
          match fields cs with
          | word :: words => (c :: word) :: words
          | [] => [[c]]

end SoftRouter.Blank
