/-!
# Paths of files

A path is a text with `/` between its parts. An empty part and the part `.` lead nowhere else, so
they do not count at the end of a path; inside a path they stay as they are written.
-/

namespace SoftRouter.Path

/-- Leaves out the parts at the end that lead nowhere else. Takes and gives the path in reverse. A
path keeps its first part, so that the root is still the root and `.` is still `.`. -/
def trim : List Char → List Char
  | [] => []
  | '/' :: rest => if rest.isEmpty then ['/'] else trim rest
  | '.' :: rest => if rest.head? = some '/' then trim rest else '.' :: rest
  | c :: rest => c :: rest

/-- The directory that a file lies in; it is empty for a path of a single part. -/
def parent (path : String) : String :=
  String.ofList (trim ((trim path.toList.reverse).dropWhile (· ≠ '/'))).reverse

/-- The path begins at the root. -/
def isAbsolute (path : String) : Bool := path.toList.head? = some '/'

/-- A path seen from a directory; a path from the root stays as it is. -/
def resolve (directory path : String) : String :=
  if directory.isEmpty || isAbsolute path then path
  else if directory.toList.getLast? = some '/' then directory ++ path
  else directory ++ "/" ++ path

end SoftRouter.Path
