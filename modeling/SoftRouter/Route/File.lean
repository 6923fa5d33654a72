import SoftRouter.Route.Table
import SoftRouter.Text.Blank
import SoftRouter.Text.Quoted

/-!
# Route files

Static routes, one a line: destination, gateway, mask and interface, between blanks. Blank lines
and lines that begin with `#` say nothing. One malformed line makes the whole file malformed.
-/

namespace SoftRouter

/-- The addresses of a line. -/
inductive RouteField where
  | destination
  | gateway
  | mask
  deriving DecidableEq, Repr

/-- The name of a field in messages. -/
def RouteField.name : RouteField → String
  | destination => "destination"
  | gateway => "gateway"
  | mask => "mask"

/-- What is wrong with a line. -/
inductive RouteLineError where
  | fieldCount (found : Nat)
  | address (field : RouteField) (text : List Char)
  deriving DecidableEq, Repr

/-- The wording of each fault. -/
def RouteLineError.message : RouteLineError → String
  | fieldCount found => "expected 4 fields, found " ++ toString found
  | address field text => "bad " ++ field.name ++ " address " ++ Quoted.quote text

namespace RouteFile

/-- An address field. -/
def parseAddress (field : RouteField) (text : List Char) : Except RouteLineError Ipv4Addr :=
  match Ipv4Addr.read text with
  | some (ip, []) => .ok ip
  | _ => .error (.address field text)

/-- The route that the fields of a line give. -/
def parseFields : List (List Char) → Except RouteLineError RouteEntry
  | [destination, gateway, mask, interface] => do
    let destination ← parseAddress .destination destination
    let gateway ← parseAddress .gateway gateway
    let mask ← parseAddress .mask mask
    return .fixed destination mask gateway (String.ofList interface)
  | fields => .error (.fieldCount fields.length)

/-- The fields of a line that says something. -/
def content? (line : List Char) : Option (List (List Char)) :=
  match Blank.fields line with
  | [] => none
  | ('#' :: _) :: _ => none
  | fields => some fields

/-- The routes of numbered lines; a fault comes with the number of its line. -/
def parseLines : (number : Nat) → List (List Char) → Except (Nat × RouteLineError) (List RouteEntry)
  | _, [] => .ok []
  | number, line :: rest =>
    match content? line with
    | none => parseLines (number + 1) rest
    | some fields =>
      match parseFields fields with
      | .error fault => .error (number, fault)
      | .ok route => do return route :: (← parseLines (number + 1) rest)

/-- The routes of a file. Lines are numbered from 1. -/
def parse (text : String) : Except (Nat × RouteLineError) (List RouteEntry) := parseLines 1 (Blank.lines text)

end RouteFile

end SoftRouter
