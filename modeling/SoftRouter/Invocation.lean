/-!
# The command line

A configuration file is required. A route file may replace the one that the configuration names,
and the router may be asked to report what it does.
-/

namespace SoftRouter

/-- What a command line asks for. -/
structure Invocation where
  config : String
  routeFile : Option String := none
  verbose : Bool := false
  deriving DecidableEq, Repr

/-- What is wrong with a command line. -/
inductive UsageError where
  | unknownArgument (argument : String)
  | missingValue (option : String)
  | repeated (option : String)
  | noConfig
  deriving DecidableEq, Repr

/-- The wording of each fault. -/
def UsageError.message : UsageError → String
  | unknownArgument argument => "unexpected argument " ++ argument
  | missingValue option => option ++ " needs a value"
  | repeated option => option ++ " is given more than once"
  | noConfig => "a configuration is required: --config FILE"

namespace Invocation

/-- How the program is called. -/
def usage : String := "usage: softrouter --config FILE [--rtable FILE] [--verbose]"

/-- An option of the command line. -/
inductive Flag where
  | config
  | rtable
  | verbose
  deriving DecidableEq, Repr

/-- The long name of an option. -/
def Flag.name : Flag → String
  | config => "--config"
  | rtable => "--rtable"
  | verbose => "--verbose"

/-- The option that an argument names, in its short or long form. -/
def Flag.ofArgument? : String → Option Flag
  | "-c" | "--config" => some config
  | "-r" | "--rtable" => some rtable
  | "-v" | "--verbose" => some verbose
  | _ => none

/-- The options read so far. -/
structure Draft where
  config : Option String := none
  routeFile : Option String := none
  verbose : Bool := false

/-- Reads the options of a command line in any order, each at most once. -/
def readFlags (d : Draft) : List String → Except UsageError Draft
  | [] => .ok d
  | argument :: rest =>
    match Flag.ofArgument? argument with
    | none => .error (.unknownArgument argument)
    | some .verbose =>
      if d.verbose then .error (.repeated Flag.verbose.name) else readFlags { d with verbose := true } rest
    | some .config =>
      match rest with
      | [] => .error (.missingValue Flag.config.name)
      | value :: rest =>
        if d.config.isSome then .error (.repeated Flag.config.name)
        else readFlags { d with config := some value } rest
    | some .rtable =>
      match rest with
      | [] => .error (.missingValue Flag.rtable.name)
      | value :: rest =>
        if d.routeFile.isSome then .error (.repeated Flag.rtable.name)
        else readFlags { d with routeFile := some value } rest

/-- Reads a command line. -/
def parse (arguments : List String) : Except UsageError Invocation := do
  let d ← readFlags {} arguments
  match d.config with
  | some config => return { config, routeFile := d.routeFile, verbose := d.verbose }
  | none => throw .noConfig

end Invocation

end SoftRouter
