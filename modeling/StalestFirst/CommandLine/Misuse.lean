import StalestFirst.CommandLine.Help

namespace StalestFirst.CommandLine

/-! ## Misuse -/

inductive MisuseCause where
  | unknownArgument (argument : String)
  | unknownCommand (name : String)
  | missingValue (option : ValueOption)
  | repeated (option : ValueOption)
  | surplusValue (flag value : String)
  | missingOptions (options : List ValueOption)
  | missingCommand
  deriving DecidableEq

def MisuseCause.message : MisuseCause → List String
  | .unknownArgument argument =>
      ["unexpected argument '" ++ argument ++ "' found"]
  | .unknownCommand name => ["unrecognized subcommand '" ++ name ++ "'"]
  | .missingValue option =>
      ["a value is required for '" ++ option.usage ++ "' but none was supplied"]
  | .repeated option =>
      ["the argument '" ++ option.usage ++ "' cannot be used multiple times"]
  | .surplusValue flag value =>
      ["unexpected value '" ++ value ++ "' for '" ++ flag ++
        "' found; no more were expected"]
  | .missingOptions options =>
      "the following required arguments were not provided:" ::
        options.map fun option => "  " ++ option.usage
  | .missingCommand =>
      ["'" ++ Topic.programName ++
          "' requires a subcommand but one was not provided",
        "  [subcommands: " ++ ", ".intercalate Topic.program.commandNames ++ "]"]

/-- What is wrong, what might have been meant, and how the program is used. -/
structure Misuse where
  cause : MisuseCause
  tip : Option String
  usage : Option String
  deriving DecidableEq

namespace Misuse

/-- A text behind an empty line, if there is one. -/
private def paragraph (start : String) : Option String → List String
  | none => []
  | some text => ["", start ++ text]

def page (misuse : Misuse) : List String :=
  let message := match misuse.cause.message with
    | [] => []
    | first :: rest => ("error: " ++ first) :: rest
  message ++ paragraph "  tip: " misuse.tip ++ paragraph "Usage: " misuse.usage ++
    ["", "For more information, try '--help'."]

end Misuse

end StalestFirst.CommandLine
