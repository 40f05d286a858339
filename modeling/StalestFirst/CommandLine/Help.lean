import StalestFirst.CommandLine.Command
import StalestFirst.NameMap

namespace StalestFirst.CommandLine

/-! ## Help

The help on a topic tells its purpose, its usage, and its commands and options. -/

abbrev Environment := NameMap String

namespace Topic

def requiredOptions (topic : Topic) : List ValueOption :=
  topic.options.filter ValueOption.isRequired

def usage (topic : Topic) : String :=
  let required := (topic.requiredOptions.map fun option => " " ++ option.usage)
  match topic with
  | .program => topic.title ++ " [OPTIONS] <COMMAND>"
  | .command _ => topic.title ++ " [OPTIONS]" ++ String.join required
  | .help => topic.title ++ " [COMMAND]..."

/-- How a topic is used with some options, behind those that must be given. -/
def usageWith (topic : Topic) (options : List String) : String :=
  let shown :=
    (topic.requiredOptions.map ValueOption.usage ++ options).eraseDups
  let command := if topic = .program then " <COMMAND>" else ""
  topic.title ++ String.join (shown.map (" " ++ ·)) ++ command

def purpose : Topic → String
  | .program => "Secret Keeper backend: anonymous message boxes, stalest first"
  | .command chosen => chosen.purpose
  | .help => "Print this message or the help of the given subcommand(s)"

end Topic

/-- What an option is for, with the value that the environment gives and the one
that it has otherwise. -/
def ValueOption.description (environment : Environment) (option : ValueOption) :
    String :=
  let name := option.environmentName
  let given := (environment.get? name).getD ""
  let default := match option.default with
    | some value => " [default: " ++ value ++ "]"
    | none => ""
  option.purpose ++ " [env: " ++ name ++ "=" ++ given ++ "]" ++ default

def table (rows : List (String × String)) : List String :=
  let width := (rows.map fun row => row.1.length).foldl max 0
  rows.map fun (left, right) =>
    "  " ++ left ++ String.ofList (List.replicate (width - left.length + 2) ' ') ++
      right

/-- The rows of a list of options. Long options stand on lines of their own. -/
def optionRows (apart : Bool) (rows : List (String × String)) : List String :=
  if apart then
    rows.flatMap fun (left, right) => ["  " ++ left, "          " ++ right]
  else table rows

namespace Topic

def commandTable : List String :=
  table (Command.all.map (fun command => (command.name, command.purpose)) ++
    [("help", Topic.help.purpose)])

def optionTable (environment : Environment) (topic : Topic) : List String :=
  let ordered := ValueOption.settings ::
    topic.options.filter (· != ValueOption.settings)
  optionRows (topic != .program)
    (ordered.map (fun option =>
      ("    " ++ option.usage, option.description environment)) ++
      [("-h, --help", "Print help"), ("-V, --version", "Print version")])

def helpPage (environment : Environment) (topic : Topic) : List String :=
  [topic.purpose, "", "Usage: " ++ topic.usage, ""] ++
    match topic with
    | .program =>
        ["Commands:"] ++ commandTable ++ ["", "Options:"] ++
          topic.optionTable environment
    | .command _ => ["Options:"] ++ topic.optionTable environment
    | .help =>
        ["Arguments:"] ++
          table [("[COMMAND]...", "Print help for the subcommand(s)")]

end Topic

end StalestFirst.CommandLine
