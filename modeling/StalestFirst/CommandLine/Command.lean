namespace StalestFirst.CommandLine

/-! ## Commands

The program has a command for each way to run. Every command takes options with
values, which may also come from the environment. -/

/-- An option with a value: its name, what stands for the value in texts, what it
is for, the variable of the environment that may give it, the value it has
otherwise, and whether it must be given and whether it may be empty. -/
structure ValueOption where
  name : String
  placeholder : String
  purpose : String
  environmentName : String
  default : Option String
  isRequired : Bool
  mayBeEmpty : Bool
  deriving DecidableEq

namespace ValueOption

def settings : ValueOption where
  name := "config"
  placeholder := "CONFIG"
  purpose := "YAML tuning file (defaults apply when omitted)"
  environmentName := "KEEPER_CONFIG"
  default := none
  isRequired := false
  mayBeEmpty := false

def databaseUrl : ValueOption where
  name := "database-url"
  placeholder := "DATABASE_URL"
  purpose := "PostgreSQL connection URL (in-memory store when unset)"
  environmentName := "DATABASE_URL"
  default := none
  isRequired := false
  mayBeEmpty := true

def listenAddress : ValueOption where
  name := "listen-address"
  placeholder := "LISTEN_ADDRESS"
  purpose := "Address to listen on for API requests"
  environmentName := "LISTEN_ADDRESS"
  default := some "0.0.0.0:8080"
  isRequired := false
  mayBeEmpty := true

def telemetryListenAddress : ValueOption where
  name := "telemetry-listen-address"
  placeholder := "TELEMETRY_LISTEN_ADDRESS"
  purpose := "Address to listen on for telemetry requests"
  environmentName := "TELEMETRY_LISTEN_ADDRESS"
  default := some "0.0.0.0:9090"
  isRequired := false
  mayBeEmpty := true

def queueEndpoint : ValueOption where
  name := "queue-endpoint"
  placeholder := "QUEUE_ENDPOINT"
  purpose := "URL of the secret-keeper queue service"
  environmentName := "QUEUE_ENDPOINT"
  default := none
  isRequired := true
  mayBeEmpty := true

def flag (option : ValueOption) : String := "--" ++ option.name

/-- An option and its value as texts show them. -/
def usage (option : ValueOption) : String :=
  option.flag ++ " <" ++ option.placeholder ++ ">"

end ValueOption

/-- A way to run: a queue service, a box service that asks a queue service, or a
box service with a queue of its own. -/
inductive Command where
  | queue
  | server
  | standalone
  deriving DecidableEq

namespace Command

def all : List Command := [.queue, .server, .standalone]

def name : Command → String
  | .queue => "queue"
  | .server => "server"
  | .standalone => "standalone"

def purpose : Command → String
  | .queue => "Run a secret-keeper queue instance"
  | .server => "Run a secret-keeper server instance against a remote queue"
  | .standalone => "Run the server with an in-process queue"

/-- The options that a command has besides the file with settings. -/
def ownOptions (command : Command) : List ValueOption :=
  let listening :=
    [ValueOption.databaseUrl, .listenAddress, .telemetryListenAddress]
  match command with
  | .server => listening ++ [.queueEndpoint]
  | _ => listening

def ofName? (name : String) : Option Command :=
  all.find? fun command => command.name == name

end Command

/-- What help can be about: the whole program, a command, or the help itself. -/
inductive Topic where
  | program
  | command (command : Command)
  | help
  deriving DecidableEq

namespace Topic

def programName : String := "secret-keeper"

def programVersion : String := "0.1.0"

def options : Topic → List ValueOption
  | .program => [.settings]
  | .command chosen => chosen.ownOptions ++ [.settings]
  | .help => []

/-- The commands that may follow, among them the help. -/
def commandNames : Topic → List String
  | .program => Command.all.map Command.name ++ ["help"]
  | _ => []

def optionNames (topic : Topic) : List String :=
  topic.options.map ValueOption.name ++ ["help", "version"]

def option? (topic : Topic) (name : String) : Option ValueOption :=
  topic.options.find? fun option => option.name == name

/-- The name of a topic, behind that of the program. -/
def title : Topic → String
  | .program => programName
  | .command chosen => programName ++ " " ++ chosen.name
  | .help => programName ++ " help"

def versionLine : Topic → String
  | .command chosen =>
      programName ++ "-" ++ chosen.name ++ " " ++ programVersion
  | _ => programName ++ " " ++ programVersion

end Topic

end StalestFirst.CommandLine
