import StalestFirst.CommandLine.Misuse
import StalestFirst.Text.Likeness

namespace StalestFirst.CommandLine

/-! ## Invocations

The arguments of the program are read from the left to the right. The first thing
that calls for an answer of its own ends the reading. -/

/-- What the options of a command say. -/
structure Choices where
  settingsFile : Option String
  databaseUrl : Option String
  listenAddress : String
  telemetryListenAddress : String
  queueEndpoint : Option String
  deriving DecidableEq

/-- What the program is to do: show help or its version, complain, or run. Help
is a complaint when nothing was asked. -/
inductive Invocation where
  | help (topic : Topic)
  | helpUnasked
  | version (topic : Topic)
  | misuse (misuse : Misuse)
  | run (command : Command) (choices : Choices)
  deriving DecidableEq

/-- What has been read of the arguments of a topic: the values of options, and the
option read last with its value, if that has come. -/
structure Progress where
  topic : Topic
  values : List (ValueOption × String)
  pending : Option (ValueOption × Option String)

namespace Progress

def start (topic : Topic) : Progress := ⟨topic, [], none⟩

def awaitsValue (progress : Progress) : Bool :=
  match progress.pending with
  | some (_, none) => true
  | _ => false

def value? (progress : Progress) (option : ValueOption) : Option String :=
  (progress.values.find? fun entry => entry.1 == option).map Prod.snd

/-- The usage with the options that have values, and some others. -/
def usage (progress : Progress) (others : List String) : String :=
  progress.topic.usageWith
    (progress.values.map (fun entry => entry.1.usage) ++ others)

/-- Gives an option a value, which it may not have had. -/
def give (progress : Progress) (option : ValueOption) (value : String) :
    Progress × Option Misuse :=
  let without := { progress with
    values := progress.values.filter fun entry => entry.1 != option
    pending := none }
  if (progress.value? option).isSome then
    (without, some ⟨.repeated option, none, some progress.topic.usage⟩)
  else if value = "" ∧ !option.mayBeEmpty then
    (without, some ⟨.missingValue option, none, none⟩)
  else ({ without with values := without.values ++ [(option, value)] }, none)

/-- Gives the option read last its value. -/
def settle (progress : Progress) : Progress × Option Misuse :=
  match progress.pending with
  | none => (progress, none)
  | some (option, none) =>
      ({ progress with pending := none },
        some ⟨.missingValue option, none, none⟩)
  | some (option, some value) => progress.give option value

end Progress

/-! ## What might have been meant -/

/-- The option closest to a name, among those of a topic. -/
def closeOption? (topic : Topic) (name : String) : Option String :=
  (Text.closeWords name topic.optionNames).getLast?

/-- The command that comes first among the other arguments and has an option close
to a name, with that option. -/
def closeCommand? (name : String) (rest : List String) :
    Option (Command × String) :=
  rest.findSome? fun argument => do
    let command ← Command.ofName? argument
    let option ← closeOption? (.command command) name
    pure (command, option)

def unknownOption (progress : Progress) (name : String) (rest : List String) :
    Misuse :=
  let topic := progress.topic
  let known := progress.values.map fun entry => entry.1.usage
  let cause := MisuseCause.unknownArgument ("--" ++ name)
  let plain := if known.isEmpty then topic.usage else progress.usage []
  match closeOption? topic name with
  | some meant =>
      let shown := ((topic.option? meant).map ValueOption.usage).getD
        ("--" ++ meant)
      ⟨cause, some ("a similar argument exists: '--" ++ meant ++ "'"),
        some (progress.usage [shown])⟩
  | none =>
      let elsewhere := if topic = .program then closeCommand? name rest else none
      ⟨cause, elsewhere.map fun (command, option) =>
          "'" ++ command.name ++ " --" ++ option ++ "' exists",
        some plain⟩

def commandTip? (names : List String) : Option String :=
  let quoted := names.map fun name => "'" ++ name ++ "'"
  match quoted with
  | [] => none
  | [name] => some ("a similar subcommand exists: " ++ name)
  | _ => some ("some similar subcommands exist: " ++ ", ".intercalate quoted)

/-- The misuse of an argument that is no option. After two dashes no command can
come. -/
def strayArgument (topic : Topic) (afterDashes : Bool) (argument : String) :
    Misuse :=
  let names := topic.commandNames
  if afterDashes ∧ names.contains argument then
    ⟨.unknownArgument argument,
      some ("subcommand '" ++ argument ++
        "' exists; to use it, remove the '--' before it"),
      some topic.usage⟩
  else if names.isEmpty then
    ⟨.unknownArgument argument, none, some topic.usage⟩
  else
    ⟨.unknownCommand argument, commandTip? (Text.closeWords argument names),
      some topic.usage⟩

/-! ## Reading -/

/-- How the reading of the arguments of a topic ended: there were no more, or a
command came with arguments of its own, or the program knows what to do. -/
inductive Ending where
  | finished (progress : Progress)
  | command (progress : Progress) (name : String) (rest : List String)
  | early (invocation : Invocation)

/-- An invocation, unless the option read last has no good value. -/
def afterSettling (progress : Progress) (invocation : Invocation) : Invocation :=
  match progress.settle.2 with
  | some misuse => .misuse misuse
  | none => invocation

/-- The name behind two dashes, and the value behind an equals sign. -/
def splitOption? (argument : String) : Option (String × Option String) :=
  match argument.toList with
  | '-' :: '-' :: text =>
      let name := String.ofList (text.takeWhile (· != '='))
      match text.dropWhile (· != '=') with
      | _ :: value => some (name, some (String.ofList value))
      | [] => some (name, none)
  | _ => none

/-- The character behind one dash. -/
def letter? (argument : String) : Option Char :=
  match argument.toList with
  | '-' :: c :: _ => some c
  | _ => none

/-- What an option without a value calls for. -/
def request? (topic : Topic) (name : String) : Option Invocation :=
  if name = "help" ∨ name = "h" then some (.help topic)
  else if name = "version" ∨ name = "V" then some (.version topic)
  else none

/-- Reads an option with a name of several letters. -/
def readOption (progress : Progress) (name : String) (value : Option String)
    (rest : List String) : Except Invocation Progress :=
  let (settled, misuse) := progress.settle
  let topic := progress.topic
  match topic.option? name with
  | some option =>
      match misuse, value with
      | some misuse, _ => .error (.misuse misuse)
      | none, none => .ok { settled with pending := some (option, none) }
      | none, some value =>
          match settled.give option value with
          | (next, none) => .ok next
          | (_, some misuse) => .error (.misuse misuse)
  | none =>
      let request := if 1 < name.length then request? topic name else none
      match request, value with
      | some request, none => .error (afterSettling progress request)
      | some _, some value =>
          .error (.misuse ⟨.surplusValue ("--" ++ name) value, none,
            some (progress.usage ["--" ++ name])⟩)
      | none, _ => .error (.misuse (unknownOption settled name rest))

def readArguments (progress : Progress) : List String → Ending
  | [] => .finished progress
  | argument :: rest =>
      let topic := progress.topic
      if !progress.awaitsValue && topic.commandNames.contains argument then
        .command progress argument rest
      else if argument = "--" then
        match rest with
        | [] => .finished progress
        | stray :: _ => .early (.misuse (strayArgument topic true stray))
      else
        match splitOption? argument, letter? argument with
        | some (name, value), _ =>
            match readOption progress name value rest with
            | .ok next => readArguments next rest
            | .error invocation => .early invocation
        | none, some letter =>
            match request? topic (String.singleton letter) with
            | some request => .early (afterSettling progress request)
            | none =>
                .early (.misuse ⟨.unknownArgument ("-" ++ String.singleton letter),
                  none, some topic.usage⟩)
        | none, none =>
            match progress.pending with
            | some (option, none) =>
                readArguments
                  { progress with pending := some (option, some argument) } rest
            | _ => .early (.misuse (strayArgument topic false argument))

/-! ## What is not on the command line -/

/-- Gives an option without a value the one that the environment has. -/
def withEnvironment (environment : Environment) (progress : Progress)
    (option : ValueOption) : Except Misuse Progress :=
  match progress.value? option, environment.get? option.environmentName with
  | none, some value =>
      match progress.give option value with
      | (next, none) => .ok next
      | (_, some misuse) => .error misuse
  | _, _ => .ok progress

def complete (environment : Environment) (progress : Progress) :
    Except Misuse Progress :=
  match progress.settle with
  | (_, some misuse) => .error misuse
  | (settled, none) =>
      settled.topic.options.foldlM (withEnvironment environment) settled

def checkRequired (progress : Progress) : Except Misuse Unit :=
  let absent := progress.topic.requiredOptions.filter fun option =>
    (progress.value? option).isNone
  if absent.isEmpty then .ok ()
  else .error ⟨.missingOptions absent, none, some (progress.usage [])⟩

/-- The help on the topic that a row of arguments names. -/
def helpOn : List String → Invocation
  | [] => .help .program
  | name :: rest =>
      let topic? :=
        if name = "help" then some Topic.help
        else (Command.ofName? name).map Topic.command
      match topic?, rest with
      | some topic, [] => .help topic
      | some topic, stray :: _ =>
          .misuse ⟨.unknownCommand stray, none, some topic.usage⟩
      | none, _ => .misuse ⟨.unknownCommand name, none, some Topic.program.usage⟩

/-- What the values of a command say. The file with settings may also be named
before the command, which counts more than the environment. -/
def choicesOf (outer inner : Progress) (written : Option String) : Choices :=
  let value (option : ValueOption) : Option String :=
    inner.value? option <|> option.default
  { settingsFile := written <|> outer.value? .settings
    databaseUrl := value .databaseUrl
    listenAddress := (value .listenAddress).getD ""
    telemetryListenAddress := (value .telemetryListenAddress).getD ""
    queueEndpoint := value .queueEndpoint }

def readCommand (environment : Environment) (outer : Progress) (command : Command)
    (arguments : List String) : Invocation :=
  match readArguments (.start (.command command)) arguments with
  | .early invocation => invocation
  | .command _ _ _ => .helpUnasked
  | .finished progress =>
      let written := progress.settle.1.value? .settings
      let checked := do
        let inner ← complete environment progress
        checkRequired inner
        pure (inner, ← complete environment outer)
      match checked with
      | .error misuse => .misuse misuse
      | .ok (inner, outerValues) =>
          .run command (choicesOf outerValues inner written)

def Invocation.ofArguments (environment : Environment) (arguments : List String) :
    Invocation :=
  match readArguments (.start .program) arguments with
  | .early invocation => invocation
  | .command outer name rest =>
      match Command.ofName? name with
      | some command => readCommand environment outer command rest
      | none => helpOn rest
  | .finished progress =>
      match complete environment progress with
      | .error wrong => .misuse wrong
      | .ok progress =>
          if progress.values.isEmpty then .helpUnasked
          else .misuse ⟨.missingCommand, none, some progress.topic.usage⟩

end StalestFirst.CommandLine
