import StalestFirst.CommandLine.Invocation
import StalestFirst.CommandLine.Listening
import StalestFirst.Database.Outage
import StalestFirst.Settings.File
import StalestFirst.Settings.Review

namespace StalestFirst.CommandLine

/-! ## Starting

What a command does before it serves: it reads its settings, opens its store and
finds its addresses. The program ends there if one of these fails. -/

structure Report where
  code : Nat
  output : List String
  errors : List String
  deriving DecidableEq

/-- How starting ended: the program serves, having written a log, or it has
ended. -/
inductive Outcome where
  | serving (log : List String)
  | ended (report : Report)
  deriving DecidableEq

def logLine (finding : Finding) : String :=
  let label := match finding.severity with
    | .error => "ERROR"
    | .warning => "WARN"
  label ++ " config: " ++ finding.message

def failed (log : List String) (reason : String) : Outcome :=
  .ended ⟨1, log, ["error: " ++ reason]⟩

/-- The end of a program that is stopped by a fault of its own. -/
def crashed (log : List String) : Outcome := .ended ⟨101, log, []⟩

def listen (choices : Choices) (log : List String) : Outcome :=
  match ListenAddress.check [] choices.listenAddress with
  | .error fault =>
      failed log ("bind " ++ choices.listenAddress ++ ": " ++ fault.message)
  | .ok address =>
      match ListenAddress.check [address] choices.telemetryListenAddress with
      | .error fault =>
          failed log
            ("bind " ++ choices.telemetryListenAddress ++ ": " ++ fault.message)
      | .ok _ => .serving log

/-- Opens the store. No database is within reach. -/
def openStore (settings : Settings) (choices : Choices) (log : List String) :
    Outcome :=
  match choices.databaseUrl.filter (· != "") with
  | none =>
      listen choices
        (log ++ ["WARN no database configured, boxes are kept in memory only"])
  | some url =>
      match Database.connect? settings.store url with
      | none => crashed log
      | some trouble =>
          failed log ("connect to database: " ++ trouble.fault.message)

def start (choices : Choices) (loaded : Except Fault Settings) : Outcome :=
  match loaded with
  | .error fault => failed [] ("load configuration: " ++ fault.message)
  | .ok settings =>
      let log := settings.review.map logLine
      match settings.check with
      | .error fault => failed log fault.message
      | .ok _ => openStore settings choices log

def loadSettings (read : String → Except FileFault (List UInt8))
    (choices : Choices) : Except Fault Settings :=
  match choices.settingsFile with
  | none => .ok .standard
  | some path => Settings.ofFile path (read path)

def run (environment : Environment)
    (read : String → Except FileFault (List UInt8)) (arguments : List String) :
    Outcome :=
  match Invocation.ofArguments environment arguments with
  | .help topic => .ended ⟨0, topic.helpPage environment, []⟩
  | .helpUnasked => .ended ⟨2, [], Topic.program.helpPage environment⟩
  | .version topic => .ended ⟨0, [topic.versionLine], []⟩
  | .misuse misuse => .ended ⟨2, [], misuse.page⟩
  | .run _ choices => start choices (loadSettings read choices)

end StalestFirst.CommandLine
