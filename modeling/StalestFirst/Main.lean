import StalestFirst.CommandLine.Start

namespace StalestFirst.CommandLine

/-! ## The program

The program does what its command line says and writes what that brings. -/

def readEnvironment : IO Environment := do
  let names := Command.all.flatMap fun command =>
    (Topic.command command).options.map ValueOption.environmentName
  let values ← names.eraseDups.filterMapM fun name => do
    return (← IO.getEnv name).map fun value => (name, value)
  return NameMap.ofList values

def readFile (path : String) : IO (Except FileFault (List UInt8)) := do
  try
    return .ok (← IO.FS.readBinFile path).toList
  catch fault =>
    match fault with
    | .noFileOrDirectory .. => return .error .missing
    | .inappropriateType .. => return .error .directory
    | _ => return .error (.other (toString fault))

/-- The file that the arguments name, with what reading it brings. -/
def readSettings (environment : Environment) (arguments : List String) :
    IO (Except FileFault (List UInt8)) :=
  match Invocation.ofArguments environment arguments with
  | .run _ ⟨some path, _, _, _, _⟩ => readFile path
  | _ => return .error .missing

/-- Does what the arguments say, and gives the exit code. The program has no network
of its own, so that a start ends when its log is written. -/
def program (arguments : List String) : IO UInt32 := do
  let environment ← readEnvironment
  let content ← readSettings environment arguments
  match run environment (fun _ => content) arguments with
  | .serving log =>
      log.forM IO.println
      return 0
  | .ended report =>
      report.output.forM IO.println
      report.errors.forM IO.eprintln
      return UInt32.ofNat report.code

end StalestFirst.CommandLine

def main (arguments : List String) : IO UInt32 :=
  StalestFirst.CommandLine.program arguments
