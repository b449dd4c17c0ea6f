/-
# The Command Line

The outer layer: it reads the arguments, the environment and the files that they name, measures the
time of a count, and prints what `JoinOrder.Command` says.
-/
import JoinOrder.Command.Outcome

namespace JoinOrder.Command

/-- Reads a variable of the environment. -/
def readVariable (name : String) : IO (String × Content) := do
  match ← IO.getEnv name with
  | some value => return (name, .text value)
  | none => return (name, .missing)

/-- The content of a file that the system refuses to read. -/
def contentOfProblem : IO.Error → Content
  | .noFileOrDirectory .. => .missing
  | .permissionDenied .. => .forbidden
  | .inappropriateType _ 21 _ => .directory
  | .inappropriateType .. => .outsideDirectory
  | .invalidArgument .. => .nameTooLong
  | problem => .unreadable (toString problem)

/-- Reads a file. -/
def readContent (path : String) : IO (String × Content) := do
  try
    let bytes ← IO.FS.readBinFile path
    return (path, .ofBytes bytes)
  catch problem => return (path, contentOfProblem problem)

/-- Looks contents up by name. -/
def lookUp (contents : List (String × Content)) (name : String) : Content :=
  (contents.lookup name).getD .missing

/-- Reads what an invocation needs to know of its surroundings. -/
def readSurroundings (invocation : Invocation) : IO Surroundings := do
  let environment ← [Settings.threadsVariable, Settings.verifyVariable,
    Settings.threadPrefixVariable, filterVariable].mapM readVariable
  let files ← invocation.paths.mapM readContent
  return ⟨lookUp environment, lookUp files⟩

/-- Carries out an invocation and measures the time of a count. -/
def perform (around : Surroundings) (invocation : Invocation) : IO Outcome := do
  match invocation.start around with
  | .finished outcome => return outcome
  | .counting job =>
    let began ← IO.monoMsNow
    let run ← IO.lazyPure fun _ => job.run
    let ended ← IO.monoMsNow
    return job.report run (ended - began)

/-- Runs the command line on arguments and returns the exit status. -/
def runArguments (arguments : List String) : IO UInt32 := do
  match Invocation.ofArguments? arguments with
  | none =>
    IO.eprintln <| "Usage: join-enum-cli [--log-level LEVEL] [--json-logs] " ++
      "<count|formula|templates> ..."
    return UInt32.ofNat Outcome.usageStatus
  | some invocation =>
    let around ← readSurroundings invocation
    let outcome ← perform around invocation
    for line in invocation.printed around outcome do
      IO.println line
    match outcome.complaint with
    | some complaint => IO.eprintln complaint
    | none => pure ()
    return UInt32.ofNat outcome.status

end JoinOrder.Command

/-- The entry point of the program. -/
def main (arguments : List String) : IO UInt32 :=
  JoinOrder.Command.runArguments arguments
