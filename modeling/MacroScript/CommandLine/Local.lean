import MacroScript.CommandLine.Console
import MacroScript.CommandLine.LogFilter
import MacroScript.Shell.Evaluation

/-! The surroundings that the program has here. Files and the clock are those of the machine;
commands that are given to a shell go to the one in `Shell`, which starts no process. The numbers by
which a time limit is kept without a clock are chosen so that no run that ends in time is stopped;
no result depends on them. -/

namespace MacroScript.CommandLine

/-- To start a shell takes a millisecond. -/
def runShell (command : String) (files : Shell.Written) : ShellResult Shell.Written :=
  let result := Shell.run files command
  { printed := result.printed
    fault := match result.ending with
      | .error cause => some (.unstarted cause)
      | .ok ending => ending.failure?.map .ended
    elapsed := result.elapsed + 1
    late := result.late
    left := result.files }

def system : System Shell.Written where
  parse := parse
  checkFilter filter := (checkFilter filter).mapError FilterFault.message
  shell := runShell
  untouched := {}
  budget timeoutMs := 100000 + 3000 * timeoutMs
  -- most of the work for a line is with the values of the variables
  cost run := 1 + run.vars.size / 8

def faultOf : IO.Error → ReadFault
  | .noFileOrDirectory .. => .notFound
  | error => .other (toString error)

def readTextFile (path : String) : IO (Except ReadFault String) := do
  try
    let bytes ← IO.FS.readBinFile path
    match String.fromUTF8? bytes with
    | some text => return .ok text
    | none => return .error .notText
  catch error => return .error (faultOf error)

/-- How many lines are visited before what they print is shown and the clock is looked at. -/
def linesAtATime : Nat := 1000

/-- Shows what a run has printed, and goes on with it until it ends or the time is up. -/
partial def carryOn (request : Request) (started : Nat) (leg : Leg (Console Shell.Written)) :
    IO UInt32 := do
  let out ← IO.getStdout
  out.putStr leg.host.printed
  out.flush
  match leg.outcome with
  | some outcome =>
    out.putStr (unlines (reportLines outcome.change) ++ leg.host.lateText)
    return (exitCode outcome.change.state).toUInt32
  | none =>
    let passed := (← IO.monoMsNow) - started
    let timeUp := request.timeoutMs.any (· ≤ passed)
    carryOn request started
      (Run.drive (system.host request) linesAtATime leg.run { leg.host with printed := "", timeUp })

end MacroScript.CommandLine
