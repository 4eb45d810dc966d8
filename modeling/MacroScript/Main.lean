import MacroScript.CommandLine.Local

/-! The program itself: reads the file that the arguments name, and prints while the run goes on. -/

open MacroScript MacroScript.CommandLine in
def main (arguments : List String) : IO UInt32 := do
  match system.parse ("" :: arguments) with
  | .misuse => return 2
  | .help topic =>
    IO.print topic.text
    return 0
  | .run request =>
    let text ← readTextFile request.script
    match system.prepare (fun _ => text) request with
    | .error error =>
      IO.print (unlines error.lines)
      return 1
    | .ok script =>
      carryOn request (← IO.monoMsNow)
        { outcome := none, run := { script }, host := { left := system.untouched } }
