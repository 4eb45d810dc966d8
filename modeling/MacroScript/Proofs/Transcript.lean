import MacroScript.CommandLine.Local
import MacroScript.Proofs.CaseLimits
import MacroScript.Proofs.Records

/-! # What the program prints is the record of the run

The program prints a line for each command it is given and three lines on how the run ended. No line
holds a terminator of its own, because a string literal escapes it, so the lines are found again by
splitting, and each literal is read as the text that was printed. The record that is read back is
that of the plain run of the script with an executor that accepts everything; and a case that
rejects nothing and sets no limit reports the same. -/

namespace MacroScript

/-- The executor that accepts every command. -/
def Executor.acceptAll : Executor := fun _ => none

namespace CommandLine

open Json (Value)

/-! ## Reading a transcript -/

/-- The command on a line. -/
def readCommand? (line : List Char) : Option String := do
  let payload ← Text.after? "COMMAND_JSON:".toList line
  (← Value.parse? (String.ofList payload)).text?

/-- The change on the three lines that end a transcript, behind which there is nothing more. The
result has to be the one that belongs to the state. -/
def readChange? : List (List Char) → Option StateChange
  | [resultLine, stateLine, messageLine, []] => do
    let result ← Text.after? "RESULT:".toList resultLine
    let code ← Text.after? "STATE:".toList stateLine
    let payload ← Text.after? "MESSAGE_JSON:".toList messageLine
    let state ← RunState.ofCode? (String.ofList code)
    let message ← Value.nullable? Value.text? (← Value.parse? (String.ofList payload))
    if String.ofList result = (if state = .failed then "ERROR" else "OK") then
      some { state, message }
    else none
  | _ => none

/-- The commands on the lines, as long as there are such, and then the change. -/
def readRecord? : List (List Char) → Option Report
  | [] => none
  | line :: lines =>
    match readCommand? line with
    | some command =>
      (readRecord? lines).map fun report => { report with commands := command :: report.commands }
    | none => (readChange? (line :: lines)).map fun change => { commands := [], change }

/-- The record of a run that was printed. -/
def readTranscript? (printed : String) : Option Report :=
  readRecord? (Text.fields '\n' printed.toList)

/-! ## Lines -/

theorem not_mem_escape (c : Char) : '\n' ∉ Json.escape c := by
  have hhex : ∀ n < 16, Json.hexDigit n ≠ '\n' := by decide
  unfold Json.escape
  split
  any_goals decide
  rename_i hother _ _
  split
  · rename_i hcontrol
    have hfirst := hhex (c.toNat / 16) (by omega)
    have hsecond := hhex (c.toNat % 16) (by omega)
    simp [hfirst.symm, hsecond.symm]
  · simpa using Ne.symm hother

theorem not_mem_literal (text : String) : '\n' ∉ (literal text).toList := by
  simp [literal, Json.quote, not_mem_escape]

theorem not_mem_commandLine (command : String) : '\n' ∉ (commandLine command).toList := by
  show '\n' ∉ ("COMMAND_JSON:" ++ literal command).toList
  rw [String.toList_append, List.mem_append]
  exact not_or.mpr ⟨by decide, not_mem_literal command⟩

theorem not_mem_reportLines (change : StateChange) :
    ∀ line ∈ reportLines change, '\n' ∉ line.toList := by
  have hresult : '\n' ∉ ("RESULT:" ++ if change.state = .failed then "ERROR" else "OK").toList := by
    split <;> decide
  have hstate : '\n' ∉ ("STATE:" ++ change.state.code).toList := by
    cases change.state <;> decide
  have hmessage : '\n' ∉ ("MESSAGE_JSON:" ++ match change.message with
      | some message => literal message
      | none => "null").toList := by
    rw [String.toList_append, List.mem_append]
    refine not_or.mpr ⟨by decide, ?_⟩
    cases change.message with
    | none => decide
    | some message => exact not_mem_literal message
  intro line hline
  simp only [reportLines, List.mem_cons, List.not_mem_nil, or_false] at hline
  rcases hline with rfl | rfl | rfl
  · exact hresult
  · exact hstate
  · exact hmessage

theorem not_mem_lines (commands : List String) (change : StateChange) :
    ∀ line ∈ commands.map commandLine ++ reportLines change, '\n' ∉ line.toList := by
  intro line hline
  rcases List.mem_append.mp hline with hline | hline
  · obtain ⟨command, -, rfl⟩ := List.mem_map.mp hline
    exact not_mem_commandLine command
  · exact not_mem_reportLines change line hline

theorem unlines_append (lines more : List String) :
    unlines (lines ++ more) = unlines lines ++ unlines more := by
  simp [unlines]

/-- Lines that hold no terminator are found again by splitting. -/
theorem fields_unlines {lines : List String} (h : ∀ line ∈ lines, '\n' ∉ line.toList) :
    Text.fields '\n' (unlines lines).toList = lines.map String.toList ++ [[]] := by
  induction lines with
  | nil => rfl
  | cons line lines ih =>
    have hline := h line List.mem_cons_self
    have hrest := ih fun other hother => h other (List.mem_cons_of_mem line hother)
    have hsplit : (unlines (line :: lines)).toList =
        line.toList ++ '\n' :: (unlines lines).toList := by
      simp [unlines]
    rw [hsplit, Text.fields_append_cons hline, hrest]
    rfl

/-! ## Reading back -/

theorem parse?_literal (text : String) : Value.parse? (literal text) = some (.text text) := by
  have hrender : (Value.text text).render = literal text := by
    simp [Value.render, Value.text, Value.tokens, Json.Token.chars, literal]
  rw [← hrender]
  exact Value.parse?_of_written (Value.writable_text text).written_render

theorem after?_append (pattern text : List Char) :
    Text.after? pattern (pattern ++ text) = some text := by
  induction pattern with
  | nil => rfl
  | cons c pattern ih => simp [Text.after?, ih]

theorem after?_toList (tag text : String) :
    Text.after? tag.toList (tag ++ text).toList = some text.toList := by
  rw [String.toList_append, after?_append]

theorem readCommand?_commandLine (command : String) :
    readCommand? (commandLine command).toList = some command := by
  show readCommand? ("COMMAND_JSON:" ++ literal command).toList = some command
  rw [readCommand?, after?_toList]
  simp [parse?_literal]

theorem readChange?_lines {state : RunState} {message : Option String} {payload : String}
    {value : Value} (hvalue : Value.parse? payload = some value)
    (hmessage : value.nullable? Value.text? = some message) :
    readChange? [("RESULT:" ++ if state = .failed then "ERROR" else "OK").toList,
      ("STATE:" ++ state.code).toList, ("MESSAGE_JSON:" ++ payload).toList, []] =
      some ⟨state, message⟩ := by
  simp only [readChange?, after?_toList]
  simp [RunState.ofCode?_code, hvalue, hmessage]

theorem readChange?_reportLines (change : StateChange) :
    readChange? ((reportLines change).map String.toList ++ [[]]) = some change := by
  obtain ⟨state, message⟩ := change
  cases message with
  | none =>
    have hnull : Value.parse? "null" = some .null := rfl
    exact readChange?_lines hnull rfl
  | some message => exact readChange?_lines (parse?_literal message) rfl

/-- The lines of a run are read as its record. -/
theorem readRecord?_lines (commands : List String) (change : StateChange) :
    readRecord? ((commands.map commandLine ++ reportLines change).map String.toList ++ [[]]) =
      some ⟨commands, change⟩ := by
  induction commands with
  | nil =>
    have hother : readCommand?
        ("RESULT:" ++ if change.state = .failed then "ERROR" else "OK").toList = none := by
      split <;> rfl
    have hlast : readRecord? ((reportLines change).map String.toList ++ [[]]) =
        (readChange? ((reportLines change).map String.toList ++ [[]])).map
          fun change => { commands := [], change } := by
      rw [reportLines, List.map_cons, List.cons_append, readRecord?, hother]
    rw [List.map_nil, List.nil_append, hlast, readChange?_reportLines, Option.map_some]
  | cons command commands ih =>
    simp only [List.map_cons, List.cons_append, readRecord?, readCommand?_commandLine, ih,
      Option.map_some]

/-- What is printed of a run is read as its record. -/
theorem readTranscript?_unlines (commands : List String) (change : StateChange) :
    readTranscript? (unlines (commands.map commandLine ++ reportLines change)) =
      some ⟨commands, change⟩ := by
  rw [readTranscript?, fields_unlines (not_mem_lines commands change), readRecord?_lines]

/-! ## The host of the command line and the executor that accepts everything -/

variable {σ : Type} {system : System σ}

theorem host_alike (system : System σ) {request : Request} (hecho : request.shell = false) :
    (system.host request).Alike (Executor.acceptAll.host .never) fun console exchange =>
      console.printed = unlines (exchange.commands.map commandLine) ∧ console.late = [] ∧
        console.timeUp = false where
  poll := by
    rintro console exchange ⟨hprinted, hlate, htime⟩
    exact ⟨htime, hprinted, hlate, htime⟩
  execute := by
    rintro command console exchange ⟨hprinted, hlate, htime⟩
    have hanswer : (system.host request).execute command console =
        (none, { console with
          commands := console.commands + 1
          printed := console.printed ++ commandLine command ++ "\n" }) := by
      simp [System.host, System.execute, hecho]
    rw [hanswer]
    refine ⟨rfl, ?_, hlate, htime⟩
    show console.printed ++ commandLine command ++ "\n" =
      unlines ((exchange.commands ++ [command]).map commandLine)
    rw [List.map_append, unlines_append, hprinted, String.append_assoc]
    simp [unlines]

/-- The program prints the lines of the run and ends with the code of its state. -/
theorem perform_of_ended {read : ReadText} {request : Request} {script : Script}
    (hprepare : system.prepare read request = .ok script) (hecho : request.shell = false)
    (htimeout : request.timeoutMs = none) {n limit : Nat} {outcome : Outcome}
    (hends : (Executor.acceptAll.run .never script n).outcome = some outcome) (hlimit : n ≤ limit) :
    system.perform read limit request = some
      ⟨exitCode outcome.change.state,
        unlines ((Executor.acceptAll.run .never script n).host.commands.map commandLine ++
          reportLines outcome.change)⟩ := by
  have hrun : Executor.acceptAll.run .never script limit =
      Executor.acceptAll.run .never script n :=
    Executor.run_of_le hlimit (by simp [hends])
  let console : Console σ := { left := system.untouched }
  have hnew : console.printed = unlines (({} : Exchange).commands.map commandLine) ∧
      console.late = [] ∧ console.timeUp = false := ⟨rfl, rfl, rfl⟩
  obtain ⟨houtcome, -, hprinted, hlate, -⟩ :=
    Run.drive_alike (host_alike system hecho) limit { script } hnew
  change _ = (Executor.acceptAll.run .never script limit).outcome at houtcome
  change _ = unlines ((Executor.acceptAll.run .never script limit).host.commands.map commandLine)
    at hprinted
  rw [hrun] at houtcome hprinted
  have hdrive : system.driveScript request limit script =
      Run.drive (system.host request) limit { script } console := by
    rw [System.driveScript, htimeout]
  simp only [System.perform, hprepare, hdrive, houtcome, hends, Option.map_some, hprinted,
    Console.lateText, hlate, unlines_append]
  simp

theorem parse_script {path : String} (hpath : path ≠ "") (hvalue : looksLikeOption path = false)
    (program : String) : parse [program, "run", "--script", path] = .run { script := path } := by
  have hset : ({} : Options).set? .script path = some { script := some path } := by
    simp [Options.set?, hpath]
  have hhelp : asksForHelp "--script" = false := by decide
  have hname : setting? "--script" = some .script := rfl
  show readRun {} ["--script", path] = .run { script := path }
  unfold readRun
  rw [if_neg (by decide), hhelp, if_neg Bool.false_ne_true, if_neg (by decide)]
  simp only [hname, hvalue, hset]
  rfl

end CommandLine

/-! ## The case that rejects nothing and sets no limit -/

theorem Executor.run_eq_of_ended {executor : Executor} {script : Script} {m n : Nat}
    {outcome other : Outcome} (hm : (executor.run .never script m).outcome = some outcome)
    (hn : (executor.run .never script n).outcome = some other) :
    executor.run .never script m = executor.run .never script n := by
  rcases Nat.le_total m n with hle | hle
  · exact (run_of_le hle (by simp [hm])).symm
  · exact run_of_le hle (by simp [hn])

theorem TestCase.executor_eq_acceptAll {test : TestCase} (h : test.failingCommands = []) :
    test.executor = Executor.acceptAll := by
  funext received
  simp [executor, Executor.acceptAll, h]

/-- Such a case can only report what the plain run of its script does. -/
theorem TestCase.eq_of_perform {test : TestCase} {script : Script} {report : Report} {limit : Nat}
    (hfailing : test.failingCommands = []) (hlimit : test.stopAfterCommands = none)
    (hperform : test.perform limit script = some (.ok report)) {n : Nat} {outcome : Outcome}
    (hends : (Executor.acceptAll.run .never script n).outcome = some outcome) :
    report = ⟨(Executor.acceptAll.run .never script n).host.commands, outcome.change⟩ := by
  have hexecutor := executor_eq_acceptAll hfailing
  cases verdict_of_perform hperform with
  | ended ends few =>
    rw [hexecutor] at ends ⊢
    have hsame := Executor.run_eq_of_ended ends hends
    rw [hsame, hends] at ends
    rw [hsame]
    cases ends
    rfl
  | rejected limit failing =>
    rw [hfailing] at failing
    cases failing
  | lastLine limit passing last =>
    -- the guard comes with the last line, so the plain run is completed behind it as well
    have hcompletes := limit.forwards.completes (by rw [executor_concat, if_neg passing]) last
    rw [hexecutor] at hcompletes ⊢
    have hsame := Executor.run_eq_of_ended (congrArg (·.outcome) hcompletes) hends
    rw [← hsame, hcompletes] at hends ⊢
    cases hends
    rfl
  | limited limit passing more limited =>
    exact absurd (fun bound hbound => by simp [hlimit] at hbound) limited

namespace CommandLine

theorem prepare_script {read : ReadText} {path : String} {script : Script}
    (hload : loadScript read path = .ok script) (system : System σ) :
    system.prepare read { script := path } = .ok script := by
  simp only [System.prepare, hload]
  rfl

/-- **What the program prints decodes to the run.** Asked for a script that can be loaded, without a
shell and without a time limit, the program prints newline-terminated lines once the plain run of
the script ends: one for each command, in order, and then three on how it ended. Reading
them gives back the commands, the state and the message, and the exit code is that of the state. A
case with the same script, that rejects nothing and sets no limit, reports the same if it reports at
all. None of this depends on the system around the program, except that it has to take the
arguments for such a request; and here it does, unless the name of the script looks like an
option. -/
theorem output_decodes_to_run :
    (∀ program path : String, path ≠ "" → looksLikeOption path = false →
      parse [program, "run", "--script", path] = .run { script := path }) ∧
    (∀ (σ : Type) (system : System σ) (read : ReadText) (path : String) (script : Script),
      loadScript read path = .ok script →
        system.prepare read { script := path } = .ok script) ∧
    ∀ (σ : Type) (system : System σ) (read : ReadText) (arguments : List String)
      (request : Request) (script : Script) (n : Nat) (outcome : Outcome),
      system.parse arguments = .run request → request.shell = false →
      request.timeoutMs = none → system.prepare read request = .ok script →
      (Executor.acceptAll.run .never script n).outcome = some outcome →
      let commands := (Executor.acceptAll.run .never script n).host.commands
      ∃ output, (∀ limit, n ≤ limit → system.respond read limit arguments = some output) ∧
        Text.fields '\n' output.printed.toList =
          (commands.map commandLine ++ reportLines outcome.change).map String.toList ++ [[]] ∧
        readTranscript? output.printed = some ⟨commands, outcome.change⟩ ∧
        (outcome.change.state = .succeeded → output.exit = 0) ∧
        (outcome.change.state = .failed → output.exit = 1) ∧
        (outcome.change.state = .stopped → output.exit = 3) ∧
        ∀ (test : TestCase) (files : ReadText) (directory : String) (limit : Nat)
          (report : Report), test.failingCommands = [] → test.stopAfterCommands = none →
          loadScript files (Path.join directory test.script) = .ok script →
          test.run files limit directory = some (.ok report) →
          readTranscript? output.printed = some report := by
  refine ⟨fun program _ hpath hvalue => parse_script hpath hvalue program,
    fun _ system _ _ _ hload => prepare_script hload system, ?_⟩
  intro σ system read arguments request script n outcome hparse hecho htimeout hprepare hends
    commands
  have hread := readTranscript?_unlines commands outcome.change
  let lines := commands.map commandLine ++ reportLines outcome.change
  refine ⟨⟨exitCode outcome.change.state, unlines lines⟩, ?_, ?_, hread, congrArg exitCode,
    congrArg exitCode, congrArg exitCode, ?_⟩
  · intro limit hlimit
    rw [System.respond, hparse]
    exact perform_of_ended hprepare hecho htimeout hends hlimit
  · exact fields_unlines (not_mem_lines commands outcome.change)
  · intro test files directory limit report hfailing hlimit hload hrun
    rw [TestCase.run, hload] at hrun
    rw [TestCase.eq_of_perform hfailing hlimit hrun hends]
    exact hread

/-- A script whose commands hold quotes, a backslash and a control character, or look like a line of
the report. -/
def quotedLines : String := "say \"a\\b\x01\"\nRESULT:OK\nEND\n"

def quotedCase : TestCase where
  schemaVersion := caseSchema
  script := TestCase.defaultScript
  failingCommands := []
  stopAfterCommands := none
  expectedCommands := []
  expectedState := .succeeded
  expectedMessage := none

theorem quotedLines_decode :
    let read : ReadText := fun _ => .ok quotedLines
    let report : Report := ⟨["say \"a\\b\x01\"", "RESULT:OK"], .succeeded, none⟩
    quotedCase.run read 3 "demo" = some (.ok report) ∧
    ∃ output, (∀ limit, 3 ≤ limit →
        system.respond read limit ["servant", "run", "--script", "demo.macro"] = some output) ∧
      readTranscript? output.printed = some report ∧ output.exit = 0 := by
  intro read report
  let script : Script := ⟨["say \"a\\b\x01\"", "RESULT:OK", "END"]⟩
  have hlines : Script.ofText quotedLines = script := by decide +kernel
  have hload : ∀ path, loadScript read path = .ok script := fun _ => congrArg Except.ok hlines
  have hends : (Executor.acceptAll.run .never script 3).outcome = some .completed := by
    decide +kernel
  have hcase : quotedCase.run read 3 "demo" = some (.ok report) := by
    rw [TestCase.run, hload]
    rfl
  obtain ⟨hplain, hload', hdecode⟩ := output_decodes_to_run
  have hparse : system.parse ["servant", "run", "--script", "demo.macro"] =
      .run { script := "demo.macro" } := hplain "servant" "demo.macro" (by decide) (by decide)
  have hprepare := hload' _ system read "demo.macro" script (hload _)
  obtain ⟨output, hprints, -, -, hexit, -, -, hreported⟩ :=
    hdecode _ system read _ _ script 3 .completed hparse rfl rfl hprepare hends
  exact ⟨hcase, output, hprints, hreported quotedCase read "demo" 3 report rfl rfl (hload _) hcase,
    hexit rfl⟩

/-- A file whose name starts with a dash is taken for an option: its script can be loaded and comes
to an end, and yet nothing is printed. -/
theorem dashedPath_prints_nothing :
    let read : ReadText := fun path =>
      if path = "-a.macro" then .ok "say hello\n" else .error .notFound
    let script : Script := ⟨["say hello"]⟩
    let record : Report := ⟨["say hello"], .succeeded, none⟩
    loadScript read "-a.macro" = .ok script ∧
    (Executor.acceptAll.run .never script 2).outcome = some .completed ∧
    (Executor.acceptAll.run .never script 2).host.commands = record.commands ∧
    (∀ limit, system.respond read limit ["servant", "run", "--script", "-a.macro"] =
      some ⟨2, ""⟩) ∧
    ¬ ∃ output, (∀ limit, 2 ≤ limit →
        system.respond read limit ["servant", "run", "--script", "-a.macro"] = some output) ∧
      readTranscript? output.printed = some record ∧ output.exit = 0 := by
  intro read script record
  have hlines : Script.ofText "say hello\n" = script := by decide +kernel
  have hmisuse : parse ["servant", "run", "--script", "-a.macro"] = .misuse := by decide +kernel
  have hresponse (limit : Nat) :
      system.respond read limit ["servant", "run", "--script", "-a.macro"] = some ⟨2, ""⟩ := by
    rw [System.respond, show system.parse = parse from rfl, hmisuse]
  refine ⟨congrArg Except.ok hlines, by decide +kernel, by decide +kernel, hresponse, ?_⟩
  rintro ⟨output, hprints, -, hexit⟩
  cases (hresponse 2).symm.trans (hprints 2 (Nat.le_refl 2))
  cases hexit

end CommandLine

end MacroScript
