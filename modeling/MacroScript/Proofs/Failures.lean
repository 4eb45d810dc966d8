import MacroScript.Proofs.Canonical
import MacroScript.Proofs.Visits
import MacroScript.Recorder

/-! # What a failure leaves behind

A step writes its run as it goes on, and a failure does not take back what has been written. But
replacing variables and reading a directive write nothing, a label is looked up before a counter is
armed, and the executor is asked before the cursor moves. So a step that fails leaves the run as it
was, and the only failure for which the executor has been asked is its own. What the executor has
received in all can then be read off the visits: it is the lines that were visited, as they stood
after substitution, less those that are not commands. -/

namespace MacroScript

/-- The command that the executor rejected, when that is the failure. -/
def RunError.rejected? : RunError → Option String
  | commandFailed _ command _ => some command
  | _ => none

/-- The failure is one of the line at an index, before the executor has been asked. -/
structure RunError.OfLine (index : Nat) (error : RunError) : Prop where
  line : error.line? = some index
  unasked : error.rejected? = none

/-! ## Failures of a line -/

theorem Variables.replaceKeys_eq_error {vars : Variables} {index : Nat} {keys : List (List Char)}
    {line : List Char} {error : RunError} (h : vars.replaceKeys index keys line = .error error) :
    error.OfLine index := by
  induction keys generalizing line with
  | nil => cases h
  | cons key keys ih =>
    rw [replaceKeys] at h
    split at h
    · cases h
      exact ⟨rfl, rfl⟩
    · exact ih h

theorem Variables.substitute_eq_error {vars : Variables} {index : Nat} {line : String}
    {error : RunError} (h : vars.substitute index line = .error error) : error.OfLine index := by
  cases hkeys : Reference.ofLine index line.toList with
  | error unterminated =>
    rw [substitute_of_unread vars hkeys] at h
    cases h
    unfold Reference.ofLine at hkeys
    split at hkeys
    · cases hkeys
    · cases hkeys
      exact ⟨rfl, rfl⟩
  | ok keys =>
    rw [substitute_of_keys vars hkeys] at h
    cases hreplaced : vars.replaceKeys index keys line.toList with
    | error missing =>
      rw [hreplaced] at h
      cases h
      exact replaceKeys_eq_error hreplaced
    | ok replaced =>
      rw [hreplaced] at h
      cases h

namespace Run

theorem ofLine_of_obey {run left : Run} {directive : Directive} {error : RunError}
    (h : (obey run.cursor directive).run run = .error error left) : error.OfLine run.cursor := by
  obtain ⟨label, count, rfl, hobey⟩ | ⟨-, hobey⟩ | ⟨next, -, hobey⟩ | ⟨command, -, hobey⟩ :=
    obey_cases run directive
  all_goals rw [hobey] at h; cases h
  exact ⟨rfl, rfl⟩

theorem ofLine_of_visit {run left : Run} {line : String} {error : RunError}
    (h : (Run.visit line).run run = .error error left) : error.OfLine run.cursor := by
  cases hs : run.vars.substitute run.cursor line with
  | error missing =>
    rw [visit_of_unreplaced hs] at h
    cases h
    exact Variables.substitute_eq_error hs
  | ok text =>
    cases hd : Directive.readAt run.cursor text with
    | error malformed =>
      rw [visit_of_unread hs hd] at h
      cases h
      obtain ⟨fault, rfl⟩ := Directive.readAt_eq_error hd
      exact ⟨rfl, rfl⟩
    | ok directive =>
      rw [visit_of_read hs hd] at h
      exact ofLine_of_obey h

/-! ## What one visit gives the executor -/

/-- The line at the cursor after substitution, unless there is none or substitution fails. -/
def text? (run : Run) : Option String :=
  run.line?.bind fun line => (run.vars.substitute run.cursor line).toOption

end Run

/-- The text reads as a command. -/
def Directive.isCommand (text : String) : Bool :=
  match read text with
  | .ok (.command _) => true
  | _ => false

theorem Directive.isCommand_iff {text : String} :
    isCommand text = true ↔ read text = .ok (.command text) := by
  unfold isCommand
  split
  · rename_i found hread
    simp [hread, eq_of_read_command hread]
  · rename_i hother
    simpa using hother text

namespace Run

variable {σ : Type}

theorem text?_of_line? {run : Run} {line : String} (h : run.line? = some line) :
    run.text? = (run.vars.substitute run.cursor line).toOption := by
  rw [text?, h, Option.bind_some]

/-- The executor is given the text of the line when it reads as a command, and nothing otherwise. -/
theorem record_of_forward {run left : Run} {line command : String}
    (hline : run.line? = some line)
    (h : (Run.visit line).run run = .ok (.forward command) left) :
    run.text?.filter Directive.isCommand = some command := by
  obtain ⟨text, directive, hs, hd, ho⟩ := visit_eq_ok_iff.mp h
  obtain ⟨rfl, -⟩ := obey_eq_forward ho
  have hread := Directive.readAt_eq_ok_iff.mp hd
  obtain rfl := Directive.eq_of_read_command hread
  rw [text?_of_line? hline, hs, Except.toOption, Option.filter_some,
    if_pos (Directive.isCommand_iff.mpr hread)]

theorem record_of_not_forward {run : Run} {line : String} (hline : run.line? = some line)
    (h : ∀ command left, (Run.visit line).run run ≠ .ok (.forward command) left) :
    run.text?.filter Directive.isCommand = none := by
  rw [Option.filter_eq_none_iff, text?_of_line? hline]
  intro text htext hcommand
  cases hs : run.vars.substitute run.cursor line with
  | error missing =>
    rw [hs] at htext
    cases htext
  | ok found =>
    rw [hs] at htext
    cases htext
    have hread : Directive.readAt run.cursor text = .ok (.command text) :=
      Directive.readAt_eq_ok_iff.mpr (Directive.isCommand_iff.mp hcommand)
    exact h text run (visit_eq_ok_iff.mpr ⟨text, _, hs, hread, rfl⟩)

/-- What the executor is given in one visit. -/
def sent? (host : Host σ) (run : Run) (state : σ) : Option String :=
  if (host.poll state).1 = false then run.text?.filter Directive.isCommand else none

theorem record_drive_one (host : Host σ) (run : Run) (state : σ) (record : List String) :
    (run.drive host.recorded 1 (state, record)).host.2 =
      record ++ (run.sent? host state).toList := by
  cases hline : run.line? with
  | none => simp [drive_succ_of_past hline, sent?, text?, hline]
  | some line =>
    rcases hpoll : host.poll state with ⟨_ | _, polled⟩
    · have hrecorded := poll_recorded hpoll record
      rw [sent?, hpoll, if_pos rfl]
      rcases hvisit : (Run.visit line).run run with ⟨_ | _ | command, left⟩ | ⟨error, left⟩
      · rw [drive_succ_of_ended hline hrecorded hvisit,
          record_of_not_forward hline (by simp [hvisit])]
        simp
      · rw [drive_succ_of_moved hline hrecorded hvisit,
          record_of_not_forward hline (by simp [hvisit])]
        simp [drive]
      · rw [record_of_forward hline hvisit]
        rcases hanswer : host.execute command polled with ⟨_ | cause, answered⟩
        · rw [drive_succ_of_forward hline hrecorded hvisit (execute_recorded hanswer record)]
          rfl
        · rw [drive_succ_of_rejected hline hrecorded hvisit (execute_recorded hanswer record)]
          rfl
      · rw [drive_succ_of_error hline hrecorded hvisit,
          record_of_not_forward hline (by simp [hvisit])]
        simp
    · simp [drive_succ_of_stopped hline (poll_recorded hpoll record), sent?, hpoll]

/-- A visit that fails leaves the run as it was. The executor has been asked only when the failure
is its own, and then once. -/
theorem of_drive_one_failed {host : Host σ} {run : Run} {state : σ} {error : RunError}
    (h : (run.drive host 1 state).outcome = some (.failed error)) :
    (run.drive host 1 state).run = run ∧ error.line? = some run.cursor ∧
      run.cursor < run.script.size ∧ (host.poll state).1 = false ∧
      run.sent? host state = error.rejected? := by
  have hsize : ∀ {line}, run.line? = some line → run.cursor < run.script.size :=
    fun here => (List.getElem?_eq_some_iff.mp here).1
  have hdriven := run.driven_drive host 1 state
  generalize run.drive host 1 state = leg at h hdriven
  cases hdriven with
  | past | stopped | ended => cases h
  | moved _ _ _ rest | accepted _ _ _ _ rest =>
    cases rest
    cases h
  | failed _ here asked visited =>
    cases h
    obtain ⟨hat, hunasked⟩ := ofLine_of_visit visited
    rw [sent?, asked, if_pos rfl, hunasked]
    exact ⟨rfl, hat, hsize here, rfl, record_of_not_forward here (by simp [visited])⟩
  | rejected _ here asked visited answer =>
    cases h
    rw [sent?, asked, if_pos rfl, record_of_forward here visited]
    exact ⟨rfl, rfl, hsize here, rfl, rfl⟩

/-! ## What a run gives the executor -/

/-- The line of visit `n` after substitution, when the visit is made and substitution succeeds. -/
def textAt? (host : Host σ) (run : Run) (state : σ) (n : Nat) : Option String :=
  let leg := run.drive host n state
  if leg.outcome = none ∧ (host.poll leg.host).1 = false then leg.run.text? else none

variable {host : Host σ} {run : Run} {state : σ} {n index : Nat}

theorem textAt?_eq_some_iff {text : String} :
    textAt? host run state n = some text ↔
      ∃ index line, VisitsAt host run state n index ∧ run.script.line? index = some line ∧
        (run.drive host n state).run.vars.substitute index line = .ok text := by
  have hlines : ∀ index, (run.drive host n state).run.script.line? index =
      run.script.line? index := by simp [script_drive]
  have hok : ∀ index line,
      ((run.drive host n state).run.vars.substitute index line).toOption = some text ↔
        (run.drive host n state).run.vars.substitute index line = .ok text := by
    intro index line
    cases (run.drive host n state).run.vars.substitute index line <;> simp [Except.toOption]
  unfold textAt? text? line?
  dsimp only
  constructor
  · intro h
    split at h
    · rename_i hmade
      obtain ⟨line, hline, hs⟩ := Option.bind_eq_some_iff.mp h
      refine ⟨_, line, ⟨hmade.1, rfl, ?_, hmade.2⟩, hlines _ ▸ hline, (hok _ _).mp hs⟩
      rw [line?, hline]
      exact Option.some_ne_none line
    · cases h
  · rintro ⟨index, line, hvisits, hline, hs⟩
    rw [if_pos ⟨hvisits.going, hvisits.unstopped⟩, hvisits.cursor, hlines, hline]
    exact (hok _ _).mpr hs

theorem filter_textAt?_of_none (h : (run.drive host n state).outcome = none) :
    (textAt? host run state n).filter Directive.isCommand =
      (run.drive host n state).run.sent? host (run.drive host n state).host := by
  simp only [textAt?, sent?, h, true_and]
  split <;> rfl

theorem forwarded_succ (host : Host σ) (run : Run) (state : σ) (n : Nat) :
    run.forwarded host (n + 1) state = run.forwarded host n state ++
      ((textAt? host run state n).filter Directive.isCommand).toList := by
  have hleg := run.drive_recorded host n state []
  rw [forwarded, forwarded, drive_add, Leg.driveOn]
  cases hgoing : (run.drive host.recorded n (state, [])).outcome with
  | none =>
    rw [filter_textAt?_of_none (by rw [hleg]; exact hgoing), hleg]
    exact record_drive_one ..
  | some outcome => simp [textAt?, hleg, hgoing]

/-- A run that has ended gives the executor nothing more. -/
theorem forwarded_of_le {m : Nat} (hle : m ≤ n) (h : (run.drive host m state).outcome ≠ none) :
    run.forwarded host n state = run.forwarded host m state := by
  rw [run.drive_recorded host m state []] at h
  rw [forwarded, forwarded, drive_of_le hle h]

theorem forwarded_eq_texts (host : Host σ) (run : Run) (state : σ) (n : Nat) :
    run.forwarded host n state =
      ((List.range n).filterMap (textAt? host run state)).filter Directive.isCommand := by
  induction n with
  | zero => rfl
  | succ n ih =>
    rw [forwarded_succ, ih, List.range_succ, List.filterMap_append, List.filter_append]
    cases htext : textAt? host run state n with
    | none => simp [htext]
    | some text => cases hcommand : Directive.isCommand text <;> simp [htext, hcommand]

theorem canonical_of_mem_forwarded {command : String} (h : command ∈ run.forwarded host n state) :
    (Directive.command command).Canonical := by
  rw [forwarded_eq_texts, List.mem_filter] at h
  exact (Directive.canonical_of_read (Directive.isCommand_iff.mp h.2)).1

/-- A run that has ended made its last visit, or looked for a further line in vain, at some point,
and has stayed as it was since. -/
theorem exists_last_of_outcome {outcome : Outcome}
    (h : (run.drive host n state).outcome = some outcome) :
    ∃ k < n, (run.drive host k state).outcome = none ∧
      run.drive host n state = run.drive host (k + 1) state := by
  induction n with
  | zero => cases h
  | succ n ih =>
    cases hn : (run.drive host n state).outcome with
    | none => exact ⟨n, n.lt_succ_self, hn, rfl⟩
    | some earlier =>
      have hsame := drive_of_le (n.le_succ) (by simp [hn] : (run.drive host n state).outcome ≠ none)
      rw [hsame] at h
      obtain ⟨k, hk, hgoing, hlast⟩ := ih h
      exact ⟨k, Nat.lt_succ_of_lt hk, hgoing, hsame.trans hlast⟩

/-- The visit with which a run fails is its last. -/
theorem exists_last_visit_of_failed {error : RunError}
    (h : (run.drive host n state).outcome = some (.failed error)) :
    ∃ k index, VisitsAt host run state k index ∧
      (∀ j, k < j → ∀ other, ¬ VisitsAt host run state j other) ∧ error.line? = some index ∧
      run.forwarded host n state = run.forwarded host k state ++ error.rejected?.toList := by
  obtain ⟨k, hk, hgoing, hlast⟩ := exists_last_of_outcome h
  have hfailed : (run.drive host (k + 1) state).outcome = some (.failed error) := hlast ▸ h
  have hone := hfailed
  rw [drive_add, Leg.driveOn, hgoing] at hone
  obtain ⟨-, hline, hsize, hpoll, hsent⟩ := of_drive_one_failed hone
  have hvisits : VisitsAt host run state k (run.drive host k state).run.cursor := by
    refine ⟨hgoing, rfl, ?_, hpoll⟩
    rw [line?, Script.line?, List.getElem?_eq_getElem hsize]
    exact Option.some_ne_none _
  refine ⟨k, _, hvisits, ?_, hline, ?_⟩
  · intro j hj other hother
    rw [outcome_of_le hj hother.going] at hfailed
    cases hfailed
  · rw [forwarded_of_le hk (by simp [hfailed]), forwarded_succ, filter_textAt?_of_none hgoing,
      hsent]

/-- A step that fails leaves the run as it was. The host has been called only when the failure is
its own, and then once. -/
theorem of_step_failed {left : Run} {line : String} {before after : σ × List String}
    {error : RunError} (hline : run.line? = some line)
    (h : (step host.recorded line).run (run, before) = .error error (left, after)) :
    left = run ∧ error.line? = some run.cursor ∧ run.cursor < run.script.size ∧
      after.2 = before.2 ++ error.rejected?.toList := by
  have hsize : run.cursor < run.script.size := (List.getElem?_eq_some_iff.mp hline).1
  obtain ⟨rfl, ⟨visited, rfl⟩ | ⟨command, cause, visited, answer, rfl⟩⟩ := step_eq_error h
  · obtain ⟨hat, hunasked⟩ := ofLine_of_visit visited
    exact ⟨rfl, hat, hsize, by simp [hunasked]⟩
  · exact ⟨rfl, rfl, hsize, record_of_execute answer⟩

/-- **Failures leave no trace and name their line, and only commands are forwarded.** A step writes
its run as it goes on, and so does a jump. When one of them fails, from whatever state of a run, the
cursor, the variables, the labels and the counters are as they were. The error of a step names the
line at the cursor, which is a line of the script, and the executor has been given
nothing, or, when it is the executor that failed, just the command of the error. Over a whole run
the executor is given the lines that are visited, as they stand after substitution, in the order of
the visits and less those that do not read as commands; so never a line that begins with a keyword
and never `END`. A run that has failed names the line it visited last; if the executor failed, the
last command it was given is that of the error, and otherwise it was given nothing from that
line. -/
theorem failures_atomic (host : Host σ) (script : Script) (state : σ) :
    (∀ (run left : Run) (line : String) (before after : σ × List String) (error : RunError),
      run.line? = some line →
      (step host.recorded line).run (run, before) = .error error (left, after) →
        left.cursor = run.cursor ∧ left.vars = run.vars ∧
          left.jumps.labels = run.jumps.labels ∧ left.jumps.counters = run.jumps.counters ∧
          left.script = run.script ∧ error.line? = some run.cursor ∧
          run.cursor < run.script.size ∧ after.2 = before.2 ++ error.rejected?.toList) ∧
    (∀ (jumps left : Jumps) (site : Nat) (label : String) (count : Option UInt32)
      (error : RunError), (Jumps.resolve site label count).run jumps = .error error left →
        left.labels = jumps.labels ∧ left.counters = jumps.counters) ∧
    (∀ (run : Run) (state : σ) (error : RunError),
      (run.drive host 1 state).outcome = some (.failed error) →
        (run.drive host 1 state).run = run ∧ error.line? = some run.cursor ∧
          run.cursor < run.script.size ∧
          run.forwarded host 1 state = error.rejected?.toList) ∧
    (∀ n text, textAt? host script.newRun state n = some text ↔
      ∃ index line, VisitsAt host script.newRun state n index ∧ script.line? index = some line ∧
        (script.newRun.drive host n state).run.vars.substitute index line = .ok text) ∧
    (∀ n, script.newRun.forwarded host n state =
      ((List.range n).filterMap (textAt? host script.newRun state)).filter Directive.isCommand) ∧
    (∀ n, ∀ command ∈ script.newRun.forwarded host n state,
      (∀ keyword : Keyword, ¬ keyword.Opens (Text.trim command).toList) ∧ command ≠ "END") ∧
    (∀ n error, (script.newRun.drive host n state).outcome = some (.failed error) →
      ∃ k index, VisitsAt host script.newRun state k index ∧
        (∀ j, k < j → ∀ other, ¬ VisitsAt host script.newRun state j other) ∧
        error.line? = some index ∧
        script.newRun.forwarded host n state =
          script.newRun.forwarded host k state ++ error.rejected?.toList) := by
  refine ⟨fun run left line before after error hline h => ?_,
    fun jumps left site label count error h => ?_, fun run state error h => ?_,
    fun n text => textAt?_eq_some_iff, fun n => forwarded_eq_texts host _ state n,
    fun n command hmem => canonical_of_mem_forwarded hmem,
    fun n error h => exists_last_visit_of_failed h⟩
  · obtain ⟨rfl, hat, hsize, hsent⟩ := of_step_failed hline h
    exact ⟨rfl, rfl, rfl, rfl, rfl, hat, hsize, hsent⟩
  · obtain ⟨rfl, -⟩ := Jumps.resolve_eq_error h
    exact ⟨rfl, rfl⟩
  · obtain ⟨hrun, hat, hsize, -, hsent⟩ := of_drive_one_failed h
    refine ⟨hrun, hat, hsize, ?_⟩
    rw [forwarded_succ, filter_textAt?_of_none rfl]
    exact congrArg Option.toList hsent

/-- A loop, with a count that a variable gives, and behind it a command that is rejected. -/
def endsInBoom : Script :=
  ⟨["label:l", "var:n=2", "hit $(n)", "jumpto:l,$(n)", "boom $(n)", "never"]⟩

theorem endsInBoom_fails :
    let recorder : Recorder :=
      { failing := ["boom 2"], rejection := Recorder.rejectedByExecutor }
    let host := recorder.host false
    let before := (endsInBoom.newRun.drive host 7 {}).run
    let recording := (endsInBoom.newRun.drive host 7 {}).host
    let error : RunError := .commandFailed 4 "boom 2" "command rejected by executor: boom 2"
    (endsInBoom.newRun.drive host 8 {}).outcome = some (.failed error) ∧
    endsInBoom.newRun.forwarded host 8 {} = ["hit 2", "hit 2", "boom 2"] ∧
    (∃ left after,
      (step host.recorded "boom $(n)").run (before, recording, []) = .error error (left, after) ∧
      left.cursor = 4 ∧ left.vars = before.vars ∧ after.2 = ["boom 2"]) ∧
    ((before.drive host 1 recording).outcome = some (.failed error) ∧
      (before.drive host 1 recording).run = before ∧
      before.forwarded host 1 recording = ["boom 2"]) ∧
    ∃ k, VisitsAt host endsInBoom.newRun {} k 4 ∧
      endsInBoom.newRun.forwarded host 8 {} =
        endsInBoom.newRun.forwarded host k {} ++ ["boom 2"] := by
  intro recorder host before recording error
  obtain ⟨hstep, -, hvisit, -, -, -, hrun⟩ := failures_atomic host endsInBoom {}
  have houtcome : (endsInBoom.newRun.drive host 8 {}).outcome = some (.failed error) := by
    decide +kernel
  have hone : (before.drive host 1 recording).outcome = some (.failed error) := by
    decide +kernel
  have hline : before.line? = some "boom $(n)" := by decide +kernel
  have hfails : ∃ left after,
      (step host.recorded "boom $(n)").run (before, recording, []) =
        .error error (left, after) := ⟨_, _, rfl⟩
  obtain ⟨left, after, hfailed⟩ := hfails
  obtain ⟨hcursor, hvars, -, -, -, -, -, hafter⟩ := hstep before left _ _ after error hline hfailed
  obtain ⟨hsame, -, -, hsent⟩ := hvisit before recording error hone
  obtain ⟨k, index, hvisits, -, hat, hforwarded⟩ := hrun 8 error houtcome
  obtain rfl : 4 = index := Option.some.inj hat
  exact ⟨houtcome, by decide +kernel, ⟨left, after, hfailed, hcursor, hvars, hafter⟩,
    ⟨hone, hsame, hsent⟩, k, hvisits, hforwarded⟩

end Run

end MacroScript
