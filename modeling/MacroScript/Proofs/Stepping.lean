import MacroScript.Run

/-! # One line, write by write

A line is carried out in its run by writes that follow each other, and a failure takes none of them
back. What comes of it in each case is said here once, so that no other proof has to look at the
writes. Two orders matter: the label of a jump is looked up before its counter is armed, and a
command is executed before the cursor moves on. That is why a line that fails has written nothing
(`Run.step_eq_error`). -/

namespace MacroScript

variable {ε σ τ α : Type}

theorem run_throw (error : ε) (state : σ) :
    (throw error : EStateM ε σ α).run state = .error error state := rfl

theorem run_ofExcept_ok (result : α) (state : σ) :
    (MonadExcept.ofExcept (.ok result) : EStateM ε σ α).run state = .ok result state := rfl

theorem run_ofExcept_error (error : ε) (state : σ) :
    (MonadExcept.ofExcept (.error error) : EStateM ε σ α).run state = .error error state := rfl

theorem within_of_ok (part : σ → τ) (put : σ → τ → σ) {work : EStateM ε τ α} {whole : σ}
    {result : α} {left : τ} (h : work.run (part whole) = .ok result left) :
    (within part put work).run whole = .ok result (put whole left) := by
  simp only [within, EStateM.run] at h ⊢
  rw [h]

theorem within_of_error (part : σ → τ) (put : σ → τ → σ) {work : EStateM ε τ α} {whole : σ}
    {error : ε} {left : τ} (h : work.run (part whole) = .error error left) :
    (within part put work).run whole = .error error (put whole left) := by
  simp only [within, EStateM.run] at h ⊢
  rw [h]

/-! ## Jumps -/

namespace Jumps

variable {jumps : Jumps} {label : String} {line site : Nat}

theorem counter_arm (jumps : Jumps) (site left : Nat) :
    (jumps.arm site left).counters.get? site = some ((jumps.counters.get? site).getD left) := by
  unfold arm
  split
  · rename_i armed h
    rw [h, Option.getD_some]
  · rename_i h
    rw [h, Option.getD_none, Table.get?_set, if_pos rfl]

theorem labels_arm (jumps : Jumps) (site left : Nat) :
    (jumps.arm site left).labels = jumps.labels := by
  unfold arm
  split <;> rfl

theorem set_arm (jumps : Jumps) (site left fewer : Nat) :
    (jumps.arm site left).counters.set site fewer = jumps.counters.set site fewer := by
  unfold arm
  split
  · rfl
  · exact Table.set_set ..

theorem erase_arm (jumps : Jumps) (site left : Nat) :
    (jumps.arm site left).counters.erase site = jumps.counters.erase site := by
  unfold arm
  split
  · rfl
  · exact Table.erase_set ..

theorem resolve_of_unknown (h : jumps.labels.get? label = none) (site : Nat)
    (count : Option UInt32) :
    (resolve site label count).run jumps = .error (.undefinedLabel site label) jumps := by
  simp only [resolve, EStateM.run_bind, EStateM.run_get, h, run_throw]

theorem resolve_uncounted (h : jumps.labels.get? label = some line) (site : Nat) :
    (resolve site label none).run jumps = .ok (.jump (line + 1)) jumps := by
  simp only [resolve, EStateM.run_bind, EStateM.run_get, h, EStateM.run_pure]

theorem resolve_spent (h : jumps.labels.get? label = some line) {n : UInt32}
    (hspent : (jumps.counters.get? site).getD (n.toNat - 1) = 0) :
    (resolve site label (some n)).run jumps =
      .ok (.fallThrough (site + 1)) { jumps with counters := jumps.counters.erase site } := by
  simp only [resolve, EStateM.run_bind, EStateM.run_get, h, EStateM.run_modify, counter_arm, hspent,
    EStateM.run_pure, labels_arm, erase_arm]

theorem resolve_left (h : jumps.labels.get? label = some line) {n : UInt32} {left : Nat}
    (hleft : (jumps.counters.get? site).getD (n.toNat - 1) = left + 1) :
    (resolve site label (some n)).run jumps =
      .ok (.jump (line + 1)) { jumps with counters := jumps.counters.set site left } := by
  simp only [resolve, EStateM.run_bind, EStateM.run_get, h, EStateM.run_modify, counter_arm, hleft,
    EStateM.run_pure, labels_arm, set_arm]

/-- All that a jump to a declared line can decide, and the tables that it leaves. -/
inductive Resolved (jumps : Jumps) (site line : Nat) : Option UInt32 → Transfer → Jumps → Prop where
  | uncounted : Resolved jumps site line none (.jump (line + 1)) jumps
  | spent {n : UInt32} (spent : (jumps.counters.get? site).getD (n.toNat - 1) = 0) :
      Resolved jumps site line (some n) (.fallThrough (site + 1))
        { jumps with counters := jumps.counters.erase site }
  | counted {n : UInt32} {left : Nat}
      (counted : (jumps.counters.get? site).getD (n.toNat - 1) = left + 1) :
      Resolved jumps site line (some n) (.jump (line + 1))
        { jumps with counters := jumps.counters.set site left }

theorem Resolved.labels {next : Jumps} {count : Option UInt32} {transfer : Transfer}
    (h : Resolved jumps site line count transfer next) : next.labels = jumps.labels := by
  cases h <;> rfl

theorem Resolved.counter_of_ne {next : Jumps} {count : Option UInt32} {transfer : Transfer}
    (h : Resolved jumps site line count transfer next) {other : Nat} (hother : other ≠ site) :
    next.counters.get? other = jumps.counters.get? other := by
  cases h with
  | uncounted => rfl
  | spent => exact (Table.get?_erase ..).trans (if_neg hother.symm)
  | counted => exact (Table.get?_set ..).trans (if_neg hother.symm)

/-- All that a jump can come to. One that fails leaves both tables as they were. -/
theorem resolve_cases (jumps : Jumps) (site : Nat) (label : String) (count : Option UInt32) :
    (jumps.labels.get? label = none ∧
      (resolve site label count).run jumps = .error (.undefinedLabel site label) jumps) ∨
    ∃ line transfer next, jumps.labels.get? label = some line ∧
      (resolve site label count).run jumps = .ok transfer next ∧
      Resolved jumps site line count transfer next := by
  cases hlabel : jumps.labels.get? label with
  | none => exact .inl ⟨rfl, resolve_of_unknown hlabel site count⟩
  | some line =>
    right
    cases count with
    | none => exact ⟨line, _, _, rfl, resolve_uncounted hlabel site, .uncounted⟩
    | some n =>
      cases hleft : (jumps.counters.get? site).getD (n.toNat - 1) with
      | zero => exact ⟨line, _, _, rfl, resolve_spent hlabel hleft, .spent hleft⟩
      | succ left => exact ⟨line, _, _, rfl, resolve_left hlabel hleft, .counted hleft⟩

theorem resolve_eq_ok {next : Jumps} {count : Option UInt32} {transfer : Transfer}
    (h : (resolve site label count).run jumps = .ok transfer next) :
    ∃ line, jumps.labels.get? label = some line ∧
      Resolved jumps site line count transfer next := by
  obtain ⟨-, hfails⟩ | ⟨line, transfer', next', hline, hresolve, hresolved⟩ :=
    resolve_cases jumps site label count
  · rw [hfails] at h
    cases h
  · rw [hresolve] at h
    cases h
    exact ⟨line, hline, hresolved⟩

theorem resolve_eq_error {left : Jumps} {count : Option UInt32} {error : RunError}
    (h : (resolve site label count).run jumps = .error error left) :
    left = jumps ∧ error = .undefinedLabel site label := by
  obtain ⟨-, hfails⟩ | ⟨line, transfer, next, -, hresolve, -⟩ :=
    resolve_cases jumps site label count
  · rw [hfails] at h
    cases h
    exact ⟨rfl, rfl⟩
  · rw [hresolve] at h
    cases h

end Jumps

/-! ## Visits -/

namespace Run

variable {run next left : Run} {line text : String} {directive : Directive} {visit : Visit}

/-- The run that goes on after a visit, which leaves a run behind. -/
def after? (left : Run) : Visit → Option Run
  | .ended => none
  | .moved => some left
  | .forward _ => some left.proceed

theorem obey_jump_of_ok {label : String} {count : Option UInt32} {transfer : Transfer}
    {jumps : Jumps} {index : Nat}
    (h : (Jumps.resolve index label count).run run.jumps = .ok transfer jumps) :
    (obey index (.jump label count)).run run =
      .ok .moved { run with cursor := transfer.target, jumps } := by
  have hwithin := within_of_ok Run.jumps (fun run jumps => { run with jumps }) h
  simp only [obey, EStateM.run_bind, hwithin, EStateM.run_modify, EStateM.run_pure]

theorem obey_jump_of_error {label : String} {count : Option UInt32} {jumps : Jumps} {index : Nat}
    {error : RunError}
    (h : (Jumps.resolve index label count).run run.jumps = .error error jumps) :
    (obey index (.jump label count)).run run = .error error run := by
  obtain ⟨rfl, -⟩ := Jumps.resolve_eq_error h
  have hwithin := within_of_error Run.jumps (fun run jumps => { run with jumps }) h
  simp only [obey, EStateM.run_bind, hwithin]

theorem visit_of_read (hs : run.vars.substitute run.cursor line = .ok text)
    (hd : Directive.readAt run.cursor text = .ok directive) :
    (Run.visit line).run run = (obey run.cursor directive).run run := by
  simp only [Run.visit, EStateM.run_bind, EStateM.run_get, hs, run_ofExcept_ok, hd]

theorem visit_of_unreplaced {error : RunError}
    (hs : run.vars.substitute run.cursor line = .error error) :
    (Run.visit line).run run = .error error run := by
  simp only [Run.visit, EStateM.run_bind, EStateM.run_get, hs, run_ofExcept_error]

theorem visit_of_unread {error : RunError} (hs : run.vars.substitute run.cursor line = .ok text)
    (hd : Directive.readAt run.cursor text = .error error) :
    (Run.visit line).run run = .error error run := by
  simp only [Run.visit, EStateM.run_bind, EStateM.run_get, hs, run_ofExcept_ok, hd,
    run_ofExcept_error]

theorem visit_eq_ok_iff :
    (Run.visit line).run run = .ok visit left ↔
      ∃ text directive, run.vars.substitute run.cursor line = .ok text ∧
        Directive.readAt run.cursor text = .ok directive ∧
        (obey run.cursor directive).run run = .ok visit left := by
  cases hs : run.vars.substitute run.cursor line with
  | error error => simp [visit_of_unreplaced hs]
  | ok text =>
    cases hd : Directive.readAt run.cursor text with
    | error error => simp [visit_of_unread hs hd, hd]
    | ok directive => simp [visit_of_read hs hd, hd]

/-- All that carrying a directive out can make of a run that goes on. -/
inductive Obeyed (run : Run) : Directive → Run → Prop where
  | label (name : String) :
      Obeyed run (.label name) { run.proceed with jumps := run.jumps.declare name run.cursor }
  | var (key value : String) :
      Obeyed run (.var key value) { run.proceed with vars := run.vars.set key value }
  | jump {label : String} {count : Option UInt32} {transfer : Transfer} {jumps : Jumps}
      (decided : (Jumps.resolve run.cursor label count).run run.jumps = .ok transfer jumps) :
      Obeyed run (.jump label count) { run with cursor := transfer.target, jumps }
  | command (text : String) : Obeyed run (.command text) run.proceed

theorem Obeyed.script (h : Obeyed run directive next) : next.script = run.script := by
  cases h <;> rfl

/-- All that carrying a directive out can come to: it fails and writes nothing, it ends the run, it
moves the run on, or it has a command for the host, before which it writes nothing either. -/
theorem obey_cases (run : Run) (directive : Directive) :
    (∃ label count, directive = .jump label count ∧
      (obey run.cursor directive).run run = .error (.undefinedLabel run.cursor label) run) ∨
    (directive = .finish ∧ (obey run.cursor directive).run run = .ok .ended run) ∨
    (∃ next, Obeyed run directive next ∧ (obey run.cursor directive).run run = .ok .moved next) ∨
    ∃ command, directive = .command command ∧
      (obey run.cursor directive).run run = .ok (.forward command) run := by
  cases directive with
  | label name => exact .inr (.inr (.inl ⟨_, .label name, rfl⟩))
  | var key value => exact .inr (.inr (.inl ⟨_, .var key value, rfl⟩))
  | finish => exact .inr (.inl ⟨rfl, rfl⟩)
  | command text => exact .inr (.inr (.inr ⟨text, rfl, rfl⟩))
  | jump label count =>
    obtain ⟨-, hfails⟩ | ⟨line, transfer, jumps, -, hresolve, -⟩ :=
      Jumps.resolve_cases run.jumps run.cursor label count
    · exact .inl ⟨label, count, rfl, obey_jump_of_error hfails⟩
    · exact .inr (.inr (.inl ⟨_, .jump hresolve, obey_jump_of_ok hresolve⟩))

theorem obeyed_of_obey (h : (obey run.cursor directive).run run = .ok visit left)
    (hnext : left.after? visit = some next) : Obeyed run directive next := by
  obtain ⟨_, _, -, hobey⟩ | ⟨-, hobey⟩ | ⟨next', hobeyed, hobey⟩ | ⟨command, rfl, hobey⟩ :=
    obey_cases run directive
  all_goals rw [hobey] at h; cases h
  · cases hnext
  · cases hnext
    exact hobeyed
  · cases hnext
    exact .command command

/-- Only a command is forwarded, and the run is then as it was. -/
theorem obey_eq_forward {command : String}
    (h : (obey run.cursor directive).run run = .ok (.forward command) left) :
    directive = .command command ∧ left = run := by
  obtain ⟨_, _, -, hobey⟩ | ⟨-, hobey⟩ | ⟨next', -, hobey⟩ | ⟨command, rfl, hobey⟩ :=
    obey_cases run directive
  all_goals rw [hobey] at h; cases h
  exact ⟨rfl, rfl⟩

/-- A visit that ends its run leaves the run as it was. -/
theorem visit_eq_ended (h : (Run.visit line).run run = .ok .ended left) : left = run := by
  obtain ⟨text, directive, -, -, hobey⟩ := visit_eq_ok_iff.mp h
  obtain ⟨_, _, -, hcase⟩ | ⟨-, hcase⟩ | ⟨next', -, hcase⟩ | ⟨command, -, hcase⟩ :=
    obey_cases run directive
  all_goals rw [hcase] at hobey; cases hobey
  rfl

theorem visit_eq_forward {command : String}
    (h : (Run.visit line).run run = .ok (.forward command) left) : left = run := by
  obtain ⟨text, directive, -, -, hobey⟩ := visit_eq_ok_iff.mp h
  exact (obey_eq_forward hobey).2

/-- A visit that fails leaves the run as it was. -/
theorem visit_eq_error {error : RunError} (h : (Run.visit line).run run = .error error left) :
    left = run := by
  cases hs : run.vars.substitute run.cursor line with
  | error missing =>
    rw [visit_of_unreplaced hs] at h
    cases h
    rfl
  | ok text =>
    cases hd : Directive.readAt run.cursor text with
    | error malformed =>
      rw [visit_of_unread hs hd] at h
      cases h
      rfl
    | ok directive =>
      rw [visit_of_read hs hd] at h
      obtain ⟨_, _, -, hcase⟩ | ⟨-, hcase⟩ | ⟨next', -, hcase⟩ | ⟨command, -, hcase⟩ :=
        obey_cases run directive
      all_goals rw [hcase] at h; cases h
      rfl

/-! ## Steps -/

variable {host : Host σ} {state answered : σ}

theorem visit_within_of_ok (h : (Run.visit line).run run = .ok visit left) (state : σ) :
    (within Prod.fst (fun (_, state) run => (run, state)) (Run.visit line)).run (run, state) =
      .ok visit (left, state) :=
  within_of_ok Prod.fst _ h

theorem visit_within_of_error {error : RunError}
    (h : (Run.visit line).run run = .error error left) (state : σ) :
    (within Prod.fst (fun (_, state) run => (run, state)) (Run.visit line)).run (run, state) =
      .error error (left, state) :=
  within_of_error Prod.fst _ h

theorem step_of_error {error : RunError} (h : (Run.visit line).run run = .error error left)
    (state : σ) : (step host line).run (run, state) = .error error (left, state) := by
  have hwithin := visit_within_of_error h state
  simp only [step, EStateM.run_bind, hwithin]

theorem step_of_ended (h : (Run.visit line).run run = .ok .ended left) (state : σ) :
    (step host line).run (run, state) = .ok .finished (left, state) := by
  have hwithin := visit_within_of_ok h state
  simp only [step, EStateM.run_bind, hwithin, EStateM.run_pure]

theorem step_of_moved (h : (Run.visit line).run run = .ok .moved left) (state : σ) :
    (step host line).run (run, state) = .ok .onward (left, state) := by
  have hwithin := visit_within_of_ok h state
  simp only [step, EStateM.run_bind, hwithin, EStateM.run_pure]

theorem step_of_accepted {command : String}
    (h : (Run.visit line).run run = .ok (.forward command) left)
    (hexecute : host.execute command state = (none, answered)) :
    (step host line).run (run, state) = .ok .onward (left.proceed, answered) := by
  have hwithin := visit_within_of_ok h state
  simp only [step, EStateM.run_bind, hwithin, EStateM.run_get, hexecute, EStateM.run_set,
    EStateM.run_pure]

theorem step_of_rejected {command cause : String}
    (h : (Run.visit line).run run = .ok (.forward command) left)
    (hexecute : host.execute command state = (some cause, answered)) :
    (step host line).run (run, state) =
      .error (.commandFailed left.cursor command cause) (left, answered) := by
  have hwithin := visit_within_of_ok h state
  simp only [step, EStateM.run_bind, hwithin, EStateM.run_get, hexecute, EStateM.run_set, run_throw]

theorem step_eq_finished (h : (step host line).run (run, state) = .ok .finished (left, answered)) :
    (Run.visit line).run run = .ok .ended run ∧ left = run ∧ answered = state := by
  rcases hvisit : (Run.visit line).run run with ⟨_ | _ | command, left'⟩ | ⟨error, left'⟩
  · rw [step_of_ended hvisit] at h
    cases h
    obtain rfl := visit_eq_ended hvisit
    exact ⟨rfl, rfl, rfl⟩
  · rw [step_of_moved hvisit] at h
    cases h
  · rcases hexecute : host.execute command state with ⟨_ | cause, answered'⟩
    · rw [step_of_accepted hvisit hexecute] at h
      cases h
    · rw [step_of_rejected hvisit hexecute] at h
      cases h
  · rw [step_of_error hvisit] at h
    cases h

theorem step_eq_onward (h : (step host line).run (run, state) = .ok .onward (left, answered)) :
    ((Run.visit line).run run = .ok .moved left ∧ answered = state) ∨
    ∃ command, (Run.visit line).run run = .ok (.forward command) run ∧ left = run.proceed ∧
      host.execute command state = (none, answered) := by
  rcases hvisit : (Run.visit line).run run with ⟨_ | _ | command, left'⟩ | ⟨error, left'⟩
  · rw [step_of_ended hvisit] at h
    cases h
  · rw [step_of_moved hvisit] at h
    cases h
    exact .inl ⟨rfl, rfl⟩
  · obtain rfl := visit_eq_forward hvisit
    rcases hexecute : host.execute command state with ⟨_ | cause, answered'⟩
    · rw [step_of_accepted hvisit hexecute] at h
      cases h
      exact .inr ⟨command, rfl, rfl, hexecute⟩
    · rw [step_of_rejected hvisit hexecute] at h
      cases h
  · rw [step_of_error hvisit] at h
    cases h

/-- **A step that fails has written nothing.** The run is left as it was, whatever stage of the step
has failed; the host has been called only when it is the one that has rejected a command. -/
theorem step_eq_error {error : RunError}
    (h : (step host line).run (run, state) = .error error (left, answered)) :
    left = run ∧
      (((Run.visit line).run run = .error error run ∧ answered = state) ∨
      ∃ command cause, (Run.visit line).run run = .ok (.forward command) run ∧
        host.execute command state = (some cause, answered) ∧
        error = .commandFailed run.cursor command cause) := by
  rcases hvisit : (Run.visit line).run run with ⟨_ | _ | command, left'⟩ | ⟨failed, left'⟩
  · rw [step_of_ended hvisit] at h
    cases h
  · rw [step_of_moved hvisit] at h
    cases h
  · obtain rfl := visit_eq_forward hvisit
    rcases hexecute : host.execute command state with ⟨_ | cause, answered'⟩
    · rw [step_of_accepted hvisit hexecute] at h
      cases h
    · rw [step_of_rejected hvisit hexecute] at h
      cases h
      exact ⟨rfl, .inr ⟨command, cause, rfl, hexecute, rfl⟩⟩
  · obtain rfl := visit_eq_error hvisit
    rw [step_of_error hvisit] at h
    cases h
    exact ⟨rfl, .inl ⟨rfl, rfl⟩⟩

end Run

end MacroScript
