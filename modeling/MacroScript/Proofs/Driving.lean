import MacroScript.Proofs.Stepping

/-! # Driving a run, visit by visit

A run that is driven for a number of visits and then driven on is the run driven for both numbers
at once, so what `drive` does follows from what one visit does; `Run.Driven` spells that out for a
whole run. The commands of a run are what a host that writes them down has written. -/

namespace MacroScript

/-! ## One visit -/

namespace Run

/-- What the line at the cursor asks for, once its variables have been replaced. -/
def directive? (run : Run) : Option Directive :=
  run.line?.bind fun line =>
    (run.vars.substitute run.cursor line >>= Directive.readAt run.cursor).toOption

theorem directive?_eq_some_iff {run : Run} {directive : Directive} :
    run.directive? = some directive ↔
      ∃ line text, run.line? = some line ∧ run.vars.substitute run.cursor line = .ok text ∧
        Directive.readAt run.cursor text = .ok directive := by
  rw [directive?, Option.bind_eq_some_iff]
  refine exists_congr fun line => ?_
  cases hs : run.vars.substitute run.cursor line with
  | error error => simp [bind, Except.bind, Except.toOption]
  | ok text =>
    cases hd : Directive.readAt run.cursor text with
    | error error => simp [hd, bind, Except.bind, Except.toOption]
    | ok found => simp [hd, bind, Except.bind, Except.toOption]

theorem directive?_of_visit {run left : Run} {line : String} {visit : Visit}
    (hline : run.line? = some line) (h : (Run.visit line).run run = .ok visit left) :
    ∃ directive, run.directive? = some directive ∧
      (obey run.cursor directive).run run = .ok visit left := by
  obtain ⟨text, directive, hs, hd, ho⟩ := visit_eq_ok_iff.mp h
  exact ⟨directive, directive?_eq_some_iff.mpr ⟨line, text, hline, hs, hd⟩, ho⟩

theorem visit_of_directive? {run : Run} {directive : Directive}
    (h : run.directive? = some directive) :
    ∃ line, run.line? = some line ∧
      (Run.visit line).run run = (obey run.cursor directive).run run := by
  obtain ⟨line, text, hline, hs, hd⟩ := directive?_eq_some_iff.mp h
  exact ⟨line, hline, visit_of_read hs hd⟩

theorem directive?_of_forward {run left : Run} {line command : String}
    (hline : run.line? = some line)
    (h : (Run.visit line).run run = .ok (.forward command) left) :
    run.directive? = some (.command command) := by
  obtain ⟨directive, hdirective, hobey⟩ := directive?_of_visit hline h
  rw [hdirective, (obey_eq_forward hobey).1]

/-- What going on after a directive leaves of the run: only the counter of the line itself can
change, and unless the line is a jump without a count, either the next line follows or the counter
has gone down by one. -/
theorem next_of_obey {run left next : Run} {directive : Directive} {visit : Visit}
    (h : (obey run.cursor directive).run run = .ok visit left)
    (hnext : left.after? visit = some next) :
    next.script = run.script ∧
      (∀ site, site ≠ run.cursor →
        next.jumps.counters.get? site = run.jumps.counters.get? site) ∧
      (next.cursor = run.cursor + 1 ∨ (∃ label, directive = .jump label none) ∨
        ∃ left, next.jumps.counters.get? run.cursor = some left ∧
          ∀ before, run.jumps.counters.get? run.cursor = some before → before = left + 1) := by
  cases obeyed_of_obey h hnext with
  | label | var | command => exact ⟨rfl, fun _ _ => rfl, .inl rfl⟩
  | jump decided =>
    obtain ⟨line, -, hresolved⟩ := Jumps.resolve_eq_ok decided
    refine ⟨rfl, fun site hsite => hresolved.counter_of_ne hsite, ?_⟩
    cases hresolved with
    | uncounted => exact .inr (.inl ⟨_, rfl⟩)
    | spent => exact .inl rfl
    | @counted n left hleft =>
      refine .inr (.inr ⟨left, ?_, fun before hbefore => ?_⟩)
      · simp [Table.get?_set]
      · simpa [hbefore] using hleft

end Run

/-! ## Many visits -/

variable {σ : Type}

/-- Drives a leg on, unless it has come to its end. -/
def Leg.driveOn (host : Host σ) (limit : Nat) (leg : Leg σ) : Leg σ :=
  match leg.outcome with
  | none => leg.run.drive host limit leg.host
  | some _ => leg

namespace Run

theorem drive_add (host : Host σ) (m n : Nat) (run : Run) (state : σ) :
    run.drive host (m + n) state = (run.drive host m state).driveOn host n := by
  induction m generalizing run state with
  | zero => simp [drive, Leg.driveOn]
  | succ m ih =>
    rw [Nat.succ_add]
    unfold drive
    split
    · rfl
    · split
      · rfl
      · split
        · rfl
        · rfl
        · exact ih ..

theorem drive_add_of_none {host : Host σ} {m : Nat} {run next : Run} {state state' : σ}
    (h : run.drive host m state = ⟨none, next, state'⟩) (n : Nat) :
    run.drive host (m + n) state = next.drive host n state' := by
  rw [drive_add, h, Leg.driveOn]

/-- A run that has ended has ended for any larger number of visits. -/
theorem drive_of_le {host : Host σ} {m n : Nat} {run : Run} {state : σ} (hle : m ≤ n)
    (h : (run.drive host m state).outcome ≠ none) :
    run.drive host n state = run.drive host m state := by
  obtain ⟨k, rfl⟩ := Nat.exists_eq_add_of_le hle
  rw [drive_add, Leg.driveOn]
  split
  · contradiction
  · rfl

section Succ

variable {host : Host σ} {run left : Run} {line command : String} {state polled answered : σ}

theorem drive_succ_of_past (hline : run.line? = none) (state : σ) (n : Nat) :
    run.drive host (n + 1) state = ⟨some .completed, run, state⟩ := by
  simp [drive, hline]

theorem drive_succ_of_stopped (hline : run.line? = some line)
    (hpoll : host.poll state = (true, polled)) (n : Nat) :
    run.drive host (n + 1) state = ⟨some .stopped, run, polled⟩ := by
  simp [drive, hline, hpoll]

theorem drive_succ_of_ended (hline : run.line? = some line)
    (hpoll : host.poll state = (false, polled))
    (hvisit : (Run.visit line).run run = .ok .ended left) (n : Nat) :
    run.drive host (n + 1) state = ⟨some .completed, run, polled⟩ := by
  obtain rfl := visit_eq_ended hvisit
  simp [drive, hline, hpoll, step_of_ended hvisit]

theorem drive_succ_of_moved (hline : run.line? = some line)
    (hpoll : host.poll state = (false, polled))
    (hvisit : (Run.visit line).run run = .ok .moved left) (n : Nat) :
    run.drive host (n + 1) state = left.drive host n polled := by
  simp [drive, hline, hpoll, step_of_moved hvisit]

theorem drive_succ_of_forward (hline : run.line? = some line)
    (hpoll : host.poll state = (false, polled))
    (hvisit : (Run.visit line).run run = .ok (.forward command) left)
    (hexecute : host.execute command polled = (none, answered)) (n : Nat) :
    run.drive host (n + 1) state = run.proceed.drive host n answered := by
  obtain rfl := visit_eq_forward hvisit
  simp [drive, hline, hpoll, step_of_accepted hvisit hexecute]

theorem drive_succ_of_rejected {cause : String} (hline : run.line? = some line)
    (hpoll : host.poll state = (false, polled))
    (hvisit : (Run.visit line).run run = .ok (.forward command) left)
    (hexecute : host.execute command polled = (some cause, answered)) (n : Nat) :
    run.drive host (n + 1) state =
      ⟨some (.failed (.commandFailed run.cursor command cause)), run, answered⟩ := by
  obtain rfl := visit_eq_forward hvisit
  simp [drive, hline, hpoll, step_of_rejected hvisit hexecute]

theorem drive_succ_of_error {error : RunError} (hline : run.line? = some line)
    (hpoll : host.poll state = (false, polled))
    (hvisit : (Run.visit line).run run = .error error left) (n : Nat) :
    run.drive host (n + 1) state = ⟨some (.failed error), run, polled⟩ := by
  obtain rfl := visit_eq_error hvisit
  simp [drive, hline, hpoll, step_of_error hvisit]

end Succ

/-- All that driving a run can come to, line by line. -/
inductive Driven (host : Host σ) : Nat → Run → σ → Leg σ → Prop where
  | spent (run : Run) (state : σ) : Driven host 0 run state ⟨none, run, state⟩
  | past (limit : Nat) {run : Run} (state : σ) (here : run.line? = none) :
      Driven host (limit + 1) run state ⟨some .completed, run, state⟩
  | stopped (limit : Nat) {run : Run} {line : String} {state polled : σ}
      (here : run.line? = some line) (asked : host.poll state = (true, polled)) :
      Driven host (limit + 1) run state ⟨some .stopped, run, polled⟩
  | failed (limit : Nat) {run : Run} {line : String} {state polled : σ} {error : RunError}
      (here : run.line? = some line) (asked : host.poll state = (false, polled))
      (visited : (Run.visit line).run run = .error error run) :
      Driven host (limit + 1) run state ⟨some (.failed error), run, polled⟩
  | ended (limit : Nat) {run : Run} {line : String} {state polled : σ}
      (here : run.line? = some line) (asked : host.poll state = (false, polled))
      (visited : (Run.visit line).run run = .ok .ended run) :
      Driven host (limit + 1) run state ⟨some .completed, run, polled⟩
  | rejected (limit : Nat) {run : Run} {line command cause : String} {state polled answered : σ}
      (here : run.line? = some line) (asked : host.poll state = (false, polled))
      (visited : (Run.visit line).run run = .ok (.forward command) run)
      (answer : host.execute command polled = (some cause, answered)) :
      Driven host (limit + 1) run state
        ⟨some (.failed (.commandFailed run.cursor command cause)), run, answered⟩
  | moved {limit : Nat} {run next : Run} {line : String} {state polled : σ} {leg : Leg σ}
      (here : run.line? = some line) (asked : host.poll state = (false, polled))
      (visited : (Run.visit line).run run = .ok .moved next)
      (rest : Driven host limit next polled leg) : Driven host (limit + 1) run state leg
  | accepted {limit : Nat} {run : Run} {line command : String} {state polled answered : σ}
      {leg : Leg σ} (here : run.line? = some line) (asked : host.poll state = (false, polled))
      (visited : (Run.visit line).run run = .ok (.forward command) run)
      (answer : host.execute command polled = (none, answered))
      (rest : Driven host limit run.proceed answered leg) : Driven host (limit + 1) run state leg

theorem driven_drive (host : Host σ) (limit : Nat) (run : Run) (state : σ) :
    Driven host limit run state (run.drive host limit state) := by
  induction limit generalizing run state with
  | zero => exact .spent run state
  | succ limit ih =>
    unfold drive
    split
    · rename_i here
      exact .past limit state here
    · rename_i line here
      split
      · rename_i polled asked
        exact .stopped limit here asked
      · rename_i polled asked
        split
        · rename_i error left answered hstep
          obtain ⟨rfl, ⟨visited, rfl⟩ | ⟨command, cause, visited, answer, rfl⟩⟩ :=
            step_eq_error hstep
          · exact .failed limit here asked visited
          · exact .rejected limit here asked visited answer
        · rename_i left answered hstep
          obtain ⟨visited, rfl, rfl⟩ := step_eq_finished hstep
          exact .ended limit here asked visited
        · rename_i left answered hstep
          obtain ⟨visited, rfl⟩ | ⟨command, visited, rfl, answer⟩ := step_eq_onward hstep
          · exact .moved here asked visited (ih ..)
          · exact .accepted here asked visited answer (ih ..)

/-- A visit after which the run goes on is one whose directive was carried out, with a next
state that is where the run then is. -/
theorem exists_directive_of_drive_one {host : Host σ} {run : Run} {state : σ}
    (h : (run.drive host 1 state).outcome = none) :
    ∃ directive visit left, run.directive? = some directive ∧
      (obey run.cursor directive).run run = .ok visit left ∧
      left.after? visit = some (run.drive host 1 state).run := by
  have hdriven := run.driven_drive host 1 state
  generalize run.drive host 1 state = leg at h hdriven
  cases hdriven with
  | past | stopped | failed | ended | rejected => cases h
  | moved here asked visited rest =>
    obtain ⟨directive, hd, ho⟩ := directive?_of_visit here visited
    cases rest
    exact ⟨directive, _, _, hd, ho, rfl⟩
  | accepted here asked visited answer rest =>
    obtain ⟨directive, hd, ho⟩ := directive?_of_visit here visited
    cases rest
    exact ⟨directive, _, _, hd, ho, rfl⟩

theorem line?_of_drive_one {host : Host σ} {run : Run} {state : σ}
    (h : (run.drive host 1 state).outcome = none) : ∃ line, run.line? = some line := by
  cases hline : run.line? with
  | none => simp [drive, hline] at h
  | some line => exact ⟨line, rfl⟩

theorem drive_succ_of_none {host : Host σ} {run : Run} {state : σ} {n : Nat}
    (h : (run.drive host (n + 1) state).outcome = none) :
    (run.drive host n state).outcome = none ∧ run.drive host (n + 1) state =
      (run.drive host n state).run.drive host 1 (run.drive host n state).host := by
  cases hn : (run.drive host n state).outcome with
  | none => exact ⟨rfl, by rw [drive_add, Leg.driveOn, hn]⟩
  | some outcome =>
    rw [drive_of_le n.le_succ (by simp [hn]), hn] at h
    cases h

theorem script_of_none {host : Host σ} {run : Run} {state : σ} {n : Nat}
    (h : (run.drive host n state).outcome = none) :
    (run.drive host n state).run.script = run.script := by
  induction n with
  | zero => rfl
  | succ n ih =>
    obtain ⟨hhere, hone⟩ := drive_succ_of_none h
    rw [hone] at h ⊢
    obtain ⟨directive, visit, left, -, hobey, hnext⟩ := exists_directive_of_drive_one h
    exact (next_of_obey hobey hnext).1.trans (ih hhere)

end Run

/-! ## Hosts -/

/-- The host never asks a run to stop. -/
def Host.Patient (host : Host σ) : Prop := ∀ state, (host.poll state).1 = false

/-- The host accepts every command. -/
def Host.Accepting (host : Host σ) : Prop :=
  ∀ command state, (host.execute command state).1 = none

theorem Host.Patient.poll {host : Host σ} (h : host.Patient) (state : σ) :
    host.poll state = (false, (host.poll state).2) := Prod.ext (h state) rfl

theorem Host.Accepting.execute {host : Host σ} (h : host.Accepting) (command : String)
    (state : σ) : host.execute command state = (none, (host.execute command state).2) :=
  Prod.ext (h command state) rfl

/-- A patient host lets no run be stopped. -/
theorem Run.outcome_ne_stopped {host : Host σ} (h : host.Patient) (limit : Nat) (run : Run)
    (state : σ) : (run.drive host limit state).outcome ≠ some .stopped := by
  have hdriven := run.driven_drive host limit state
  generalize run.drive host limit state = leg at hdriven
  induction hdriven with
  | spent | past | failed | ended | rejected => simp
  | @stopped limit run line state polled here asked =>
    rw [h.poll state] at asked
    cases asked
  | moved _ _ _ _ ih | accepted _ _ _ _ _ ih => exact ih

/-- The host, with the commands it has been given written down behind its own state. -/
def Host.recorded (host : Host σ) : Host (σ × List String) where
  poll state := ((host.poll state.1).1, (host.poll state.1).2, state.2)
  execute command state :=
    ((host.execute command state.1).1, (host.execute command state.1).2, state.2 ++ [command])

theorem poll_recorded {host : Host σ} {state polled : σ} {stop : Bool}
    (h : host.poll state = (stop, polled)) (record : List String) :
    host.recorded.poll (state, record) = (stop, polled, record) := by
  simp [Host.recorded, h]

theorem execute_recorded {host : Host σ} {state answered : σ} {command : String}
    {answer : Option String} (h : host.execute command state = (answer, answered))
    (record : List String) :
    host.recorded.execute command (state, record) = (answer, answered, record ++ [command]) := by
  simp [Host.recorded, h]

theorem record_of_poll {host : Host σ} {both polled : σ × List String} {stop : Bool}
    (h : host.recorded.poll both = (stop, polled)) : polled.2 = both.2 := by
  cases h
  rfl

theorem record_of_execute {host : Host σ} {both answered : σ × List String} {command : String}
    {answer : Option String} (h : host.recorded.execute command both = (answer, answered)) :
    answered.2 = both.2 ++ [command] := by
  cases h
  rfl

/-- The commands that a run gives the host within a number of visits. -/
def Run.forwarded (host : Host σ) (limit : Nat) (run : Run) (state : σ) : List String :=
  (run.drive host.recorded limit (state, [])).host.2

/-- Writing the commands down changes nothing about the run. -/
theorem Run.drive_recorded (host : Host σ) (limit : Nat) (run : Run) (state : σ)
    (record : List String) :
    let leg := run.drive host.recorded limit (state, record)
    run.drive host limit state = ⟨leg.outcome, leg.run, leg.host.1⟩ := by
  have hdriven := run.driven_drive host limit state
  generalize run.drive host limit state = leg at hdriven
  induction hdriven generalizing record with
  | spent => rfl
  | past limit state here => simp [drive_succ_of_past here]
  | stopped limit here asked =>
    simp [drive_succ_of_stopped here (poll_recorded asked record)]
  | failed limit here asked visited =>
    simp [drive_succ_of_error here (poll_recorded asked record) visited]
  | ended limit here asked visited =>
    simp [drive_succ_of_ended here (poll_recorded asked record) visited]
  | rejected limit here asked visited answer =>
    simp [drive_succ_of_rejected here (poll_recorded asked record) visited
      (execute_recorded answer record)]
  | moved here asked visited _ ih =>
    rw [drive_succ_of_moved here (poll_recorded asked record) visited]
    exact ih record
  | accepted here asked visited answer _ ih =>
    rw [drive_succ_of_forward here (poll_recorded asked record) visited
      (execute_recorded answer record)]
    exact ih _

/-! ## What every visit keeps -/

/-- A visit leads from a kept run to a kept one, and forwards only commands that are allowed. -/
def VisitsKeep (Kept : Run → Prop) (Allowed : String → Prop) : Prop :=
  ∀ (run left : Run) (line : String) (visit : Visit), Kept run → run.line? = some line →
    (Run.visit line).run run = .ok visit left →
      (∀ next, left.after? visit = some next → Kept next) ∧
      ∀ command, visit = .forward command → Allowed command

theorem VisitsKeep.drive_recorded {Kept : Run → Prop} {Allowed : String → Prop}
    (h : VisitsKeep Kept Allowed) (host : Host σ) (limit : Nat) {run : Run} (state : σ)
    {record : List String} (hkept : Kept run) (hrecord : ∀ command ∈ record, Allowed command) :
    let leg := run.drive host.recorded limit (state, record)
    Kept leg.run ∧ ∀ command ∈ leg.host.2, Allowed command := by
  suffices hall : ∀ {limit run both leg}, Run.Driven host.recorded limit run both leg →
      Kept run → (∀ command ∈ both.2, Allowed command) →
        Kept leg.run ∧ ∀ command ∈ leg.host.2, Allowed command from
    hall (run.driven_drive host.recorded limit (state, record)) hkept hrecord
  intro limit run both leg hdriven hkept hrecord
  induction hdriven with
  | spent | past => exact ⟨hkept, hrecord⟩
  | stopped _ _ asked | failed _ _ asked | ended _ _ asked =>
    exact ⟨hkept, by simpa [record_of_poll asked] using hrecord⟩
  | rejected _ here asked visited answer =>
    have hallowed := (h _ _ _ _ hkept here visited).2 _ rfl
    exact ⟨hkept, by
      simpa [record_of_execute answer, record_of_poll asked, or_imp, forall_and, hallowed]
        using hrecord⟩
  | moved here asked visited _ ih =>
    exact ih ((h _ _ _ _ hkept here visited).1 _ rfl)
      (by simpa [record_of_poll asked] using hrecord)
  | accepted here asked visited answer _ ih =>
    obtain ⟨hnext, hallowed⟩ := h _ _ _ _ hkept here visited
    exact ih (hnext _ rfl) (by
      simpa [record_of_execute answer, record_of_poll asked, or_imp, forall_and, hallowed _ rfl]
        using hrecord)

/-- What every visit keeps, a run keeps for good; and all that it forwards is allowed. -/
theorem VisitsKeep.drive {Kept : Run → Prop} {Allowed : String → Prop}
    (h : VisitsKeep Kept Allowed) (host : Host σ) (limit : Nat) {run : Run} (hkept : Kept run)
    (state : σ) :
    Kept (run.drive host limit state).run ∧
      ∀ command ∈ run.forwarded host limit state, Allowed command := by
  rw [run.drive_recorded host limit state []]
  exact h.drive_recorded host limit state hkept (by simp)

end MacroScript
