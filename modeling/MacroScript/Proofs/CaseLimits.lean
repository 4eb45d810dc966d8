import MacroScript.Case.Assertion
import MacroScript.Proofs.Cancellation

/-! # What comes of running a case

The executor of a case cancels the token of the run once enough commands have come in. So the run of
a case is the plain run of its script, with an executor that rejects the failing commands, under a
token that is cancelled during one certain command; and what cancelling does to a run is known. A
`Verdict` says by the plain run alone what is to come of the case: it depends on whether the plain
run ever forwards that command, whether the command is rejected, and whether a line follows it. -/

namespace MacroScript

/-! ## Hosts that answer alike -/

section Alike

variable {σ τ : Type}

/-- Two hosts answer alike while their states are related, and their states stay related. -/
structure Host.Alike (host : Host σ) (other : Host τ) (Related : σ → τ → Prop) : Prop where
  poll : ∀ {state state'}, Related state state' →
    (host.poll state).1 = (other.poll state').1 ∧
      Related (host.poll state).2 (other.poll state').2
  execute : ∀ (command : String) {state state'}, Related state state' →
    (host.execute command state).1 = (other.execute command state').1 ∧
      Related (host.execute command state).2 (other.execute command state').2

/-- A run cannot tell hosts apart that answer alike. -/
theorem Run.drive_alike {host : Host σ} {other : Host τ} {Related : σ → τ → Prop}
    (h : host.Alike other Related) (limit : Nat) (run : Run) {state : σ} {state' : τ}
    (hrelated : Related state state') :
    let leg := run.drive host limit state
    let leg' := run.drive other limit state'
    leg.outcome = leg'.outcome ∧ leg.run = leg'.run ∧ Related leg.host leg'.host := by
  have hpolls : ∀ {state polled state' stop}, Related state state' →
      host.poll state = (stop, polled) →
        ∃ polled', other.poll state' = (stop, polled') ∧ Related polled polled' := by
    intro state polled state' stop hrelated hpoll
    obtain ⟨hseen, hpolled⟩ := h.poll hrelated
    rw [hpoll] at hseen hpolled
    exact ⟨_, Prod.ext hseen.symm rfl, hpolled⟩
  have hexecutes : ∀ {command state answered state' answer}, Related state state' →
      host.execute command state = (answer, answered) →
        ∃ answered', other.execute command state' = (answer, answered') ∧
          Related answered answered' := by
    intro command state answered state' answer hrelated hexecute
    obtain ⟨hanswer, hanswered⟩ := h.execute command hrelated
    rw [hexecute] at hanswer hanswered
    exact ⟨_, Prod.ext hanswer.symm rfl, hanswered⟩
  have hdriven := run.driven_drive host limit state
  generalize run.drive host limit state = leg at hdriven
  induction hdriven generalizing state' with
  | spent => exact ⟨rfl, rfl, hrelated⟩
  | past _ _ here =>
    rw [drive_succ_of_past here]
    exact ⟨rfl, rfl, hrelated⟩
  | stopped _ here asked =>
    obtain ⟨polled', asked', hpolled⟩ := hpolls hrelated asked
    rw [drive_succ_of_stopped here asked']
    exact ⟨rfl, rfl, hpolled⟩
  | failed _ here asked visited =>
    obtain ⟨polled', asked', hpolled⟩ := hpolls hrelated asked
    rw [drive_succ_of_error here asked' visited]
    exact ⟨rfl, rfl, hpolled⟩
  | ended _ here asked visited =>
    obtain ⟨polled', asked', hpolled⟩ := hpolls hrelated asked
    rw [drive_succ_of_ended here asked' visited]
    exact ⟨rfl, rfl, hpolled⟩
  | rejected _ here asked visited answer =>
    obtain ⟨polled', asked', hpolled⟩ := hpolls hrelated asked
    obtain ⟨answered', answer', hanswered⟩ := hexecutes hpolled answer
    rw [drive_succ_of_rejected here asked' visited answer']
    exact ⟨rfl, rfl, hanswered⟩
  | moved here asked visited _ ih =>
    obtain ⟨polled', asked', hpolled⟩ := hpolls hrelated asked
    rw [drive_succ_of_moved here asked' visited]
    exact ih hpolled
  | accepted here asked visited answer _ ih =>
    obtain ⟨polled', asked', hpolled⟩ := hpolls hrelated asked
    obtain ⟨answered', answer', hanswered⟩ := hexecutes hpolled answer
    rw [drive_succ_of_forward here asked' visited answer']
    exact ih hanswered

end Alike

namespace TestCase

/-! ## The plain run of a case and what comes of it -/

def executor (test : TestCase) : Executor := fun received =>
  received.getLast?.bind fun command =>
    if command ∈ test.failingCommands then some (rejection command) else none

/-- The number of the command during which the token is cancelled. Even a limit of zero lets the
first command through. -/
def commandLimit (test : TestCase) : Nat :=
  match test.stopAfterCommands with
  | none => 10000
  | some limit => max 1 (min limit.toNat 10000)

/-- The case has no limit, or one that is beyond the guard. -/
def LeftToGuard (test : TestCase) : Prop :=
  ∀ limit ∈ test.stopAfterCommands, 10000 < limit.toNat

/-- After `n` visits the plain run is about to forward the command during which the token is
cancelled. -/
structure ReachesLimit (test : TestCase) (script : Script) (n : Nat) (command : String) : Prop where
  forwards : test.executor.ForwardsAfter script n command
  number : (test.executor.run .never script n).host.commands.length + 1 = test.commandLimit

/-- What is to come of a case, by the plain run of its script. -/
inductive Verdict (test : TestCase) (script : Script) : Except CaseError Report → Prop where
  /-- The plain run ends with fewer commands than the limit allows. -/
  | ended {n : Nat} {outcome : Outcome}
      (ends : (test.executor.run .never script n).outcome = some outcome)
      (few : (test.executor.run .never script n).host.commands.length < test.commandLimit) :
      Verdict test script
        (.ok ⟨(test.executor.run .never script n).host.commands, outcome.change⟩)
  /-- The command at the limit is rejected. -/
  | rejected {n : Nat} {command : String} (limit : test.ReachesLimit script n command)
      (failing : command ∈ test.failingCommands) :
      Verdict test script
        (.ok ⟨(test.executor.run .never script n).host.commands ++ [command],
          .failed, some (RunError.commandFailed (test.executor.run .never script n).run.cursor
            command (rejection command)).message⟩)
  /-- The command at the limit is accepted, and it stands on the last line. -/
  | lastLine {n : Nat} {command : String} (limit : test.ReachesLimit script n command)
      (passing : command ∉ test.failingCommands)
      (last : (test.executor.run .never script n).run.cursor + 1 = script.size) :
      Verdict test script
        (.ok ⟨(test.executor.run .never script n).host.commands ++ [command], .succeeded, none⟩)
  /-- The command at the limit is accepted, a line follows it, and only the guard has set the
  limit. -/
  | guarded {n : Nat} {command : String} (limit : test.ReachesLimit script n command)
      (passing : command ∉ test.failingCommands)
      (more : (test.executor.run .never script n).run.cursor + 1 < script.size)
      (unlimited : test.LeftToGuard) : Verdict test script (.error .guardExceeded)
  /-- The command at the limit is accepted, a line follows it, and the case has set the limit. -/
  | limited {n : Nat} {command : String} (limit : test.ReachesLimit script n command)
      (passing : command ∉ test.failingCommands)
      (more : (test.executor.run .never script n).run.cursor + 1 < script.size)
      (limited : ¬ test.LeftToGuard) :
      Verdict test script
        (.ok ⟨(test.executor.run .never script n).host.commands ++ [command], .stopped, none⟩)

/-! ## The recorder as an executor with a token -/

theorem executor_concat (test : TestCase) (received : List String) (command : String) :
    test.executor (received ++ [command]) =
      if command ∈ test.failingCommands then some (rejection command) else none := by
  simp [executor]

theorem one_le_commandLimit (test : TestCase) : 1 ≤ test.commandLimit := by
  unfold commandLimit
  split <;> omega

theorem commandLimit_le (test : TestCase) : test.commandLimit ≤ 10000 := by
  unfold commandLimit
  split <;> omega

theorem commandLimit_of_leftToGuard {test : TestCase} (h : test.LeftToGuard) :
    test.commandLimit = 10000 := by
  unfold commandLimit
  split
  · rfl
  · rename_i limit hlimit
    have hbeyond : 10000 < limit.toNat := h limit hlimit
    omega

theorem isUnlimited_iff {test : TestCase} : test.isUnlimited = true ↔ test.LeftToGuard := by
  unfold isUnlimited LeftToGuard maxCommands
  cases test.stopAfterCommands with
  | none => simp
  | some limit => simp

instance (test : TestCase) : Decidable test.LeftToGuard := decidable_of_iff _ isUnlimited_iff

/-- With a command that has come in, the recorder raises the stop exactly from the limit on. -/
theorem stopAfter_le_iff (test : TestCase) (received : Nat) :
    test.stopAfter ≤ received + 1 ↔ test.commandLimit ≤ received + 1 := by
  unfold stopAfter commandLimit maxCommands
  cases test.stopAfterCommands with
  | none => rfl
  | some limit =>
    dsimp only
    omega

theorem recorder_alike (test : TestCase) :
    (test.recorder.host true).Alike (test.executor.host (.duringCommand test.commandLimit))
      fun recording exchange => recording.commands.toList = exchange.commands ∧
        recording.stopped = decide (test.commandLimit ≤ exchange.commands.length) where
  poll := by
    rintro recording exchange ⟨hcommands, hstopped⟩
    refine ⟨?_, hcommands, hstopped⟩
    simp [Recorder.host, Executor.host, Cancellation.duringCommand, hstopped]
  execute := by
    rintro command recording exchange ⟨hcommands, hstopped⟩
    have hsize : recording.commands.size = exchange.commands.length := by
      rw [← Array.length_toList, hcommands]
    refine ⟨?_, ?_, ?_⟩
    · simp [Recorder.host, Recorder.receive, recorder, Executor.host, Exchange.received,
        executor_concat]
    · simp [Recorder.host, Recorder.receive, Executor.host, Exchange.received, hcommands]
    · have hraised : test.commandLimit ≤ exchange.commands.length →
          test.commandLimit ≤ exchange.commands.length + 1 := Nat.le_succ_of_le
      simpa [Recorder.host, Recorder.receive, recorder, Executor.host, Exchange.received, hstopped,
        hsize, stopAfter_le_iff] using hraised

theorem conclude_eq (test : TestCase) (outcome : Outcome) {recording : Recording}
    {commands : List String} (h : recording.commands.toList = commands) :
    test.conclude outcome recording =
      if 10000 ≤ commands.length ∧ outcome = .stopped ∧ test.LeftToGuard then
        .error .guardExceeded
      else .ok ⟨commands, outcome.change⟩ := by
  subst h
  simp only [conclude, maxCommands, isUnlimited_iff, Array.length_toList]

/-- The run of a case is the run of its executor under a token that is cancelled during the command
at the limit. -/
theorem perform_eq (test : TestCase) (limit : Nat) (script : Script) :
    let leg := test.executor.run (.duringCommand test.commandLimit) script limit
    test.perform limit script = leg.outcome.map fun outcome =>
      if 10000 ≤ leg.host.commands.length ∧ outcome = .stopped ∧ test.LeftToGuard then
        .error .guardExceeded
      else .ok ⟨leg.host.commands, outcome.change⟩ := by
  have hlimit := test.one_le_commandLimit
  have hnew : (({} : Recording).commands.toList = ({} : Exchange).commands ∧
      ({} : Recording).stopped = decide (test.commandLimit ≤ ({} : Exchange).commands.length)) :=
    ⟨rfl, (decide_eq_false (Nat.not_le.mpr hlimit)).symm⟩
  obtain ⟨houtcome, -, hcommands, -⟩ := Run.drive_alike test.recorder_alike limit { script } hnew
  simp only [perform, runScript, houtcome, Option.map_map]
  congr 1
  funext outcome
  exact test.conclude_eq outcome hcommands

variable {test : TestCase} {script : Script}

theorem perform_of_run {limit : Nat} {outcome : Outcome} {run : Run} {exchange : Exchange}
    (h : test.executor.run (.duringCommand test.commandLimit) script limit =
      ⟨some outcome, run, exchange⟩) :
    test.perform limit script = some
      (if 10000 ≤ exchange.commands.length ∧ outcome = .stopped ∧ test.LeftToGuard then
        .error .guardExceeded
      else .ok ⟨exchange.commands, outcome.change⟩) := by
  rw [perform_eq, h]
  rfl

theorem perform_of_le {limit more : Nat} {result : Except CaseError Report} (hle : limit ≤ more)
    (h : test.perform limit script = some result) : test.perform more script = some result := by
  have hended : (test.executor.run (.duringCommand test.commandLimit) script limit).outcome ≠
      none := by
    intro hnone
    rw [perform_eq, hnone] at h
    cases h
  rw [← h, perform_eq, perform_eq, Executor.run_of_le hle hended]

/-! ## Each verdict is what comes of the case -/

namespace ReachesLimit

variable {n : Nat} {command : String}

theorem commandLimit_eq (h : test.ReachesLimit script n command) :
    test.commandLimit =
      ((test.executor.run .never script n).host.commands ++ [command]).length := by
  rw [← h.number, List.length_append, List.length_singleton]

theorem perform_of_rejected (h : test.ReachesLimit script n command)
    (hfailing : command ∈ test.failingCommands) {limit : Nat} (hlimit : n + 1 ≤ limit) :
    test.perform limit script = some
      (.ok ⟨(test.executor.run .never script n).host.commands ++ [command],
        .failed, some (RunError.commandFailed (test.executor.run .never script n).run.cursor
          command (rejection command)).message⟩) := by
  have hrun := h.forwards.run_of_rejected (by rw [executor_concat, if_pos hfailing]) hlimit
  rw [← h.commandLimit_eq] at hrun
  rw [perform_of_run hrun, if_neg (by simp)]
  rfl

theorem perform_of_lastLine (h : test.ReachesLimit script n command)
    (hpassing : command ∉ test.failingCommands)
    (hlast : (test.executor.run .never script n).run.cursor + 1 = script.size) {limit : Nat}
    (hlimit : n + 2 ≤ limit) :
    test.perform limit script = some
      (.ok ⟨(test.executor.run .never script n).host.commands ++ [command],
        .succeeded, none⟩) := by
  have hrun := h.forwards.run_of_accepted (by rw [executor_concat, if_neg hpassing]) hlast hlimit
  rw [← h.commandLimit_eq] at hrun
  rw [perform_of_run hrun, if_neg (by simp)]
  rfl

/-- The poll before the line that follows the command is the first to find the token cancelled. -/
theorem perform_of_more (h : test.ReachesLimit script n command)
    (hpassing : command ∉ test.failingCommands)
    (hmore : (test.executor.run .never script n).run.cursor + 1 < script.size) {limit : Nat}
    (hlimit : n + 2 ≤ limit) :
    test.perform limit script = some
      (if test.LeftToGuard then .error .guardExceeded
      else .ok ⟨(test.executor.run .never script n).host.commands ++ [command],
        .stopped, none⟩) := by
  have hnext := h.forwards.accepted (by rw [executor_concat, if_neg hpassing])
  have hscript : (test.executor.run .never script n).run.script = script :=
    Run.script_of_none h.forwards.going
  have hsees : test.executor.SeesCancelled (.duringCommand test.commandLimit) script (n + 1) := by
    refine ⟨by rw [hnext], ?_, ?_⟩
    · rw [hnext]
      simpa [Run.line?, Run.proceed, Script.line?, Script.size, hscript] using hmore
    · rw [hnext, h.commandLimit_eq]
      simp [Cancellation.duringCommand, Exchange.received, Exchange.polled]
  have hfirst : ∀ m < n + 1,
      ¬ test.executor.SeesCancelled (.duringCommand test.commandLimit) script m := by
    intro m hm
    rw [h.commandLimit_eq]
    exact Executor.not_seesCancelled_duringNext _ _ (Nat.le_of_lt_succ hm) command
  have hrun := Executor.run_of_seesCancelled hsees hfirst hlimit
  rw [perform_of_run hrun, hnext]
  by_cases hguard : test.LeftToGuard
  · have hlength : 10000 =
        ((test.executor.run .never script n).host.commands ++ [command]).length := by
      rw [← h.commandLimit_eq, commandLimit_of_leftToGuard hguard]
    rw [if_pos ⟨Nat.le_of_eq hlength, rfl, hguard⟩, if_pos hguard]
  · rw [if_neg fun hall => hguard hall.2.2, if_neg hguard]
    rfl

end ReachesLimit

theorem Verdict.perform {result : Except CaseError Report} (h : test.Verdict script result) :
    ∃ visits, ∀ limit, visits ≤ limit → test.perform limit script = some result := by
  cases h with
  | ended ends few =>
    rename_i n outcome
    refine ⟨n, fun limit hlimit => ?_⟩
    have hrun : test.executor.run (.duringCommand test.commandLimit) script limit =
        test.executor.run .never script n := by
      refine Executor.run_of_ended (by simp [ends]) (fun m hm => ?_) hlimit
      apply Executor.not_seesCancelled_of_few
      exact Nat.lt_of_le_of_lt (Executor.length_commands_le (Nat.le_of_lt hm)) few
    have hguard := test.commandLimit_le
    rw [perform_eq, hrun, ends, Option.map_some, if_neg (by omega)]
  | rejected limit failing => exact ⟨_, fun _ => limit.perform_of_rejected failing⟩
  | lastLine limit passing last => exact ⟨_, fun _ => limit.perform_of_lastLine passing last⟩
  | guarded limit passing more unlimited =>
    refine ⟨_, fun _ hlimit => (limit.perform_of_more passing more hlimit).trans ?_⟩
    rw [if_pos unlimited]
  | limited limit passing more limited =>
    refine ⟨_, fun _ hlimit => (limit.perform_of_more passing more hlimit).trans ?_⟩
    rw [if_neg limited]

/-! ## Nothing else comes of it -/

theorem exists_reachesLimit {n : Nat}
    (h : test.commandLimit ≤ (test.executor.run .never script n).host.commands.length) :
    ∃ m command, test.ReachesLimit script m command := by
  induction n with
  | zero =>
    have hlimit := test.one_le_commandLimit
    exact absurd h (Nat.not_le.mpr hlimit)
  | succ n ih =>
    by_cases hbefore : test.commandLimit ≤ (test.executor.run .never script n).host.commands.length
    · exact ih hbefore
    · -- the limit is passed with this visit, which therefore forwards the command at the limit
      obtain hsame | ⟨command, hforwards, hcommands⟩ :=
        Executor.commands_succ test.executor script n
      · rw [hsame] at h
        exact absurd h hbefore
      · refine ⟨n, command, hforwards, ?_⟩
        rw [hcommands, List.length_append, List.length_singleton] at h
        omega

theorem ReachesLimit.exists_verdict {n : Nat} {command : String}
    (h : test.ReachesLimit script n command) : ∃ result, test.Verdict script result := by
  have hscript : (test.executor.run .never script n).run.script = script :=
    Run.script_of_none h.forwards.going
  obtain ⟨line, hline, -⟩ := Run.visit_of_directive? h.forwards.reads
  have hcursor : (test.executor.run .never script n).run.cursor < script.size := by
    rw [Run.line?, Script.line?, hscript] at hline
    exact (List.getElem?_eq_some_iff.mp hline).1
  by_cases hfailing : command ∈ test.failingCommands
  · exact ⟨_, .rejected h hfailing⟩
  · rcases Nat.lt_or_eq_of_le (Nat.succ_le_of_lt hcursor) with hmore | hlast
    · by_cases hguard : test.LeftToGuard
      · exact ⟨_, .guarded h hfailing hmore hguard⟩
      · exact ⟨_, .limited h hfailing hmore hguard⟩
    · exact ⟨_, .lastLine h hfailing hlast⟩

/-- There is a verdict exactly when the plain run ends or comes to the limit. -/
theorem exists_verdict_iff :
    (∃ result, test.Verdict script result) ↔
      ∃ n, (test.executor.run .never script n).outcome ≠ none ∨
        test.commandLimit ≤ (test.executor.run .never script n).host.commands.length := by
  have hpassed : ∀ {n command}, test.ReachesLimit script n command →
      ∃ n, (test.executor.run .never script n).outcome ≠ none ∨
        test.commandLimit ≤ (test.executor.run .never script n).host.commands.length := by
    intro n command hreaches
    refine ⟨n + 1, .inr (Nat.le_of_eq ?_)⟩
    rw [hreaches.forwards.commands, hreaches.commandLimit_eq]
  constructor
  · rintro ⟨result, hverdict⟩
    cases hverdict with
    | ended ends few => exact ⟨_, .inl (ends ▸ Option.some_ne_none _)⟩
    | rejected limit => exact hpassed limit
    | lastLine limit => exact hpassed limit
    | guarded limit => exact hpassed limit
    | limited limit => exact hpassed limit
  · rintro ⟨n, hn⟩
    by_cases hlimit : test.commandLimit ≤ (test.executor.run .never script n).host.commands.length
    · obtain ⟨m, command, hreaches⟩ := exists_reachesLimit hlimit
      exact hreaches.exists_verdict
    · obtain ⟨outcome, houtcome⟩ := Option.ne_none_iff_exists'.mp (hn.resolve_right hlimit)
      exact ⟨_, .ended houtcome (Nat.not_le.mp hlimit)⟩

theorem verdict_of_perform {limit : Nat} {result : Except CaseError Report}
    (h : test.perform limit script = some result) : test.Verdict script result := by
  by_cases hends : ∃ result, test.Verdict script result
  · obtain ⟨result', hverdict⟩ := hends
    obtain ⟨visits, hperform⟩ := hverdict.perform
    have hmore := perform_of_le (Nat.le_max_left limit visits) h
    rw [hperform _ (Nat.le_max_right limit visits)] at hmore
    cases hmore
    exact hverdict
  · -- a plain run that goes on below the limit for good goes on in the same way with the token
    exfalso
    rw [exists_verdict_iff] at hends
    simp only [not_exists, not_or, Nat.not_le, Decidable.not_not] at hends
    have hrun : test.executor.run (.duringCommand test.commandLimit) script limit =
        test.executor.run .never script limit :=
      Executor.run_eq_never fun m _ => Executor.not_seesCancelled_of_few (hends m).2
    rw [perform_eq, hrun, (hends limit).1] at h
    cases h

/-- **The run of a case is the plain run of its script, cut at the limit.** A script that cannot be
loaded is an engine error. For a script that can, whatever comes of the case within some number of
visits is its verdict, and its verdict comes of it once there are visits enough. There is a verdict,
so that the case is decided, exactly when the plain run ends or forwards as many commands as the
limit allows. -/
theorem run_decides_verdict (test : TestCase) (read : ReadText) (directory : String) :
    (∀ error, loadScript read (Path.join directory test.script) = .error error →
      ∀ limit, test.run read limit directory = some (.error (.engine error))) ∧
    ∀ script, loadScript read (Path.join directory test.script) = .ok script →
      (∀ limit result, test.run read limit directory = some result →
        test.Verdict script result) ∧
      (∀ result, test.Verdict script result →
        ∃ visits, ∀ limit, visits ≤ limit → test.run read limit directory = some result) ∧
      ((∃ result, test.Verdict script result) ↔
        ∃ n, (test.executor.run .never script n).outcome ≠ none ∨
          test.commandLimit ≤ (test.executor.run .never script n).host.commands.length) := by
  refine ⟨fun error hload limit => by rw [run, hload], fun script hload => ?_⟩
  have hrun : ∀ limit, test.run read limit directory = test.perform limit script :=
    fun limit => by rw [run, hload]
  refine ⟨fun limit result h => verdict_of_perform (hrun limit ▸ h), fun result hverdict => ?_,
    exists_verdict_iff⟩
  obtain ⟨visits, hperform⟩ := hverdict.perform
  exact ⟨visits, fun limit hlimit => (hrun limit).trans (hperform limit hlimit)⟩

def stoppedAtOnce : TestCase where
  schemaVersion := caseSchema
  script := defaultScript
  failingCommands := []
  stopAfterCommands := some 0
  expectedCommands := ["tick"]
  expectedState := .stopped
  expectedMessage := none

/-- Its script would end after the first command; but there is still a line, so it is stopped. -/
theorem stoppedAtOnce_run :
    let read : ReadText := fun _ => .ok "tick\nEND\n"
    (stoppedAtOnce.executor.run .never ⟨["tick", "END"]⟩ 2).outcome = some .completed ∧
    ∃ visits, ∀ limit, visits ≤ limit →
      stoppedAtOnce.run read limit "demo" = some (.ok ⟨["tick"], .stopped, none⟩) := by
  intro read
  have hlines : Script.ofText "tick\nEND\n" = ⟨["tick", "END"]⟩ := by decide +kernel
  have hload : loadScript read (Path.join "demo" stoppedAtOnce.script) = .ok ⟨["tick", "END"]⟩ :=
    congrArg Except.ok hlines
  have hreaches : stoppedAtOnce.ReachesLimit ⟨["tick", "END"]⟩ 0 "tick" :=
    ⟨⟨rfl, by decide +kernel⟩, rfl⟩
  have hverdict : stoppedAtOnce.Verdict ⟨["tick", "END"]⟩ (.ok ⟨["tick"], .stopped, none⟩) :=
    .limited hreaches (by decide) (by decide) (by decide)
  exact ⟨by decide +kernel,
    ((stoppedAtOnce.run_decides_verdict read "demo").2 _ hload).2.1 _ hverdict⟩

end TestCase

end MacroScript
