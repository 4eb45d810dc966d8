import MacroScript.Proofs.Driving

/-! # A stop cuts a run between two lines

A run asks whether it is to stop only when there is a line to visit, and before it visits the line.
So a run that is stopped is the same run without the stop, cut off at the first question that is
answered with a stop. This is proved for every host, by comparing it with the same host when its
stop requests are kept from the run. Then it is said of an executor, which answers by the commands
it has received, and of a token, which is found cancelled at some of the questions. -/

namespace MacroScript

variable {σ : Type}

/-! ## Any host, and the same host unheeded -/

/-- The host with its stop requests kept from the run. -/
def Host.unheeded (host : Host σ) : Host σ :=
  { host with poll := fun state => (false, (host.poll state).2) }

namespace Run

/-- After `n` visits the unheeded run goes on with a line at the cursor, and the host would have it
stop there. -/
def StopsAt (host : Host σ) (run : Run) (state : σ) (n : Nat) : Prop :=
  let leg := run.drive host.unheeded n state
  leg.outcome = none ∧ leg.run.line? ≠ none ∧ (host.poll leg.host).1 = true

variable {host : Host σ} {run : Run} {state : σ}

theorem drive_one_eq_unheeded (h : ¬ run.StopsAt host state 0) :
    run.drive host 1 state = run.drive host.unheeded 1 state := by
  cases hline : run.line? with
  | none => simp [drive, hline]
  | some line =>
    obtain ⟨polled, hpoll⟩ : ∃ polled, host.poll state = (false, polled) := by
      refine ⟨_, Prod.ext ?_ rfl⟩
      simpa [StopsAt, drive, hline] using h
    -- a step asks no host to stop, so it is the same for both
    have hstep : step host.unheeded line = step host line := rfl
    have hunheeded : host.unheeded.poll state = (false, polled) := by
      simp only [Host.unheeded, hpoll]
    simp only [drive, hline, hpoll, hunheeded, hstep]

theorem drive_of_stopsAt_zero (h : run.StopsAt host state 0) (limit : Nat) :
    run.drive host (limit + 1) state = ⟨some .stopped, run, (host.poll state).2⟩ := by
  obtain ⟨-, hline, hpoll⟩ := h
  obtain ⟨line, hline⟩ := Option.ne_none_iff_exists'.mp hline
  have hpoll : host.poll state = (true, (host.poll state).2) := Prod.ext hpoll rfl
  exact drive_succ_of_stopped hline hpoll limit

/-- As long as no question is answered with a stop, a run does what the unheeded run does. -/
theorem drive_eq_unheeded {n : Nat} (h : ∀ m < n, ¬ run.StopsAt host state m) :
    run.drive host n state = run.drive host.unheeded n state := by
  induction n with
  | zero => rfl
  | succ n ih =>
    have hsame := ih fun m hm => h m (Nat.lt_succ_of_lt hm)
    rw [drive_add, drive_add host.unheeded, hsame]
    unfold Leg.driveOn
    split
    · rename_i hnone
      refine drive_one_eq_unheeded fun hstops => h n n.lt_succ_self ⟨hnone, hstops.2⟩
    · rfl

/-- At the first question that is answered with a stop, the run ends where the unheeded run is. -/
theorem drive_of_stopsAt {n limit : Nat} (hstops : run.StopsAt host state n)
    (hfirst : ∀ m < n, ¬ run.StopsAt host state m) (hlimit : n < limit) :
    run.drive host limit state =
      let leg := run.drive host.unheeded n state
      ⟨some .stopped, leg.run, (host.poll leg.host).2⟩ := by
  obtain ⟨more, rfl⟩ := Nat.exists_eq_add_of_lt hlimit
  obtain ⟨hnone, hhere⟩ := hstops
  rw [Nat.add_assoc, drive_add, drive_eq_unheeded hfirst, Leg.driveOn, hnone]
  exact drive_of_stopsAt_zero ⟨rfl, hhere⟩ more

end Run

/-! ## Executors and tokens -/

/-- What a run has asked for so far: how often it has polled its token, and the commands it has
forwarded. -/
structure Exchange where
  polls : Nat := 0
  commands : List String := []
  deriving DecidableEq

namespace Exchange

def polled (exchange : Exchange) : Exchange := { exchange with polls := exchange.polls + 1 }

def received (exchange : Exchange) (command : String) : Exchange :=
  { exchange with commands := exchange.commands ++ [command] }

end Exchange

/-- The points of an exchange at which the token of the run is found cancelled. A token that has
been cancelled stays so, but nothing below depends on that. -/
abbrev Cancellation := Exchange → Bool

namespace Cancellation

def never : Cancellation := fun _ => false

def beforeRun : Cancellation := fun _ => true

/-- The token is cancelled while the executor has the command with a number, counted from one. -/
def duringCommand (number : Nat) : Cancellation := fun exchange => number ≤ exchange.commands.length

/-- The token is cancelled between the poll with a number, counted from one, and the next poll. -/
def afterPoll (number : Nat) : Cancellation := fun exchange => number ≤ exchange.polls

end Cancellation

/-- An executor answers a command by all the commands it has received, of which it is the last. A
rejection comes with its cause. -/
abbrev Executor := List String → Option String

namespace Executor

/-- A run's view of an executor and a token. -/
def host (executor : Executor) (cancellation : Cancellation) : Host Exchange where
  poll exchange := (cancellation exchange, exchange.polled)
  execute command exchange := (executor (exchange.received command).commands,
    exchange.received command)

/-- A new run of a script, as far as a number of visits brings it. -/
def run (executor : Executor) (cancellation : Cancellation) (script : Script) (limit : Nat) :
    Leg Exchange :=
  ({ script } : Run).drive (executor.host cancellation) limit {}

/-- After `n` visits of the run without cancellation there is a line at the cursor, and a poll made
there finds the token cancelled. -/
def SeesCancelled (executor : Executor) (cancellation : Cancellation) (script : Script) (n : Nat) :
    Prop :=
  let leg := executor.run .never script n
  leg.outcome = none ∧ leg.run.line? ≠ none ∧ cancellation leg.host = true

/-- After `n` visits the run without cancellation stands at a line that gives the executor a
command. -/
structure ForwardsAfter (executor : Executor) (script : Script) (n : Nat) (command : String) :
    Prop where
  going : (executor.run .never script n).outcome = none
  reads : (executor.run .never script n).run.directive? = some (.command command)

variable {executor : Executor} {cancellation : Cancellation} {script : Script}

theorem run_of_le {m n : Nat} (hle : m ≤ n)
    (h : (executor.run cancellation script m).outcome ≠ none) :
    executor.run cancellation script n = executor.run cancellation script m :=
  Run.drive_of_le hle h

theorem run_succ_of_none {n : Nat} (h : (executor.run cancellation script n).outcome = none) :
    executor.run cancellation script (n + 1) =
      (executor.run cancellation script n).run.drive (executor.host cancellation) 1
        (executor.run cancellation script n).host :=
  Run.drive_add_of_none (by rw [← h]; rfl) 1

/-! ## The run with the token and the run without -/

theorem run_eq_never {n : Nat} (h : ∀ m < n, ¬ executor.SeesCancelled cancellation script m) :
    executor.run cancellation script n = executor.run .never script n :=
  Run.drive_eq_unheeded h

theorem run_of_seesCancelled {n limit : Nat}
    (hsees : executor.SeesCancelled cancellation script n)
    (hfirst : ∀ m < n, ¬ executor.SeesCancelled cancellation script m) (hlimit : n < limit) :
    executor.run cancellation script limit =
      ⟨some .stopped, (executor.run .never script n).run,
        (executor.run .never script n).host.polled⟩ :=
  Run.drive_of_stopsAt hsees hfirst hlimit

/-- A run that ends before any poll finds the token cancelled ends as it does without it. -/
theorem run_of_ended {n limit : Nat} (hended : (executor.run .never script n).outcome ≠ none)
    (hunseen : ∀ m < n, ¬ executor.SeesCancelled cancellation script m) (hlimit : n ≤ limit) :
    executor.run cancellation script limit = executor.run .never script n := by
  have hnone : ∀ m < limit, ¬ executor.SeesCancelled cancellation script m := by
    intro m _ hsees
    rcases Nat.lt_or_ge m n with hm | hm
    · exact hunseen m hm hsees
    · -- a run that has ended polls no more
      exact hended (run_of_le hm hended ▸ hsees.1)
  rw [run_eq_never hnone, run_of_le hlimit hended]

/-! ## Commands on their way -/

theorem ForwardsAfter.accepted {n : Nat} {command : String}
    (h : executor.ForwardsAfter script n command)
    (haccepted : executor ((executor.run .never script n).host.commands ++ [command]) = none) :
    executor.run .never script (n + 1) =
      ⟨none, (executor.run .never script n).run.proceed,
        (executor.run .never script n).host.polled.received command⟩ := by
  obtain ⟨line, hline, hvisit⟩ := Run.visit_of_directive? h.reads
  rw [run_succ_of_none h.going]
  exact Run.drive_succ_of_forward hline rfl hvisit (Prod.ext haccepted rfl) 0

theorem ForwardsAfter.rejected {n : Nat} {command cause : String}
    (h : executor.ForwardsAfter script n command)
    (hrejected : executor ((executor.run .never script n).host.commands ++ [command]) =
      some cause) :
    executor.run .never script (n + 1) =
      ⟨some (.failed (.commandFailed (executor.run .never script n).run.cursor command cause)),
        (executor.run .never script n).run,
        (executor.run .never script n).host.polled.received command⟩ := by
  obtain ⟨line, hline, hvisit⟩ := Run.visit_of_directive? h.reads
  have hexecute : (executor.host .never).execute command
      (executor.run .never script n).host.polled =
        (some cause, (executor.run .never script n).host.polled.received command) :=
    Prod.ext hrejected rfl
  rw [run_succ_of_none h.going]
  exact Run.drive_succ_of_rejected hline rfl hvisit hexecute 0

theorem ForwardsAfter.commands {n : Nat} {command : String}
    (h : executor.ForwardsAfter script n command) :
    (executor.run .never script (n + 1)).host.commands =
      (executor.run .never script n).host.commands ++ [command] := by
  cases hanswer : executor ((executor.run .never script n).host.commands ++ [command]) with
  | none => rw [h.accepted hanswer]; rfl
  | some cause => rw [h.rejected hanswer]; rfl

/-- One visit forwards at most one command. -/
theorem commands_drive_one (executor : Executor) (cancellation : Cancellation) (run : Run)
    (exchange : Exchange) :
    let leg := run.drive (executor.host cancellation) 1 exchange
    leg.host.commands = exchange.commands ∨
      ∃ command, run.directive? = some (.command command) ∧
        leg.host.commands = exchange.commands ++ [command] := by
  have hpolled : ∀ {stop polled}, (executor.host cancellation).poll exchange = (stop, polled) →
      polled.commands = exchange.commands := by
    intro stop polled h
    cases h
    rfl
  have hreceived : ∀ {command answer} {polled answered : Exchange},
      (executor.host cancellation).execute command polled = (answer, answered) →
        answered.commands = polled.commands ++ [command] := by
    intro command answer polled answered h
    cases h
    rfl
  have hdriven := run.driven_drive (executor.host cancellation) 1 exchange
  generalize run.drive (executor.host cancellation) 1 exchange = leg at hdriven
  cases hdriven with
  | past => exact .inl rfl
  | stopped _ _ asked | failed _ _ asked | ended _ _ asked => exact .inl (hpolled asked)
  | moved _ asked _ rest =>
    cases rest
    exact .inl (hpolled asked)
  | rejected _ here asked visited answer =>
    exact .inr ⟨_, Run.directive?_of_forward here visited,
      (hreceived answer).trans (by rw [hpolled asked])⟩
  | accepted here asked visited answer rest =>
    cases rest
    exact .inr ⟨_, Run.directive?_of_forward here visited,
      (hreceived answer).trans (by rw [hpolled asked])⟩

theorem commands_succ (executor : Executor) (script : Script) (n : Nat) :
    let before := (executor.run .never script n).host.commands
    let after := (executor.run .never script (n + 1)).host.commands
    after = before ∨
      ∃ command, executor.ForwardsAfter script n command ∧ after = before ++ [command] := by
  intro before after
  by_cases hnone : (executor.run .never script n).outcome = none
  · have hone := commands_drive_one executor .never (executor.run .never script n).run
      (executor.run .never script n).host
    rw [← run_succ_of_none hnone] at hone
    obtain hsame | ⟨command, hreads, hmore⟩ := hone
    · exact .inl hsame
    · exact .inr ⟨command, ⟨hnone, hreads⟩, hmore⟩
  · exact .inl (congrArg (·.host.commands) (run_of_le n.le_succ hnone))

theorem length_commands_le {m n : Nat} (hle : m ≤ n) :
    (executor.run .never script m).host.commands.length ≤
      (executor.run .never script n).host.commands.length := by
  induction hle with
  | refl => exact Nat.le_refl _
  | step _ ih =>
    rename_i n _
    obtain hsame | ⟨command, -, hmore⟩ := commands_succ executor script n
    · rwa [hsame]
    · rw [hmore, List.length_append]
      omega

theorem not_seesCancelled_of_few {number n : Nat}
    (hfew : (executor.run .never script n).host.commands.length < number) :
    ¬ executor.SeesCancelled (.duringCommand number) script n := by
  rintro ⟨-, -, hseen⟩
  have hreached : number ≤ (executor.run .never script n).host.commands.length := by
    simpa [Cancellation.duringCommand] using hseen
  omega

theorem ForwardsAfter.line?_proceed {n : Nat} {command : String}
    (h : executor.ForwardsAfter script n command)
    (hlast : (executor.run .never script n).run.cursor + 1 = script.size) :
    (executor.run .never script n).run.proceed.line? = none := by
  have hscript : (executor.run .never script n).run.script = script := Run.script_of_none h.going
  rw [Run.line?, Run.proceed, Script.line?, hscript, hlast]
  exact List.getElem?_eq_none (Nat.le_refl _)

theorem ForwardsAfter.completes {n : Nat} {command : String}
    (h : executor.ForwardsAfter script n command)
    (haccepted : executor ((executor.run .never script n).host.commands ++ [command]) = none)
    (hlast : (executor.run .never script n).run.cursor + 1 = script.size) :
    executor.run .never script (n + 2) =
      ⟨some .completed, (executor.run .never script n).run.proceed,
        (executor.run .never script n).host.polled.received command⟩ := by
  have hnext := h.accepted haccepted
  rw [run_succ_of_none (by rw [hnext]), hnext]
  exact Run.drive_succ_of_past (h.line?_proceed hlast) _ 0

/-! ## Cancelling too late -/

/-- A token that is cancelled during the next command has not been found cancelled so far. -/
theorem not_seesCancelled_duringNext (executor : Executor) (script : Script) {m n : Nat}
    (hle : m ≤ n) (command : String) :
    ¬ executor.SeesCancelled
      (.duringCommand ((executor.run .never script n).host.commands ++ [command]).length)
      script m := by
  apply not_seesCancelled_of_few
  have hfew : (executor.run .never script m).host.commands.length ≤
      (executor.run .never script n).host.commands.length := length_commands_le hle
  rw [List.length_append, List.length_singleton]
  exact Nat.lt_succ_of_le hfew

/-- The run is completed although the token is cancelled during the command of its last line. -/
theorem ForwardsAfter.run_of_accepted {n limit : Nat} {command : String}
    (h : executor.ForwardsAfter script n command)
    (haccepted : executor ((executor.run .never script n).host.commands ++ [command]) = none)
    (hlast : (executor.run .never script n).run.cursor + 1 = script.size)
    (hlimit : n + 2 ≤ limit) :
    executor.run
        (.duringCommand ((executor.run .never script n).host.commands ++ [command]).length)
        script limit =
      ⟨some .completed, (executor.run .never script n).run.proceed,
        (executor.run .never script n).host.polled.received command⟩ := by
  have hend := h.completes haccepted hlast
  rw [← hend]
  refine run_of_ended (by rw [hend]; exact Option.some_ne_none _) (fun m hm => ?_) hlimit
  rcases Nat.lt_succ_iff_lt_or_eq.mp hm with hm | rfl
  · exact not_seesCancelled_duringNext executor script (Nat.le_of_lt_succ hm) command
  · -- the token is cancelled by now, but behind the last line there is no poll
    rintro ⟨-, hline, -⟩
    rw [h.accepted haccepted] at hline
    exact hline (h.line?_proceed hlast)

/-- The run fails although the token is cancelled during the command that is rejected. -/
theorem ForwardsAfter.run_of_rejected {n limit : Nat} {command cause : String}
    (h : executor.ForwardsAfter script n command)
    (hrejected : executor ((executor.run .never script n).host.commands ++ [command]) =
      some cause) (hlimit : n + 1 ≤ limit) :
    executor.run
        (.duringCommand ((executor.run .never script n).host.commands ++ [command]).length)
        script limit =
      ⟨some (.failed (.commandFailed (executor.run .never script n).run.cursor command cause)),
        (executor.run .never script n).run,
        (executor.run .never script n).host.polled.received command⟩ := by
  have hend := h.rejected hrejected
  rw [← hend]
  refine run_of_ended (by rw [hend]; exact Option.some_ne_none _) (fun m hm => ?_) hlimit
  exact not_seesCancelled_duringNext executor script (Nat.le_of_lt_succ hm) command

theorem run_of_no_lines (executor : Executor) (cancellation : Cancellation)
    (hempty : script.lines = []) {limit : Nat} (hlimit : 1 ≤ limit) :
    executor.run cancellation script limit = ⟨some .completed, { script }, {}⟩ := by
  have hline : ({ script } : Run).line? = none := by simp [Run.line?, Script.line?, hempty]
  obtain ⟨more, rfl⟩ := Nat.exists_eq_add_of_le' hlimit
  simp [run, Run.drive, hline]

/-! ## The cut -/

/-- **A cancelled token cuts a run between two lines and changes nothing else.** Up to the first
poll that finds the token cancelled with a line at the cursor, the run is the same as without it;
there it ends as stopped, with what it had forwarded by then. A run that ends before such a poll
ends as it does without the token: so it does when the token is cancelled during the command of the
last line, during a command that is rejected, or before the run of a script without lines. -/
theorem run_cut_by_cancellation (executor : Executor) (cancellation : Cancellation)
    (script : Script) :
    let plain := executor.run .never script
    let cut := executor.run cancellation script
    let Sees := executor.SeesCancelled cancellation script
    (∀ limit, (∀ n < limit, ¬ Sees n) → cut limit = plain limit) ∧
    (∀ n, Sees n → (∀ m < n, ¬ Sees m) → ∀ limit, n < limit →
      cut limit = ⟨some .stopped, (plain n).run, (plain n).host.polled⟩ ∧
        (cut limit).host.commands = (plain n).host.commands ∧
        Outcome.stopped.change = ⟨.stopped, none⟩) ∧
    (∀ n, (plain n).outcome ≠ none → (∀ m < n, ¬ Sees m) → ∀ limit, n ≤ limit →
      cut limit = plain n) ∧
    (∀ n command, executor.ForwardsAfter script n command →
      let received := (plain n).host.commands ++ [command]
      let late := executor.run (.duringCommand received.length) script
      (executor received = none → (plain n).run.cursor + 1 = script.size →
        ∀ limit, n + 2 ≤ limit → (late limit).host.commands = received ∧
          (late limit).outcome.map Outcome.change = some ⟨.succeeded, none⟩) ∧
      ∀ cause, executor received = some cause → ∀ limit, n + 1 ≤ limit →
        (late limit).host.commands = received ∧
          (late limit).outcome.map Outcome.change = some ⟨.failed,
            some (RunError.commandFailed (plain n).run.cursor command cause).message⟩) ∧
    (script.lines = [] → ∀ limit, 1 ≤ limit →
      (executor.run .beforeRun script limit).host.commands = [] ∧
        (executor.run .beforeRun script limit).outcome.map Outcome.change =
          some ⟨.succeeded, none⟩) := by
  intro plain cut Sees
  refine ⟨fun limit hunseen => run_eq_never hunseen, ?_, fun n hended hunseen limit hlimit =>
    run_of_ended hended hunseen hlimit, fun n command hforwards => ⟨?_, ?_⟩, ?_⟩
  · intro n hsees hfirst limit hlimit
    have hcut := run_of_seesCancelled hsees hfirst hlimit
    exact ⟨hcut, congrArg (·.host.commands) hcut, rfl⟩
  · intro haccepted hlast limit hlimit
    rw [hforwards.run_of_accepted haccepted hlast hlimit]
    exact ⟨rfl, rfl⟩
  · intro cause hrejected limit hlimit
    rw [hforwards.run_of_rejected hrejected hlimit]
    exact ⟨rfl, rfl⟩
  · intro hempty limit hlimit
    rw [run_of_no_lines executor .beforeRun hempty hlimit]
    exact ⟨rfl, rfl⟩

def ticking : Script := ⟨["label:l", "tick", "jumpto:l"]⟩

/-- The fifth poll is made before the loop jumps back for the second time, and the sixth one, which
is the first to find the token cancelled, before the third command. -/
theorem ticking_cut_after_poll :
    let accepting : Executor := fun _ => none
    (∃ n, accepting.SeesCancelled (.afterPoll 5) ticking n ∧
      ∀ m < n, ¬ accepting.SeesCancelled (.afterPoll 5) ticking m) ∧
    ∀ limit, 5 < limit →
      (accepting.run (.afterPoll 5) ticking limit).outcome = some .stopped ∧
        (accepting.run (.afterPoll 5) ticking limit).host.commands = ["tick", "tick"] := by
  intro accepting
  have hsees : accepting.SeesCancelled (.afterPoll 5) ticking 5 :=
    ⟨by decide +kernel, by decide +kernel, by decide +kernel⟩
  have hfirst : ∀ m < 5, ¬ accepting.SeesCancelled (.afterPoll 5) ticking m := by
    have hunseen : ∀ m < 5,
        Cancellation.afterPoll 5 (accepting.run .never ticking m).host ≠ true := by decide +kernel
    exact fun m hm hsees => hunseen m hm hsees.2.2
  refine ⟨⟨5, hsees, hfirst⟩, fun limit hlimit => ?_⟩
  have hcut := (accepting.run_cut_by_cancellation (.afterPoll 5) ticking).2.1 5 hsees hfirst limit
    hlimit
  refine ⟨congrArg (·.outcome) hcut.1, hcut.2.1.trans ?_⟩
  decide +kernel

end Executor

end MacroScript
