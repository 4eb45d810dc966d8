import Mathlib.Logic.Function.Iterate
import MacroScript.Proofs.Driving
import MacroScript.Proofs.Sessions

/-! # When an operation comes to its answer

An operation that waits for a run has its answer once the run is over, for which it needs enough
turns. Past its lines a run always comes to its end: it has only those listeners left to tell that
it has found. So all depends on the lines, and for these a session is a `Host` like any other: the
operation has its answer, given enough turns, exactly if driving the script with that host comes to
an end (`answers_iff`). -/

namespace MacroScript

/-- Why a command was not carried out. -/
def Reply.cause? : Reply → Option String
  | .accepted => none
  | .rejected cause => some cause
  | .panicked _ => some ""

/-- The run waits for somebody whom it has called. -/
def Phase.awaits {L : Type} : Phase L → Bool
  | .calling .. | .hearing .. => true
  | _ => false

/-- The run has no more lines before it. -/
def Phase.isPast {L : Type} : Phase L → Bool
  | .acquired | .installed | .loading | .line _ | .calling .. => false
  | _ => true

namespace Session

variable {session session' other : Session} {waits : Bool} {number : Nat} {token : Token}
  {holds : Bool} {task : Task Listener} {run : Run} {command : String}

/-! ## A session as a host -/

/-- The host that a session is for a run with a token. If the run `waits` at commands, the first
command is where it is left. -/
def host (waits : Bool) (token : Token) : Host Session where
  poll session := (session.world.engine.isCancelled token, session)
  execute command session :=
    let session := session.announce command
    if waits then (some "", session)
    else ((session.answer command).2.cause?, (session.answer command).1)

/-- Two sessions answer the same commands alike and heed the same stops. -/
structure Alike (session other : Session) : Prop where
  engine : session.world.engine = other.world.engine
  commands : session.commands = other.commands
  rules : session.rules = other.rules

namespace Alike

theorem refl (session : Session) : Alike session session := ⟨rfl, rfl, rfl⟩

theorem trans (h : Alike session session') (h' : Alike session' other) : Alike session other :=
  ⟨h.engine.trans h'.engine, h.commands.trans h'.commands, h.rules.trans h'.rules⟩

theorem announce (h : Alike session other) (command : String) :
    Alike (session.announce command) (other.announce command) :=
  ⟨h.engine, congrArg (· + 1) h.commands, h.rules⟩

theorem act (h : Alike session other) (action : Action) :
    Alike (session.act action).1 (other.act action).1 := by
  have hbegin : Alike (session.move (.begin none)) (other.move (.begin none)) := by
    refine ⟨?_, h.commands, h.rules⟩
    simp only [Session.move, World.engine_move_begin, h.engine]
  cases action with
  | run | start => exact hbegin
  | requestStop | subscribe | cancel =>
    exact ⟨by simp [Session.act, Session.move, World.move, h.engine], h.commands, h.rules⟩
  | state | isRunning | listenerCount | fail | panic => exact h

theorem perform (h : Alike session other) (canFail : Bool) (actions : List Action) :
    Alike (session.perform canFail actions).1 (other.perform canFail actions).1 ∧
      (session.perform canFail actions).2 = (other.perform canFail actions).2 := by
  induction actions generalizing session other with
  | nil => exact ⟨h, rfl⟩
  | cons action rest ih =>
    have hact := h.act action
    cases action with
    | fail message =>
      cases canFail with
      | true => exact ⟨h, rfl⟩
      | false => exact ih h
    | panic payload => exact ⟨h, rfl⟩
    | _ => exact ih ⟨hact.engine, hact.commands, hact.rules⟩

theorem answer (h : Alike session other) (command : String) :
    Alike (session.answer command).1 (other.answer command).1 ∧
      (session.answer command).2 = (other.answer command).2 := by
  unfold Session.answer
  rw [h.commands, h.rules]
  exact h.perform true _

end Alike

/-! ## One turn -/

/-- A run that waits for nobody takes a step, with which a command may arrive. -/
theorem turn_of_step (htask : session.world.tasks[number]? = some task)
    (hfree : task.phase.awaits = false) :
    (∃ run command, (task.step session.script session.world.engine).2.phase =
        .calling run command ∧
      session.turn number = (session.move (.advance number session.script)).announce command) ∨
    (∀ run command, (task.step session.script session.world.engine).2.phase ≠
        .calling run command) ∧
      session.turn number = session.move (.advance number session.script) := by
  have hphase := World.phase_of_getElem? htask
  have hnext : (session.move (.advance number session.script)).world.phase number =
      (task.step session.script session.world.engine).2.phase :=
    World.phase_of_getElem? (World.getElem?_move_advance htask session.script)
  unfold turn
  split
  · rename_i hcalled
    rw [← hphase, hcalled] at hfree
    cases hfree
  · rename_i hheard
    rw [← hphase, hheard] at hfree
    cases hfree
  · dsimp only
    split
    · rename_i run command harrived
      exact .inl ⟨run, command, hnext.symm.trans harrived, rfl⟩
    · rename_i hquiet
      exact .inr ⟨fun run command h => hquiet run command (hnext.trans h), rfl⟩

theorem getElem?_turn (htask : session.world.tasks[number]? = some task)
    (hfree : task.phase.awaits = false) :
    (session.turn number).world.tasks[number]? =
      some (task.step session.script session.world.engine).2 := by
  have hnext := World.getElem?_move_advance htask session.script
  obtain ⟨_, _, -, hturn⟩ | ⟨-, hturn⟩ := turn_of_step htask hfree
  · rw [hturn]
    exact hnext
  · rw [hturn]
    exact hnext

theorem getElem?_turn_of_hearing {change : StateChange} {listener : Listener}
    {waiting : List Listener}
    (htask : session.world.tasks[number]? = some ⟨token, .hearing change listener waiting, holds⟩) :
    ∃ reply, (session.turn number).world.tasks[number]? =
      some (Task.resume reply ⟨token, .hearing change listener waiting, holds⟩) := by
  have htold : (session.tell listener change).1.world.tasks[number]? =
      some ⟨token, .hearing change listener waiting, holds⟩ := by
    cases listener with
    | callback name actions =>
      exact (acted_perform false actions (session.see (.listener name change))).getElem? htask
    | channel receiver =>
      simp only [tell]
      split <;> exact htask
  refine ⟨(session.tell listener change).2, ?_⟩
  unfold turn
  rw [World.phase_of_getElem? htask]
  exact World.getElem?_move_reply htold _

theorem turn_of_calling
    (htask : session.world.tasks[number]? = some ⟨token, .calling run command, holds⟩) :
    (session.turn number).world.tasks[number]? =
        some (Task.resume (session.answer command).2 ⟨token, .calling run command, holds⟩) ∧
      Alike (session.turn number) (session.answer command).1 := by
  have hanswered : (session.answer command).1.world.tasks[number]? = _ :=
    (acted_perform true _ session).getElem? htask
  unfold turn
  rw [World.phase_of_getElem? htask]
  refine ⟨World.getElem?_move_reply hanswered _, ?_, rfl, rfl⟩
  simp only [Session.move, World.move, hanswered]

/-- A run that visits a line changes nothing of the engine; a command that arrives with it is
counted. -/
theorem turn_of_line (htask : session.world.tasks[number]? = some ⟨token, .line run, holds⟩)
    {phase : Phase Listener}
    (hphase : Task.afterLine (session.world.engine.isCancelled token) run = phase) :
    (session.turn number).world.tasks[number]? = some ⟨token, phase, holds⟩ ∧
      (∀ left command, phase = .calling left command →
        Alike (session.turn number) (session.announce command)) ∧
      ((∀ left command, phase ≠ .calling left command) → Alike (session.turn number) session) := by
  subst hphase
  have hengine : (session.move (.advance number session.script)).world.engine =
      session.world.engine := by
    simp only [Session.move, World.move, htask, Task.step]
  refine ⟨getElem?_turn htask rfl, ?_⟩
  obtain ⟨left, command, hcalling, hturn⟩ | ⟨hquiet, hturn⟩ := turn_of_step htask rfl
  · have hafter : Task.afterLine (session.world.engine.isCancelled token) run =
        .calling left command := hcalling
    rw [hturn]
    refine ⟨fun left' command' heq => ?_, fun hnone => absurd hafter (hnone left command)⟩
    cases hafter.symm.trans heq
    exact ⟨hengine, rfl, rfl⟩
  · rw [hturn]
    exact ⟨fun left command heq => absurd heq (hquiet left command),
      fun _ => ⟨hengine, rfl, rfl⟩⟩

/-! ## Coming to rest -/

/-- Given enough turns, the run comes to where it rests. -/
def Settles (waits : Bool) (number : Nat) (session : Session) : Prop :=
  ∃ turns session', session.carryOn waits number turns = some session'

theorem carryOn_of_le {turns more : Nat} (hle : turns ≤ more)
    (h : session.carryOn waits number turns = some session') :
    session.carryOn waits number more = some session' := by
  induction turns generalizing session more with
  | zero => cases h
  | succ turns ih =>
    obtain ⟨more, rfl⟩ := Nat.exists_eq_add_of_le' (Nat.le_trans (Nat.le_add_left 1 turns) hle)
    rw [carryOn] at h ⊢
    split at h
    · rename_i hrests
      rw [if_pos hrests, h]
    · rename_i hrests
      rw [if_neg hrests]
      exact ih (Nat.le_of_succ_le_succ hle) h

theorem rests_of_carryOn {turns : Nat} (h : session.carryOn waits number turns = some session') :
    session'.rests waits number = true := by
  induction turns generalizing session with
  | zero => cases h
  | succ turns ih =>
    rw [carryOn] at h
    split at h
    · rename_i hrests
      rwa [← Option.some.inj h]
    · exact ih h

theorem settles_of_rests (h : session.rests waits number = true) : Settles waits number session :=
  ⟨1, session, by simp [carryOn, h]⟩

theorem settles_of_turn (h : Settles waits number (session.turn number)) :
    Settles waits number session := by
  obtain ⟨turns, session', h⟩ := h
  cases hrests : session.rests waits number with
  | true => exact settles_of_rests hrests
  | false => exact ⟨turns + 1, session', by simpa [carryOn, hrests] using h⟩

theorem Settles.turn (h : Settles waits number session)
    (hrests : session.rests waits number = false) : Settles waits number (session.turn number) := by
  obtain ⟨turns, session', h⟩ := h
  cases turns with
  | zero => cases h
  | succ turns => exact ⟨turns, session', by simpa [carryOn, hrests] using h⟩

/-! ## Past the lines -/

section Past

variable {ending : Ending} {change : StateChange} {waiting : List Listener}
  {phase : Phase Listener}

theorem settles_of_ended
    (htask : session.world.tasks[number]? = some ⟨token, .ended ending, holds⟩) :
    Settles waits number session :=
  settles_of_rests (by simp [rests, World.phase_of_getElem? htask])

theorem settles_of_clearing
    (htask : session.world.tasks[number]? = some ⟨token, .clearing ending, holds⟩) :
    Settles waits number session := by
  have hcleared := getElem?_turn htask rfl
  have hreleased := getElem?_turn hcleared rfl
  exact settles_of_turn (settles_of_turn (settles_of_ended hreleased))

theorem settles_of_leave
    (htask : session.world.tasks[number]? = some (Task.leave ⟨token, phase, holds⟩ ending)) :
    Settles waits number session := by
  cases holds with
  | true => exact settles_of_clearing htask
  | false => exact settles_of_ended htask

/-- Each listener that was found is called once, and each comes back. -/
theorem settles_of_telling
    (htask : session.world.tasks[number]? = some ⟨token, .telling change waiting, holds⟩) :
    Settles waits number session := by
  induction waiting generalizing session with
  | nil => exact settles_of_turn (settles_of_leave (getElem?_turn htask rfl))
  | cons listener waiting ih =>
    have hcalled := getElem?_turn htask rfl
    obtain ⟨reply, hreply⟩ := getElem?_turn_of_hearing hcalled
    refine settles_of_turn (settles_of_turn ?_)
    cases reply with
    | accepted | rejected => exact ih hreply
    | panicked => exact settles_of_leave hreply

theorem settles_of_concluding
    (htask : session.world.tasks[number]? = some ⟨token, .concluding change, holds⟩) :
    Settles waits number session := by
  have hgathering := getElem?_turn htask rfl
  have htelling := getElem?_turn hgathering rfl
  exact settles_of_turn (settles_of_turn (settles_of_telling htelling))

theorem settles_of_past (hpast : task.phase.isPast = true)
    (htask : session.world.tasks[number]? = some task) : Settles waits number session := by
  obtain ⟨token, phase, holds⟩ := task
  cases phase with
  | acquired | installed | loading | line | calling => cases hpast
  | concluding => exact settles_of_concluding htask
  | gathering => exact settles_of_turn (settles_of_telling (getElem?_turn htask rfl))
  | telling => exact settles_of_telling htask
  | hearing change listener waiting =>
    obtain ⟨reply, hreply⟩ := getElem?_turn_of_hearing htask
    refine settles_of_turn ?_
    cases reply with
    | accepted | rejected => exact settles_of_telling hreply
    | panicked => exact settles_of_leave hreply
  | clearing => exact settles_of_clearing htask
  | releasing => exact settles_of_turn (settles_of_ended (getElem?_turn htask rfl))
  | ended => exact settles_of_ended htask
  | abandoned =>
    have hdisowned := getElem?_turn htask rfl
    exact settles_of_turn (settles_of_turn (settles_of_concluding
      (getElem?_turn hdisowned rfl)))
  | disowned => exact settles_of_turn (settles_of_concluding (getElem?_turn htask rfl))

end Past

/-! ## From line to line -/

section Lines

variable {limit : Nat} {leg : Leg Session} {line : String} {polled answered : Session}

theorem poll_host {stop : Bool} (h : (host waits token).poll session = (stop, polled)) :
    session.world.engine.isCancelled token = stop ∧ polled = session := by
  cases h
  exact ⟨rfl, rfl⟩

theorem execute_host_of_accepted
    (h : (host waits token).execute command session = (none, answered)) :
    waits = false ∧ ((session.announce command).answer command).2 = .accepted ∧
      answered = ((session.announce command).answer command).1 := by
  cases waits with
  | true => cases h
  | false =>
    obtain ⟨hcause, rfl⟩ := Prod.mk.inj h
    refine ⟨rfl, ?_, rfl⟩
    cases hreply : ((session.announce command).answer command).2 with
    | accepted => rfl
    | rejected | panicked => simp [hreply, Reply.cause?] at hcause

theorem execute_host_of_rejected {cause : String}
    (h : (host waits token).execute command session = (some cause, answered)) :
    waits = true ∨ ((session.announce command).answer command).2 ≠ .accepted := by
  cases waits with
  | true => exact .inl rfl
  | false =>
    refine .inr fun hreply => ?_
    have hcause := (Prod.mk.inj h).1
    simp [hreply, Reply.cause?] at hcause

/-- A command arrives, and it comes back with what the host answers. -/
theorem turn_of_forward (halike : Alike session other)
    (htask : session.world.tasks[number]? = some ⟨token, .line run, holds⟩)
    (hstop : session.world.engine.isCancelled token = false) (here : run.line? = some line)
    (visited : (Run.visit line).run run = .ok (.forward command) run) :
    (session.turn number).world.tasks[number]? = some ⟨token, .calling run command, holds⟩ ∧
      ((session.turn number).turn number).world.tasks[number]? =
        some (Task.resume ((other.announce command).answer command).2
          ⟨token, .calling run command, holds⟩) ∧
      Alike ((session.turn number).turn number) ((other.announce command).answer command).1 := by
  have hphase : Task.afterLine (session.world.engine.isCancelled token) run =
      (.calling run command : Phase Listener) := by
    simp [Task.afterLine, hstop, here, visited]
  obtain ⟨hcalling, harrived, -⟩ := turn_of_line htask hphase
  obtain ⟨hback, hturned⟩ := turn_of_calling hcalling
  have hsame : Alike (session.turn number) (other.announce command) :=
    (harrived run command rfl).trans (halike.announce command)
  obtain ⟨hanswered, hreply⟩ := hsame.answer command
  rw [hreply] at hback
  exact ⟨hcalling, hback, hturned.trans hanswered⟩

theorem turn_of_moved (halike : Alike session other)
    (htask : session.world.tasks[number]? = some ⟨token, .line run, holds⟩)
    (hstop : session.world.engine.isCancelled token = false) (here : run.line? = some line)
    {next : Run} (visited : (Run.visit line).run run = .ok .moved next) :
    (session.turn number).world.tasks[number]? = some ⟨token, .line next, holds⟩ ∧
      Alike (session.turn number) other := by
  have hphase : Task.afterLine (session.world.engine.isCancelled token) run =
      (.line next : Phase Listener) := by
    simp [Task.afterLine, hstop, here, visited]
  obtain ⟨hnext, -, hsame⟩ := turn_of_line htask hphase
  exact ⟨hnext, (hsame (by simp)).trans halike⟩

theorem settles_of_driven (hdriven : Run.Driven (host waits token) limit run other leg)
    (hleg : leg.outcome ≠ none) (halike : Alike session other)
    (htask : session.world.tasks[number]? = some ⟨token, .line run, holds⟩) :
    Settles waits number session := by
  -- a line after which the run is past its lines
  have hpast {run : Run} {session : Session} (outcome : Outcome)
      (htask : session.world.tasks[number]? = some ⟨token, .line run, holds⟩)
      (hphase : Task.afterLine (session.world.engine.isCancelled token) run =
        (.concluding outcome.change : Phase Listener)) : Settles waits number session :=
    settles_of_turn (settles_of_concluding (turn_of_line htask hphase).1)
  induction hdriven generalizing session with
  | spent => exact absurd rfl hleg
  | past limit state here =>
    exact hpast .completed htask (by simp [Task.afterLine, here])
  | stopped limit here asked =>
    have hstop := halike.engine ▸ (poll_host asked).1
    exact hpast .stopped htask (by simp [Task.afterLine, here, hstop])
  | @failed limit _ _ _ _ error here asked visited =>
    have hstop := halike.engine ▸ (poll_host asked).1
    exact hpast (.failed error) htask (by simp [Task.afterLine, here, hstop, visited])
  | ended limit here asked visited =>
    have hstop := halike.engine ▸ (poll_host asked).1
    exact hpast .completed htask (by simp [Task.afterLine, here, hstop, visited])
  | rejected limit here asked visited answer =>
    obtain ⟨hstop, rfl⟩ := poll_host asked
    obtain ⟨hcalling, hback, -⟩ := turn_of_forward halike htask (halike.engine ▸ hstop) here visited
    obtain rfl | hreply := execute_host_of_rejected answer
    · exact settles_of_turn (settles_of_rests (by simp [rests, World.phase_of_getElem? hcalling]))
    · refine settles_of_turn (settles_of_turn ?_)
      generalize ((Session.announce _ _).answer _).2 = reply at hback hreply
      cases reply with
      | accepted => exact absurd rfl hreply
      | rejected => exact settles_of_concluding hback
      | panicked => exact settles_of_leave hback
  | moved here asked visited _ ih =>
    obtain ⟨hstop, rfl⟩ := poll_host asked
    obtain ⟨hnext, hsame⟩ := turn_of_moved halike htask (halike.engine ▸ hstop) here visited
    exact settles_of_turn (ih hleg hsame hnext)
  | accepted here asked visited answer _ ih =>
    obtain ⟨hstop, rfl⟩ := poll_host asked
    obtain ⟨hcalling, hback, hsame⟩ :=
      turn_of_forward halike htask (halike.engine ▸ hstop) here visited
    obtain ⟨-, hreply, rfl⟩ := execute_host_of_accepted answer
    rw [hreply] at hback
    exact settles_of_turn (settles_of_turn (ih hleg hsame hback))

/-- A run that is driven on and on is carried on and on. -/
theorem carryOn_of_driven (hdriven : Run.Driven (host waits token) limit run other leg)
    (hleg : leg.outcome = none) (halike : Alike session other)
    (htask : session.world.tasks[number]? = some ⟨token, .line run, holds⟩) :
    session.carryOn waits number limit = none := by
  have hline {run : Run} {session : Session}
      (htask : session.world.tasks[number]? = some ⟨token, .line run, holds⟩) :
      session.rests waits number = false := by
    simp [rests, World.phase_of_getElem? htask]
  induction hdriven generalizing session with
  | spent => rfl
  | past | stopped | failed | ended | rejected => cases hleg
  | moved here asked visited _ ih =>
    obtain ⟨hstop, rfl⟩ := poll_host asked
    obtain ⟨hnext, hsame⟩ := turn_of_moved halike htask (halike.engine ▸ hstop) here visited
    simpa [carryOn, hline htask] using ih hleg hsame hnext
  | @accepted limit _ _ _ _ _ _ _ here asked visited answer _ ih =>
    obtain ⟨hstop, rfl⟩ := poll_host asked
    obtain ⟨hcalling, hback, hsame⟩ :=
      turn_of_forward halike htask (halike.engine ▸ hstop) here visited
    obtain ⟨hwaits, hreply, rfl⟩ := execute_host_of_accepted answer
    rw [hreply] at hback
    have hnone := ih hleg hsame hback
    -- the visit takes two turns, so there is one less left than it needs
    refine Option.eq_none_iff_forall_ne_some.mpr fun there hthere => ?_
    have hlater : carryOn waits number limit ((session.turn number).turn number) = some there := by
      have hthere := carryOn_of_le (Nat.le_succ (limit + 1)) hthere
      have hcalled : (session.turn number).rests waits number = false := by
        simp [rests, World.phase_of_getElem? hcalling, hwaits]
      simpa [carryOn, hline htask, hcalled] using hthere
    rw [hnone] at hlater
    cases hlater

theorem settles_line_iff (htask : session.world.tasks[number]? = some ⟨token, .line run, holds⟩) :
    Settles waits number session ↔
      ∃ limit, (run.drive (host waits token) limit session).outcome ≠ none := by
  constructor
  · rintro ⟨turns, there, hthere⟩
    refine ⟨turns, fun hleg => ?_⟩
    rw [carryOn_of_driven (run.driven_drive _ turns session) hleg (.refl session) htask] at hthere
    cases hthere
  · rintro ⟨limit, hleg⟩
    exact settles_of_driven (run.driven_drive _ limit session) hleg (.refl session) htask

end Lines

/-! ## From anywhere -/

/-- Wherever its turns bring the run before a line, driving it from there comes to an end. -/
def LinesEnd (waits : Bool) (number : Nat) (session : Session) : Prop :=
  ∀ turns task run,
    (∀ earlier < turns, ((turn number)^[earlier] session).rests waits number = false) →
    ((turn number)^[turns] session).world.tasks[number]? = some task → task.phase = .line run →
      ∃ limit, (run.drive (host waits task.token) limit ((turn number)^[turns] session)).outcome ≠
        none

namespace LinesEnd

theorem turn (h : LinesEnd waits number session) (hrests : session.rests waits number = false) :
    LinesEnd waits number (session.turn number) := by
  intro turns task run hearlier htask hphase
  refine h (turns + 1) task run (fun earlier hlt => ?_) htask hphase
  cases earlier with
  | zero => exact hrests
  | succ earlier => exact hearlier earlier (Nat.lt_of_succ_lt_succ hlt)

theorem settles_of_line (h : LinesEnd waits number session)
    (htask : session.world.tasks[number]? = some ⟨token, .line run, holds⟩) :
    Settles waits number session :=
  (settles_line_iff htask).mpr (h 0 _ run (by simp) htask rfl)

theorem settles_of_loading (h : LinesEnd waits number session)
    (htask : session.world.tasks[number]? = some ⟨token, .loading, holds⟩) :
    Settles waits number session := by
  have hrests : session.rests waits number = false := by
    simp [rests, World.phase_of_getElem? htask]
  have hloaded := getElem?_turn htask rfl
  refine settles_of_turn ?_
  cases hscript : session.script with
  | error error =>
    rw [hscript] at hloaded
    exact settles_of_concluding hloaded
  | ok script =>
    rw [hscript] at hloaded
    exact (h.turn hrests).settles_of_line hloaded

theorem settles (h : LinesEnd waits number session)
    (hlt : number < session.world.tasks.length) : Settles waits number session := by
  obtain ⟨⟨token, phase, holds⟩, htask⟩ : ∃ task, session.world.tasks[number]? = some task :=
    ⟨_, List.getElem?_eq_getElem hlt⟩
  have hphase := World.phase_of_getElem? htask
  cases phase with
  | acquired =>
    have hinstalled := getElem?_turn htask rfl
    have hturned := h.turn (by simp [rests, hphase])
    have hloading := getElem?_turn hinstalled rfl
    refine settles_of_turn (settles_of_turn ?_)
    exact (hturned.turn (by simp [rests, World.phase_of_getElem? hinstalled, Task.step]))
      |>.settles_of_loading hloading
  | installed =>
    have hloading := getElem?_turn htask rfl
    exact settles_of_turn ((h.turn (by simp [rests, hphase])).settles_of_loading hloading)
  | loading => exact h.settles_of_loading htask
  | line => exact h.settles_of_line htask
  | calling run command =>
    cases waits with
    | true => exact settles_of_rests (by simp [rests, hphase])
    | false =>
      have hback := (turn_of_calling htask).1
      refine settles_of_turn ?_
      cases hreply : (session.answer command).2 with
      | accepted =>
        rw [hreply] at hback
        exact (h.turn (by simp [rests, hphase])).settles_of_line hback
      | rejected =>
        rw [hreply] at hback
        exact settles_of_concluding hback
      | panicked =>
        rw [hreply] at hback
        exact settles_of_leave hback
  | _ => exact settles_of_past rfl htask

end LinesEnd

theorem Settles.linesEnd (h : Settles waits number session) : LinesEnd waits number session := by
  intro turns task run hearlier htask hphase
  induction turns generalizing session with
  | zero =>
    obtain ⟨token, phase, holds⟩ := task
    subst hphase
    exact (settles_line_iff htask).mp h
  | succ turns ih =>
    exact ih (h.turn (hearlier 0 (Nat.succ_pos turns)))
      (fun earlier hlt => hearlier (earlier + 1) (Nat.succ_lt_succ hlt)) htask

theorem settles_iff (hlt : number < session.world.tasks.length) :
    Settles waits number session ↔ LinesEnd waits number session :=
  ⟨Settles.linesEnd, fun h => h.settles hlt⟩

/-! ## From the beginning -/

/-- For a run that has just begun, running the script with the session as the host comes to an
end. The script is run in the session as it is once the script has been loaded. -/
def RunEnds (waits : Bool) (number : Nat) (token : Token) (session : Session) : Prop :=
  ∃ limit, runScript (host waits token) limit session.script ((turn number)^[3] session) ≠ none

theorem settles_turn_iff (hrests : session.rests waits number = false) :
    Settles waits number session ↔ Settles waits number (session.turn number) :=
  ⟨fun h => h.turn hrests, settles_of_turn⟩

theorem script_turn (session : Session) (number : Nat) :
    (session.turn number).script = session.script := by
  rw [(carried_turn session number).rest]

theorem settles_acquired_iff
    (htask : session.world.tasks[number]? = some ⟨token, .acquired, holds⟩) :
    Settles waits number session ↔ RunEnds waits number token session := by
  have hinstalled := getElem?_turn htask rfl
  have hloading := getElem?_turn hinstalled rfl
  have hloaded := getElem?_turn hloading rfl
  rw [settles_turn_iff (by simp [rests, World.phase_of_getElem? htask]),
    settles_turn_iff (by simp [rests, World.phase_of_getElem? hinstalled, Task.step]),
    settles_turn_iff (by simp [rests, World.phase_of_getElem? hloading, Task.step])]
  rw [script_turn, script_turn] at hloaded
  unfold RunEnds
  cases hscript : session.script with
  | error error =>
    rw [hscript] at hloaded
    exact ⟨fun _ => ⟨0, by simp [runScript]⟩, fun _ => settles_of_concluding hloaded⟩
  | ok script =>
    rw [hscript] at hloaded
    rw [settles_line_iff hloaded]
    simp [runScript, Task.step]

/-! ## Operations -/

/-- Given enough turns, the operation has an answer. -/
def Answers (session : Session) (operation : Operation) : Prop :=
  ∃ turns, ∀ pace : Pace, turns ≤ pace.turns → session.operate pace operation ≠ none

/-- What an operation waits for comes to its end. -/
def Finishes (session : Session) : Operation → Prop
  | .run => session.hasHandle = true → session.world.engine.running = false →
    RunEnds false session.world.tasks.length (session.world.newToken none)
      (session.move (.begin none))
  | .runWith token => session.hasHandle = true → session.world.engine.running = false →
    RunEnds false session.world.tasks.length (session.world.newToken (some token))
      (session.move (.begin (some token)))
  | .start =>
    session.hasHandle = true → session.world.engine.running = false → session.gated = true →
      RunEnds true session.world.tasks.length (session.world.newToken none) session.withNewTask
  | .step => ∀ number, session.held = some number → LinesEnd true number (session.turn number)
  | .join => ∀ number, session.held = some number →
    if session.gated then (session.world.ending? number).isSome = true
    else LinesEnd false number session
  | _ => True

theorem ending?_of_rests (h : session.rests false number = true) :
    ∃ ending, session.world.ending? number = some ending := by
  unfold rests at h
  split at h
  · rename_i ending hphase
    exact ⟨ending, World.ending?_eq_some_iff.mpr hphase⟩
  · cases h
  · cases h

theorem carryOn_ne_none_iff :
    (∃ turns, ∀ pace : Pace, turns ≤ pace.turns → session.carryOn waits number pace.turns ≠ none) ↔
      Settles waits number session := by
  constructor
  · rintro ⟨turns, h⟩
    have hturns := h ⟨turns, 0, 0, fun _ => 0⟩ (Nat.le_refl turns)
    obtain ⟨there, hthere⟩ := Option.ne_none_iff_exists'.mp hturns
    exact ⟨turns, there, hthere⟩
  · rintro ⟨turns, there, hthere⟩
    refine ⟨turns, fun pace hle => ?_⟩
    rw [carryOn_of_le hle hthere]
    exact Option.some_ne_none there

theorem runNow_eq_none_iff {pace : Pace} {token : Option String}
    (idle : session.world.engine.running = false) :
    session.runNow pace token = none ↔
      (session.move (.begin token)).carryOn false session.world.tasks.length pace.turns = none := by
  simp only [runNow, idle, Bool.false_eq_true, if_false]
  cases hthere : (session.move (.begin token)).carryOn false session.world.tasks.length
      pace.turns with
  | none => simp
  | some there =>
    obtain ⟨ending, hending⟩ := ending?_of_rests (rests_of_carryOn hthere)
    simp [hending]

theorem joinTask_eq_none_iff {pace : Pace} (hgated : session.gated = false) :
    session.joinTask pace number = none ↔ session.carryOn false number pace.turns = none := by
  simp only [joinTask, hgated, Bool.false_eq_true, if_false]
  cases hthere : session.carryOn false number pace.turns with
  | none => simp
  | some there =>
    obtain ⟨ending, hending⟩ := ending?_of_rests (rests_of_carryOn hthere)
    simp [hending]

theorem answers_of_forall {operation : Operation}
    (h : ∀ pace, session.operate pace operation ≠ none) : session.Answers operation :=
  ⟨0, fun pace _ => h pace⟩

theorem answers_runNow_iff {operation : Operation} {token : Option String}
    (hoperate : ∀ pace, session.operate pace operation = session.withHandle (runNow pace token)) :
    session.Answers operation ↔
      (session.hasHandle = true → session.world.engine.running = false →
        RunEnds false session.world.tasks.length (session.world.newToken token)
          (session.move (.begin token))) := by
  unfold Answers
  simp only [hoperate]
  cases hhandle : session.hasHandle with
  | false => simp [withHandle, hhandle]
  | true =>
    cases hrunning : session.world.engine.running with
    | true => simp [withHandle, hhandle, runNow, hrunning]
    | false =>
      have htask : (session.move (.begin token)).world.tasks[session.world.tasks.length]? =
          some ⟨session.world.newToken token, .acquired, true⟩ := by
        simp [Session.move, World.move_begin_of_free hrunning]
      simp only [withHandle, hhandle, if_true, ne_eq, runNow_eq_none_iff hrunning, forall_const]
      exact carryOn_ne_none_iff.trans (settles_acquired_iff htask)

theorem answers_join_iff (hheld : ∀ number, session.held = some number →
      number < session.world.tasks.length) :
    session.Answers .join ↔ session.Finishes .join := by
  unfold Answers Finishes
  simp only [operate, withTask]
  cases hnumber : session.held with
  | none => simp
  | some number =>
    cases hgated : session.gated with
    | true =>
      have hjoin (pace : Pace) : session.joinTask pace number = none ↔
          session.world.ending? number = none := by
        cases hending : session.world.ending? number <;> simp [joinTask, hgated, hending]
      simp only [hjoin, ne_eq, Option.some.injEq, forall_eq', if_true, Option.isSome_iff_ne_none]
      constructor
      · rintro ⟨turns, h⟩
        exact h ⟨turns, 0, 0, fun _ => 0⟩ (Nat.le_refl turns)
      · exact fun h => ⟨0, fun _ _ => h⟩
    | false =>
      simp only [ne_eq, joinTask_eq_none_iff hgated, Option.some.injEq, forall_eq',
        Bool.false_eq_true, if_false]
      exact carryOn_ne_none_iff.trans (settles_iff (hheld number hnumber))

theorem getElem?_withNewTask (idle : session.world.engine.running = false) :
    session.withNewTask.world.tasks[session.world.tasks.length]? =
      some ⟨session.world.newToken none, .acquired, true⟩ := by
  simp [withNewTask, Session.move, World.move_begin_of_free idle]

theorem answers_start_iff : session.Answers .start ↔ session.Finishes .start := by
  unfold Answers Finishes
  simp only [operate]
  cases hhandle : session.hasHandle with
  | false => simp [withHandle, hhandle]
  | true =>
    cases hrunning : session.world.engine.running with
    | true => simp [withHandle, hhandle, startTask, hrunning]
    | false =>
      cases hgated : session.gated with
      | false => simp [withHandle, hhandle, startTask, hrunning, hgated, Session.move]
      | true =>
        have hstart (pace : Pace) : session.startTask pace = none ↔
            session.withNewTask.carryOn true session.world.tasks.length pace.turns = none := by
          simp [startTask, hrunning, hgated, withNewTask, Session.move]
        simp only [withHandle, hhandle, if_true, ne_eq, hstart, forall_const]
        exact carryOn_ne_none_iff.trans (settles_acquired_iff (getElem?_withNewTask hrunning))

theorem answers_step_iff (hheld : ∀ number, session.held = some number →
      number < session.world.tasks.length) :
    session.Answers .step ↔ session.Finishes .step := by
  unfold Answers Finishes
  simp only [operate, withTask]
  cases hnumber : session.held with
  | none => simp
  | some number =>
    have hlt : number < (session.turn number).world.tasks.length :=
      Nat.lt_of_lt_of_le (hheld number hnumber) (carried_turn session number).leads.length_le
    simp only [ne_eq, Option.map_eq_none_iff, Option.some.injEq, forall_eq']
    exact carryOn_ne_none_iff.trans (settles_iff hlt)

/-- An operation has its answer, given enough turns, exactly if what it waits for comes to its
end. -/
theorem answers_iff (hheld : ∀ number, session.held = some number →
      number < session.world.tasks.length) (operation : Operation) :
    session.Answers operation ↔ session.Finishes operation := by
  cases operation with
  | run => exact answers_runNow_iff fun _ => rfl
  | runWith token => exact answers_runNow_iff fun _ => rfl
  | start => exact answers_start_iff
  | step => exact answers_step_iff hheld
  | join => exact answers_join_iff hheld
  | subscribe | subscribeChannel | state | isRunning | listenerCount | requestStop =>
    refine iff_of_true (answers_of_forall fun pace => ?_) trivial
    simp only [operate, withHandle]
    split <;> exact Option.some_ne_none _
  | taskStop | taskFinished =>
    refine iff_of_true (answers_of_forall fun pace => ?_) trivial
    simp only [operate, withTask]
    split <;> exact Option.some_ne_none _
  | receive | dropChannel | cancel | isCancelled | dropEngine | upgrade =>
    exact iff_of_true (answers_of_forall fun _ => Option.some_ne_none _) trivial

/-- The head start of a task decides nothing about its end. -/
theorem settles_leadOn_iff (cost : Phase Listener → Nat) (turns work : Nat) :
    Settles false number (session.leadOn cost number turns work) ↔
      Settles false number session := by
  induction turns generalizing session work with
  | zero => exact Iff.rfl
  | succ turns ih =>
    rw [leadOn]
    split
    · exact Iff.rfl
    · rename_i hgoes
      rw [Bool.or_eq_true, not_or] at hgoes
      rw [ih, ← settles_turn_iff (by simpa using hgoes.1)]

theorem eq_leadOn_of_started {pace : Pace}
    (h : session.operate pace .start = some (session', .started)) :
    session.world.engine.running = false ∧ session.gated = false ∧
      session' = session.withNewTask.leadOn pace.cost session.world.tasks.length pace.headStart
        pace.work := by
  simp only [operate, withHandle] at h
  split at h
  · simp only [startTask] at h
    split at h
    · cases h
    · rename_i hidle
      split at h
      · -- a task that waits at commands is told where it stands
        obtain ⟨there, -, heq⟩ := Option.map_eq_some_iff.mp h
        have hstanding := (Prod.mk.inj heq).2
        unfold standing at hstanding
        split at hstanding <;> cases hstanding
      · rename_i hgated
        exact ⟨by simpa using hidle, by simpa [Session.move] using hgated,
          (Prod.mk.inj (Option.some.inj h)).1.symm⟩
  · cases h

/-- A task that has been started can be joined, given enough turns, exactly if running the script
comes to an end. -/
theorem answers_join_of_started {pace : Pace}
    (h : session.operate pace .start = some (session', .started)) :
    session'.Answers .join ↔
      RunEnds false session.world.tasks.length (session.world.newToken none)
        session.withNewTask := by
  obtain ⟨hidle, hgated, hstarted⟩ := eq_leadOn_of_started h
  have hrest : session'.held = some session.world.tasks.length ∧ session'.gated = false := by
    rw [hstarted, (carried_leadOn ..).rest]
    exact ⟨rfl, hgated⟩
  unfold Answers
  simp only [operate, withTask, hrest.1, ne_eq, joinTask_eq_none_iff hrest.2]
  refine carryOn_ne_none_iff.trans ?_
  rw [hstarted, settles_leadOn_iff]
  exact settles_acquired_iff (getElem?_withNewTask hidle)

end Session

end MacroScript
