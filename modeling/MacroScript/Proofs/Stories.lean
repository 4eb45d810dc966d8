import MacroScript.Proofs.Exclusion

/-! # The story of a run

What is written down of a run tells all of it that commands and listeners could see. The run shows
that it has begun, its commands come back, it shows how it ended, it looks up once who listens, and
it calls those listeners one after the other. A panic breaks this off where it happens. `Phase.Told`
says, for each point that a run can have come to, what has been written down of it by then; each
step of the run keeps that, and moves of anybody else do not touch it. A run that did not get its
thread has a story like any other, with no commands in it. -/

namespace MacroScript

variable {L : Type}

/-! ## The story of a run -/

namespace Happening

/-- The run that something written down is about. -/
def run? : Happening L → Option Nat
  | subscribed _ => none
  | began run => some run
  | answered run .. => some run
  | concluded run _ => some run
  | gathered run .. => some run
  | heard run .. => some run

/-- The listener that has subscribed. -/
def subscriber? : Happening L → Option L
  | subscribed listener => some listener
  | _ => none

/-- The state that is shown from then on. -/
def state? : Happening L → Option RunState
  | began _ => some .running
  | concluded _ change => some change.state
  | _ => none

end Happening

/-- Nobody who was called has panicked. -/
def Calm {α : Type} (calls : List (α × Reply)) : Prop :=
  ∀ call ∈ calls, ∀ panic, call.2 ≠ .panicked panic

theorem calm_nil {α : Type} : Calm ([] : List (α × Reply)) := by
  intro call hmem
  cases hmem

theorem Calm.concat {α : Type} {calls : List (α × Reply)} (h : Calm calls) (callee : α)
    {reply : Reply} (hreply : ∀ panic, reply ≠ .panicked panic) :
    Calm (calls ++ [(callee, reply)]) := by
  intro call hmem
  obtain hmem | hmem := List.mem_append.mp hmem
  · exact h call hmem
  · rw [List.mem_singleton.mp hmem]
    exact hreply

namespace Story

/-- A run has begun and some commands have come back. -/
def opening (number : Nat) (commands : List (String × Reply)) : List (Happening L) :=
  .began number :: commands.map fun (command, reply) => .answered number command reply

/-- A run has ended with a change, has found a registry, and some listeners have come back. -/
def broadcast (number : Nat) (change : StateChange) (registry : List L)
    (calls : List (L × Reply)) : List (Happening L) :=
  .concluded number change :: .gathered number change registry ::
    calls.map fun (listener, reply) => .heard number listener change reply

theorem opening_concat (number : Nat) (commands : List (String × Reply)) (command : String)
    (reply : Reply) : (opening number (commands ++ [(command, reply)]) : List (Happening L)) =
      opening number commands ++ [.answered number command reply] := by
  simp [opening]

theorem broadcast_concat (number : Nat) (change : StateChange) (registry : List L)
    (calls : List (L × Reply)) (listener : L) (reply : Reply) :
    broadcast number change registry (calls ++ [(listener, reply)]) =
      broadcast number change registry calls ++ [.heard number listener change reply] := by
  simp [broadcast]

/-- A run can show the change after its commands. The change of a run without a thread comes after
none. -/
inductive Concludes : List (String × Reply) → StateChange → Prop where
  | outcome {commands : List (String × Reply)} (calm : Calm commands) (outcome : Outcome) :
      Concludes commands outcome.change
  | unspawned (cause : String) : Concludes [] (.unspawned cause)

theorem Concludes.calm {commands : List (String × Reply)} {change : StateChange}
    (h : Concludes commands change) : Calm commands := by
  cases h with
  | outcome calm _ => exact calm
  | unspawned _ => exact calm_nil

/-- The whole story of a run that has come to an end. -/
inductive Whole (number : Nat) : List (Happening L) → Ending → Prop where
  /-- Everybody in the registry was called once, in order, with the change the run ended with. -/
  | complete {commands : List (String × Reply)} {change : StateChange} {calls : List (L × Reply)}
      (concludes : Concludes commands change) (calls_calm : Calm calls) :
      Whole number (opening number commands ++ broadcast number change (calls.map Prod.fst) calls)
        (.changed change)
  /-- A listener has panicked, and those behind it in the registry were not called. -/
  | cut {commands : List (String × Reply)} {change : StateChange} {calls : List (L × Reply)}
      {listener : L} {behind : List L} {panic : Panic}
      (concludes : Concludes commands change) (calls_calm : Calm calls) :
      Whole number (opening number commands ++
          broadcast number change (calls.map Prod.fst ++ listener :: behind)
            (calls ++ [(listener, .panicked panic)]))
        (.panicked panic)
  /-- A command has panicked: no change is shown, nobody is looked up and nobody is called. -/
  | unheard {commands : List (String × Reply)} {command : String} {panic : Panic}
      (commands_calm : Calm commands) :
      Whole number (opening number (commands ++ [(command, .panicked panic)])) (.panicked panic)

end Story

/-- What has been written down of a run that has come to a point. A run that has not begun counts as
one that has just acquired the engine. -/
def Phase.Told (number : Nat) (story : List (Happening L)) : Phase L → Prop
  | .acquired | .installed => story = []
  | .loading | .abandoned _ | .disowned _ => story = Story.opening number []
  | .line _ | .calling .. => ∃ commands, Calm commands ∧ story = Story.opening number commands
  | .concluding change => ∃ commands,
      Story.Concludes commands change ∧ story = Story.opening number commands
  | .gathering change => ∃ commands, Story.Concludes commands change ∧
      story = Story.opening number commands ++ [.concluded number change]
  | .telling change waiting => ∃ (commands : List (String × Reply)) (calls : List (L × Reply)),
      Story.Concludes commands change ∧ Calm calls ∧
      story = Story.opening number commands ++
        Story.broadcast number change (calls.map Prod.fst ++ waiting) calls
  | .hearing change listener waiting =>
    ∃ (commands : List (String × Reply)) (calls : List (L × Reply)),
      Story.Concludes commands change ∧ Calm calls ∧
      story = Story.opening number commands ++
        Story.broadcast number change (calls.map Prod.fst ++ listener :: waiting) calls
  | .clearing ending | .releasing ending | .ended ending => Story.Whole number story ending

namespace Task

theorem told_leave {number : Nat} {story : List (Happening L)} {ending : Ending}
    (h : Story.Whole number story ending) (task : Task L) :
    (task.leave ending).phase.Told number story := by
  obtain ⟨token, phase, holds⟩ := task
  cases holds <;> exact h

/-- A step of a run writes down what belongs to the point that the run then has come to. -/
theorem told_step {number : Nat} {story : List (Happening L)} {task : Task L}
    (h : task.phase.Told number story) (loaded : Except RunError Script) (engine : Engine L) :
    (task.step loaded engine).2.phase.Told number (story ++ task.stepNotes number engine) := by
  obtain ⟨token, phase, holds⟩ := task
  cases phase with
  | acquired | clearing | releasing | ended | calling | hearing | abandoned =>
    simpa [step, stepNotes, Phase.Told] using h
  | installed =>
    simp only [Phase.Told] at h
    simp [step, stepNotes, Phase.Told, Story.opening, h]
  | disowned cause =>
    simp only [Phase.Told] at h
    exact ⟨[], .unspawned cause, by simp [stepNotes, h]⟩
  | loading =>
    simp only [Phase.Told] at h
    cases loaded with
    | error error => exact ⟨[], .outcome calm_nil (.failed error), by simp [stepNotes, h]⟩
    | ok script => exact ⟨[], calm_nil, by simp [stepNotes, h]⟩
  | line run =>
    obtain ⟨commands, hcalm, rfl⟩ := h
    simp only [step, stepNotes, List.append_nil]
    obtain ⟨next, hphase⟩ | ⟨left, command, hphase⟩ | ⟨outcome, hphase⟩ :=
      afterLine_cases (engine.isCancelled token) run
    · rw [hphase]
      exact ⟨commands, hcalm, rfl⟩
    · rw [hphase]
      exact ⟨commands, hcalm, rfl⟩
    · rw [hphase]
      exact ⟨commands, .outcome hcalm outcome, rfl⟩
  | concluding change =>
    obtain ⟨commands, hconcludes, rfl⟩ := h
    exact ⟨commands, hconcludes, rfl⟩
  | gathering change =>
    obtain ⟨commands, hconcludes, rfl⟩ := h
    exact ⟨commands, [], hconcludes, calm_nil, by simp [stepNotes, Story.broadcast]⟩
  | telling change waiting =>
    obtain ⟨commands, calls, hconcludes, hcalls, rfl⟩ := h
    cases waiting with
    | cons listener waiting =>
      exact ⟨commands, calls, hconcludes, hcalls, by simp [stepNotes]⟩
    | nil =>
      -- everybody in the registry has been called
      simp only [step, stepNotes, List.append_nil]
      exact told_leave (.complete hconcludes hcalls) _

/-- So does a call that comes back to a run. -/
theorem told_resume {number : Nat} {story : List (Happening L)} {task : Task L}
    (h : task.phase.Told number story) (reply : Reply) :
    (task.resume reply).phase.Told number (story ++ task.replyNotes number reply) := by
  obtain ⟨token, phase, holds⟩ := task
  cases phase with
  | calling run command =>
    obtain ⟨commands, hcalm, rfl⟩ := h
    simp only [resume, replyNotes, ← Story.opening_concat]
    cases reply with
    | accepted => exact ⟨commands ++ [(command, .accepted)], hcalm.concat command nofun, rfl⟩
    | rejected cause =>
      have hmore : Calm (commands ++ [(command, .rejected cause)]) := hcalm.concat command nofun
      exact ⟨_, .outcome hmore (.failed _), rfl⟩
    | panicked panic => exact told_leave (.unheard hcalm) _
  | hearing change listener waiting =>
    obtain ⟨commands, calls, hconcludes, hcalls, rfl⟩ := h
    simp only [resume, replyNotes, List.append_assoc, ← Story.broadcast_concat]
    cases reply with
    | panicked panic => exact told_leave (.cut hconcludes hcalls) _
    | accepted =>
      exact ⟨commands, calls ++ [(listener, .accepted)], hconcludes,
        hcalls.concat listener nofun, by simp⟩
    | rejected cause =>
      exact ⟨commands, calls ++ [(listener, .rejected cause)], hconcludes,
        hcalls.concat listener nofun, by simp⟩
  | _ => simpa [resume, replyNotes] using h

theorem told_abandon {number : Nat} {story : List (Happening L)} {task : Task L}
    (h : task.phase.Told number story) (cause : String) :
    (task.abandon cause).phase.Told number story := by
  obtain ⟨token, phase, holds⟩ := task
  cases phase <;> exact h

end Task

/-! ## Every run of a history -/

namespace World

/-- What is written down of one run, in order. -/
def story (world : World L) (number : Nat) : List (Happening L) :=
  world.log.filter fun happening => happening.run? = some number

theorem phase_of_getElem? {world : World L} {number : Nat} {task : Task L}
    (h : world.tasks[number]? = some task) : world.phase number = task.phase := by
  simp [phase, h]

theorem exists_of_phase {world : World L} {number : Nat} {phase : Phase L}
    (h : world.phase number = phase) (hphase : phase ≠ .acquired) :
    ∃ task, world.tasks[number]? = some task ∧ task.phase = phase := by
  cases htask : world.tasks[number]? with
  | none => exact absurd (h.symm.trans (by simp [World.phase, htask])) hphase
  | some task => exact ⟨task, rfl, (phase_of_getElem? htask).symm.trans h⟩

theorem ending?_eq_some_iff {world : World L} {number : Nat} {ending : Ending} :
    world.ending? number = some ending ↔ world.phase number = .ended ending := by
  unfold World.ending? World.phase
  cases world.tasks[number]? with
  | none => simp
  | some task =>
    obtain ⟨token, phase, holds⟩ := task
    cases phase <;> simp [Task.ending?]

/-- The notes of a step are about the run that takes it. -/
theorem filter_stepNotes (number run : Nat) (engine : Engine L) (task : Task L) :
    (task.stepNotes run engine).filter (fun happening => happening.run? = some number) =
      if run = number then task.stepNotes run engine else [] := by
  unfold Task.stepNotes
  split <;> by_cases h : run = number <;> simp [Happening.run?, h]

theorem filter_replyNotes (number run : Nat) (reply : Reply) (task : Task L) :
    (task.replyNotes run reply).filter (fun happening => happening.run? = some number) =
      if run = number then task.replyNotes run reply else [] := by
  unfold Task.replyNotes
  split <;> by_cases h : run = number <;> simp [Happening.run?, h]

theorem phase_set (world : World L) {run : Nat} {task' : Task L} (task : Task L) (number : Nat)
    (h : world.tasks[run]? = some task') (engine : Engine L) (notes : Array (Happening L)) :
    phase { engine, tasks := world.tasks.set run task, notes } number =
      if run = number then task.phase else world.phase number := by
  have hlt := (List.getElem?_eq_some_iff.mp h).1
  by_cases hrun : run = number
  · subst hrun
    simp [phase, hlt]
  · simp [phase, List.getElem?_set_ne hrun, hrun]

/-- What a move can do to a run and its story: nothing, one step, the return of one call, or that no
thread is found for it. -/
theorem Moved.phase {world world' : World L} {step : Move L} (hmoved : Moved world step world')
    (number : Nat) :
    (world'.phase number = world.phase number ∧ world'.story number = world.story number) ∨
    (∃ task loaded, world.tasks[number]? = some task ∧
      world'.phase number = (task.step loaded world.engine).2.phase ∧
      world'.story number = world.story number ++ task.stepNotes number world.engine) ∨
    (∃ task reply, world.tasks[number]? = some task ∧
      world'.phase number = (task.resume reply).phase ∧
      world'.story number = world.story number ++ task.replyNotes number reply) ∨
    ∃ task cause, world.tasks[number]? = some task ∧
      world'.phase number = (task.abandon cause).phase ∧
      world'.story number = world.story number := by
  cases hmoved with
  | begun token free =>
    refine .inl ⟨?_, rfl⟩
    -- the new run has come to the point that it counted as being at before
    unfold World.phase
    rw [List.getElem?_append]
    split
    · rfl
    · rename_i hge
      rw [List.getElem?_eq_none (Nat.le_of_not_lt hge)]
      cases number - world.tasks.length <;> rfl
  | @advanced run task loaded here =>
    simp only [phase_set world _ number here, story, log, Array.toList_appendList,
      List.filter_append, filter_stepNotes]
    by_cases hrun : run = number
    · subst hrun
      exact .inr (.inl ⟨task, loaded, here, by simp⟩)
    · exact .inl (by simp [hrun])
  | @resumed run task reply here =>
    simp only [phase_set world _ number here, story, log, Array.toList_appendList,
      List.filter_append, filter_replyNotes]
    by_cases hrun : run = number
    · subst hrun
      exact .inr (.inr (.inl ⟨task, reply, here, by simp⟩))
    · exact .inl (by simp [hrun])
  | @unspawned run task cause here =>
    simp only [phase_set world _ number here]
    by_cases hrun : run = number
    · subst hrun
      exact .inr (.inr (.inr ⟨task, cause, here, by simp, rfl⟩))
    · exact .inl ⟨by simp [hrun], rfl⟩
  | subscribed listener => exact .inl ⟨rfl, by simp [story, log, Happening.run?]⟩
  | idle | cancelled => exact .inl ⟨rfl, rfl⟩

/-- After every history, what is written down of each run fits the point that it has come to. -/
theorem told_after (moves : List (Move L)) (number : Nat) :
    ((after moves).phase number).Told number ((after moves).story number) := by
  refine after_induction (motive := fun world => ∀ number,
    (world.phase number).Told number (world.story number)) (fun _ => rfl) ?_ moves number
  intro world step world' hmoved ih number
  obtain ⟨hsame, hstory⟩ | ⟨task, loaded, htask, hstep, hstory⟩ |
    ⟨task, reply, htask, hstep, hstory⟩ | ⟨task, cause, htask, hstep, hstory⟩ :=
      hmoved.phase number
  · rw [hsame, hstory]
    exact ih number
  · rw [hstep, hstory]
    exact task.told_step (phase_of_getElem? htask ▸ ih number) loaded world.engine
  · rw [hstep, hstory]
    exact task.told_resume (phase_of_getElem? htask ▸ ih number) reply
  · rw [hstep, hstory]
    exact task.told_abandon (phase_of_getElem? htask ▸ ih number) cause

/-! ## The registry and the state -/

/-- What is written down agrees with what an engine keeps: a subscription adds to the registry, a
look-up finds the registry as it is, and what a run shows is the state from then on. -/
structure Recorded (engine : Engine L) (notes : List (Happening L)) (engine' : Engine L) :
    Prop where
  listeners : engine'.listeners = engine.listeners ++ notes.filterMap Happening.subscriber?
  state : engine'.state = (notes.filterMap Happening.state?).getLastD engine.state
  gathered : ∀ before behind run change registry,
    notes = before ++ .gathered run change registry :: behind →
      registry = engine.listeners ++ before.filterMap Happening.subscriber?

theorem recorded_nil {engine engine' : Engine L} (hlisteners : engine'.listeners = engine.listeners)
    (hstate : engine'.state = engine.state) : Recorded engine [] engine' :=
  ⟨by simp [hlisteners], by simp [hstate], by simp⟩

theorem recorded_singleton {engine engine' : Engine L} {note : Happening L}
    (hlisteners : engine'.listeners = engine.listeners ++ note.subscriber?.toList)
    (hstate : engine'.state = note.state?.getD engine.state)
    (hgathered : ∀ run change registry, note = .gathered run change registry →
      registry = engine.listeners) : Recorded engine [note] engine' := by
  refine ⟨?_, ?_, ?_⟩
  · rw [hlisteners]
    cases h : note.subscriber? <;> simp [h]
  · rw [hstate]
    cases h : note.state? <;> simp [h]
  · intro before behind run change registry heq
    obtain ⟨rfl, hnote⟩ | ⟨_, hbehind⟩ := List.singleton_eq_append_iff.mp heq
    · have := hgathered run change registry (List.cons.inj hnote).1.symm
      simpa using this
    · cases hbehind

theorem Recorded.append {engine engine' engine'' : Engine L} {notes notes' : List (Happening L)}
    (h : Recorded engine notes engine') (h' : Recorded engine' notes' engine'') :
    Recorded engine (notes ++ notes') engine'' := by
  refine ⟨?_, ?_, ?_⟩
  · rw [h'.listeners, h.listeners, List.filterMap_append, List.append_assoc]
  · rw [h'.state, h.state, List.filterMap_append]
    simp only [List.getLastD_eq_getLast?, List.getLast?_append]
    cases (notes'.filterMap Happening.state?).getLast? <;> rfl
  · intro before behind run change registry heq
    -- the look-up is among the later notes, is the first of them, or is among the earlier ones
    obtain ⟨rest, rfl, hrest⟩ | ⟨rest, hnotes, hbehind⟩ := List.append_eq_append_iff.mp heq
    · rw [h'.gathered rest behind run change registry hrest, h.listeners, List.filterMap_append,
        List.append_assoc]
    · cases rest with
      | nil =>
        rw [h'.gathered [] behind run change registry hbehind.symm, h.listeners, hnotes]
        simp
      | cons note rest =>
        obtain ⟨rfl, -⟩ := List.cons.inj hbehind
        exact h.gathered before rest run change registry hnotes

theorem recorded_cancel (engine : Engine L) (token : Token) :
    Recorded engine [] (engine.cancel token) := by
  unfold Engine.cancel
  split <;> exact recorded_nil rfl rfl

theorem recorded_step (number : Nat) (loaded : Except RunError Script) (engine : Engine L)
    (task : Task L) :
    Recorded engine (task.stepNotes number engine) (task.step loaded engine).1 := by
  obtain ⟨token, phase, holds⟩ := task
  cases phase with
  | installed => exact recorded_singleton (by simp [Happening.subscriber?, Task.step]) rfl (by simp)
  | concluding change =>
    exact recorded_singleton (by simp [Happening.subscriber?, Task.step]) rfl (by simp)
  | gathering change =>
    refine recorded_singleton (by simp [Happening.subscriber?, Task.step]) rfl ?_
    intro run change' registry h
    cases h
    rfl
  | loading => cases loaded <;> exact recorded_nil rfl rfl
  | telling change waiting => cases waiting <;> exact recorded_nil rfl rfl
  | _ => exact recorded_nil rfl rfl

theorem recorded_reply (number : Nat) (reply : Reply) (engine : Engine L) (task : Task L) :
    Recorded engine (task.replyNotes number reply) engine := by
  unfold Task.replyNotes
  split
  · exact recorded_singleton (by simp [Happening.subscriber?]) rfl (by simp)
  · exact recorded_singleton (by simp [Happening.subscriber?]) rfl (by simp)
  · exact recorded_nil rfl rfl

/-- What a move writes down agrees with what it does to the engine. -/
theorem Moved.recorded {world world' : World L} {step : Move L}
    (hmoved : Moved world step world') :
    ∃ notes, world'.log = world.log ++ notes ∧ Recorded world.engine notes world'.engine := by
  cases hmoved with
  | idle | begun | unspawned => exact ⟨[], (List.append_nil _).symm, recorded_nil rfl rfl⟩
  | advanced loaded here =>
    exact ⟨_, Array.toList_appendList, recorded_step _ loaded world.engine _⟩
  | resumed reply here =>
    exact ⟨_, Array.toList_appendList, recorded_reply _ reply world.engine _⟩
  | cancelled cause => exact ⟨[], (List.append_nil _).symm, recorded_cancel world.engine _⟩
  | subscribed listener =>
    exact ⟨_, Array.toList_push, recorded_singleton rfl rfl (by simp)⟩

theorem recorded_after (moves : List (Move L)) :
    Recorded {} (after moves).log (after moves).engine := by
  refine after_induction (motive := fun world => Recorded {} world.log world.engine)
    (recorded_nil rfl rfl) ?_ moves
  intro world step world' hmoved ih
  obtain ⟨notes, hlog, hnotes⟩ := hmoved.recorded
  rw [hlog]
  exact ih.append hnotes

/-! ## The broadcasts of a history -/

/-- What can be said of the broadcasts at any moment. -/
structure Broadcasts (world : World L) : Prop where
  /-- Of a run that is over a whole story is written down. -/
  whole : ∀ number ending, world.ending? number = some ending →
    Story.Whole number (world.story number) ending
  /-- The registry that a run finds holds exactly those who had subscribed by then, in order. Who
  subscribes later, even while the run tells the others, is in the registry of every later run. -/
  registry : ∀ before behind run change registry,
    world.log = before ++ .gathered run change registry :: behind →
      registry = before.filterMap Happening.subscriber?
  /-- The state is what was last shown by a run, at its beginning or at its end. -/
  state : world.engine.state = (world.log.filterMap Happening.state?).getLastD .notRunning

theorem broadcasts_after (moves : List (Move L)) : (after moves).Broadcasts where
  whole number ending h := by
    have htold := told_after moves number
    rw [ending?_eq_some_iff.mp h] at htold
    exact htold
  registry before behind run change registry h := by
    simpa using (recorded_after moves).gathered before behind run change registry h
  state := (recorded_after moves).state

end World

end MacroScript
