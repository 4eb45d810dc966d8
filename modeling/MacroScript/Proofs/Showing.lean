import MacroScript.Proofs.Beginnings

/-! # The state tells of the run that began last

A run writes the state twice: when it has begun, and when it knows how it ended. Nothing else writes
it, neither a panic nor the end of a broadcast. If every run gets its thread, runs hold the engine
one after the other until they are over, so the last to have written the state is always the run
that began last, and the state is what this run has shown: that it is running, or the change that it
has ended with. A run whose command panics never comes to show an end, and leaves the state as it
is. -/

namespace MacroScript

variable {L : Type}

/-! ## Changes that end a run -/

/-- A run can end with the change, which has a message exactly if it tells of a failure. -/
def StateChange.IsFinal (change : StateChange) : Prop :=
  change.state ∈ [.succeeded, .failed, .stopped] ∧
    (change.message.isSome = true ↔ change.state = .failed)

theorem Outcome.isFinal_change (outcome : Outcome) : outcome.change.IsFinal := by
  cases outcome <;> simp [StateChange.IsFinal, Outcome.change]

theorem Story.Concludes.isFinal {commands : List (String × Reply)} {change : StateChange}
    (h : Concludes commands change) : change.IsFinal := by
  cases h with
  | outcome calm outcome => exact outcome.isFinal_change
  | unspawned cause => simp [StateChange.IsFinal, StateChange.unspawned]

theorem StateChange.IsFinal.state_ne {change : StateChange} (h : change.IsFinal) :
    change.state ≠ .notRunning := by
  intro hstate
  have := h.1
  simp [hstate] at this

namespace Happening

/-- The change that a run has shown as its end. -/
def ended? (number : Nat) : Happening L → Option StateChange
  | concluded run change => if run = number then some change else none
  | _ => none

/-- The change that is told of. -/
def change? : Happening L → Option StateChange
  | concluded _ change => some change
  | gathered _ change _ => some change
  | heard _ _ change _ => some change
  | _ => none

theorem ended?_eq_some_iff {number : Nat} {note : Happening L} {change : StateChange} :
    note.ended? number = some change ↔ note = .concluded number change := by
  cases note <;> simp [ended?]

theorem run?_of_change? {note : Happening L} {change : StateChange}
    (h : note.change? = some change) : ∃ number, note.run? = some number := by
  cases note with
  | concluded run | gathered run | heard run => exact ⟨run, rfl⟩
  | subscribed | began | answered => cases h

end Happening

/-! ## What a story shows -/

namespace Story

/-- What can be written down of a run, with the change that it has shown by then. -/
inductive Shows (number : Nat) : List (Happening L) → Option StateChange → Prop where
  | nothing : Shows number [] none
  | opened (commands : List (String × Reply)) : Shows number (opening number commands) none
  | ended {commands : List (String × Reply)} {change : StateChange}
      (concludes : Concludes commands change) :
      Shows number (opening number commands ++ [.concluded number change]) (some change)
  | told {commands : List (String × Reply)} {change : StateChange}
      (concludes : Concludes commands change) (registry : List L) (calls : List (L × Reply)) :
      Shows number (opening number commands ++ broadcast number change registry calls)
        (some change)

variable {number : Nat} {story : List (Happening L)} {shown : Option StateChange}

theorem change?_of_mem_opening {commands : List (String × Reply)} {note : Happening L}
    (h : note ∈ opening number commands) : note.change? = none := by
  rcases List.mem_cons.mp h with rfl | hmem
  · rfl
  · obtain ⟨call, -, rfl⟩ := List.mem_map.mp hmem
    rfl

theorem change?_of_mem_broadcast {change : StateChange} {registry : List L}
    {calls : List (L × Reply)} {note : Happening L}
    (h : note ∈ broadcast number change registry calls) : note.change? = some change := by
  rcases List.mem_cons.mp h with rfl | hmem
  · rfl
  · rcases List.mem_cons.mp hmem with rfl | hmem
    · rfl
    · obtain ⟨call, -, rfl⟩ := List.mem_map.mp hmem
      rfl

/-- Whatever tells of a change tells of the one that the run has shown. -/
theorem Shows.of_change? (h : Shows number story shown) {note : Happening L} (hmem : note ∈ story)
    {change : StateChange} (hchange : note.change? = some change) :
    shown = some change ∧ change.IsFinal := by
  cases h with
  | nothing => cases hmem
  | opened commands => simp [change?_of_mem_opening hmem] at hchange
  | ended concludes =>
    rcases List.mem_append.mp hmem with hmem | hmem
    · simp [change?_of_mem_opening hmem] at hchange
    · rw [List.mem_singleton.mp hmem] at hchange
      cases hchange
      exact ⟨rfl, concludes.isFinal⟩
  | told concludes registry calls =>
    rcases List.mem_append.mp hmem with hmem | hmem
    · simp [change?_of_mem_opening hmem] at hchange
    · rw [change?_of_mem_broadcast hmem] at hchange
      cases hchange
      exact ⟨rfl, concludes.isFinal⟩

theorem Shows.concluded_mem_iff (h : Shows number story shown) {change : StateChange} :
    .concluded number change ∈ story ↔ shown = some change := by
  constructor
  · exact fun hmem => (h.of_change? hmem rfl).1
  · rintro rfl
    cases h with
    | ended concludes => simp
    | told concludes registry calls => simp [broadcast]

/-- Behind the panic of a command nothing is shown. -/
theorem Shows.of_panic (h : Shows number story shown) {command : String} {panic : Panic}
    (hmem : .answered number command (.panicked panic) ∈ story) : shown = none := by
  have hcalm : ∀ {commands : List (String × Reply)} {change : StateChange},
      Concludes commands change →
      (.answered number command (.panicked panic) : Happening L) ∉ opening number commands := by
    intro commands change concludes hopening
    simp only [opening, List.mem_cons, List.mem_map, reduceCtorEq, false_or] at hopening
    obtain ⟨call, hcall, heq⟩ := hopening
    obtain ⟨-, -, hreply⟩ := Happening.answered.inj heq
    exact concludes.calm call hcall panic hreply
  cases h with
  | nothing | opened => rfl
  | ended concludes =>
    rcases List.mem_append.mp hmem with hmem | hmem
    · exact absurd hmem (hcalm concludes)
    · cases List.mem_singleton.mp hmem
  | told concludes registry calls =>
    rcases List.mem_append.mp hmem with hmem | hmem
    · exact absurd hmem (hcalm concludes)
    · cases change?_of_mem_broadcast hmem

end Story

/-- The change that a run has shown when it has come to a point. Of a run that was broken off by a
panic the point alone does not tell. -/
def Phase.Showing (shown : Option StateChange) : Phase L → Prop
  | .acquired | .installed | .loading | .line _ | .calling .. | .concluding _ | .abandoned _
  | .disowned _ => shown = none
  | .gathering change | .telling change _ | .hearing change _ _ => shown = some change
  | .clearing ending | .releasing ending | .ended ending =>
    ∀ change, ending = .changed change → shown = some change

theorem Story.Whole.shows {number : Nat} {story : List (Happening L)} {ending : Ending}
    (h : Whole number story ending) :
    ∃ shown, Shows number story shown ∧
      ∀ change, ending = .changed change → shown = some change := by
  cases h with
  | complete concludes calls_calm =>
    refine ⟨_, .told concludes _ _, ?_⟩
    rintro change ⟨⟩
    rfl
  | cut concludes calls_calm =>
    refine ⟨_, .told concludes _ _, ?_⟩
    rintro change ⟨⟩
  | @unheard commands command panic commands_calm =>
    refine ⟨_, .opened _, ?_⟩
    rintro change ⟨⟩

theorem Phase.Told.shows {number : Nat} {story : List (Happening L)} {phase : Phase L}
    (h : phase.Told number story) :
    ∃ shown, Story.Shows number story shown ∧ phase.Showing shown := by
  cases phase with
  | acquired | installed =>
    obtain rfl : story = [] := h
    exact ⟨none, .nothing, rfl⟩
  | loading | abandoned | disowned =>
    obtain rfl : story = Story.opening number [] := h
    exact ⟨none, .opened [], rfl⟩
  | line run | calling run command =>
    obtain ⟨commands, -, rfl⟩ := h
    exact ⟨none, .opened commands, rfl⟩
  | concluding change =>
    obtain ⟨commands, -, rfl⟩ := h
    exact ⟨none, .opened commands, rfl⟩
  | gathering change =>
    obtain ⟨commands, hconcludes, rfl⟩ := h
    exact ⟨_, .ended hconcludes, rfl⟩
  | telling change waiting =>
    obtain ⟨commands, calls, hconcludes, -, rfl⟩ := h
    exact ⟨_, .told hconcludes _ _, rfl⟩
  | hearing change listener waiting =>
    obtain ⟨commands, calls, hconcludes, -, rfl⟩ := h
    exact ⟨_, .told hconcludes _ _, rfl⟩
  | clearing ending | releasing ending | ended ending => exact Story.Whole.shows h

namespace World

variable {world world' : World L} {step : Move L}

/-! ## The state -/

/-- The change that a run has shown as its end. -/
def shown? (world : World L) (number : Nat) : Option StateChange :=
  (world.log.filterMap (Happening.ended? number)).getLast?

/-- The state that the run which began last has shown. -/
def latestState (world : World L) : RunState :=
  match world.begun.getLast? with
  | none => .notRunning
  | some number => ((world.shown? number).map StateChange.state).getD .running

theorem mem_story_iff {number : Nat} {note : Happening L} :
    note ∈ world.story number ↔ note ∈ world.log ∧ note.run? = some number := by
  simp [story]

theorem shown?_of_shows {number : Nat} {shown : Option StateChange}
    (h : Story.Shows number (world.story number) shown) : world.shown? number = shown := by
  have hmem : ∀ change, change ∈ world.log.filterMap (Happening.ended? number) ↔
      shown = some change := by
    intro change
    rw [List.mem_filterMap, ← h.concluded_mem_iff, mem_story_iff]
    simp [Happening.ended?_eq_some_iff, Happening.run?]
  cases hlast : world.shown? number with
  | none =>
    cases shown with
    | none => rfl
    | some change =>
      have := (hmem change).mpr rfl
      rw [List.getLast?_eq_none_iff.mp hlast] at this
      cases this
  | some change => exact ((hmem change).mp (List.mem_of_getLast? hlast)).symm

/-- Notes about neither a beginning nor an end leave the state that was shown. -/
theorem latestState_append {notes : List (Happening L)}
    (hbegan : notes.filterMap Happening.began? = [])
    (hended : ∀ number, notes.filterMap (Happening.ended? number) = [])
    (hlog : world'.log = world.log ++ notes) : world'.latestState = world.latestState := by
  simp [latestState, begun, shown?, hlog, hbegan, hended]

theorem latestState_step {number : Nat} {task : Task L} (here : world.tasks[number]? = some task)
    (hstate : world.engine.state = world.latestState) (horder : InOrder world)
    (htold : task.phase.Told number (world.story number)) (hspawned : task.Spawned)
    (loaded : Except RunError Script)
    (hlog : world'.log = world.log ++ task.stepNotes number world.engine) :
    (task.step loaded world.engine).1.state = world'.latestState := by
  obtain ⟨shown, hshows, hshowing⟩ := htold.shows
  have hholds := hspawned.holds
  obtain ⟨token, phase, holds⟩ := task
  cases phase with
  | installed =>
    have hnone := shown?_of_shows hshows
    obtain rfl : shown = none := hshowing
    have hbegun : world'.begun.getLast? = some number := by
      simp [begun, hlog, Task.stepNotes, Happening.began?]
    have hshown : world'.shown? number = none := by
      rw [← hnone]
      simp [shown?, hlog, Task.stepNotes, Happening.ended?]
    simp [latestState, hbegun, hshown, Task.step]
  | concluding change =>
    have hbegun : world'.begun.getLast? = some number := by
      rw [← horder.latest here hholds rfl]
      simp [begun, hlog, Task.stepNotes, Happening.began?]
    have hshown : world'.shown? number = some change := by
      simp [shown?, hlog, Task.stepNotes, Happening.ended?]
    simp [latestState, hbegun, hshown, Task.step]
  | loading =>
    rw [latestState_append rfl (fun _ => rfl) hlog, ← hstate]
    cases loaded <;> rfl
  | telling change waiting =>
    rw [latestState_append rfl (fun _ => rfl) hlog, ← hstate]
    cases waiting <;> rfl
  | _ =>
    rw [latestState_append rfl (fun _ => rfl) hlog, ← hstate]
    rfl

theorem Moved.state_eq (hmoved : Moved world step world')
    (hstate : world.engine.state = world.latestState) (horder : InOrder world)
    (htold : ∀ number, (world.phase number).Told number (world.story number))
    (hspawned : ∀ task ∈ world.tasks, task.Spawned) :
    world'.engine.state = world'.latestState := by
  cases hmoved with
  | idle | begun | unspawned => exact hstate
  | @advanced number task loaded here =>
    exact latestState_step here hstate horder (phase_of_getElem? here ▸ htold number)
      (hspawned task (List.mem_of_getElem? here)) loaded Array.toList_appendList
  | @resumed number task reply here =>
    have hended : ∀ other,
        (task.replyNotes number reply).filterMap (Happening.ended? other) = [] := by
      intro other
      unfold Task.replyNotes
      split <;> rfl
    exact hstate.trans (Eq.symm
      (latestState_append (task.began_resume number reply).1 hended Array.toList_appendList))
  | @cancelled step token cause => exact (recorded_cancel world.engine token).state.trans hstate
  | subscribed listener =>
    have hbegan : [(.subscribed listener : Happening L)].filterMap Happening.began? = [] := rfl
    exact hstate.trans (Eq.symm (latestState_append hbegan (fun _ => rfl) Array.toList_push))

/-- After every history the state is the one that the run which began last has shown. -/
theorem state_after {moves : List (Move L)} (h : Spawning moves) :
    (after moves).engine.state = (after moves).latestState := by
  induction moves using List.reverseRecOn with
  | nil => rfl
  | append_singleton moves last ih =>
    rw [after_concat]
    exact ((after moves).moved_move last).state_eq (ih h.left) (inOrder_after moves)
      (told_after moves) (spawned_after h.left)

/-- What can be said of the state at any moment, given the runs that have begun. -/
structure StateTold (world : World L) (begun : List Nat) : Prop where
  /-- Before any run has begun, and only then, the state says so. -/
  notRunning : world.engine.state = .notRunning ↔ begun = []
  /-- From its beginning until it ends, the run that began last is said to be running. -/
  unfinished : ∀ number, begun.getLast? = some number →
    (∀ change, .concluded number change ∉ world.log) → world.engine.state = .running
  /-- Once it has ended, the state is that of its change, until another run begins. -/
  finished : ∀ number change, begun.getLast? = some number →
    .concluded number change ∈ world.log → world.engine.state = change.state
  /-- That holds also if a listener has panicked. -/
  listenerPanicked : ∀ number listener change panic, begun.getLast? = some number →
    .heard number listener change (.panicked panic) ∈ world.log →
    world.engine.state = change.state
  /-- If a command has panicked, the run is said to be running for good. -/
  commandPanicked : ∀ number command panic, begun.getLast? = some number →
    .answered number command (.panicked panic) ∈ world.log → world.engine.state = .running
  /-- While a listener is called, the state is the one it is told and the engine is running. -/
  hearing : ∀ number change listener waiting,
    world.phase number = .hearing change listener waiting →
    begun.getLast? = some number ∧ world.engine.state = change.state ∧
      world.engine.running = true
  /-- The engine is running exactly while the last run is live. -/
  running : world.engine.running = true ↔
    ∃ task, world.tasks.getLast? = some task ∧ task.isOver = false
  /-- Every change that is told is one that a run can end with. -/
  told : ∀ note ∈ world.log, ∀ change, note.change? = some change → change.IsFinal
  /-- The change that a run gives back is the one it has shown. -/
  returned : ∀ number change, world.ending? number = some (.changed change) →
    .concluded number change ∈ world.log ∧ change.IsFinal

theorem running_iff {moves : List (Move L)} (h : Spawning moves) :
    (after moves).engine.running = true ↔
      ∃ task, (after moves).tasks.getLast? = some task ∧ task.isOver = false := by
  have hholds : ∀ task ∈ (after moves).tasks, task.holds = true ↔ task.isOver = false := by
    intro task hmem
    rw [(spawned_after h task hmem).holds]
    cases task.isOver <;> decide
  rw [(exclusive_after moves).running]
  constructor
  · rintro ⟨task, hmem, live⟩
    obtain ⟨number, here⟩ := List.mem_iff_getElem?.mp hmem
    have hlt := (List.getElem?_eq_some_iff.mp here).1
    have hlast : number = (after moves).tasks.length - 1 := by
      by_contra hne
      rw [(inOrder_after moves).earlier number task here (by omega)] at live
      cases live
    refine ⟨task, ?_, (hholds task hmem).mp live⟩
    rw [List.getLast?_eq_getElem?, ← hlast, here]
  · rintro ⟨task, hlast, live⟩
    have hmem := List.mem_of_getLast? hlast
    exact ⟨task, hmem, (hholds task hmem).mpr live⟩

/-- The story of the run that began last tells the state. -/
theorem exists_shows_after {moves : List (Move L)} (h : Spawning moves) (number : Nat) :
    ∃ shown, Story.Shows number ((after moves).story number) shown ∧
      ((after moves).phase number).Showing shown ∧
      ((after moves).begun.getLast? = some number →
        (after moves).engine.state = (shown.map StateChange.state).getD .running) := by
  obtain ⟨shown, hshows, hshowing⟩ := (told_after moves number).shows
  refine ⟨shown, hshows, hshowing, fun hlatest => ?_⟩
  rw [state_after h, latestState, hlatest]
  dsimp only
  rw [shown?_of_shows hshows]

theorem state_eq_notRunning_iff {moves : List (Move L)} (h : Spawning moves) :
    (after moves).engine.state = .notRunning ↔ (after moves).begun = [] := by
  cases hlatest : (after moves).begun.getLast? with
  | none =>
    rw [state_after h, latestState, hlatest]
    exact iff_of_true rfl (List.getLast?_eq_none_iff.mp hlatest)
  | some number =>
    obtain ⟨shown, hshows, -, hstate⟩ := exists_shows_after h number
    refine iff_of_false ?_ ?_
    · rw [hstate hlatest]
      cases shown with
      | none => exact RunState.noConfusion
      | some change => exact (hshows.of_change? (hshows.concluded_mem_iff.mpr rfl) rfl).2.state_ne
    · intro hnil
      simp [hnil] at hlatest

theorem stateTold_after {moves : List (Move L)} (h : Spawning moves) :
    (after moves).StateTold (after moves).begun where
  notRunning := state_eq_notRunning_iff h
  unfinished number hlatest hnone := by
    obtain ⟨shown, hshows, -, hstate⟩ := exists_shows_after h number
    cases shown with
    | none => exact hstate hlatest
    | some change =>
      have hmem := hshows.concluded_mem_iff.mpr rfl
      exact absurd (mem_story_iff.mp hmem).1 (hnone change)
  finished number change hlatest hmem := by
    obtain ⟨shown, hshows, -, hstate⟩ := exists_shows_after h number
    obtain rfl := hshows.concluded_mem_iff.mp (mem_story_iff.mpr ⟨hmem, rfl⟩)
    exact hstate hlatest
  listenerPanicked number listener change panic hlatest hmem := by
    obtain ⟨shown, hshows, -, hstate⟩ := exists_shows_after h number
    obtain ⟨rfl, -⟩ := hshows.of_change? (mem_story_iff.mpr ⟨hmem, rfl⟩) rfl
    exact hstate hlatest
  commandPanicked number command panic hlatest hmem := by
    obtain ⟨shown, hshows, -, hstate⟩ := exists_shows_after h number
    obtain rfl := hshows.of_panic (mem_story_iff.mpr ⟨hmem, rfl⟩)
    exact hstate hlatest
  hearing number change listener waiting hphase := by
    obtain ⟨shown, -, hshowing, hstate⟩ := exists_shows_after h number
    rw [hphase] at hshowing
    obtain rfl : shown = some change := hshowing
    obtain ⟨task, here, htask⟩ := exists_of_phase hphase (by simp)
    have hholds : task.holds = true := by
      rw [(spawned_after h task (List.mem_of_getElem? here)).holds]
      simp [Task.isOver, Task.ending?, htask]
    have hlatest := (inOrder_after moves).latest here hholds (by rw [htask]; rfl)
    exact ⟨hlatest, hstate hlatest, ((occupancy_after moves).of_holds here hholds).2.1⟩
  running := running_iff h
  told note hmem change hchange := by
    obtain ⟨number, hrun⟩ := Happening.run?_of_change? hchange
    obtain ⟨shown, hshows, -⟩ := exists_shows_after h number
    exact (hshows.of_change? (mem_story_iff.mpr ⟨hmem, hrun⟩) hchange).2
  returned number change hending := by
    obtain ⟨shown, hshows, hshowing, -⟩ := exists_shows_after h number
    rw [ending?_eq_some_iff.mp hending] at hshowing
    obtain rfl : shown = some change := hshowing change rfl
    have hmem := hshows.concluded_mem_iff.mpr rfl
    exact ⟨(mem_story_iff.mp hmem).1, (hshows.of_change? hmem rfl).2⟩

theorem stateTold_afterLeaps {moves : List (Move L)} (h : Spawning moves) :
    (afterLeaps moves).StateTold (List.range (afterLeaps moves).tasks.length) := by
  have hsettled := settled_afterLeaps moves
  obtain ⟨more, hspawning, hmore⟩ := exists_after_eq_afterLeaps h
  rw [hmore] at hsettled ⊢
  rw [← begun_of_settled hsettled (inOrder_after more)]
  exact stateTold_after hspawning

end World

end MacroScript
