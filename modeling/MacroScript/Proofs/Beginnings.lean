import MacroScript.Proofs.Stories

/-! # Runs begin in order

A run can acquire the engine only when all runs before it have given it back, so runs show that they
have begun in the order of their numbers, and only the last run can be in the middle of its
beginning. If clients cannot move there, no run is ever found in the middle, and every run has
begun. -/

namespace MacroScript

variable {L : Type}

/-- The run that has begun. -/
def Happening.began? : Happening L → Option Nat
  | began run => some run
  | _ => none

/-- The run has shown that it has begun. -/
def Phase.hasBegun : Phase L → Bool
  | .acquired => false
  | .installed => false
  | _ => true

namespace Task

theorem Proper.hasBegun {task : Task L} (h : task.Proper) (hholds : task.holds = false) :
    task.phase.hasBegun = true := by
  have hlate := h.late hholds
  cases hphase : task.phase with
  | acquired | installed =>
    rw [hphase] at hlate
    cases hlate
  | _ => rfl

/-- A step writes down that the run has begun exactly when it makes it begin. -/
theorem began_step (number : Nat) (loaded : Except RunError Script) (engine : Engine L)
    (task : Task L) :
    ((task.stepNotes number engine).filterMap Happening.began? = [] ∧
      (task.step loaded engine).2.phase.hasBegun = task.phase.hasBegun) ∨
    ((task.stepNotes number engine).filterMap Happening.began? = [number] ∧
      task.phase.hasBegun = false ∧ (task.step loaded engine).2.phase.hasBegun = true) := by
  obtain ⟨token, phase, holds⟩ := task
  cases phase with
  | installed => exact .inr ⟨rfl, rfl, rfl⟩
  | loading => cases loaded <;> exact .inl ⟨rfl, rfl⟩
  | line run =>
    refine .inl ⟨rfl, ?_⟩
    simp only [step]
    obtain ⟨next, hphase⟩ | ⟨left, command, hphase⟩ | ⟨outcome, hphase⟩ :=
      afterLine_cases (engine.isCancelled token) run
    all_goals rw [hphase]; rfl
  | telling change waiting =>
    cases waiting with
    | nil => cases holds <;> exact .inl ⟨rfl, rfl⟩
    | cons => exact .inl ⟨rfl, rfl⟩
  | _ => exact .inl ⟨rfl, rfl⟩

theorem began_resume (number : Nat) (reply : Reply) (task : Task L) :
    (task.replyNotes number reply).filterMap Happening.began? = [] ∧
      (task.resume reply).phase.hasBegun = task.phase.hasBegun := by
  obtain ⟨token, phase, holds⟩ := task
  cases phase with
  | calling run command => cases reply <;> cases holds <;> exact ⟨rfl, rfl⟩
  | hearing change listener waiting => cases reply <;> cases holds <;> exact ⟨rfl, rfl⟩
  | _ => exact ⟨rfl, rfl⟩

theorem began_abandon (cause : String) (task : Task L) :
    (task.abandon cause).phase.hasBegun = task.phase.hasBegun := by
  obtain ⟨token, phase, holds⟩ := task
  cases phase <;> rfl

end Task

namespace World

/-- The runs that have begun, in the order in which they have shown it. -/
def begun (world : World L) : List Nat := world.log.filterMap Happening.began?

/-- The runs begin one after the other: all but the last have given the engine back, and those that
have begun are the first ones. -/
structure InOrder (world : World L) : Prop where
  earlier : ∀ number task, world.tasks[number]? = some task →
    number + 1 < world.tasks.length → task.holds = false
  begun : ∃ count ≤ world.tasks.length, world.begun = List.range count ∧
    ∀ number task, world.tasks[number]? = some task →
      (task.phase.hasBegun = true ↔ number < count)

variable {world world' : World L} {step : Move L}

/-- Only the next run can be one that has not begun: a run before it would have given the engine
back. -/
theorem InOrder.eq_count (h : InOrder world) (hproper : ∀ task ∈ world.tasks, task.Proper)
    {count number : Nat} {task : Task L}
    (hiff : ∀ number task, world.tasks[number]? = some task →
      (task.phase.hasBegun = true ↔ number < count))
    (here : world.tasks[number]? = some task) (hnot : task.phase.hasBegun = false) :
    number = count := by
  have hlt := (List.getElem?_eq_some_iff.mp here).1
  have hge : ¬ number < count := by simp [← hiff number task here, hnot]
  rcases Nat.lt_or_eq_of_le (Nat.le_of_not_lt hge) with hbetween | heq
  · have hskipped := List.getElem?_eq_getElem (Nat.lt_trans hbetween hlt)
    have hgone := h.earlier count _ hskipped (by omega)
    have := (hiff count _ hskipped).mp
      ((hproper _ (List.mem_of_getElem? hskipped)).hasBegun hgone)
    omega
  · exact heq.symm

/-- The run that holds the engine moves on; if this makes it begin, it is the next to do so. -/
theorem InOrder.set (h : InOrder world) (hproper : ∀ task ∈ world.tasks, task.Proper)
    {number : Nat} {task task' : Task L} (here : world.tasks[number]? = some task)
    (hholds : task.holds = false → task'.holds = false) {notes : List (Happening L)}
    (hbegan : (notes.filterMap Happening.began? = [] ∧
        task'.phase.hasBegun = task.phase.hasBegun) ∨
      (notes.filterMap Happening.began? = [number] ∧ task.phase.hasBegun = false ∧
        task'.phase.hasBegun = true)) (engine : Engine L) :
    InOrder { engine, tasks := world.tasks.set number task', notes := world.notes ++ notes } := by
  have hlt := (List.getElem?_eq_some_iff.mp here).1
  have hget := getElem?_set_of_lt hlt task'
  refine ⟨?_, ?_⟩
  · intro other found hfound hbefore
    dsimp only at hfound hbefore
    rw [List.length_set] at hbefore
    rw [hget] at hfound
    split at hfound
    · rename_i heq
      subst heq
      cases hfound
      exact hholds (h.earlier number task here hbefore)
    · exact h.earlier other found hfound hbefore
  · obtain ⟨count, hcount, hbegun, hiff⟩ := h.begun
    obtain ⟨hnotes, hsame⟩ | ⟨hnotes, hnot, hbegins⟩ := hbegan
    · refine ⟨count, by simpa using hcount, ?_, fun other found hfound => ?_⟩
      · rw [World.begun, log, Array.toList_appendList, List.filterMap_append, hnotes,
          List.append_nil]
        exact hbegun
      · rw [hget] at hfound
        split at hfound
        · rename_i heq
          subst heq
          cases hfound
          rw [hsame]
          exact hiff number task here
        · exact hiff other found hfound
    · obtain rfl := h.eq_count hproper hiff here hnot
      refine ⟨number + 1, by simp only [List.length_set]; omega, ?_, fun other found hfound => ?_⟩
      · rw [World.begun, log, Array.toList_appendList, List.filterMap_append, hnotes,
          List.range_succ]
        exact congrArg (· ++ [number]) hbegun
      · rw [hget] at hfound
        split at hfound
        · rename_i heq
          subst heq
          cases hfound
          simp [hbegins]
        · rename_i hne
          rw [hiff other found hfound]
          omega

theorem Moved.inOrder (hmoved : Moved world step world')
    (hproper : ∀ task ∈ world.tasks, task.Proper)
    (hoccupancy : Occupancy world.engine world.tasks) (h : InOrder world) : InOrder world' := by
  cases hmoved with
  | idle => exact h
  | cancelled cause => exact ⟨h.earlier, h.begun⟩
  | subscribed listener =>
    obtain ⟨count, hcount, hbegun, hiff⟩ := h.begun
    refine ⟨h.earlier, count, hcount, ?_, hiff⟩
    rw [World.begun, log, Array.toList_push, List.filterMap_append]
    exact (List.append_nil _).trans hbegun
  | @advanced number task loaded here =>
    refine h.set hproper here (fun hholds => ?_) (task.began_step number loaded world.engine) _
    have hlate := (hproper task (List.mem_of_getElem? here)).late hholds
    exact (task.step_of_late hlate hholds loaded world.engine).2.2
  | @resumed number task reply here =>
    refine h.set hproper here (fun hholds => ?_) (.inl (task.began_resume number reply)) _
    rw [task.holds_resume, hholds]
  | @unspawned number task cause here =>
    have hset : InOrder { world with
        tasks := world.tasks.set number (task.abandon cause), notes := world.notes ++ [] } :=
      h.set hproper here (fun hholds => (task.holds_abandon cause).trans hholds)
        (.inl ⟨rfl, task.began_abandon cause⟩) world.engine
    simpa using hset
  | begun token free =>
    cases hoccupancy with
    | held _ _ _ _ _ running _ =>
      rw [running] at free
      cases free
    | free none_holds _ _ =>
      -- all runs have given the engine back, so all have begun
      obtain ⟨count, hcount, hbegun, hiff⟩ := h.begun
      have hold : ∀ number task, world.tasks[number]? = some task → number < count := by
        intro number task here
        have hmem := List.mem_of_getElem? here
        exact (hiff number task here).mp ((hproper task hmem).hasBegun (none_holds task hmem))
      refine ⟨fun number task here hbefore => ?_, count, ?_, hbegun, fun number task here => ?_⟩
      · simp only [List.length_append, List.length_singleton] at hbefore
        rw [List.getElem?_append_left (by omega)] at here
        exact none_holds task (List.mem_of_getElem? here)
      · simp only [List.length_append, List.length_singleton]
        omega
      · rw [List.getElem?_append] at here
        split at here
        · exact hiff number task here
        · rename_i hge
          obtain rfl := List.mem_singleton.mp (List.mem_of_getElem? here)
          have : ¬ number < count := by omega
          simp [Phase.hasBegun, this]

theorem inOrder_after (moves : List (Move L)) : (after moves).InOrder := by
  induction moves using List.reverseRecOn with
  | nil => exact ⟨by simp [after], 0, Nat.zero_le _, rfl, by simp [after]⟩
  | append_singleton moves last ih =>
    rw [after_concat]
    exact ((after moves).moved_move last).inOrder (proper_after moves) (occupancy_after moves) ih

/-- A live run that has begun is the one that began last. -/
theorem InOrder.latest (h : InOrder world) {number : Nat} {task : Task L}
    (here : world.tasks[number]? = some task) (live : task.holds = true)
    (hbegun : task.phase.hasBegun = true) : world.begun.getLast? = some number := by
  obtain ⟨count, hcount, hrange, hiff⟩ := h.begun
  have hlt := (List.getElem?_eq_some_iff.mp here).1
  have hfirst := (hiff number task here).mp hbegun
  have hlast : ¬ number + 1 < world.tasks.length := by
    intro hbefore
    rw [h.earlier number task here hbefore] at live
    cases live
  obtain rfl : count = number + 1 := by omega
  rw [hrange, List.range_succ, List.getLast?_concat]

end World

/-! ## Beginning in one step -/

/-- The moves that make up the move of a client if nobody can move in the middle of a beginning: a
run that acquires the engine also shows its token and that it is running. A run that begins gets the
`number`. -/
def Move.wholly (number : Nat) : Move L → List (Move L)
  | .begin token => [.begin token, .advance number (.ok ⟨[]⟩), .advance number (.ok ⟨[]⟩)]
  | step => [step]

namespace World

variable {world world' : World L} {step : Move L}

/-- Carries out a move in which a run begins wholly or not at all. -/
def leap (world : World L) (step : Move L) : World L :=
  (step.wholly world.tasks.length).foldl move world

/-- The world after a history in which every run begins in one step. -/
def afterLeaps (moves : List (Move L)) : World L := moves.foldl leap {}

theorem afterLeaps_concat (moves : List (Move L)) (last : Move L) :
    afterLeaps (moves ++ [last]) = (afterLeaps moves).leap last :=
  List.foldl_append

theorem Move.spawns_of_wholly {step other : Move L} {number : Nat} (h : step.spawns = true)
    (hmem : other ∈ step.wholly number) : other.spawns = true := by
  cases step with
  | begin token =>
    simp only [Move.wholly, List.mem_cons, List.not_mem_nil, or_false] at hmem
    rcases hmem with rfl | rfl | rfl <;> rfl
  | _ =>
    rw [List.mem_singleton.mp hmem]
    exact h

theorem exists_after_eq_afterLeaps {moves : List (Move L)} (h : Spawning moves) :
    ∃ more, Spawning more ∧ afterLeaps moves = after more := by
  induction moves using List.reverseRecOn with
  | nil => exact ⟨[], h, rfl⟩
  | append_singleton moves last ih =>
    obtain ⟨more, hspawning, hmore⟩ := ih h.left
    refine ⟨more ++ last.wholly (afterLeaps moves).tasks.length,
      hspawning.append fun _ => Move.spawns_of_wholly h.last, ?_⟩
    rw [afterLeaps_concat, after_append, leap, hmore]

/-- No run is in the middle of its beginning. -/
def Settled (world : World L) : Prop := ∀ task ∈ world.tasks, task.phase.hasBegun = true

theorem Settled.move (h : world.Settled) (hstep : ∀ token, step ≠ .begin token) :
    (world.move step).Settled := by
  have hset : ∀ {number : Nat} {task' : Task L}, task'.phase.hasBegun = true →
      ∀ task ∈ world.tasks.set number task', task.phase.hasBegun = true := by
    intro number task' hbegun task hmem
    rcases List.mem_or_eq_of_mem_set hmem with hold | rfl
    · exact h task hold
    · exact hbegun
  have hmoved := world.moved_move step
  generalize world.move step = world' at hmoved
  cases hmoved with
  | idle | cancelled | subscribed => exact h
  | begun token free => exact absurd rfl (hstep token)
  | @advanced number task loaded here =>
    refine hset ?_
    obtain ⟨-, hsame⟩ | ⟨-, -, hbegins⟩ := task.began_step number loaded world.engine
    · rw [hsame]
      exact h task (List.mem_of_getElem? here)
    · exact hbegins
  | @resumed number task reply here =>
    refine hset ?_
    rw [(task.began_resume number reply).2]
    exact h task (List.mem_of_getElem? here)
  | @unspawned number task cause here =>
    refine hset ?_
    rw [task.began_abandon cause]
    exact h task (List.mem_of_getElem? here)

theorem Settled.leap (h : world.Settled) (step : Move L) : (world.leap step).Settled := by
  by_cases hbegin : ∃ token, step = .begin token
  · obtain ⟨token, rfl⟩ := hbegin
    cases hrunning : world.engine.running with
    | true =>
      have hrefused : world.leap (.begin token) = world := by
        simp [World.leap, Move.wholly, World.move, Engine.acquire?, hrunning]
      rw [hrefused]
      exact h
    | false =>
      have hbegun : (world.leap (.begin token)).tasks =
          world.tasks ++ [{ token := world.newToken token, phase := .loading }] := by
        simp [World.leap, Move.wholly, World.move, Engine.acquire?, hrunning, Task.step]
      intro task hmem
      rw [hbegun] at hmem
      rcases List.mem_append.mp hmem with hold | hnew
      · exact h task hold
      · rw [List.mem_singleton.mp hnew]
        rfl
  · have hother : ∀ token, step ≠ .begin token := fun token heq => hbegin ⟨token, heq⟩
    have hleap : world.leap step = world.move step := by
      cases step with
      | begin token => exact absurd rfl (hother token)
      | _ => rfl
    rw [hleap]
    exact h.move hother

theorem settled_afterLeaps (moves : List (Move L)) : (afterLeaps moves).Settled := by
  induction moves using List.reverseRecOn with
  | nil => exact fun _ hmem => by cases hmem
  | append_singleton moves last ih =>
    rw [afterLeaps_concat]
    exact ih.leap last

theorem begun_of_settled (h : world.Settled) (horder : InOrder world) :
    world.begun = List.range world.tasks.length := by
  obtain ⟨count, hcount, hbegun, hiff⟩ := horder.begun
  rcases Nat.lt_or_eq_of_le hcount with hlt | rfl
  · have here := List.getElem?_eq_getElem hlt
    have := (hiff count _ here).mp (h _ (List.mem_of_getElem? here))
    omega
  · exact hbegun

end World

end MacroScript
