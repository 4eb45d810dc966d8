import MacroScript.Proofs.Interleaving

/-! # One run at a time

The engine has three cells that a run writes one after the other, and clients may move between any
two of these writes. The cells agree all the same: the engine says that it is running exactly while
a run holds it, and the token that a stop request finds is the one that this run shows. A run shows
its token from its second step on and takes it away before it gives the engine back, so no token of
a run that is over is ever found.

A run holds the engine until it is over, unless it could not get its thread: then it gives the
engine back first, and in all that it still does it leaves these cells alone (`Task.Proper`). -/

namespace MacroScript

variable {L : Type}

/-! ## What one step of a run does to the cells -/

/-- The token that a stop request finds while the run holds the engine. -/
def Task.shown (task : Task L) : Option Token :=
  match task.phase with
  | .acquired => none
  | .releasing _ => none
  | .disowned _ => none
  | .ended _ => none
  | _ => some task.token

/-- From here on a run does not need the engine any more. -/
def Phase.isLate : Phase L → Bool
  | .concluding _ | .gathering _ | .telling .. | .hearing .. | .ended _ => true
  | _ => false

def Phase.lacksThread : Phase L → Bool
  | .abandoned _ | .disowned _ => true
  | _ => false

namespace Task

theorem step_token (loaded : Except RunError Script) (engine : Engine L) (task : Task L) :
    (task.step loaded engine).2.token = task.token := by
  unfold step
  split <;> try rfl
  split <;> rfl

theorem resume_token (reply : Reply) (task : Task L) : (task.resume reply).token = task.token := by
  unfold resume
  split <;> try rfl
  all_goals split <;> rfl

theorem abandon_token (cause : String) (task : Task L) :
    (task.abandon cause).token = task.token := by
  unfold abandon
  split <;> rfl

theorem step_cancelled (loaded : Except RunError Script) (engine : Engine L) (task : Task L) :
    (task.step loaded engine).1.cancelled = engine.cancelled := by
  unfold step
  split <;> try rfl
  split <;> rfl

/-- A line leads to the next line, to a command, or to an end with some outcome. -/
theorem afterLine_cases (cancelled : Bool) (run : Run) :
    (∃ next, (afterLine cancelled run : Phase L) = .line next) ∨
      (∃ left command, (afterLine cancelled run : Phase L) = .calling left command) ∨
      ∃ outcome : Outcome, (afterLine cancelled run : Phase L) = .concluding outcome.change := by
  unfold afterLine
  split
  · exact .inr (.inr ⟨.completed, rfl⟩)
  · split
    · exact .inr (.inr ⟨.stopped, rfl⟩)
    · split
      · rename_i error _ _
        exact .inr (.inr ⟨.failed error, rfl⟩)
      · exact .inr (.inr ⟨.completed, rfl⟩)
      · rename_i next _
        exact .inl ⟨next, rfl⟩
      · rename_i command left _
        exact .inr (.inl ⟨left, command, rfl⟩)

/-- A run that has given the engine back is late, and one that holds it is not over. -/
structure Proper (task : Task L) : Prop where
  late : task.holds = false → task.phase.isLate = true
  live : task.holds = true → task.isOver = false

theorem proper_leave (task : Task L) (ending : Ending) : (task.leave ending).Proper := by
  obtain ⟨token, phase, holds⟩ := task
  cases holds
  · exact ⟨fun _ => rfl, nofun⟩
  · exact ⟨nofun, fun _ => rfl⟩

theorem Proper.step {task : Task L} (h : task.Proper) (loaded : Except RunError Script)
    (engine : Engine L) : (task.step loaded engine).2.Proper := by
  obtain ⟨token, phase, holds⟩ := task
  have hholds : phase.isLate = false → holds = true := by
    intro hearly
    cases holds with
    | true => rfl
    | false => exact absurd (h.late rfl) (by simp [hearly])
  cases phase with
  | concluding | gathering => exact ⟨fun _ => rfl, fun _ => rfl⟩
  | releasing ending => exact ⟨fun _ => rfl, nofun⟩
  | disowned cause => exact ⟨fun _ => rfl, nofun⟩
  | telling change waiting =>
    cases waiting with
    | nil => exact proper_leave _ _
    | cons listener waiting => exact ⟨fun _ => rfl, fun _ => rfl⟩
  | calling | hearing | ended => exact h
  | loading =>
    obtain rfl := hholds rfl
    cases loaded <;> exact ⟨nofun, fun _ => rfl⟩
  | line run =>
    obtain rfl := hholds rfl
    refine ⟨nofun, fun _ => ?_⟩
    simp only [Task.step]
    obtain ⟨next, hphase⟩ | ⟨left, command, hphase⟩ | ⟨outcome, hphase⟩ :=
      afterLine_cases (engine.isCancelled token) run
    all_goals rw [hphase]; rfl
  | acquired | installed | clearing | abandoned =>
    obtain rfl := hholds rfl
    exact ⟨nofun, fun _ => rfl⟩

theorem Proper.resume {task : Task L} (h : task.Proper) (reply : Reply) :
    (task.resume reply).Proper := by
  obtain ⟨token, phase, holds⟩ := task
  cases phase with
  | calling run command =>
    cases reply with
    | panicked panic => exact proper_leave _ _
    | accepted =>
      refine ⟨fun hfalse => ?_, fun _ => rfl⟩
      exact absurd (h.late hfalse) (by simp [Phase.isLate])
    | rejected cause => exact ⟨fun _ => rfl, fun _ => rfl⟩
  | hearing change listener waiting =>
    cases reply with
    | panicked panic => exact proper_leave _ _
    | accepted | rejected => exact ⟨fun _ => rfl, fun _ => rfl⟩
  | _ => exact h

theorem Proper.abandon {task : Task L} (h : task.Proper) (cause : String) :
    (task.abandon cause).Proper := by
  obtain ⟨token, phase, holds⟩ := task
  cases phase with
  | loading =>
    refine ⟨fun hfalse => ?_, fun _ => rfl⟩
    exact absurd (h.late hfalse) (by simp [Phase.isLate])
  | _ => exact h

/-- A run with a thread holds the engine until it is over. -/
structure Spawned (task : Task L) : Prop where
  thread : task.phase.lacksThread = false
  holds : task.holds = !task.isOver

theorem Spawned.leave {task : Task L} (h : task.holds = true) (ending : Ending) :
    (task.leave ending).Spawned := by
  obtain ⟨token, phase, holds⟩ := task
  obtain rfl : holds = true := h
  exact ⟨rfl, rfl⟩

theorem Spawned.step {task : Task L} (h : task.Spawned) (loaded : Except RunError Script)
    (engine : Engine L) : (task.step loaded engine).2.Spawned := by
  have hholds := h.holds
  obtain ⟨token, phase, holds⟩ := task
  cases phase with
  | abandoned | disowned => cases h.thread
  | calling | hearing | ended => exact h
  | releasing => exact ⟨rfl, rfl⟩
  | loading => cases loaded <;> exact ⟨rfl, hholds⟩
  | telling change waiting =>
    cases waiting with
    | nil => exact Spawned.leave hholds _
    | cons => exact ⟨rfl, hholds⟩
  | line run =>
    simp only [Task.step]
    obtain ⟨next, hphase⟩ | ⟨left, command, hphase⟩ | ⟨outcome, hphase⟩ :=
      afterLine_cases (engine.isCancelled token) run
    all_goals rw [hphase]; exact ⟨rfl, hholds⟩
  | acquired | installed | concluding | gathering | clearing => exact ⟨rfl, hholds⟩

theorem Spawned.resume {task : Task L} (h : task.Spawned) (reply : Reply) :
    (task.resume reply).Spawned := by
  have hholds := h.holds
  obtain ⟨token, phase, holds⟩ := task
  cases phase with
  | calling run command =>
    cases reply with
    | panicked panic => exact Spawned.leave hholds _
    | accepted | rejected => exact ⟨rfl, hholds⟩
  | hearing change listener waiting =>
    cases reply with
    | panicked panic => exact Spawned.leave hholds _
    | accepted | rejected => exact ⟨rfl, hholds⟩
  | _ => exact h

/-- A run that has given the engine back leaves its cells alone. -/
theorem step_of_late {task : Task L} (hlate : task.phase.isLate = true)
    (hholds : task.holds = false) (loaded : Except RunError Script) (engine : Engine L) :
    (task.step loaded engine).1.running = engine.running ∧
      (task.step loaded engine).1.current = engine.current ∧
      (task.step loaded engine).2.holds = false := by
  obtain ⟨token, phase, holds⟩ := task
  cases phase with
  | concluding | gathering | hearing | ended => exact ⟨rfl, rfl, hholds⟩
  | telling change waiting => cases waiting <;> exact ⟨rfl, rfl, hholds⟩
  | _ => cases hlate

theorem holds_resume (reply : Reply) (task : Task L) : (task.resume reply).holds = task.holds := by
  unfold resume
  split <;> try rfl
  all_goals split <;> rfl

theorem holds_abandon (cause : String) (task : Task L) :
    (task.abandon cause).holds = task.holds := by
  unfold abandon
  split <;> rfl

/-- The cells follow the run that holds the engine through each of its steps. -/
theorem step_cells (loaded : Except RunError Script) {engine : Engine L} {task : Task L}
    (hholds : task.holds = true) (hlive : task.isOver = false) (hrunning : engine.running = true)
    (hcurrent : engine.current = task.shown) :
    let next := task.step loaded engine
    next.1.running = next.2.holds ∧
      next.1.current = if next.2.holds then next.2.shown else none := by
  obtain ⟨token, phase, holds⟩ := task
  obtain rfl : holds = true := hholds
  cases phase with
  | acquired | clearing | abandoned => simp [step, shown, hrunning]
  | installed | concluding | gathering | calling | hearing =>
    simpa [step, shown, hrunning] using hcurrent
  | releasing ending => simpa [step, shown] using hcurrent
  | disowned cause => simpa [step, shown] using hcurrent
  | loading => cases loaded <;> simpa [step, shown, hrunning] using hcurrent
  | telling change waiting => cases waiting <;> simpa [step, shown, leave, hrunning] using hcurrent
  | line run =>
    simp only [step]
    obtain ⟨next, hphase⟩ | ⟨left, command, hphase⟩ | ⟨outcome, hphase⟩ :=
      afterLine_cases (engine.isCancelled token) run
    all_goals rw [hphase]; exact ⟨hrunning, hcurrent⟩
  | ended ending => simp [isOver, ending?] at hlive

theorem shown_resume (reply : Reply) {task : Task L} (hholds : task.holds = true) :
    (task.resume reply).shown = task.shown := by
  obtain ⟨token, phase, holds⟩ := task
  obtain rfl : holds = true := hholds
  cases phase with
  | calling run command => cases reply <;> rfl
  | hearing change listener waiting => cases reply <;> rfl
  | _ => rfl

theorem shown_abandon (cause : String) (task : Task L) :
    (task.abandon cause).shown = task.shown := by
  obtain ⟨token, phase, holds⟩ := task
  cases phase <;> rfl

end Task

/-! ## Who holds the engine -/

/-- The cells and the runs agree: nobody holds the engine and no token is found, or one run holds it
and the token found is the one it shows. -/
inductive Occupancy (engine : Engine L) (tasks : List (Task L)) : Prop where
  | free (none_holds : ∀ task ∈ tasks, task.holds = false) (running : engine.running = false)
      (current : engine.current = none)
  | held (number : Nat) (task : Task L) (here : tasks[number]? = some task)
      (holds : task.holds = true)
      (others : ∀ other task', tasks[other]? = some task' → task'.holds = true → other = number)
      (running : engine.running = true) (current : engine.current = task.shown)

namespace Occupancy

variable {engine engine' : Engine L} {tasks : List (Task L)}

theorem congr (h : Occupancy engine tasks) (hrunning : engine'.running = engine.running)
    (hcurrent : engine'.current = engine.current) : Occupancy engine' tasks := by
  cases h with
  | free none_holds running current =>
    exact .free none_holds (hrunning ▸ running) (hcurrent ▸ current)
  | held number task here holds others running current =>
    exact .held number task here holds others (hrunning ▸ running) (hcurrent ▸ current)

theorem of_holds (h : Occupancy engine tasks) {number : Nat} {task : Task L}
    (here : tasks[number]? = some task) (holds : task.holds = true) :
    (∀ other task', tasks[other]? = some task' → task'.holds = true → other = number) ∧
      engine.running = true ∧ engine.current = task.shown := by
  cases h with
  | free none_holds _ _ => simp [none_holds task (List.mem_of_getElem? here)] at holds
  | held number' task' here' _ others running current =>
    obtain rfl := others number task here holds
    obtain rfl : task = task' := Option.some.inj (here.symm.trans here')
    exact ⟨others, running, current⟩

/-- The run that holds the engine moves on, and the cells follow it. -/
theorem set {number : Nat} {task : Task L}
    (others : ∀ other task', tasks[other]? = some task' → task'.holds = true → other = number)
    (hlt : number < tasks.length) (running : engine.running = task.holds)
    (current : engine.current = if task.holds then task.shown else none) :
    Occupancy engine (tasks.set number task) := by
  have hget := getElem?_set_of_lt hlt task
  cases hholds : task.holds with
  | false =>
    refine .free (fun other hmem => ?_) (by rw [running, hholds]) (by rw [current, hholds]; rfl)
    obtain ⟨index, hindex⟩ := List.mem_iff_getElem?.mp hmem
    rw [hget] at hindex
    split at hindex
    · rw [← Option.some.inj hindex, hholds]
    · rename_i hne
      by_contra hlive
      exact hne (others index other hindex (by simpa using hlive)).symm
  | true =>
    refine .held number task (by rw [hget, if_pos rfl]) hholds (fun other task' hother hlive => ?_)
      (by rw [running, hholds]) (by rw [current, hholds]; rfl)
    rw [hget] at hother
    split at hother
    · rename_i heq
      exact heq.symm
    · exact others other task' hother hlive

/-- A run that does not hold the engine moves on. -/
theorem set_of_not_holds (h : Occupancy engine tasks) {number : Nat} {task task' : Task L}
    (here : tasks[number]? = some task) (hholds : task.holds = false)
    (hholds' : task'.holds = false) : Occupancy engine (tasks.set number task') := by
  have hlt := (List.getElem?_eq_some_iff.mp here).1
  have hget := getElem?_set_of_lt hlt task'
  cases h with
  | free none_holds running current =>
    refine .free (fun other hmem => ?_) running current
    rcases List.mem_or_eq_of_mem_set hmem with hold | rfl
    · exact none_holds other hold
    · exact hholds'
  | held holder task₀ here₀ holds₀ others running current =>
    have hne : number ≠ holder := by
      rintro rfl
      rw [Option.some.inj (here.symm.trans here₀), holds₀] at hholds
      cases hholds
    refine .held holder task₀ (by rw [hget, if_neg hne, here₀]) holds₀ (fun other found hfound
      hlive => ?_) running current
    rw [hget] at hfound
    split at hfound
    · rw [← Option.some.inj hfound, hholds'] at hlive
      cases hlive
    · exact others other found hfound hlive

end Occupancy

namespace Engine

theorem cancel_cells (engine : Engine L) (token : Token) :
    (engine.cancel token).running = engine.running ∧
      (engine.cancel token).current = engine.current := by
  unfold cancel
  split <;> exact ⟨rfl, rfl⟩

theorem isCancelled_cancel (engine : Engine L) (token other : Token) :
    (engine.cancel token).isCancelled other = true ↔
      engine.isCancelled other = true ∨ other = token := by
  unfold cancel
  split
  · rename_i h
    refine ⟨.inl, ?_⟩
    rintro (hother | rfl)
    · exact hother
    · exact h
  · simp [isCancelled, or_comm]

end Engine

namespace World

variable {world world' : World L} {step : Move L}

/-- What every step of a run keeps of it, all runs of a history have. -/
theorem Moved.tasks_keep {Kept : Task L → Prop} (hnew : ∀ token, Kept { token })
    (hstep : ∀ task loaded engine, Kept task → Kept (task.step loaded engine).2)
    (hresume : ∀ task reply, Kept task → Kept (task.resume reply))
    (habandon : ∀ task cause, step = .unspawned task cause → ∀ task, Kept task →
      Kept (task.abandon cause))
    (hmoved : Moved world step world') (h : ∀ task ∈ world.tasks, Kept task) :
    ∀ task ∈ world'.tasks, Kept task := by
  have hset : ∀ {number : Nat} {task' : Task L}, Kept task' →
      ∀ task ∈ world.tasks.set number task', Kept task := by
    intro number task' hkept task hmem
    rcases List.mem_or_eq_of_mem_set hmem with hold | rfl
    · exact h task hold
    · exact hkept
  cases hmoved with
  | idle | cancelled | subscribed => exact h
  | begun token free =>
    intro task hmem
    rcases List.mem_append.mp hmem with hold | hmem
    · exact h task hold
    · rw [List.mem_singleton.mp hmem]
      exact hnew _
  | advanced loaded here => exact hset (hstep _ loaded _ (h _ (List.mem_of_getElem? here)))
  | resumed reply here => exact hset (hresume _ reply (h _ (List.mem_of_getElem? here)))
  | unspawned cause here => exact hset (habandon _ cause rfl _ (h _ (List.mem_of_getElem? here)))

theorem proper_after (moves : List (Move L)) : ∀ task ∈ (after moves).tasks, task.Proper :=
  after_induction (motive := fun world => ∀ task ∈ world.tasks, task.Proper) (by simp)
    (fun hmoved => hmoved.tasks_keep
      (fun _ => ⟨nofun, fun _ => rfl⟩)
      (fun _ loaded engine h => h.step loaded engine) (fun _ reply h => h.resume reply)
      fun _ cause _ _ h => h.abandon cause) moves

theorem spawned_after {moves : List (Move L)} (h : Spawning moves) :
    ∀ task ∈ (after moves).tasks, task.Spawned := by
  induction moves using List.reverseRecOn with
  | nil => exact fun _ hmem => by cases hmem
  | append_singleton moves last ih =>
    rw [after_concat]
    refine ((after moves).moved_move last).tasks_keep (fun _ => ⟨rfl, rfl⟩)
      (fun _ loaded engine h => h.step loaded engine) (fun _ reply h => h.resume reply)
      (fun number cause heq => ?_) (ih h.left)
    have := h.last
    rw [heq] at this
    cases this

theorem Moved.occupancy (hmoved : Moved world step world')
    (hproper : ∀ task ∈ world.tasks, task.Proper)
    (h : Occupancy world.engine world.tasks) : Occupancy world'.engine world'.tasks := by
  cases hmoved with
  | idle => exact h
  | begun token free =>
    cases h with
    | held _ _ _ _ _ running _ =>
      rw [running] at free
      cases free
    | free none_holds _ current =>
      refine .held world.tasks.length { token := world.newToken token } (by simp) rfl
        (fun other task' hother hlive => ?_) rfl current
      rw [List.getElem?_append] at hother
      split at hother
      · simp [none_holds task' (List.mem_of_getElem? hother)] at hlive
      · rename_i hge
        have := (List.getElem?_eq_some_iff.mp hother).1
        simp only [List.length_singleton] at this
        omega
  | @advanced number task loaded here =>
    have hlt := (List.getElem?_eq_some_iff.mp here).1
    have htask := hproper task (List.mem_of_getElem? here)
    cases hholds : task.holds with
    | false =>
      obtain ⟨running, current, holds⟩ :=
        task.step_of_late (htask.late hholds) hholds loaded world.engine
      exact (h.set_of_not_holds here hholds holds).congr running current
    | true =>
      obtain ⟨others, running, current⟩ := h.of_holds here hholds
      obtain ⟨running', current'⟩ :=
        task.step_cells loaded hholds (htask.live hholds) running current
      exact .set others hlt running' current'
  | @resumed number task reply here =>
    have hlt := (List.getElem?_eq_some_iff.mp here).1
    have hsame := task.holds_resume reply
    cases hholds : task.holds with
    | false => exact h.set_of_not_holds here hholds (hsame.trans hholds)
    | true =>
      obtain ⟨others, running, current⟩ := h.of_holds here hholds
      rw [hholds] at hsame
      exact .set others hlt (by rw [running, hsame])
        (by rw [current, hsame, task.shown_resume reply hholds]; rfl)
  | @unspawned number task cause here =>
    have hlt := (List.getElem?_eq_some_iff.mp here).1
    have hsame := task.holds_abandon cause
    cases hholds : task.holds with
    | false => exact h.set_of_not_holds here hholds (hsame.trans hholds)
    | true =>
      obtain ⟨others, running, current⟩ := h.of_holds here hholds
      rw [hholds] at hsame
      exact .set others hlt (by rw [running, hsame])
        (by rw [current, hsame, task.shown_abandon cause]; rfl)
  | cancelled cause => exact h.congr (world.engine.cancel_cells _).1 (world.engine.cancel_cells _).2
  | subscribed listener => exact h.congr rfl rfl

/-- The cells and the runs agree after every history. -/
theorem occupancy_after (moves : List (Move L)) :
    Occupancy (after moves).engine (after moves).tasks := by
  induction moves using List.reverseRecOn with
  | nil => exact .free (by simp [after]) rfl rfl
  | append_singleton moves last ih =>
    rw [after_concat]
    exact ((after moves).moved_move last).occupancy (proper_after moves) ih

/-! ## Whose token is cancelled -/

/-- A run keeps its token, and a new run comes with a token that is named or numbered after it. -/
theorem Moved.map_token (hmoved : Moved world step world') :
    world'.tasks.map Task.token = world.tasks.map Task.token ∨
      ∃ token, world'.tasks.map Task.token =
        world.tasks.map Task.token ++ [world.newToken token] := by
  cases hmoved with
  | begun token free => exact .inr ⟨token, by simp⟩
  | @advanced number task loaded here =>
    left
    rw [List.map_set, task.step_token, set_of_getElem? (by simp [here])]
  | @resumed number task reply here =>
    left
    rw [List.map_set, task.resume_token, set_of_getElem? (by simp [here])]
  | @unspawned number task cause here =>
    left
    rw [List.map_set, task.abandon_token, set_of_getElem? (by simp [here])]
  | idle | cancelled | subscribed => exact .inl rfl

/-- A token that a run did not get from its client is the token of no other run. -/
theorem number_of_own_token (moves : List (Move L)) {number own : Nat} {task : Task L}
    (htask : (after moves).tasks[number]? = some task) (htoken : task.token = .ofRun own) :
    own = number := by
  have hall : ∀ i k : Nat,
      ((after moves).tasks.map Task.token)[i]? = some (.ofRun k) → k = i := by
    refine after_induction (motive := fun world => ∀ i k : Nat,
      (world.tasks.map Task.token)[i]? = some (.ofRun k) → k = i) (by simp) ?_ moves
    intro world step world' hmoved ih i k hi
    obtain hsame | ⟨token, hnew⟩ := hmoved.map_token
    · exact ih i k (hsame ▸ hi)
    · rw [hnew, List.getElem?_append] at hi
      split at hi
      · exact ih i k hi
      · rename_i hge
        have hlast := (List.getElem?_eq_some_iff.mp hi).1
        simp only [List.length_singleton, List.length_map] at hlast hge
        obtain rfl : i = world.tasks.length := by omega
        cases token with
        | some name => simp [newToken] at hi
        | none => simpa [newToken, eq_comm] using hi
  exact hall number own (by simp [htask, htoken])

/-- A token that a move finds cancelled afterwards was so before, or the move has cancelled it. -/
theorem Moved.cancels (hmoved : Moved world step world') {token : Token}
    (h : world'.engine.isCancelled token = true) :
    world.engine.isCancelled token = true ∨ world.Cancels step token := by
  cases hmoved with
  | @advanced number task loaded here =>
    exact .inl (by simpa [Engine.isCancelled, task.step_cancelled] using h)
  | @cancelled step found cause =>
    obtain hbefore | rfl := (world.engine.isCancelled_cancel found token).mp h
    · exact .inl hbefore
    · exact .inr cause
  | idle | begun | resumed | unspawned | subscribed => exact .inl h

/-! ## The whole picture -/

/-- What can be said of an engine and its runs at any moment. A run is live while it holds the
engine, from the step by which it acquires it to the one by which it gives it back. -/
structure Exclusive (world : World L) : Prop where
  /-- There is at most one live run. -/
  unique : ∀ (number number' : Nat) (task task' : Task L), world.tasks[number]? = some task →
    world.tasks[number']? = some task' → task.holds = true → task'.holds = true →
    number = number'
  /-- The engine says that it is running exactly while there is a live run. -/
  running : world.engine.running = true ↔ ∃ task ∈ world.tasks, task.holds = true
  /-- A token that can be found is the token of the live run. -/
  current : world.engine.current = none ∨
    ∃ task ∈ world.tasks, task.holds = true ∧ world.engine.current = some task.token
  /-- A stop request says that it was of use exactly when the live run shows its token. -/
  answer : world.engine.requestStop.1 = true ↔
    ∃ task ∈ world.tasks, task.holds = true ∧ task.shown = some task.token
  /-- A stop request that was of use has cancelled the token of the live run and nothing else. -/
  stopped : world.engine.requestStop.1 = true → ∃ task ∈ world.tasks, task.holds = true ∧
    world.engine.requestStop.2 = world.engine.cancel task.token ∧
    ∀ token, world.engine.requestStop.2.isCancelled token = true ↔
      world.engine.isCancelled token = true ∨ token = task.token
  /-- Any other stop request has changed nothing. -/
  ignored : world.engine.requestStop.1 = false → world.engine.requestStop.2 = world.engine
  /-- While there is a live run, asking for another one changes nothing. -/
  refused : (∃ task ∈ world.tasks, task.holds = true) →
    ∀ token, world.move (.begin token) = world
  /-- While there is none, a run begins. -/
  begun : (∀ task ∈ world.tasks, task.holds = false) →
    ∀ token, (world.move (.begin token)).tasks =
      world.tasks ++ [{ token := world.newToken token }]

theorem shown_eq_some {task : Task L} {token : Token} (h : task.shown = some token) :
    task.token = token := by
  unfold Task.shown at h
  split at h <;> simp_all

theorem exclusive_of_free {world : World L} (none_holds : ∀ task ∈ world.tasks, task.holds = false)
    (running : world.engine.running = false) (current : world.engine.current = none) :
    world.Exclusive := by
  have hnone : ¬ ∃ task ∈ world.tasks, task.holds = true := by
    rintro ⟨task, hmem, hlive⟩
    rw [none_holds task hmem] at hlive
    cases hlive
  have hstop : world.engine.requestStop = (false, world.engine) := by
    simp [Engine.requestStop, current]
  refine ⟨?_, ?_, .inl current, ?_, ?_, fun _ => by rw [hstop], fun h => absurd h hnone, ?_⟩
  · intro number _ task _ here _ live _
    rw [none_holds task (List.mem_of_getElem? here)] at live
    cases live
  · exact ⟨fun h => by simp [running] at h, fun h => absurd h hnone⟩
  · rw [hstop]
    refine ⟨fun h => (by cases h), ?_⟩
    rintro ⟨task, hmem, hlive, -⟩
    exact absurd ⟨task, hmem, hlive⟩ hnone
  · intro h
    simp [hstop] at h
  · intro _ token
    simp [move, Engine.acquire?, running]

theorem exclusive_of_held {world : World L} {number : Nat} {task : Task L}
    (here : world.tasks[number]? = some task) (live : task.holds = true)
    (others : ∀ other task', world.tasks[other]? = some task' → task'.holds = true →
      other = number)
    (running : world.engine.running = true) (current : world.engine.current = task.shown) :
    world.Exclusive := by
  have hmem := List.mem_of_getElem? here
  have hlive : ∃ task ∈ world.tasks, task.holds = true := ⟨task, hmem, live⟩
  have honly : ∀ task' ∈ world.tasks, task'.holds = true → task' = task := by
    intro task' hmem' live'
    obtain ⟨other, hother⟩ := List.mem_iff_getElem?.mp hmem'
    rw [others other task' hother live', here] at hother
    exact (Option.some.inj hother).symm
  have hbegun : (∀ task ∈ world.tasks, task.holds = false) → False := by
    intro hover
    rw [hover task hmem] at live
    cases live
  have hunique : ∀ (i j : Nat) (a b : Task L), world.tasks[i]? = some a →
      world.tasks[j]? = some b → a.holds = true → b.holds = true → i = j :=
    fun i j a b ha hb la lb => (others i a ha la).trans (others j b hb lb).symm
  have hrefused : ∀ token, world.move (.begin token) = world :=
    fun token => by simp [move, Engine.acquire?, running]
  cases hshown : task.shown with
  | none =>
    -- the run has not yet put its token there, or has taken it away again
    have hstop : world.engine.requestStop = (false, world.engine) := by
      simp [Engine.requestStop, current, hshown]
    refine ⟨hunique, by simp [running, hlive], .inl (current.trans hshown), ?_, ?_,
      fun _ => by rw [hstop], fun _ => hrefused, fun h => (hbegun h).elim⟩
    · rw [hstop]
      refine ⟨fun h => (by cases h), ?_⟩
      rintro ⟨task', hmem', live', hshown'⟩
      rw [honly task' hmem' live', hshown] at hshown'
      cases hshown'
    · intro h
      simp [hstop] at h
  | some token =>
    obtain rfl := shown_eq_some hshown
    have hstop : world.engine.requestStop = (true, world.engine.cancel task.token) := by
      simp [Engine.requestStop, current, hshown]
    refine ⟨hunique, by simp [running, hlive], .inr ⟨task, hmem, live, current.trans hshown⟩, ?_,
      ?_, fun h => by simp [hstop] at h, fun _ => hrefused, fun h => (hbegun h).elim⟩
    · rw [hstop]
      exact ⟨fun _ => ⟨task, hmem, live, hshown⟩, fun _ => rfl⟩
    · rw [hstop]
      exact fun _ => ⟨task, hmem, live, rfl, world.engine.isCancelled_cancel task.token⟩

theorem exclusive_after (moves : List (Move L)) : (after moves).Exclusive := by
  cases occupancy_after moves with
  | free none_holds running current => exact exclusive_of_free none_holds running current
  | held number task here live others running current =>
    exact exclusive_of_held here live others running current

/-- **One run at a time, and a stop request reaches no other run than the live one.** After any
moves in any order: the cells of the engine tell the truth about the live run (`Exclusive`); a token
is cancelled only by a stop request at a moment when a live run had it, through the task of a run
that has it, or by the client who named it; and the token that a run did not get from a client is
that of no other run. Unless a run does not get its thread, it is live until it is over. -/
theorem one_run_at_a_time (moves : List (Move L)) :
    (after moves).Exclusive ∧
    (∀ token, (after moves).engine.isCancelled token = true →
      ∃ before step behind, moves = before ++ step :: behind ∧
        ((step = .requestStop ∧ (after before).engine.current = some token ∧
          ∃ task ∈ (after before).tasks, task.holds = true ∧ task.token = token) ∨
        (∃ number task, step = .stopTask number ∧ (after before).tasks[number]? = some task ∧
          task.token = token) ∨
        ∃ name, step = .cancel name ∧ token = .named name)) ∧
    (∀ (number own : Nat) (task : Task L), (after moves).tasks[number]? = some task →
      task.token = .ofRun own → own = number) ∧
    (Spawning moves → ∀ task ∈ (after moves).tasks, task.holds = !task.isOver) := by
  refine ⟨exclusive_after moves, ?_, fun _ _ _ => number_of_own_token moves,
    fun hspawning task hmem => (spawned_after hspawning task hmem).holds⟩
  intro token
  induction moves using List.reverseRecOn with
  | nil =>
    intro h
    simp [after, Engine.isCancelled] at h
  | append_singleton moves last ih =>
    intro h
    rw [after_concat] at h
    obtain hbefore | ⟨rfl, hcurrent⟩ | hstep | hstep := ((after moves).moved_move last).cancels h
    · obtain ⟨before, step, behind, rfl, hcause⟩ := ih hbefore
      exact ⟨before, step, behind ++ [last], by simp, hcause⟩
    · obtain hnone | ⟨task, hmem, live, htoken⟩ := (exclusive_after moves).current
      · rw [hnone] at hcurrent
        cases hcurrent
      · have : task.token = token := Option.some.inj (htoken.symm.trans hcurrent)
        exact ⟨moves, _, [], rfl, .inl ⟨rfl, hcurrent, task, hmem, live, this⟩⟩
    · exact ⟨moves, last, [], rfl, .inr (.inl hstep)⟩
    · exact ⟨moves, last, [], rfl, .inr (.inr hstep)⟩

/-- A stop is asked for before a run has shown its token, and again afterwards, while another client
wants a run of their own. -/
def stoppedTwice : List (Move Unit) :=
  [.begin none, .requestStop, .advance 0 (.ok ⟨[]⟩), .begin (some "other"), .requestStop]

theorem stoppedTwice_exclusive :
    (after stoppedTwice).engine.isCancelled (.ofRun 0) = true ∧ (after stoppedTwice).Exclusive ∧
      (after (stoppedTwice.take 2)).engine.isCancelled (.ofRun 0) = false ∧
      ∀ task ∈ (after stoppedTwice).tasks, task.holds = !task.isOver := by
  obtain ⟨hexclusive, -, -, hholds⟩ := one_run_at_a_time stoppedTwice
  exact ⟨by decide, hexclusive, by decide, hholds (by simp [Spawning, stoppedTwice, Move.spawns])⟩

end World

end MacroScript
