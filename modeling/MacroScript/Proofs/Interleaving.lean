import Mathlib.Data.List.Induction
import MacroScript.Engine.World

/-! # Clients of one engine, in any order

The moves of a history come in any order, and what holds after every list of moves holds of every
interleaving. What a single move can do to a world is said once (`Moved`), and an invariant is what
each of these cases keeps. Where it matters that a run which is to have a thread of its own gets it,
the history is one of `Spawning` moves. -/

namespace MacroScript

variable {L : Type}

/-- Putting an item back where it is changes nothing. -/
theorem set_of_getElem? {α : Type} {items : List α} {index : Nat} {item : α}
    (h : items[index]? = some item) : items.set index item = items := by
  obtain ⟨hlt, rfl⟩ := List.getElem?_eq_some_iff.mp h
  exact List.set_getElem_self hlt

theorem getElem?_set_of_lt {α : Type} {items : List α} {index : Nat} (h : index < items.length)
    (item : α) (other : Nat) :
    (items.set index item)[other]? = if index = other then some item else items[other]? := by
  rw [List.getElem?_set, if_pos h]

def Move.spawns : Move L → Bool
  | unspawned .. => false
  | _ => true

/-- Every run that is to have a thread of its own gets it. -/
def Spawning (moves : List (Move L)) : Prop := ∀ step ∈ moves, step.spawns = true

namespace Spawning

variable {moves more : List (Move L)}

theorem append (h : Spawning moves) (h' : Spawning more) : Spawning (moves ++ more) := by
  intro step hmem
  rcases List.mem_append.mp hmem with hmem | hmem
  · exact h step hmem
  · exact h' step hmem

theorem left (h : Spawning (moves ++ more)) : Spawning moves :=
  fun step hmem => h step (List.mem_append_left more hmem)

theorem last {step : Move L} (h : Spawning (moves ++ [step])) : step.spawns = true :=
  h step (by simp)

end Spawning

namespace World

/-- The move cancels the token: a stop request finds it, the task of a run has it, or its owner
names it. -/
def Cancels (world : World L) (step : Move L) (token : Token) : Prop :=
  (step = .requestStop ∧ world.engine.current = some token) ∨
    (∃ number task, step = .stopTask number ∧ world.tasks[number]? = some task ∧
      task.token = token) ∨
    ∃ name, step = .cancel name ∧ token = .named name

/-- All that a move can do to a world. -/
inductive Moved (world : World L) : Move L → World L → Prop where
  | idle (step : Move L) : Moved world step world
  | begun (token : Option String) (free : world.engine.running = false) :
      Moved world (.begin token)
        { world with
          engine := { world.engine with running := true }
          tasks := world.tasks ++ [{ token := world.newToken token }] }
  | advanced {run : Nat} {task : Task L} (loaded : Except RunError Script)
      (here : world.tasks[run]? = some task) :
      Moved world (.advance run loaded)
        { engine := (task.step loaded world.engine).1
          tasks := world.tasks.set run (task.step loaded world.engine).2
          notes := world.notes ++ task.stepNotes run world.engine }
  | resumed {run : Nat} {task : Task L} (reply : Reply) (here : world.tasks[run]? = some task) :
      Moved world (.reply run reply)
        { world with
          tasks := world.tasks.set run (task.resume reply)
          notes := world.notes ++ task.replyNotes run reply }
  | unspawned {run : Nat} {task : Task L} (cause : String)
      (here : world.tasks[run]? = some task) :
      Moved world (.unspawned run cause)
        { world with tasks := world.tasks.set run (task.abandon cause) }
  | cancelled {step : Move L} {token : Token} (cause : world.Cancels step token) :
      Moved world step { world with engine := world.engine.cancel token }
  | subscribed (listener : L) :
      Moved world (.subscribe listener)
        { world with
          engine := world.engine.subscribe listener
          notes := world.notes.push (.subscribed listener) }

theorem move_begin_of_running {world : World L} (h : world.engine.running = true)
    (token : Option String) : world.move (.begin token) = world := by
  simp [move, Engine.acquire?, h]

theorem move_begin_of_free {world : World L} (h : world.engine.running = false)
    (token : Option String) :
    world.move (.begin token) =
      { world with
        engine := { world.engine with running := true }
        tasks := world.tasks ++ [{ token := world.newToken token }] } := by
  simp [move, Engine.acquire?, h]

theorem engine_move_begin (world : World L) (token : Option String) :
    (world.move (.begin token)).engine = { world.engine with running := true } := by
  cases hrunning : world.engine.running with
  | true => rw [move_begin_of_running hrunning, ← hrunning]
  | false => rw [move_begin_of_free hrunning]

theorem getElem?_move_advance {world : World L} {number : Nat} {task : Task L}
    (htask : world.tasks[number]? = some task) (loaded : Except RunError Script) :
    (world.move (.advance number loaded)).tasks[number]? =
      some (task.step loaded world.engine).2 := by
  simp only [move, htask]
  exact List.getElem?_set_self (List.getElem?_eq_some_iff.mp htask).1

theorem getElem?_move_reply {world : World L} {number : Nat} {task : Task L}
    (htask : world.tasks[number]? = some task) (reply : Reply) :
    (world.move (.reply number reply)).tasks[number]? = some (task.resume reply) := by
  simp only [move, htask]
  exact List.getElem?_set_self (List.getElem?_eq_some_iff.mp htask).1

theorem moved_move (world : World L) (step : Move L) : Moved world step (world.move step) := by
  cases step with
  | begin token =>
    cases hrunning : world.engine.running with
    | true =>
      rw [move_begin_of_running hrunning]
      exact .idle _
    | false =>
      rw [move_begin_of_free hrunning]
      exact .begun token hrunning
  | advance run loaded =>
    simp only [move]
    split
    · rename_i task here
      exact .advanced loaded here
    · exact .idle _
  | reply run reply =>
    simp only [move]
    split
    · rename_i task here
      exact .resumed reply here
    · exact .idle _
  | unspawned run cause =>
    simp only [move]
    split
    · rename_i task here
      exact .unspawned cause here
    · exact .idle _
  | requestStop =>
    simp only [move, Engine.requestStop]
    split
    · rename_i token hcurrent
      exact .cancelled (.inl ⟨rfl, hcurrent⟩)
    · exact .idle _
  | stopTask run =>
    simp only [move]
    split
    · rename_i task here
      exact .cancelled (.inr (.inl ⟨run, task, rfl, here, rfl⟩))
    · exact .idle _
  | cancel name => exact .cancelled (.inr (.inr ⟨name, rfl, rfl⟩))
  | subscribe listener => exact .subscribed listener

/-- The world after a history of moves on a new engine. -/
def after (moves : List (Move L)) : World L := moves.foldl move {}

theorem after_append (moves more : List (Move L)) :
    after (moves ++ more) = more.foldl move (after moves) :=
  List.foldl_append

theorem after_concat (moves : List (Move L)) (last : Move L) :
    after (moves ++ [last]) = (after moves).move last :=
  after_append moves [last]

/-- What holds of a new engine and is kept by every move holds after every history. -/
theorem after_induction {motive : World L → Prop} (start : motive {})
    (step : ∀ {world step world'}, Moved world step world' → motive world → motive world')
    (moves : List (Move L)) : motive (after moves) := by
  induction moves using List.reverseRecOn with
  | nil => exact start
  | append_singleton moves last ih =>
    rw [after_concat]
    exact step ((after moves).moved_move last) ih

end World

end MacroScript
