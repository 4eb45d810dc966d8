import MacroScript.Proofs.Broadcast
import MacroScript.Proofs.Showing

/-! # What a session reports

A session hands changes out in three ways: it answers an operation with one, it calls a callback,
and it sends into a channel. All of them are written down in its world, so they are changes that a
run can end with; and the state that the session answers is that of the run which began last. -/

namespace MacroScript

namespace Happening

variable {note : Happening Listener}

theorem change?_of_sent? {channel : Nat} {change : StateChange}
    (h : note.sent? channel = some change) : note.change? = some change := by
  unfold sent? at h
  split at h
  · split at h
    · exact h
    · cases h
  · cases h

theorem change?_of_call? {call : String × StateChange} (h : note.call? = some call) :
    note.change? = some call.2 := by
  unfold call? at h
  split at h
  · cases h
    rfl
  · cases h

end Happening

namespace Session

variable {session session' : Session} {seen : List (String × StateChange)}

theorem Faithful.stateTold (h : Faithful session seen) :
    session.world.StateTold session.world.begun := by
  obtain ⟨moves, hspawning, hworld⟩ := h.reached.exists_after
  rw [hworld]
  exact World.stateTold_after hspawning

theorem Faithful.isFinal_of_seen (h : Faithful session seen) {name : String} {change : StateChange}
    (hseen : (name, change) ∈ seen) : change.IsFinal := by
  have hcall : (name, change) ∈ session.world.log.filterMap Happening.call? :=
    h.calls ▸ List.mem_append_left _ hseen
  obtain ⟨note, hnote, hcalled⟩ := List.mem_filterMap.mp hcall
  exact h.stateTold.told note hnote change (Happening.change?_of_call? hcalled)

theorem Faithful.isFinal_of_sent (h : Faithful session seen) {channel : Nat}
    {queue : List StateChange} (hqueue : session.queues.get? channel = some queue)
    {change : StateChange} (hchange : change ∈ queue) : change.IsFinal := by
  obtain ⟨note, hnote, hsent⟩ :=
    List.mem_filterMap.mp ((h.queues channel queue hqueue).subset hchange)
  exact h.stateTold.told note hnote change (Happening.change?_of_sent? hsent)

theorem changed_of_ofEnding {ending : Ending} {change : StateChange}
    (h : Answer.ofEnding ending = .change change) : ending = .changed change := by
  cases ending <;> cases h
  rfl

theorem changed_of_ofJoined {ending : Ending} {change : StateChange}
    (h : Answer.ofJoined ending = .change change) : ending = .changed change := by
  rcases ending with _ | _ | _ <;> cases h
  rfl

/-- A change that an operation answers with is one that a run can end with. -/
theorem Faithful.isFinal_of_answer (h : Faithful session seen) {operation : Operation}
    {change : StateChange}
    (hperformed : Performed session operation session' (.change change)) : change.IsFinal := by
  have htold := (h.performed hperformed).stateTold
  generalize hanswer : Answer.change change = answer at hperformed
  cases hperformed with
  | ran _ _ _ _ ended =>
    rw [changed_of_ofEnding hanswer.symm] at ended
    exact (htold.returned _ _ ended).2
  | joined _ _ ended =>
    rw [changed_of_ofJoined hanswer.symm] at ended
    exact (htold.returned _ _ ended).2
  | received _ first =>
    cases hanswer
    exact h.isFinal_of_sent first List.mem_cons_self
  | unreceived _ answers => rcases answers with rfl | rfl | rfl <;> cases hanswer
  | started _ _ _ answers =>
    obtain rfl | rfl := answers
    · cases hanswer
    · unfold standing at hanswer
      split at hanswer <;> cases hanswer
  | stepped =>
    unfold standing at hanswer
    split at hanswer <;> cases hanswer
  | _ => cases hanswer

theorem Faithful.isFinal_of_history (h : Faithful session seen) {pace : Pace}
    {operations : List Operation} {entries : List (Answer × List Event)}
    (hhistory : session.history pace operations = some (session', entries))
    {change : StateChange} {events : List Event} (hmem : (.change change, events) ∈ entries) :
    change.IsFinal := by
  induction operations generalizing session seen entries with
  | nil =>
    cases hhistory
    cases hmem
  | cons operation rest ih =>
    obtain ⟨there, answer, more, hoperate, hrest, rfl⟩ := history_cons_eq_some hhistory
    have hperformed := performed_operate hoperate
    rcases List.mem_cons.mp hmem with heq | hmore
    · obtain ⟨rfl, -⟩ := Prod.mk.inj heq
      exact h.isFinal_of_answer hperformed
    · exact ih (h.performed hperformed).takeEvents hrest hmore

end Session

namespace World

/-- **The state tells of the run that began last.** After any moves in any order, with a thread for
every run, the state is decided by the run that last has shown its beginning (`StateTold`). If every
run begins in one step, that is the last of all runs. Histories of operations take place in such a
world, so this is what asking a session for the state answers; and every change that a session
answers with or calls a callback with is one that a run can end with. -/
theorem state_of_latest_run :
    (∀ (L : Type) (moves : List (Move L)), Spawning moves →
      (after moves).StateTold (after moves).begun) ∧
    (∀ (L : Type) (moves : List (Move L)), Spawning moves →
      (afterLeaps moves).StateTold (List.range (afterLeaps moves).tasks.length)) ∧
    ∀ (pace : Pace) (script : Except RunError Script) (gated : Bool) (rules : List Rule)
      (operations : List Operation) (session : Session) (entries : List (Answer × List Event)),
      Session.history pace { script, gated, rules } operations = some (session, entries) →
      (∃ moves, Spawning moves ∧ session.world = after moves ∧
        session.world.StateTold session.world.begun) ∧
      (session.hasHandle = true → ∀ pace : Pace, session.operate pace .state =
        some (session, .state session.world.engine.state)) ∧
      ∀ answer seen, (answer, seen) ∈ entries →
        (∀ change, answer = .change change → change.IsFinal) ∧
        ∀ name change, .listener name change ∈ seen → change.IsFinal := by
  refine ⟨fun _ _ => stateTold_after, fun _ _ => stateTold_afterLeaps, ?_⟩
  intro pace script gated rules operations session entries hhistory
  have hstart := Session.Faithful.new script gated rules
  have hthere := hstart.history hhistory
  obtain ⟨moves, hspawning, hworld⟩ := hthere.reached.exists_after
  refine ⟨⟨moves, hspawning, hworld, hthere.stateTold⟩, fun hhandle pace => ?_, ?_⟩
  · simp [Session.operate, Session.withHandle, hhandle]
  · intro answer seen hmem
    refine ⟨fun change hanswer => ?_, fun name change hlistener => ?_⟩
    · subst hanswer
      exact hstart.isFinal_of_history hhistory hmem
    · have hcall : (name, change) ∈ Session.entryCalls entries :=
        List.mem_flatMap.mpr ⟨_, hmem, List.mem_filterMap.mpr ⟨_, hlistener, rfl⟩⟩
      exact hthere.isFinal_of_seen (List.mem_append_right [] hcall)

/-- The command of a first run panics. -/
def brokenOff : List (Move String) :=
  let next : Move String := .advance 0 (.ok ⟨["work"]⟩)
  [.subscribe "first", .begin none, next, next, .reply 0 (.panicked .other), next, next]

/-- A second run ends well, and a listener panics when it is told. -/
def brokenOffTwice : List (Move String) :=
  let next : Move String := .advance 1 (.ok ⟨[]⟩)
  brokenOff ++ [.begin none, next, next, next, next, next, .reply 1 (.panicked .other), next, next]

/-- Every command panics. -/
def panicking : Session where
  script := .ok ⟨["work"]⟩
  rules := [⟨none, none, [.panic .other]⟩]

theorem brokenOff_state :
    ((afterLeaps brokenOff).engine.state = .running ∧
      (afterLeaps brokenOff).engine.running = false) ∧
    ((afterLeaps brokenOffTwice).engine.state = .succeeded ∧
      (afterLeaps brokenOffTwice).engine.running = false) ∧
    ∃ session entries,
      panicking.history ⟨20, 0, 0, fun _ => 1⟩ [.run, .isRunning] = some (session, entries) ∧
      entries.map Prod.fst = [.panicked .other, .flag false] ∧
      ∀ pace, session.operate pace .state = some (session, .state .running) := by
  have hpanicked := state_of_latest_run.2.1 String brokenOff
    (by simp [Spawning, brokenOff, Move.spawns])
  have hcut := state_of_latest_run.2.1 String brokenOffTwice
    (by simp [Spawning, brokenOffTwice, brokenOff, Move.spawns])
  have hcommand : (afterLeaps brokenOff).log =
      [.subscribed "first", .began 0, .answered 0 "work" (.panicked .other)] := rfl
  have hlistener : (afterLeaps brokenOffTwice).log =
      [.subscribed "first", .began 0, .answered 0 "work" (.panicked .other), .began 1,
        .concluded 1 ⟨.succeeded, none⟩, .gathered 1 ⟨.succeeded, none⟩ ["first"],
        .heard 1 "first" ⟨.succeeded, none⟩ (.panicked .other)] := rfl
  refine ⟨⟨hpanicked.commandPanicked 0 "work" .other rfl (by simp [hcommand]), by decide +kernel⟩,
    ⟨hcut.listenerPanicked 1 "first" ⟨.succeeded, none⟩ .other rfl (by simp [hlistener]),
      by decide +kernel⟩, ?_⟩
  have hresult : (panicking.history ⟨20, 0, 0, fun _ => 1⟩ [.run, .isRunning]).map (fun result =>
      (result.2.map Prod.fst, result.1.hasHandle, result.1.world.engine.state)) =
      some ([.panicked .other, .flag false], true, .running) := by
    decide +kernel
  obtain ⟨⟨session, entries⟩, hhistory, hresult⟩ := Option.map_eq_some_iff.mp hresult
  obtain ⟨hanswers, hhandle, hstate⟩ : _ ∧ _ ∧ _ := by simpa using hresult
  obtain ⟨-, hasked, -⟩ := state_of_latest_run.2.2 _ _ _ _ _ session entries hhistory
  exact ⟨session, entries, hhistory, hanswers, hstate ▸ hasked hhandle⟩

end World

end MacroScript
