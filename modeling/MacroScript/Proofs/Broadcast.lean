import MacroScript.Proofs.Progress

/-! # One broadcast per run

In every world the whole story of a run that is over is written down. A session has one world from
its first operation to its last, so that story is what its callbacks and channels were told, in the
order in which they were told it, and what its operations answer (`Faithful`). -/

namespace MacroScript

namespace Session

variable {session session' : Session}

/-- What can be told of a session after the callbacks have been seen to be called as listed. Its
world has come about by moves; the calls that were seen, with those that are kept, are the calls
written down there; a channel holds the last of what was sent into it; and the held task is that of
a run which has begun. -/
structure Faithful (session : Session) (seen : List (String × StateChange)) : Prop where
  reached : (World.after []).Leads session.world
  calls : seen ++ session.calls = session.world.log.filterMap Happening.call?
  queues : ∀ channel queue, session.queues.get? channel = some queue →
    queue <:+ session.world.log.filterMap (Happening.sent? channel)
  held : ∀ number, session.held = some number → number < session.world.tasks.length

namespace Faithful

variable {seen : List (String × StateChange)}

theorem carried (h : Faithful session seen) (hcarried : Carried session session') :
    Faithful session' seen := by
  obtain ⟨notes, hlog, hheard⟩ := hcarried.log
  have hheld : session'.held = session.held := by rw [hcarried.rest]
  refine ⟨h.reached.trans hcarried.leads, ?_, ?_, ?_⟩
  · rw [hheard.calls, hlog, List.filterMap_append, ← List.append_assoc, h.calls]
  · intro channel queue hqueue
    rw [hheard.queues] at hqueue
    obtain ⟨before, hbefore, rfl⟩ := Option.map_eq_some_iff.mp hqueue
    obtain ⟨taken, htaken⟩ := h.queues channel before hbefore
    refine ⟨taken, ?_⟩
    rw [hlog, List.filterMap_append, ← htaken, List.append_assoc]
  · rw [hheld]
    exact fun number hnumber => Nat.lt_of_lt_of_le (h.held number hnumber) hcarried.leads.length_le

theorem hold (h : Faithful session seen) {held : Option Nat}
    (hheld : ∀ number, held = some number → number < session.world.tasks.length) :
    Faithful { session with held } seen :=
  ⟨h.reached, h.calls, h.queues, hheld⟩

theorem acted (h : Faithful session seen) (hacted : Acted session session') :
    Faithful session' seen := h.carried hacted.carried

theorem begin (h : Faithful session seen) (token : Option String)
    (idle : session.world.engine.running = false) :
    Faithful (session.move (.begin token)) seen ∧
      session.world.tasks.length < (session.move (.begin token)).world.tasks.length := by
  have hworld := World.move_begin_of_free idle token
  have hacted : Acted session (session.move (.begin token)) :=
    .move session rfl (by simp [hworld]) [] (by simp [hworld, World.log])
  exact ⟨h.acted hacted, by simp [Session.move, hworld]⟩

/-- A session with other channels, which hold no more than before. -/
theorem channels (h : Faithful session seen) {names : Table String Nat} {channels : Nat}
    {queues : Table Nat (List StateChange)}
    (hqueues : ∀ channel queue, queues.get? channel = some queue →
      queue = [] ∨ ∃ before, session.queues.get? channel = some before ∧ queue <:+ before) :
    Faithful { session with names, channels, queues } seen := by
  refine ⟨h.reached, h.calls, fun channel queue hqueue => ?_, h.held⟩
  obtain rfl | ⟨before, hbefore, hsuffix⟩ := hqueues channel queue hqueue
  · exact List.nil_suffix
  · exact hsuffix.trans (h.queues channel before hbefore)

theorem performed (h : Faithful session seen) {operation : Operation} {answer : Answer}
    (hperformed : Performed session operation session' answer) : Faithful session' seen := by
  cases hperformed with
  | gone | noTask | unreceived | unclosed | state | isRunning | listenerCount | isCancelled
  | taskFinished | upgraded | busy => exact h
  | subscribed name actions => exact h.acted (acted_act session (.subscribe name actions))
  | requested => exact h.acted (acted_act session .requestStop)
  | cancelled token => exact h.acted (acted_act session (.cancel token))
  | @taskStopped number =>
    refine h.acted (.move session rfl ?_ [] ?_) <;> simp only [World.move] <;> split <;>
      simp [World.log]
  | @opened name _ handle world named empty others kept =>
    obtain ⟨hevents, hheld⟩ := kept
    have hlog : session'.world.log =
        session.world.log ++ [.subscribed (.channel session.channels)] := by
      simp [world, World.move, World.log]
    refine ⟨world ▸ h.reached.trans (.move _ rfl), ?_, ?_, ?_⟩
    · simpa [hlog, Session.calls, hevents, List.filterMap_cons, Happening.call?] using h.calls
    · intro channel queue hqueue
      rw [hlog, List.filterMap_append]
      by_cases hchannel : channel = session.channels
      · rw [hchannel, empty] at hqueue
        cases hqueue
        exact List.nil_suffix
      · simpa [List.filterMap_cons, Happening.sent?] using
          h.queues channel queue (others channel queue hchannel hqueue)
    · rw [hheld, world]
      exact h.held
  | @received name number change queue named first =>
    refine h.channels fun channel found hfound => .inr ?_
    rw [Table.get?_set] at hfound
    split at hfound
    · rename_i hchannel
      cases hfound
      exact ⟨_, hchannel ▸ first, List.suffix_cons ..⟩
    · exact ⟨found, hfound, List.suffix_refl found⟩
  | closed named =>
    exact h.channels fun channel found hfound =>
      .inr ⟨found, Table.get?_of_erase hfound, List.suffix_refl found⟩
  | dropped => exact ⟨h.reached, h.calls, h.queues, h.held⟩
  | ran _ _ idle carried => exact (h.begin _ idle).1.carried carried
  | started _ idle carried =>
    obtain ⟨hbegun, hlt⟩ := h.begin none idle
    exact (hbegun.hold fun number hnumber => Option.some.inj hnumber ▸ hlt).carried carried
  | stepped _ carried => exact h.carried carried
  | joined _ carried => exact (h.carried carried).hold (by simp)

theorem takeEvents (h : Faithful session seen) :
    Faithful session.takeEvents.1 (seen ++ session.takeEvents.2.filterMap Event.call?) := by
  unfold Session.takeEvents
  split
  · simpa using h
  · exact ⟨h.reached, by simpa [Session.calls] using h.calls, h.queues, h.held⟩

theorem new (script : Except RunError Script) (gated : Bool) (rules : List Rule) :
    Faithful { script, gated, rules } [] :=
  ⟨.refl _, by simp [Session.calls, World.log], by simp, by simp⟩

end Faithful

theorem history_cons_eq_some {pace : Pace} {operation : Operation} {rest : List Operation}
    {entries : List (Answer × List Event)}
    (h : session.history pace (operation :: rest) = some (session', entries)) :
    ∃ there answer more, session.operate pace operation = some (there, answer) ∧
      there.takeEvents.1.history pace rest = some (session', more) ∧
      entries = (answer, there.takeEvents.2) :: more := by
  rw [history] at h
  obtain ⟨⟨there, answer⟩, hoperate, h⟩ := Option.bind_eq_some_iff.mp h
  obtain ⟨⟨last, more⟩, hrest, h⟩ := Option.bind_eq_some_iff.mp h
  cases h
  exact ⟨there, answer, more, hoperate, hrest, rfl⟩

/-- The calls of callbacks that can be seen in the entries of a history. -/
def entryCalls (entries : List (Answer × List Event)) : List (String × StateChange) :=
  entries.flatMap fun entry => entry.2.filterMap Event.call?

theorem Faithful.history {seen : List (String × StateChange)} {pace : Pace}
    {operations : List Operation} {entries : List (Answer × List Event)}
    (h : Faithful session seen)
    (hhistory : session.history pace operations = some (session', entries)) :
    Faithful session' (seen ++ entryCalls entries) := by
  induction operations generalizing session seen entries with
  | nil =>
    cases hhistory
    simpa [entryCalls] using h
  | cons operation rest ih =>
    obtain ⟨there, answer, more, hoperate, hrest, rfl⟩ := history_cons_eq_some hhistory
    have hthere := (h.performed (performed_operate hoperate)).takeEvents
    simpa [entryCalls] using ih hthere hrest

end Session

namespace World

/-- **One broadcast per run.** Whatever moves are made in whatever order, a run that is over and in
which no command has panicked has shown one change, has looked up the registry once, and has called
those in it one after the other with that change, up to the first who panicked; a run in which a
command has panicked has called nobody. Histories of operations take place in one such world. What
callbacks and channels are told is what is written down in it; each operation makes the moves that
it is for; running a script or waiting for its task answers with the ending of the run, and has that
answer, given enough turns, exactly if the script comes to an end. -/
theorem one_broadcast_per_run :
    (∀ (L : Type) (moves : List (Move L)), (after moves).Broadcasts) ∧
    ∀ (pace : Pace) (script : Except RunError Script) (gated : Bool) (rules : List Rule)
      (operations : List Operation) (session : Session) (entries : List (Answer × List Event)),
      Session.history pace { script, gated, rules } operations = some (session, entries) →
      session.world.Broadcasts ∧
      session.Faithful (Session.entryCalls entries) ∧
      (∀ (pace : Pace) (operation : Operation) (session' : Session) (answer : Answer),
        session.operate pace operation = some (session', answer) →
          session.Performed operation session' answer ∧ session'.world.Broadcasts) ∧
      (∀ operation, session.Answers operation ↔ session.Finishes operation) ∧
      ∀ (pace : Pace) (session' : Session),
        session.operate pace .start = some (session', .started) →
          (session'.Answers .join ↔
            Session.RunEnds false session.world.tasks.length (session.world.newToken none)
              session.withNewTask) := by
  refine ⟨fun _ => broadcasts_after, ?_⟩
  intro pace script gated rules operations session entries hhistory
  have hfaithful := (Session.Faithful.new script gated rules).history hhistory
  have hbroadcasts {world : World Listener} (h : (after []).Leads world) : world.Broadcasts := by
    obtain ⟨moves, -, rfl⟩ := h.exists_after
    exact broadcasts_after moves
  refine ⟨hbroadcasts hfaithful.reached, hfaithful, ?_, Session.answers_iff hfaithful.held, ?_⟩
  · intro pace operation session' answer hoperate
    have hperformed := Session.performed_operate hoperate
    exact ⟨hperformed, hbroadcasts (hfaithful.performed hperformed).reached⟩
  · exact fun pace session' hstart => Session.answers_join_of_started hstart

/-- The first command subscribes a second listener. The first listener subscribes a third one
whenever it is told of a change. -/
def subscribing : Session where
  script := .ok ⟨["work"]⟩
  rules := [⟨some 1, none, [.subscribe "second" []]⟩]

def toldTwice : List Operation :=
  [.subscribe "first" [.subscribe "third" []], .start, .join,
    .subscribe "last" [.panic (.text "enough")], .start, .join, .state]

/-- No thread is found for a run. -/
def unspawnedRun : List (Move String) :=
  let next : Move String := .advance 0 (.ok ⟨["work"]⟩)
  [.subscribe "first", .begin none, next, next, .unspawned 0 "no more threads", next, next, next,
    next, next, .reply 0 .accepted, next]

def steadyPace : Pace := ⟨40, 20, 20, fun _ => 1⟩

/-- The second listener is told of the first run and the third one only of the second run. There the
last listener panics, and no change is returned. -/
theorem toldTwice_broadcasts :
    (∃ session entries, subscribing.history steadyPace toldTwice = some (session, entries) ∧
      entries.map Prod.fst =
        [.nothing, .started, .change ⟨.succeeded, none⟩, .nothing, .started,
          .error (.taskPanicked "enough"), .state .succeeded] ∧
      session.world.log.filterMap Happening.call? =
        ["first", "second", "first", "second", "third", "last"].map (·, ⟨.succeeded, none⟩) ∧
      Story.Whole 0 (session.world.story 0) (.changed ⟨.succeeded, none⟩) ∧
      Story.Whole 1 (session.world.story 1) (.panicked (.text "enough")) ∧
      session.Answers .run) ∧
    Story.Whole 0 ((after unspawnedRun).story 0) (.changed (.unspawned "no more threads")) := by
  have hanswers : (subscribing.history steadyPace toldTwice).map (fun result =>
      result.2.map Prod.fst) =
      some [.nothing, .started, .change ⟨.succeeded, none⟩, .nothing, .started,
        .error (.taskPanicked "enough"), .state .succeeded] := by
    decide +kernel
  obtain ⟨⟨session, entries⟩, hhistory, hanswers⟩ := Option.map_eq_some_iff.mp hanswers
  have hsaw : (subscribing.history steadyPace toldTwice).map (fun result =>
      (Session.entryCalls result.2 ++ result.1.calls, result.1.world.ending? 0,
        result.1.world.ending? 1)) =
      some (["first", "second", "first", "second", "third", "last"].map (·, ⟨.succeeded, none⟩),
        some (.changed ⟨.succeeded, none⟩), some (.panicked (.text "enough"))) := by
    decide +kernel
  have hends : (subscribing.history steadyPace toldTwice).all (fun result =>
      result.1.world.tasks.length = 2 ∧
      (runScript (Session.host false (result.1.world.newToken none)) 2 result.1.script
        ((Session.turn 2)^[3] (result.1.move (.begin none)))).isSome) = true := by
    decide +kernel
  rw [hhistory] at hsaw hends
  obtain ⟨hcalls, hfirst, hsecond⟩ : _ ∧ _ ∧ _ := by simpa using hsaw
  obtain ⟨hlength, hscript⟩ : _ ∧ _ := by simpa using hends
  obtain ⟨hbroadcasts, hfaithful, -, hanswer, -⟩ :=
    one_broadcast_per_run.2 _ _ _ _ toldTwice session entries hhistory
  refine ⟨⟨session, entries, hhistory, hanswers, ?_, hbroadcasts.whole 0 _ hfirst,
    hbroadcasts.whole 1 _ hsecond, ?_⟩, ?_⟩
  · rw [← hfaithful.calls, hcalls]
    rfl
  · refine (hanswer .run).mpr fun _ _ => ⟨2, ?_⟩
    rw [hlength]
    exact Option.isSome_iff_ne_none.mp hscript
  · exact (one_broadcast_per_run.1 String unspawnedRun).whole 0 _ (by decide +kernel)

end World

end MacroScript
