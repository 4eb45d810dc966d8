import MacroScript.Engine.Session
import MacroScript.Proofs.Stories

/-! # Sessions are histories of moves

A session carries its operations out one after the other, each down to the actions of the commands
and listeners that are called on the way. All of it is done by moves in the one world of the session
(`World.Leads`), and callbacks and channels are told what is written down in that world, no more and
no less (`Heard`). What each operation does beyond that, and what it answers, is said case by case
(`Performed`). -/

namespace MacroScript

/-- Some moves lead from one world to another, and every run gets its thread. -/
def World.Leads {L : Type} (world world' : World L) : Prop :=
  ∃ moves : List (Move L), Spawning moves ∧ world' = moves.foldl World.move world

namespace World.Leads

variable {L : Type} {world world' world'' : World L}

theorem refl (world : World L) : world.Leads world := ⟨[], by simp [Spawning], rfl⟩

theorem trans (h : world.Leads world') (h' : world'.Leads world'') : world.Leads world'' := by
  obtain ⟨moves, hspawning, rfl⟩ := h
  obtain ⟨more, hspawning', rfl⟩ := h'
  exact ⟨moves ++ more, hspawning.append hspawning', List.foldl_append.symm⟩

theorem move (world : World L) {step : Move L} (h : step.spawns = true) :
    world.Leads (world.move step) :=
  ⟨[step], fun _ hmem => List.mem_singleton.mp hmem ▸ h, rfl⟩

theorem exists_after (h : (after []).Leads world) :
    ∃ moves, Spawning moves ∧ world = after moves := h

theorem length_le (h : world.Leads world') : world.tasks.length ≤ world'.tasks.length := by
  obtain ⟨moves, -, rfl⟩ := h
  induction moves generalizing world with
  | nil => exact Nat.le_refl _
  | cons step moves ih =>
    refine Nat.le_trans ?_ ih
    generalize hnext : world.move step = next
    have hmoved := hnext ▸ world.moved_move step
    cases hmoved <;> simp

end World.Leads

/-- The callback that has been called, and with what. -/
def Event.call? : Event → Option (String × StateChange)
  | .listener name change => some (name, change)
  | _ => none

namespace Happening

/-- The callback that has been called, and with what. -/
def call? : Happening Listener → Option (String × StateChange)
  | .heard _ (.callback name _) change _ => some (name, change)
  | _ => none

/-- What has been sent into a channel. -/
def sent? (channel : Nat) : Happening Listener → Option StateChange
  | .heard _ (.channel number) change _ => if number = channel then some change else none
  | _ => none

end Happening

namespace Session

variable {session session' session'' : Session}

/-- The calls of callbacks that a session has kept. -/
def calls (session : Session) : List (String × StateChange) :=
  session.events.toList.filterMap Event.call?

theorem leads_move (session : Session) {step : Move Listener} (h : step.spawns = true) :
    session.world.Leads (session.move step).world :=
  .move session.world h

/-! ## Actions -/

/-- Commands and listeners have acted in a session. All that they can add to what is written down
are subscriptions; no run is moved and no listener called. -/
structure Acted (session session' : Session) : Prop where
  rest : session' = { session with world := session'.world, events := session'.events }
  leads : session.world.Leads session'.world
  tasks : session.world.tasks <+: session'.world.tasks
  log : ∃ listeners : List Listener,
    session'.world.log = session.world.log ++ listeners.map .subscribed
  calls : session'.calls = session.calls

namespace Acted

theorem refl (session : Session) : Acted session session :=
  ⟨rfl, .refl _, List.prefix_refl _, ⟨[], by simp⟩, rfl⟩

theorem trans (h : Acted session session') (h' : Acted session' session'') :
    Acted session session'' := by
  obtain ⟨listeners, hlog⟩ := h.log
  obtain ⟨listeners', hlog'⟩ := h'.log
  refine ⟨?_, h.leads.trans h'.leads, h.tasks.trans h'.tasks,
    ⟨listeners ++ listeners', by rw [hlog', hlog]; simp⟩, h'.calls.trans h.calls⟩
  rw [h'.rest, h.rest]

theorem see_action (session : Session) (action : Action) (answer : Answer) :
    Acted session (session.see (.action action answer)) :=
  ⟨rfl, .refl _, List.prefix_refl _, ⟨[], by simp [see]⟩, by simp [Session.calls, see, Event.call?]⟩

/-- A move that is not one of a run adds at most a subscription. -/
theorem move (session : Session) {step : Move Listener} (hspawns : step.spawns = true)
    (htasks : session.world.tasks <+: (session.world.move step).tasks) (listeners : List Listener)
    (hlog : (session.world.move step).log = session.world.log ++ listeners.map .subscribed) :
    Acted session (session.move step) :=
  ⟨rfl, leads_move session hspawns, htasks, ⟨listeners, hlog⟩, rfl⟩

theorem getElem? (h : Acted session session') {number : Nat} {task : Task Listener}
    (htask : session.world.tasks[number]? = some task) :
    session'.world.tasks[number]? = some task := by
  obtain ⟨more, hmore⟩ := h.tasks
  rw [← hmore, List.getElem?_append_left (List.getElem?_eq_some_iff.mp htask).1, htask]

end Acted

theorem acted_act (session : Session) (action : Action) : Acted session (session.act action).1 := by
  have hbegin : Acted session (session.move (.begin none)) := by
    cases hrunning : session.world.engine.running with
    | true =>
      refine .move session rfl ?_ [] ?_ <;> simp [World.move_begin_of_running hrunning]
    | false =>
      refine .move session rfl ?_ [] ?_ <;>
        simp [World.move_begin_of_free hrunning, World.log]
  cases action with
  | requestStop => exact .move session rfl (List.prefix_refl _) [] (List.append_nil _).symm
  | subscribe name actions =>
    exact .move session rfl (List.prefix_refl _) [.callback name actions]
      Array.toList_push
  | cancel token => exact .move session rfl (List.prefix_refl _) [] (List.append_nil _).symm
  | run | start => exact hbegin
  | _ => exact .refl session

theorem acted_perform (canFail : Bool) (actions : List Action) (session : Session) :
    Acted session (session.perform canFail actions).1 := by
  fun_induction perform canFail actions session with
  | case1 session => exact .refl session
  | case2 message rest session hfail => exact .refl session
  | case3 message rest session hfail ih => exact ih
  | case4 payload rest session => exact .refl session
  | case5 action rest session _ _ session' answer hact ih =>
    have hacted := acted_act session action
    rw [hact] at hacted
    exact (hacted.trans (.see_action session' action answer)).trans ih

/-! ## Turns of a run -/

/-- Callbacks and channels have been told what is written down. -/
structure Heard (session : Session) (notes : List (Happening Listener)) (session' : Session) :
    Prop where
  calls : session'.calls = session.calls ++ notes.filterMap Happening.call?
  queues : ∀ channel, session'.queues.get? channel =
    (session.queues.get? channel).map (· ++ notes.filterMap (Happening.sent? channel))

theorem Heard.trans {notes notes' : List (Happening Listener)} (h : Heard session notes session')
    (h' : Heard session' notes' session'') : Heard session (notes ++ notes') session'' := by
  refine ⟨?_, fun channel => ?_⟩
  · rw [h'.calls, h.calls, List.filterMap_append, List.append_assoc]
  · rw [h'.queues, h.queues, Option.map_map, List.filterMap_append]
    congr 1
    funext queue
    exact List.append_assoc ..

/-- What is written down is about no listener. -/
def Quiet (notes : List (Happening Listener)) : Prop :=
  ∀ note ∈ notes, note.call? = none ∧ ∀ channel, note.sent? channel = none

theorem Quiet.filterMap_call? {notes : List (Happening Listener)} (h : Quiet notes) :
    notes.filterMap Happening.call? = [] :=
  List.filterMap_eq_nil_iff.mpr fun note hmem => (h note hmem).1

theorem Quiet.filterMap_sent? {notes : List (Happening Listener)} (h : Quiet notes)
    (channel : Nat) : notes.filterMap (Happening.sent? channel) = [] :=
  List.filterMap_eq_nil_iff.mpr fun note hmem => (h note hmem).2 channel

theorem quiet_nil : Quiet [] := by simp [Quiet]

theorem heard_of_quiet {notes : List (Happening Listener)} (h : Quiet notes)
    (calls : session'.calls = session.calls) (queues : session'.queues = session.queues) :
    Heard session notes session' := by
  refine ⟨?_, fun channel => ?_⟩
  · rw [calls, h.filterMap_call?, List.append_nil]
  · rw [queues, h.filterMap_sent?]
    simp

theorem quiet_subscribed (listeners : List Listener) : Quiet (listeners.map .subscribed) := by
  intro note hmem
  obtain ⟨listener, -, rfl⟩ := List.mem_map.mp hmem
  exact ⟨rfl, fun _ => rfl⟩

theorem quiet_stepNotes (number : Nat) (engine : Engine Listener) (task : Task Listener) :
    Quiet (task.stepNotes number engine) := by
  intro note hmem
  unfold Task.stepNotes at hmem
  split at hmem
  · rw [List.mem_singleton.mp hmem]
    exact ⟨rfl, fun _ => rfl⟩
  · rw [List.mem_singleton.mp hmem]
    exact ⟨rfl, fun _ => rfl⟩
  · rw [List.mem_singleton.mp hmem]
    exact ⟨rfl, fun _ => rfl⟩
  · cases hmem

/-- A session has carried a run on: by moves, after which everybody has been told what is written
down. What its clients hold is as before, but for what has been sent into their channels. -/
structure Carried (session session' : Session) : Prop where
  rest : session' = { session with
    world := session'.world, events := session'.events, queues := session'.queues
    commands := session'.commands }
  leads : session.world.Leads session'.world
  log : ∃ notes, session'.world.log = session.world.log ++ notes ∧ Heard session notes session'

namespace Carried

theorem refl (session : Session) : Carried session session :=
  ⟨rfl, .refl _, [], by simp, heard_of_quiet quiet_nil rfl rfl⟩

theorem trans (h : Carried session session') (h' : Carried session' session'') :
    Carried session session'' := by
  obtain ⟨notes, hlog, hheard⟩ := h.log
  obtain ⟨notes', hlog', hheard'⟩ := h'.log
  refine ⟨?_, h.leads.trans h'.leads, notes ++ notes', by rw [hlog', hlog, List.append_assoc],
    hheard.trans hheard'⟩
  rw [h'.rest, h.rest]

end Carried

theorem Acted.carried (h : Acted session session') : Carried session session' := by
  obtain ⟨listeners, hlog⟩ := h.log
  have hqueues : session'.queues = session.queues := by rw [h.rest]
  refine ⟨?_, h.leads, _, hlog, heard_of_quiet (quiet_subscribed listeners) h.calls hqueues⟩
  rw [h.rest]

theorem carried_announce (session : Session) (command : String) :
    Carried session (session.announce command) :=
  ⟨rfl, .refl _, [], by simp [announce, see],
    heard_of_quiet quiet_nil (by simp [calls, announce, see, Event.call?]) rfl⟩

theorem carried_advance (session : Session) (number : Nat) (loaded : Except RunError Script) :
    Carried session (session.move (.advance number loaded)) := by
  cases htask : session.world.tasks[number]? with
  | none =>
    have hsame : session.move (.advance number loaded) = session := by
      simp [Session.move, World.move, htask]
    rw [hsame]
    exact .refl session
  | some task =>
    refine ⟨rfl, leads_move session rfl, task.stepNotes number session.world.engine, ?_,
      heard_of_quiet (quiet_stepNotes number _ task) rfl rfl⟩
    simp [Session.move, World.move, htask, World.log]

/-- A call comes back after its actions. What the listener is told is seen before them and written
down after them; the actions tell nobody anything, so the order is the same. -/
theorem Acted.carried_reply {told : Session} (h : Acted told session') {number : Nat}
    {task : Task Listener} (htask : told.world.tasks[number]? = some task) (reply : Reply)
    (hrest : told = { session with events := told.events, queues := told.queues })
    (hheard : Heard session (task.replyNotes number reply) told) :
    Carried session (session'.move (.reply number reply)) := by
  have htask' := h.getElem? htask
  have hworld : told.world = session.world := by rw [hrest]
  obtain ⟨listeners, hlog⟩ := h.log
  have hquiet := quiet_subscribed listeners
  have hqueues : session'.queues = told.queues := by rw [h.rest]
  have hcalls : session'.calls = told.calls := h.calls
  refine ⟨?_, ?_, listeners.map .subscribed ++ task.replyNotes number reply, ?_, ?_, fun channel =>
    ?_⟩
  · have hboth := h.rest.trans (congrArg (fun told : Session =>
      { told with world := session'.world, events := session'.events }) hrest)
    rw [hboth]
    rfl
  · rw [← hworld]
    exact h.leads.trans (leads_move session' rfl)
  · rw [← hworld]
    simp [Session.move, World.move, htask', World.log] at hlog ⊢
    simp [hlog]
  · change session'.calls = _
    rw [hcalls, hheard.calls, List.filterMap_append, hquiet.filterMap_call?, List.nil_append]
  · change session'.queues.get? channel = _
    rw [hqueues, hheard.queues, List.filterMap_append, hquiet.filterMap_sent?, List.nil_append]

theorem carried_answer {number : Nat} {run : Run} {command : String}
    (h : session.world.phase number = .calling run command) :
    Carried session
      ((session.answer command).1.move (.reply number (session.answer command).2)) := by
  obtain ⟨task, htask, hphase⟩ := World.exists_of_phase h (by simp)
  have hquiet : Quiet (task.replyNotes number (session.answer command).2) := by
    simp [Quiet, Task.replyNotes, hphase, Happening.call?, Happening.sent?]
  exact (acted_perform true _ session).carried_reply htask _ rfl (heard_of_quiet hquiet rfl rfl)

theorem carried_tell {number : Nat} {change : StateChange} {listener : Listener}
    {waiting : List Listener} (h : session.world.phase number = .hearing change listener waiting) :
    Carried session
      ((session.tell listener change).1.move (.reply number (session.tell listener change).2)) := by
  obtain ⟨task, htask, hphase⟩ := World.exists_of_phase h (by simp)
  have hnotes (reply : Reply) :
      task.replyNotes number reply = [.heard number listener change reply] := by
    simp [Task.replyNotes, hphase]
  cases listener with
  | callback name actions =>
    refine (acted_perform false actions (session.see (.listener name change))).carried_reply htask
      _ rfl ?_
    rw [hnotes]
    exact ⟨by simp [calls, see, Event.call?, Happening.call?],
      fun channel => by simp [see, List.filterMap_cons, Happening.sent?]⟩
  | channel receiver =>
    cases hqueue : session.queues.get? receiver with
    | none =>
      have htell : session.tell (.channel receiver) change = (session, .accepted) := by
        simp [tell, hqueue]
      rw [htell]
      refine (Acted.refl session).carried_reply htask _ rfl ?_
      rw [hnotes]
      refine ⟨by simp [Happening.call?], fun channel => ?_⟩
      by_cases hchannel : receiver = channel
      · subst hchannel
        simp [hqueue]
      · simp [Happening.sent?, hchannel]
    | some queue =>
      let sent := { session with queues := session.queues.set receiver (queue ++ [change]) }
      have htell : session.tell (.channel receiver) change = (sent, .accepted) := by
        simp [tell, hqueue, sent]
      rw [htell]
      refine (Acted.refl sent).carried_reply htask _ rfl ?_
      rw [hnotes]
      refine ⟨by simp [calls, Happening.call?, sent], fun channel => ?_⟩
      change (session.queues.set receiver (queue ++ [change])).get? channel = _
      rw [Table.get?_set]
      by_cases hchannel : receiver = channel
      · subst hchannel
        simp [hqueue, Happening.sent?]
      · simp [Happening.sent?, hchannel]

theorem carried_turn (session : Session) (number : Nat) :
    Carried session (session.turn number) := by
  unfold turn
  split
  · exact carried_answer ‹_›
  · exact carried_tell ‹_›
  · have hadvance := carried_advance session number session.script
    dsimp only
    split
    · exact hadvance.trans (carried_announce _ _)
    · exact hadvance

theorem carried_carryOn {waits : Bool} {number turns : Nat}
    (h : session.carryOn waits number turns = some session') : Carried session session' := by
  induction turns generalizing session with
  | zero => cases h
  | succ turns ih =>
    rw [carryOn] at h
    split at h
    · rw [← Option.some.inj h]
      exact .refl session
    · exact (carried_turn session number).trans (ih h)

theorem carried_leadOn (cost : Phase Listener → Nat) (number turns work : Nat)
    (session : Session) : Carried session (session.leadOn cost number turns work) := by
  induction turns generalizing work session with
  | zero => exact .refl session
  | succ turns ih =>
    rw [leadOn]
    split
    · exact .refl session
    · exact (carried_turn session number).trans (ih ..)

/-! ## Operations -/

/-- The engine is asked, for which its handle is needed. -/
def needsHandle : Operation → Bool
  | .subscribe .. | .subscribeChannel _ | .state | .isRunning | .listenerCount | .requestStop
  | .run | .runWith _ | .start => true
  | _ => false

/-- The task that is held is asked. -/
def needsTask : Operation → Bool
  | .step | .taskStop | .taskFinished | .join => true
  | _ => false

/-- The token for the run that an operation asks for in the caller's own thread. -/
def runToken? : Operation → Option (Option String)
  | .run => some none
  | .runWith token => some (some token)
  | _ => none

/-- The session in which a task has just been started. -/
def withNewTask (session : Session) : Session :=
  { session.move (.begin none) with held := some session.world.tasks.length }

/-- All that an operation can do and answer. -/
inductive Performed (session : Session) : Operation → Session → Answer → Prop where
  | gone {operation : Operation} (needed : needsHandle operation = true)
      (dropped : session.hasHandle = false) : Performed session operation session .gone
  | noTask {operation : Operation} (needed : needsTask operation = true)
      (free : session.held = none) : Performed session operation session .noTask
  | subscribed (name : String) (actions : List Action) (handle : session.hasHandle = true) :
      Performed session (.subscribe name actions)
        (session.move (.subscribe (.callback name actions))) .nothing
  -- the new channel listens from now on and is empty; the others are as they were
  | opened {name : String} {session' : Session} (handle : session.hasHandle = true)
      (world : session'.world = session.world.move (.subscribe (.channel session.channels)))
      (named : session'.names.get? name = some session.channels)
      (empty : session'.queues.get? session.channels = some [])
      (others : ∀ channel queue, channel ≠ session.channels →
        session'.queues.get? channel = some queue → session.queues.get? channel = some queue)
      (kept : session'.events = session.events ∧ session'.held = session.held) :
      Performed session (.subscribeChannel name) session' .nothing
  | received {name : String} {number : Nat} {change : StateChange} {queue : List StateChange}
      (named : session.names.get? name = some number)
      (first : session.queues.get? number = some (change :: queue)) :
      Performed session (.receive name)
        { session with queues := session.queues.set number queue } (.change change)
  | unreceived {name : String} {answer : Answer}
      (nothing : ∀ number, session.names.get? name = some number →
        (session.queues.get? number).getD [] = [])
      (answers : answer = .noChannel ∨ answer = .empty ∨ answer = .disconnected) :
      Performed session (.receive name) session answer
  | closed {name : String} {number : Nat} (named : session.names.get? name = some number) :
      Performed session (.dropChannel name)
        { session with
          names := session.names.erase name
          queues := session.queues.erase number }
        (.flag true)
  | unclosed {name : String} (unnamed : session.names.get? name = none) :
      Performed session (.dropChannel name) session (.flag false)
  | state (handle : session.hasHandle = true) :
      Performed session .state session (.state session.world.engine.state)
  | isRunning (handle : session.hasHandle = true) :
      Performed session .isRunning session (.flag session.world.engine.running)
  | listenerCount (handle : session.hasHandle = true) :
      Performed session .listenerCount session (.count session.world.engine.listeners.length)
  | isCancelled (token : String) :
      Performed session (.isCancelled token) session
        (.flag (session.world.engine.isCancelled (.named token)))
  | taskFinished {number : Nat} (held : session.held = some number) :
      Performed session .taskFinished session (.flag (session.world.ending? number).isSome)
  | upgraded : Performed session .upgrade session (.flag session.isAlive)
  | requested (handle : session.hasHandle = true) :
      Performed session .requestStop (session.move .requestStop)
        (.flag session.world.engine.current.isSome)
  | cancelled (token : String) :
      Performed session (.cancel token) (session.move (.cancel token)) .nothing
  | taskStopped {number : Nat} (held : session.held = some number) :
      Performed session .taskStop (session.move (.stopTask number))
        (.flag ((session.world.move (.stopTask number)).isStopped number))
  | dropped : Performed session .dropEngine { session with hasHandle := false } .nothing
  | busy {operation : Operation} (asks : (runToken? operation).isSome ∨ operation = .start)
      (handle : session.hasHandle = true) (running : session.world.engine.running = true) :
      Performed session operation session .nothing
  -- the run begins, is carried on to its end, and its ending is the answer
  | ran {operation : Operation} {token : Option String} {session' : Session} {ending : Ending}
      (asks : runToken? operation = some token) (handle : session.hasHandle = true)
      (idle : session.world.engine.running = false)
      (carried : Carried (session.move (.begin token)) session')
      (ended : session'.world.ending? session.world.tasks.length = some ending) :
      Performed session operation session' (.ofEnding ending)
  | started {session' : Session} {answer : Answer} (handle : session.hasHandle = true)
      (idle : session.world.engine.running = false)
      (carried : Carried session.withNewTask session')
      (answers : answer = .started ∨ answer = session'.standing session.world.tasks.length) :
      Performed session .start session' answer
  | stepped {number : Nat} {session' : Session} (held : session.held = some number)
      (carried : Carried session session') :
      Performed session .step session' (session'.standing number)
  -- the task is carried on to its end, is no longer held, and its ending is the answer
  | joined {number : Nat} {session' : Session} {ending : Ending} (held : session.held = some number)
      (carried : Carried session session') (ended : session'.world.ending? number = some ending) :
      Performed session .join { session' with held := none } (.ofJoined ending)

theorem performed_runNow {pace : Pace} {operation : Operation} {token : Option String}
    {answer : Answer} (asks : runToken? operation = some token)
    (handle : session.hasHandle = true)
    (h : session.runNow pace token = some (session', answer)) :
    Performed session operation session' answer := by
  unfold runNow at h
  split at h
  · rename_i hrunning
    cases h
    exact .busy (.inl (by rw [asks]; rfl)) handle hrunning
  · rename_i hidle
    obtain ⟨there, hcarried, h⟩ := Option.bind_eq_some_iff.mp h
    obtain ⟨ending, hended, h⟩ := Option.bind_eq_some_iff.mp h
    cases h
    exact .ran asks handle (by simpa using hidle) (carried_carryOn hcarried) hended

theorem performed_startTask {pace : Pace} {answer : Answer} (handle : session.hasHandle = true)
    (h : session.startTask pace = some (session', answer)) :
    Performed session .start session' answer := by
  unfold startTask at h
  split at h
  · rename_i hrunning
    cases h
    exact .busy (.inr rfl) handle hrunning
  · rename_i hidle
    dsimp only at h
    split at h
    · obtain ⟨there, hcarried, h⟩ := Option.map_eq_some_iff.mp h
      cases h
      exact .started handle (by simpa using hidle) (carried_carryOn hcarried) (.inr rfl)
    · cases h
      exact .started handle (by simpa using hidle) (carried_leadOn ..) (.inl rfl)

theorem performed_joinTask {pace : Pace} {number : Nat} {answer : Answer}
    (held : session.held = some number)
    (h : session.joinTask pace number = some (session', answer)) :
    Performed session .join session' answer := by
  unfold joinTask at h
  obtain ⟨there, hthere, h⟩ := Option.bind_eq_some_iff.mp h
  obtain ⟨ending, hended, h⟩ := Option.bind_eq_some_iff.mp h
  have hcarried : Carried session there := by
    split at hthere
    · rw [← Option.some.inj hthere]
      exact .refl session
    · exact carried_carryOn hthere
  cases h
  exact .joined held hcarried hended

theorem performed_openChannel (handle : session.hasHandle = true) (name : String) :
    Performed session (.subscribeChannel name) (session.openChannel name) .nothing := by
  refine .opened handle rfl ?_ ?_ ?_ ⟨rfl, rfl⟩
  · simp [openChannel, Table.get?_set]
  · simp [openChannel, Table.get?_set]
  · intro channel queue hchannel hqueue
    simp only [openChannel, Table.get?_set, if_neg (Ne.symm hchannel)] at hqueue
    split at hqueue
    · exact Table.get?_of_erase hqueue
    · exact hqueue

theorem performed_receiveFrom (session : Session) (name : String) :
    Performed session (.receive name) (session.receiveFrom name).1
      (session.receiveFrom name).2 := by
  unfold receiveFrom
  split
  · rename_i hname
    exact .unreceived (by simp [hname]) (.inl rfl)
  · rename_i number hname
    split
    · rename_i change queue hqueue
      cases hfirst : session.queues.get? number with
      | none => simp [hfirst] at hqueue
      | some found => exact .received hname (by simpa [hfirst] using hqueue)
    · rename_i hqueue
      refine .unreceived (by simpa [hname] using hqueue) (.inr ?_)
      split
      · exact .inl rfl
      · exact .inr rfl

theorem performed_closeChannel (session : Session) (name : String) :
    Performed session (.dropChannel name) (session.closeChannel name).1
      (session.closeChannel name).2 := by
  unfold closeChannel
  split
  · exact .unclosed ‹_›
  · exact .closed ‹_›

/-- What needs the handle is done with it, or the engine is gone. -/
theorem performed_withHandle {operation : Operation} {use : Session → Option (Session × Answer)}
    {answer : Answer} (needed : needsHandle operation = true)
    (huse : session.hasHandle = true → use session = some (session', answer) →
      Performed session operation session' answer)
    (h : session.withHandle use = some (session', answer)) :
    Performed session operation session' answer := by
  unfold withHandle at h
  split at h
  · exact huse ‹_› h
  · rename_i hgone
    cases h
    exact .gone needed (by simpa using hgone)

theorem performed_withTask {operation : Operation} {use : Nat → Option (Session × Answer)}
    {answer : Answer} (needed : needsTask operation = true)
    (huse : ∀ number, session.held = some number → use number = some (session', answer) →
      Performed session operation session' answer)
    (h : session.withTask use = some (session', answer)) :
    Performed session operation session' answer := by
  unfold withTask at h
  split at h
  · exact huse _ ‹_› h
  · cases h
    exact .noTask needed ‹_›

theorem performed_operate {pace : Pace} {operation : Operation} {answer : Answer}
    (h : session.operate pace operation = some (session', answer)) :
    Performed session operation session' answer := by
  cases operation with
  | receive name =>
    have hdone := performed_receiveFrom session name
    rwa [Option.some.inj h] at hdone
  | dropChannel name =>
    have hdone := performed_closeChannel session name
    rwa [Option.some.inj h] at hdone
  | cancel token =>
    cases h
    exact .cancelled token
  | isCancelled token =>
    cases h
    exact .isCancelled token
  | dropEngine =>
    cases h
    exact .dropped
  | upgrade =>
    cases h
    exact .upgraded
  | subscribe name actions =>
    rw [operate] at h
    refine performed_withHandle rfl (fun hhandle h => ?_) h
    cases h
    exact .subscribed name actions hhandle
  | subscribeChannel name =>
    rw [operate] at h
    refine performed_withHandle rfl (fun hhandle h => ?_) h
    cases h
    exact performed_openChannel hhandle name
  | state =>
    rw [operate] at h
    refine performed_withHandle rfl (fun hhandle h => ?_) h
    cases h
    exact .state hhandle
  | isRunning =>
    rw [operate] at h
    refine performed_withHandle rfl (fun hhandle h => ?_) h
    cases h
    exact .isRunning hhandle
  | listenerCount =>
    rw [operate] at h
    refine performed_withHandle rfl (fun hhandle h => ?_) h
    cases h
    exact .listenerCount hhandle
  | requestStop =>
    rw [operate] at h
    refine performed_withHandle rfl (fun hhandle h => ?_) h
    have hflag : session.world.engine.requestStop.1 = session.world.engine.current.isSome := by
      unfold Engine.requestStop
      split <;> simp [*]
    rw [hflag] at h
    cases h
    exact .requested hhandle
  | run => exact performed_withHandle rfl (fun hhandle => performed_runNow rfl hhandle) h
  | runWith token => exact performed_withHandle rfl (fun hhandle => performed_runNow rfl hhandle) h
  | start => exact performed_withHandle rfl performed_startTask h
  | step =>
    rw [operate] at h
    refine performed_withTask rfl (fun number hheld h => ?_) h
    obtain ⟨there, hcarried, h⟩ := Option.map_eq_some_iff.mp h
    cases h
    exact .stepped hheld ((carried_turn session number).trans (carried_carryOn hcarried))
  | taskStop =>
    rw [operate] at h
    refine performed_withTask rfl (fun number hheld h => ?_) h
    cases h
    exact .taskStopped hheld
  | taskFinished =>
    rw [operate] at h
    refine performed_withTask rfl (fun number hheld h => ?_) h
    cases h
    exact .taskFinished hheld
  | join => exact performed_withTask rfl (fun number hheld => performed_joinTask hheld) h

end Session

end MacroScript
