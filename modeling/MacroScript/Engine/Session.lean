import MacroScript.Engine.World
import MacroScript.Table

/-! Sessions: histories of operations on one engine, with commands and listeners that act on the
engine themselves. What a command or a listener does is given as a list of actions, so a session is
a value and each operation is a function on it. All that happens in a session happens by moves in
its one world.

A run is carried on in turns. In a gated session a task that was started waits at each command
until it is released; in any other session it goes on by itself, and what it does is not seen before
it is joined. An operation that waits for a run gives nothing when the run does not come to an end
within the turns there are. Every task that is started here gets its thread. -/

namespace MacroScript

inductive Action where
  | requestStop
  | run
  | start
  | state
  | isRunning
  | listenerCount
  | subscribe (name : String) (actions : List Action)
  | cancel (token : String)
  | fail (message : String)
  | panic (payload : Panic)

/-- Who is told of changes: a named listener with actions, or the sending end of a channel. -/
inductive Listener where
  | callback (name : String) (actions : List Action)
  | channel (number : Nat)

/-- Actions to perform at commands: at the one with a given rank among all commands, at those with a
given text, or, with both, where both hold. -/
structure Rule where
  rank : Option Nat
  command : Option String
  actions : List Action

def Rule.applies (rule : Rule) (rank : Nat) (command : String) : Bool :=
  rule.rank.all (· = rank) && rule.command.all (· = command)

inductive Answer where
  | nothing
  | flag (value : Bool)
  | count (value : Nat)
  | state (state : RunState)
  | change (change : StateChange)
  | panicked (panic : Panic)
  | error (error : RunError)
  | started
  | waiting (command : String)
  | finished
  | empty
  | disconnected
  | noChannel
  | noTask
  | gone
  deriving DecidableEq

def Answer.ofEnding : Ending → Answer
  | .changed told => .change told
  | .panicked cause => .panicked cause

def Answer.ofJoined (ending : Ending) : Answer :=
  match ending.joined with
  | .ok told => .change told
  | .error cause => .error cause

inductive Event where
  | command (text : String)
  | action (action : Action) (answer : Answer)
  | listener (name : String) (change : StateChange)

inductive Operation where
  | subscribe (name : String) (actions : List Action)
  | subscribeChannel (name : String)
  | receive (name : String)
  | dropChannel (name : String)
  | state
  | isRunning
  | listenerCount
  | requestStop
  | cancel (token : String)
  | isCancelled (token : String)
  | run
  | runWith (token : String)
  | start
  | step
  | taskStop
  | taskFinished
  | join
  | dropEngine
  | upgrade

/-- How far runs are carried on: the turns that an operation waits for a run, and the head start of
a task that goes on by itself, in turns and in work. -/
structure Pace where
  turns : Nat
  headStart : Nat
  work : Nat
  cost : Phase Listener → Nat

/-- An engine with all that its clients hold. The receiving ends of channels are kept by number; a
channel whose receiving end is gone takes nothing in. -/
structure Session where
  script : Except RunError Script
  gated : Bool := false
  rules : List Rule := []
  world : World Listener := {}
  hasHandle : Bool := true
  held : Option Nat := none
  commands : Nat := 0
  names : Table String Nat := {}
  channels : Nat := 0
  queues : Table Nat (List StateChange) := {}
  events : Array Event := #[]

namespace Session

def see (session : Session) (event : Event) : Session :=
  { session with events := session.events.push event }

def move (session : Session) (step : Move Listener) : Session :=
  { session with world := session.world.move step }

/-- The engine lives as long as its handle is held or a run is in progress. -/
def isAlive (session : Session) : Bool :=
  session.hasHandle || session.held.any fun number => (session.world.ending? number).isNone

/-- Carries out an action of a command or a listener that is being called. A run that is asked for
there is refused, because the run that makes the call holds the engine. -/
def act (session : Session) (action : Action) : Session × Answer :=
  let engine := session.world.engine
  match action with
  | .requestStop => (session.move .requestStop, .flag engine.requestStop.1)
  | .run | .start => (session.move (.begin none), .flag (!engine.running))
  | .state => (session, .state engine.state)
  | .isRunning => (session, .flag engine.running)
  | .listenerCount => (session, .count engine.listeners.length)
  | .subscribe name actions => (session.move (.subscribe (.callback name actions)), .nothing)
  | .cancel token => (session.move (.cancel token), .nothing)
  | .fail _ | .panic _ => (session, .nothing)

/-- Performs actions in order until one fails or panics; a listener has nobody to fail to, so there
a failure is passed over. -/
def perform (canFail : Bool) : List Action → Session → Session × Reply
  | [], session => (session, .accepted)
  | .fail message :: rest, session =>
    if canFail then (session, .rejected message) else perform canFail rest session
  | .panic payload :: _, session => (session, .panicked payload)
  | action :: rest, session =>
    let (session, answer) := session.act action
    perform canFail rest (session.see (.action action answer))

/-- A command arrives: it is counted and seen. -/
def announce (session : Session) (command : String) : Session :=
  { session.see (.command command) with commands := session.commands + 1 }

def answer (session : Session) (command : String) : Session × Reply :=
  let applying := session.rules.filter (·.applies session.commands command)
  session.perform true (applying.flatMap (·.actions))

def tell (session : Session) (listener : Listener) (change : StateChange) : Session × Reply :=
  match listener with
  | .callback name actions => (session.see (.listener name change)).perform false actions
  | .channel number =>
    match session.queues.get? number with
    | some queue =>
      ({ session with queues := session.queues.set number (queue ++ [change]) }, .accepted)
    | none => (session, .accepted)

/-- The next turn of a run: the command or the listener that it waits for comes back, or the run
takes a step, with which a command may arrive. -/
def turn (number : Nat) (session : Session) : Session :=
  match session.world.phase number with
  | .calling _ command =>
    let (session, reply) := session.answer command
    session.move (.reply number reply)
  | .hearing change listener _ =>
    let (session, reply) := session.tell listener change
    session.move (.reply number reply)
  | _ =>
    let session := session.move (.advance number session.script)
    match session.world.phase number with
    | .calling _ command => session.announce command
    | _ => session

/-- The run is over or, if it `waits` at commands, has come to one. -/
def rests (waits : Bool) (number : Nat) (session : Session) : Bool :=
  match session.world.phase number with
  | .ended _ => true
  | .calling .. => waits
  | _ => false

/-- Carries a run on until it rests. -/
def carryOn (waits : Bool) (number : Nat) : (turns : Nat) → Session → Option Session
  | 0, _ => none
  | turns + 1, session =>
    if session.rests waits number then some session
    else carryOn waits number turns (session.turn number)

/-- Carries a run on by itself for a while, as long as there is work allowed for. -/
def leadOn (cost : Phase Listener → Nat) (number : Nat) : (turns work : Nat) → Session → Session
  | 0, _, session => session
  | turns + 1, work, session =>
    let next := cost (session.world.phase number)
    if session.rests false number || work < next then session
    else leadOn cost number turns (work - next) (session.turn number)

def standing (number : Nat) (session : Session) : Answer :=
  match session.world.phase number with
  | .calling _ command => .waiting command
  | _ => .finished

def runNow (pace : Pace) (token : Option String) (session : Session) :
    Option (Session × Answer) :=
  if session.world.engine.running then some (session, .nothing)
  else do
    let number := session.world.tasks.length
    let session ← (session.move (.begin token)).carryOn false number pace.turns
    let ending ← session.world.ending? number
    return (session, .ofEnding ending)

def startTask (pace : Pace) (session : Session) : Option (Session × Answer) :=
  if session.world.engine.running then some (session, .nothing)
  else
    let number := session.world.tasks.length
    let session := { session.move (.begin none) with held := some number }
    if session.gated then
      (session.carryOn true number pace.turns).map fun session => (session, session.standing number)
    else some (session.leadOn pace.cost number pace.headStart pace.work, .started)

/-- Waits for the held task, which is then no longer held. There is nobody to release a command
meanwhile. -/
def joinTask (pace : Pace) (number : Nat) (session : Session) : Option (Session × Answer) := do
  let session ←
    (if session.gated then some session else session.carryOn false number pace.turns)
  let ending ← session.world.ending? number
  return ({ session with held := none }, .ofJoined ending)

/-- A new channel under a name; an earlier one of the name is dropped. -/
def openChannel (session : Session) (name : String) : Session :=
  let queues := match session.names.get? name with
    | some number => session.queues.erase number
    | none => session.queues
  { session.move (.subscribe (.channel session.channels)) with
    names := session.names.set name session.channels
    channels := session.channels + 1
    queues := queues.set session.channels [] }

def receiveFrom (session : Session) (name : String) : Session × Answer :=
  match session.names.get? name with
  | none => (session, .noChannel)
  | some number =>
    match (session.queues.get? number).getD [] with
    | change :: queue =>
      ({ session with queues := session.queues.set number queue }, .change change)
    | [] => (session, if session.isAlive then .empty else .disconnected)

/-- Drops the receiving end of a channel; tells whether there was one. -/
def closeChannel (session : Session) (name : String) : Session × Answer :=
  match session.names.get? name with
  | none => (session, .flag false)
  | some number =>
    ({ session with names := session.names.erase name, queues := session.queues.erase number },
      .flag true)

def withHandle (session : Session) (use : Session → Option (Session × Answer)) :
    Option (Session × Answer) :=
  if session.hasHandle then use session else some (session, .gone)

def withTask (session : Session) (use : Nat → Option (Session × Answer)) :
    Option (Session × Answer) :=
  match session.held with
  | some number => use number
  | none => some (session, .noTask)

def operate (pace : Pace) (session : Session) : Operation → Option (Session × Answer)
  | .subscribe name actions => session.withHandle fun session =>
    some (session.move (.subscribe (.callback name actions)), .nothing)
  | .subscribeChannel name => session.withHandle fun session =>
    some (session.openChannel name, .nothing)
  | .receive name => some (session.receiveFrom name)
  | .dropChannel name => some (session.closeChannel name)
  | .state => session.withHandle fun session => some (session, .state session.world.engine.state)
  | .isRunning => session.withHandle fun session =>
    some (session, .flag session.world.engine.running)
  | .listenerCount => session.withHandle fun session =>
    some (session, .count session.world.engine.listeners.length)
  | .requestStop => session.withHandle fun session =>
    some (session.move .requestStop, .flag session.world.engine.requestStop.1)
  | .cancel token => some (session.move (.cancel token), .nothing)
  | .isCancelled token =>
    some (session, .flag (session.world.engine.isCancelled (.named token)))
  | .run => session.withHandle (runNow pace none)
  | .runWith token => session.withHandle (runNow pace (some token))
  | .start => session.withHandle (startTask pace)
  | .step => session.withTask fun number =>
    ((session.turn number).carryOn true number pace.turns).map fun session =>
      (session, session.standing number)
  | .taskStop => session.withTask fun number =>
    let session := session.move (.stopTask number)
    some (session, .flag (session.world.isStopped number))
  | .taskFinished => session.withTask fun number =>
    some (session, .flag (session.world.ending? number).isSome)
  | .join => session.withTask fun number => session.joinTask pace number
  | .dropEngine => some ({ session with hasHandle := false }, .nothing)
  | .upgrade => some (session, .flag session.isAlive)

/-- The events that can be seen now, which are then no longer kept: what a task does on its own is
seen only once it is no longer held. -/
def takeEvents (session : Session) : Session × List Event :=
  if !session.gated && session.held.isSome then (session, [])
  else ({ session with events := #[] }, session.events.toList)

/-- Carries out operations in order; each gives its answer and the events that can be seen after
it. -/
def history (pace : Pace) : Session → List Operation →
    Option (Session × List (Answer × List Event))
  | session, [] => some (session, [])
  | session, operation :: rest => do
    let (session, answer) ← session.operate pace operation
    let (session, events) := session.takeEvents
    let (session, entries) ← history pace session rest
    return (session, (answer, events) :: entries)

end Session

end MacroScript
