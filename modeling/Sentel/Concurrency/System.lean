import Sentel.Mqtt.Authentication
import Sentel.Mqtt.Framing

namespace Sentel
namespace Concurrency

open Library Base Queue Event SessionMgr Auth Mqtt

/-!
# The processes of a broker

A broker runs one event loop, one loop of the session manager, and for every
connection a main loop, a goroutine that reads packets and, once a keep-alive
time was agreed on, a goroutine that waits for the timer.  They exchange values
over unbuffered channels.  A send waits until its receiver is at its `select`,
so an exchange is one step of both processes, and a process that is at a send
does nothing else.

A main loop that has received something runs a handler.  The handler's work on
the shared maps takes effect when it starts, and its effects on the outside are
then carried out one by one.  `Notify` is the only one of them that waits.
Events of other services and of other brokers do not reach the event channel
and are left out, as are the subscribers of the event loop that take every
event at once.
-/

/-- What a main loop does after a handler. -/
inductive Continuation
  | selects
  | returns
  | spins
  deriving DecidableEq

/-- The main loop of a session is at its `select`, has effects of a handler
left to carry out, or has returned. -/
inductive MainLoop
  | selecting
  | handling (todo : List Effect) (rest : Continuation)
  | returned
  deriving DecidableEq

inductive Reader
  | reading
  | sendingPacket (packet : MqttPacket)
  | sendingError (reason : GoString)
  | returned

/-- The goroutine of the keep-alive timer.  The reader may start a stopped
timer again, so a timer can run out at any time. -/
inductive KeepAlive
  | off
  | waiting
  | sendingError
  | returned
  deriving DecidableEq

/-- The processes of one connection and the channels that `disconnect` closes. -/
structure SessionProcess where
  session : MqttSession
  mainLoop : MainLoop := .selecting
  reader : Reader := .reading
  keepAlive : KeepAlive := .off
  connOpen : Bool := true
  availableOpen : Bool := true
  packetOpen : Bool := true

/-- The event loop is at its `select`, sends an event to the session manager,
or publishes it for the other brokers. -/
inductive EventLoop
  | selecting
  | forwarding (event : BrokerEvent)
  | publishing
  deriving DecidableEq

/-- The session manager is at its `select`, has copies of a message left to
push, or tells a session that its queue has data. -/
inductive Manager
  | selecting
  | pushing (pushes : List (QueueRef × Message))
  | telling (conn : ConnId) (pushes : List (QueueRef × Message))
  deriving DecidableEq

structure System where
  broker : Broker
  sessions : ConnId -> Option SessionProcess
  eventLoop : EventLoop
  manager : Manager
  next : ConnId

def start (brokerId : GoString) : System where
  broker := newBroker brokerId
  sessions := fun _ => none
  eventLoop := .selecting
  manager := .selecting
  next := 0

inductive Process
  | mainLoop (conn : ConnId)
  | reader (conn : ConnId)
  | keepAlive (conn : ConnId)
  | eventLoop
  | manager
  deriving DecidableEq

/-! ## Steps -/

/-- The steps of the processes of one connection. -/
inductive Move
  | decode (packet : MqttPacket)
  | decodeFails (reason : GoString)
  | timeout
  | takePacket (host : Host)
  | takeError (host : Host)
  | takeTimeout (host : Host)
  | act
  | notify
  | finish

/-- One step of one process, or of the two that exchange a value. -/
inductive Label
  | accept (conn : Connection) (authNeed : Bool)
  | session (conn : ConnId) (move : Move)
  | forward (order : RangeOrder) (dial : Except GoString Unit)
  | publish
  | push
  | tell (host : Host)
  | pushed

namespace System

def setSession (system : System) (conn : ConnId) (process : SessionProcess) : System :=
  { system with sessions := Function.update system.sessions conn (some process) }

/-- What follows the rounds of a main loop.  A panic ends the broker. -/
def continuation (session : MqttSession) : Outcome GoString (Option GoString) -> Option Continuation
  | .ok none => some (if session.sessionState = .disconnected then .returns else .selects)
  | .ok (some _) => some .returns
  | .error _ => none
  | .panic _ => none
  | .diverges => some .spins

def round (system : System) (process : SessionProcess) (host : Host) (input : Input) :
    Run Scene Effect GoString (Option GoString) :=
  handleInput host input
    { session := process.session, packet := newMqttPacket, broker := system.broker }

def receive (system : System) (conn : ConnId) (process : SessionProcess) (host : Host)
    (input : Input) : Option System :=
  let run := system.round process host input
  (continuation run.state.session run.outcome).map (fun rest =>
    { system.setSession conn { process with
        session := run.state.session
        mainLoop := .handling run.effects rest } with
      broker := run.state.broker })

def perform (process : SessionProcess) : Effect -> SessionProcess
  | .startTimer => { process with keepAlive := .waiting }
  | .closeConn => { process with connOpen := false }
  | .closeAvailableChan => { process with availableOpen := false }
  | .closePacketChan => { process with packetOpen := false }
  | _ => process

def timeoutReason (process : SessionProcess) : GoString :=
  ascii "mqtt time out for client '" ++ process.session.clientID ++ ascii "'"

def forwarded : BrokerEvent -> EventLoop
  | .sessionResume _ => .publishing
  | event => .forwarding event

def stepSession (system : System) (conn : ConnId) (process : SessionProcess) :
    Move -> Option System
  | .decode packet =>
    match process.reader with
    | .reading =>
      if process.connOpen then
        some (system.setSession conn { process with reader := .sendingPacket packet })
      else none
    | _ => none
  | .decodeFails reason =>
    match process.reader with
    | .reading => some (system.setSession conn { process with
        reader := .sendingError (ascii "mqtt packet decoder failed:" ++ reason) })
    | _ => none
  | .timeout =>
    match process.keepAlive with
    | .waiting => some (system.setSession conn { process with keepAlive := .sendingError })
    | _ => none
  | .takePacket host =>
    match process.mainLoop, process.reader with
    | .selecting, .sendingPacket packet =>
      system.receive conn { process with reader := .reading } host (.packet packet)
    | _, _ => none
  | .takeError host =>
    match process.mainLoop, process.reader with
    | .selecting, .sendingError reason =>
      system.receive conn { process with reader := .returned } host (.failure reason)
    | _, _ => none
  | .takeTimeout host =>
    match process.mainLoop, process.keepAlive with
    | .selecting, .sendingError =>
      system.receive conn { process with keepAlive := .returned } host
        (.failure (timeoutReason process))
    | _, _ => none
  | .act =>
    match process.mainLoop with
    | .handling (.notify _ :: _) _ => none
    | .handling (effect :: todo) rest => some (system.setSession conn
        { perform process effect with mainLoop := .handling todo rest })
    | _ => none
  | .notify =>
    match process.mainLoop, system.eventLoop with
    | .handling (.notify event :: todo) rest, .selecting =>
      some { system.setSession conn { process with mainLoop := .handling todo rest } with
        eventLoop := forwarded event }
    | _, _ => none
  | .finish =>
    match process.mainLoop with
    | .handling [] .selects =>
      some (system.setSession conn { process with mainLoop := .selecting })
    | .handling [] .returns =>
      some (system.setSession conn { process with mainLoop := .returned })
    | _ => none

def step (system : System) : Label -> Option System
  | .accept conn authNeed => some { system.setSession system.next
      { session := newMqttSession system.next conn authNeed } with next := system.next + 1 }
  | .session conn move =>
    (system.sessions conn).bind (fun process => system.stepSession conn process move)
  | .forward order dial =>
    match system.eventLoop, system.manager with
    | .forwarding event, .selecting =>
      let handled := system.broker.handleEvent order dial event
      some { system with
        broker := handled.1
        eventLoop := .publishing
        manager := .pushing handled.2 }
    | _, _ => none
  | .publish =>
    match system.eventLoop with
    | .publishing => some { system with eventLoop := .selecting }
    | _ => none
  | .push =>
    match system.manager with
    | .pushing (push :: later) => some { system with
        broker := system.broker.pushback push
        manager := match system.broker.queueService.observer push.1 with
          | none => .pushing later
          | some conn => .telling conn later }
    | _ => none
  | .tell host =>
    match system.manager with
    | .telling conn later =>
      (system.sessions conn).bind (fun process =>
        match process.mainLoop with
        | .selecting => { system with manager := .pushing later }.receive conn process host
            (.available availableQueue)
        | _ => none)
    | _ => none
  | .pushed =>
    match system.manager with
    | .pushing [] => some { system with manager := .selecting }
    | _ => none

def told (system : System) : Option ConnId :=
  match system.manager with
  | .telling conn _ => some conn
  | _ => none

/-! ## What a step can do -/

theorem receive_eq {system next : System} {conn : ConnId} {process : SessionProcess} {host : Host}
    {input : Input} (received : system.receive conn process host input = some next) :
    exists rest,
      continuation (system.round process host input).state.session
        (system.round process host input).outcome = some rest ∧
      next = { system.setSession conn { process with
          session := (system.round process host input).state.session
          mainLoop := .handling (system.round process host input).effects rest } with
        broker := (system.round process host input).state.broker } := by
  rcases Option.map_eq_some_iff.mp received with ⟨rest, continues, same⟩
  exact ⟨rest, continues, same.symm⟩

inductive Moves (system : System) (conn : ConnId) (process : SessionProcess) :
    Move -> System -> Prop
  | decode {packet : MqttPacket} (idle : process.reader = .reading)
      (connected : process.connOpen = true) :
      Moves system conn process (.decode packet)
        (system.setSession conn { process with reader := .sendingPacket packet })
  | decodeFails {reason text : GoString} (idle : process.reader = .reading) :
      Moves system conn process (.decodeFails reason)
        (system.setSession conn { process with reader := .sendingError text })
  | timeout (idle : process.keepAlive = .waiting) :
      Moves system conn process .timeout
        (system.setSession conn { process with keepAlive := .sendingError })
  | takePacket {host : Host} {packet : MqttPacket} {next : System}
      (idle : process.mainLoop = .selecting) (sent : process.reader = .sendingPacket packet)
      (received : system.receive conn { process with reader := .reading } host (.packet packet) =
        some next) :
      Moves system conn process (.takePacket host) next
  | takeError {host : Host} {reason : GoString} {next : System}
      (idle : process.mainLoop = .selecting) (sent : process.reader = .sendingError reason)
      (received : system.receive conn { process with reader := .returned } host (.failure reason) =
        some next) :
      Moves system conn process (.takeError host) next
  | takeTimeout {host : Host} {next : System} (idle : process.mainLoop = .selecting)
      (received : system.receive conn { process with keepAlive := .returned } host
        (.failure (timeoutReason process)) = some next) :
      Moves system conn process (.takeTimeout host) next
  | act {effect : Effect} {todo : List Effect} {rest : Continuation}
      (busy : process.mainLoop = .handling (effect :: todo) rest)
      (silent : forall event, effect ≠ .notify event) :
      Moves system conn process .act
        (system.setSession conn { perform process effect with mainLoop := .handling todo rest })
  | notify {event : BrokerEvent} {todo : List Effect} {rest : Continuation}
      (busy : process.mainLoop = .handling (.notify event :: todo) rest)
      (idle : system.eventLoop = .selecting) :
      Moves system conn process .notify
        { system.setSession conn { process with mainLoop := .handling todo rest } with
          eventLoop := forwarded event }
  | finish {rest : Continuation} {done : MainLoop} (busy : process.mainLoop = .handling [] rest)
      (ends : done = .selecting ∧ rest = .selects ∨ done = .returned ∧ rest = .returns) :
      Moves system conn process .finish
        (system.setSession conn { process with mainLoop := done })

theorem stepSession_moves {system next : System} {conn : ConnId} {process : SessionProcess}
    {move : Move} (taken : system.stepSession conn process move = some next) :
    Moves system conn process move next := by
  cases move with
  | decode packet =>
    simp only [stepSession] at taken
    split at taken
    case h_1 idle =>
      split at taken
      case isTrue connOpen =>
        cases taken
        exact .decode idle connOpen
      case isFalse => cases taken
    case h_2 => cases taken
  | decodeFails reason =>
    simp only [stepSession] at taken
    split at taken
    case h_1 idle =>
      cases taken
      exact .decodeFails idle
    case h_2 => cases taken
  | timeout =>
    simp only [stepSession] at taken
    split at taken
    case h_1 idle =>
      cases taken
      exact .timeout idle
    case h_2 => cases taken
  | takePacket host =>
    simp only [stepSession] at taken
    split at taken
    case h_1 packet idle sent => exact .takePacket idle sent taken
    case h_2 => cases taken
  | takeError host =>
    simp only [stepSession] at taken
    split at taken
    case h_1 reason idle sent => exact .takeError idle sent taken
    case h_2 => cases taken
  | takeTimeout host =>
    simp only [stepSession] at taken
    split at taken
    case h_1 idle _ => exact .takeTimeout idle taken
    case h_2 => cases taken
  | act =>
    simp only [stepSession] at taken
    split at taken
    case h_1 => cases taken
    case h_2 effect todo rest waits busy =>
      cases taken
      exact .act busy (fun event same => waits event (by rw [same]))
    case h_3 => cases taken
  | notify =>
    simp only [stepSession] at taken
    split at taken
    case h_1 event todo rest busy idle =>
      cases taken
      exact .notify busy idle
    case h_2 => cases taken
  | finish =>
    simp only [stepSession] at taken
    split at taken
    case h_1 busy =>
      cases taken
      exact .finish busy (.inl ⟨rfl, rfl⟩)
    case h_2 busy =>
      cases taken
      exact .finish busy (.inr ⟨rfl, rfl⟩)
    case h_3 => cases taken

end System

def machine (brokerId : GoString) : Machine System Label where
  initial := start brokerId
  step := System.step

/-! ## A client -/

def request (command : UInt8) (body : List UInt8) : MqttPacket :=
  { newMqttPacket with
    command := command
    remainingLength := body.length
    payload := ⟨body, []⟩ }

def connectRequest : MqttPacket :=
  request CONNECT (shortField (ascii "MQTT") ++ [4, 0xC2, 0, 0] ++
    shortField (ascii "c|timestamp=1") ++ shortField (ascii "d&p") ++ shortField [])

def subscribeRequest : MqttPacket :=
  request (SUBSCRIBE ||| 2) ([0, 1] ++ shortField (ascii "t") ++ [0])

def publishRequest : MqttPacket :=
  request PUBLISH (shortField (ascii "t") ++ [1])

def sends (conn : ConnId) (packet : MqttPacket) : List Label :=
  [.session conn (.decode packet), .session conn (.takePacket quietHost)]

def handles : List Label := [.forward .listed (.ok ()), .pushed, .publish]

def subscribes : List Label :=
  ([.accept reliableConn false] : List Label) ++ sends 0 connectRequest ++
    ([.session 0 .act, .session 0 .act, .session 0 .notify] : List Label) ++ handles ++
    ([.session 0 .act, .session 0 .act, .session 0 .finish] : List Label) ++
  sends 0 subscribeRequest ++ ([.session 0 .notify] : List Label) ++ handles ++
    ([.session 0 .act, .session 0 .finish] : List Label)

def publishes : List Label :=
  sends 0 publishRequest ++ [.session 0 .notify, .session 0 .finish,
    .forward .listed (.ok ()), .publish, .push]

end Concurrency
end Sentel
