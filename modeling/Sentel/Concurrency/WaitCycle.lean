import Sentel.Concurrency.System

namespace Sentel
namespace Concurrency

open Library Base Queue Event SessionMgr Auth Mqtt

/-!
# Processes that wait for each other

A process at a send waits for the receiver.  Main loops wait for the event
loop, the event loop waits for the session manager, and the session manager
waits for the main loop of a session that it tells about data.  The circle
closes when the session that is told is itself at a `Notify`.
-/

inductive WaitsFor (system : System) : Process -> Process -> Prop
  | notify {conn : ConnId} {process : SessionProcess} {event : BrokerEvent} {todo : List Effect}
      {rest : Continuation} (found : system.sessions conn = some process)
      (busy : process.mainLoop = .handling (.notify event :: todo) rest) :
      WaitsFor system (.mainLoop conn) .eventLoop
  | packet {conn : ConnId} {process : SessionProcess} {packet : MqttPacket}
      (found : system.sessions conn = some process)
      (busy : process.reader = .sendingPacket packet) :
      WaitsFor system (.reader conn) (.mainLoop conn)
  | error {conn : ConnId} {process : SessionProcess} {reason : GoString}
      (found : system.sessions conn = some process)
      (busy : process.reader = .sendingError reason) :
      WaitsFor system (.reader conn) (.mainLoop conn)
  | timeout {conn : ConnId} {process : SessionProcess}
      (found : system.sessions conn = some process) (busy : process.keepAlive = .sendingError) :
      WaitsFor system (.keepAlive conn) (.mainLoop conn)
  | forward {event : BrokerEvent} (busy : system.eventLoop = .forwarding event) :
      WaitsFor system .eventLoop .manager
  | tell {conn : ConnId} {pushes : List (QueueRef × Message)}
      (busy : system.manager = .telling conn pushes) :
      WaitsFor system .manager (.mainLoop conn)

/-- Some processes wait for each other in a circle. -/
def Deadlocked (system : System) : Prop :=
  exists process, Relation.TransGen (WaitsFor system) process process

/-! ## Sessions that are told and sessions that notify -/

def MainLoop.notifies : MainLoop -> Bool
  | .handling todo _ => !(notified todo).isEmpty
  | _ => false

namespace System

/-- A session is in a handler that has a `Notify` left. -/
def notifying (system : System) (conn : ConnId) : Bool :=
  (system.sessions conn).any (fun process => process.mainLoop.notifies)

def announced (system : System) (conn : ConnId) (move : Move) : List BrokerEvent :=
  match system.sessions conn with
  | none => []
  | some process =>
    match move, process.reader with
    | .takePacket host, .sendingPacket packet =>
      notified (system.round process host (.packet packet)).effects
    | .takeError host, .sendingError reason =>
      notified (system.round process host (.failure reason)).effects
    | .takeTimeout host, _ =>
      notified (system.round process host (.failure (timeoutReason process))).effects
    | _, _ => []

/-- The condition on a step.  The session manager begins to tell a session only
when the session is in no handler with a `Notify` left, and while it waits the
session begins no handler that notifies an event. -/
def separated (system : System) : Label -> Bool
  | .push =>
    match system.manager with
    | .pushing (push :: _) =>
      match system.broker.queueService.observer push.1 with
      | none => true
      | some conn => !system.notifying conn
    | _ => true
  | .session conn move => system.told != some conn || (system.announced conn move).isEmpty
  | _ => true

def Listens (system : System) : Prop :=
  forall conn, system.told = some conn -> system.notifying conn = false

end System

/-! ## Without the circle nothing is deadlocked -/

def rank (told : Option ConnId) : Process -> Nat
  | .mainLoop conn => if told = some conn then 0 else 3
  | .manager => 1
  | .eventLoop => 2
  | .reader _ => 4
  | .keepAlive _ => 4

theorem rank_mainLoop_lt (told : Option ConnId) (conn : ConnId) :
    rank told (.mainLoop conn) < 4 := by
  change (if told = some conn then 0 else 3) < 4
  split <;> decide

variable {system : System}

theorem WaitsFor.rank_lt (listens : system.Listens) {first second : Process}
    (waits : WaitsFor system first second) : rank system.told second < rank system.told first := by
  cases waits with
  | @notify conn process event todo rest found busy =>
    have other : system.told ≠ some conn := by
      intro told
      have silent := listens conn told
      rw [System.notifying, found, Option.any_some, busy] at silent
      cases silent
    change 2 < if system.told = some conn then 0 else 3
    rw [if_neg other]
    decide
  | packet found busy | error found busy | timeout found busy => exact rank_mainLoop_lt _ _
  | forward busy => exact Nat.lt_succ_self 1
  | @tell conn pushes busy =>
    have told : system.told = some conn := by rw [System.told, busy]
    change (if system.told = some conn then 0 else 3) < 1
    rw [if_pos told]
    decide

theorem System.Listens.not_deadlocked (listens : system.Listens) : ¬Deadlocked system := by
  rintro ⟨process, circle⟩
  have falls : forall {first second}, Relation.TransGen (WaitsFor system) first second ->
      rank system.told second < rank system.told first := by
    intro first second path
    induction path with
    | single waits => exact waits.rank_lt listens
    | tail _ waits ih => exact Nat.lt_trans (waits.rank_lt listens) ih
  exact Nat.lt_irrefl _ (falls circle)

/-! ## Separated steps -/

namespace System

@[simp] theorem notifying_setSession (system : System) (conn other : ConnId)
    (process : SessionProcess) :
    (system.setSession conn process).notifying other =
      if other = conn then process.mainLoop.notifies else system.notifying other := by
  unfold notifying setSession
  by_cases same : other = conn
  · rw [if_pos same, same]
    simp
  · rw [if_neg same]
    simp [Function.update_of_ne same]

variable {system next : System}

theorem Listens.update {conn : ConnId} (listens : system.Listens)
    (manager : next.manager = system.manager) {process : SessionProcess}
    (sessions : next.sessions = (system.setSession conn process).sessions)
    (silent : system.told = some conn -> process.mainLoop.notifies = false) : next.Listens := by
  have told : next.told = system.told := by rw [System.told, System.told, manager]
  have notifying : forall other, next.notifying other =
      if other = conn then process.mainLoop.notifies else system.notifying other := by
    intro other
    rw [← notifying_setSession, System.notifying, System.notifying, sessions]
  intro other tells
  rw [told] at tells
  rw [notifying]
  split
  case isTrue same => exact silent (same ▸ tells)
  case isFalse => exact listens other tells

theorem notifies_tail {effect : Effect} {todo : List Effect} {rest : Continuation}
    (silent : (MainLoop.handling (effect :: todo) rest).notifies = false) :
    (MainLoop.handling todo rest).notifies = false := by
  cases effect with
  | notify event => cases silent
  | _ => exact silent

theorem Listens.receive {system next : System} {conn : ConnId} {process : SessionProcess}
    {host : Host} {input : Input} (listens : system.Listens)
    (received : system.receive conn process host input = some next)
    (silent : system.told = some conn ->
      notified (system.round process host input).effects = []) : next.Listens := by
  rcases receive_eq received with ⟨rest, _, same⟩
  subst same
  refine listens.update rfl rfl (fun told => ?_)
  rw [MainLoop.notifies, silent told]
  rfl

theorem Listens.move {conn : ConnId} {process : SessionProcess} {move : Move}
    (listens : system.Listens) (found : system.sessions conn = some process)
    (separated : system.separated (.session conn move) = true)
    (moves : system.Moves conn process move next) : next.Listens := by
  have silent : system.told = some conn -> process.mainLoop.notifies = false := by
    intro told
    have quiet := listens conn told
    rw [notifying, found] at quiet
    exact quiet
  have announces : system.told = some conn -> system.announced conn move = [] := by
    intro told
    rw [System.separated, told, bne_self_eq_false, Bool.false_or] at separated
    exact List.isEmpty_iff.mp separated
  unfold announced at announces
  rw [found] at announces
  cases moves with
  | decode _ _ | decodeFails _ | timeout _ => exact listens.update rfl rfl silent
  | takePacket idle sent received | takeError idle sent received =>
    simp only [sent] at announces
    exact listens.receive received announces
  | takeTimeout idle received => exact listens.receive received announces
  | act busy _ | notify busy _ =>
    refine listens.update rfl rfl (fun told => ?_)
    exact notifies_tail (busy ▸ silent told)
  | finish busy ends =>
    refine listens.update rfl rfl (fun _ => ?_)
    rcases ends with ⟨selects, _⟩ | ⟨returns, _⟩
    · rw [selects]
      rfl
    · rw [returns]
      rfl

theorem Listens.step {label : Label} (listens : system.Listens)
    (separated : system.separated label = true) (taken : system.step label = some next) :
    next.Listens := by
  cases label with
  | accept conn authNeed =>
    cases taken
    exact listens.update rfl rfl (fun _ => rfl)
  | session conn move =>
    rcases Option.bind_eq_some_iff.mp taken with ⟨process, found, moved⟩
    exact listens.move found separated (stepSession_moves moved)
  | forward order dial =>
    simp only [System.step] at taken
    split at taken
    · cases taken
      exact fun _ tells => nomatch tells
    · cases taken
  | publish =>
    simp only [System.step] at taken
    split at taken
    · cases taken
      exact listens
    · cases taken
  | push =>
    simp only [System.step] at taken
    split at taken
    case h_1 push later pushing =>
      cases taken
      rw [System.separated, pushing] at separated
      intro conn tells
      cases observed : system.broker.queueService.observer push.1 with
      | none =>
        rw [System.told] at tells
        simp only [observed] at tells
        cases tells
      | some other =>
        rw [System.told] at tells
        simp only [observed] at tells separated
        cases tells
        exact (Bool.not_eq_true' _).mp separated
    case h_2 => cases taken
  | tell host =>
    simp only [System.step] at taken
    split at taken
    case h_1 conn later telling =>
      rcases Option.bind_eq_some_iff.mp taken with ⟨process, found, received⟩
      split at received
      · have listening : { system with manager := .pushing later }.Listens :=
          fun _ tells => nomatch tells
        exact listening.receive received (fun tells => nomatch tells)
      · cases received
    case h_2 => cases taken
  | pushed =>
    simp only [System.step] at taken
    split at taken
    · cases taken
      exact fun _ tells => nomatch tells
    · cases taken

end System

/-- In every run whose steps are separated no processes wait for each other in
a circle. -/
theorem not_deadlocked_of_separated {brokerId : GoString} {system : System}
    (reached : (machine brokerId).Reaches (fun system label => system.separated label = true)
      system) : ¬Deadlocked system := by
  have start : (start brokerId).Listens := fun _ tells => nomatch tells
  have listens : system.Listens :=
    reached.invariant start (fun listens separated taken => listens.step separated taken)
  exact listens.not_deadlocked

/-- A client is told about its own message and no process is deadlocked. -/
theorem publisher_told_without_deadlock :
    exists system, (machine (ascii "b")).Reaches
        (fun system label => system.separated label = true) system ∧
      system.told = some 0 ∧ ¬Deadlocked system := by
  have executed : ((machine (ascii "b")).run (start (ascii "b")) (subscribes ++ publishes)).any
      (fun system => decide (system.told = some 0)) = true := by
    decide +kernel
  have separated : (machine (ascii "b")).Allowed
      (fun system label => system.separated label = true) (start (ascii "b"))
      (subscribes ++ publishes) := by
    decide +kernel
  rcases (Option.any_eq_true _ _).mp executed with ⟨system, executed, told⟩
  have reached := Machine.reaches_of_run .initial separated executed
  exact ⟨system, reached, of_decide_eq_true told, not_deadlocked_of_separated reached⟩

def MainLoop.atNotify : MainLoop -> Bool
  | .handling (.notify _ :: _) _ => true
  | _ => false

def EventLoop.isForwarding : EventLoop -> Bool
  | .forwarding _ => true
  | _ => false

theorem deadlocked_of_circle {conn : ConnId}
    (notifies : (system.sessions conn).any (fun process => process.mainLoop.atNotify) = true)
    (forwards : system.eventLoop.isForwarding = true) (told : system.told = some conn) :
    Deadlocked system := by
  have first : WaitsFor system (.mainLoop conn) .eventLoop := by
    rcases (Option.any_eq_true _ _).mp notifies with ⟨process, found, waits⟩
    unfold MainLoop.atNotify at waits
    split at waits
    case h_1 busy => exact .notify found busy
    case h_2 => cases waits
  have second : WaitsFor system .eventLoop .manager := by
    unfold EventLoop.isForwarding at forwards
    split at forwards
    case h_1 busy => exact .forward busy
    case h_2 => cases forwards
  have third : WaitsFor system .manager (.mainLoop conn) := by
    unfold System.told at told
    split at told
    case h_1 busy =>
      cases told
      exact .tell busy
    case h_2 => cases told
  exact ⟨.mainLoop conn, ((Relation.TransGen.single first).tail second).tail third⟩

def publishesOn : List Label :=
  sends 0 publishRequest ++ [.session 0 .notify, .session 0 .finish] ++ sends 0 publishRequest

/-- A client that publishes on a topic it subscribes to deadlocks the broker. -/
theorem publisher_deadlocks :
    exists system, (machine (ascii "b")).Reachable system ∧ Deadlocked system := by
  have executed : ((machine (ascii "b")).run (start (ascii "b"))
      (subscribes ++ publishes ++ publishesOn)).any (fun system =>
        (system.sessions 0).any (fun process => process.mainLoop.atNotify) &&
          system.eventLoop.isForwarding && decide (system.told = some 0)) = true := by
    decide +kernel
  rcases (Option.any_eq_true _ _).mp executed with ⟨system, executed, circle⟩
  rcases (Bool.and_eq_true _ _).mp circle with ⟨waits, told⟩
  rcases (Bool.and_eq_true _ _).mp waits with ⟨notifies, forwards⟩
  exact ⟨system, Machine.reachable_of_run .initial executed,
    deadlocked_of_circle notifies forwards (of_decide_eq_true told)⟩

end Concurrency
end Sentel
