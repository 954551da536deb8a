import Sentel.Concurrency.SessionPhase
import Sentel.SessionMgr.QueueReach

namespace Sentel
namespace Concurrency

open Library Base Queue Event SessionMgr Auth Mqtt

/-!
# Sends on closed channels

The end of a session closes its connection and then the two channels on which
others send to it.  The reader may be at its send of a packet at that moment.
The session manager may be at its send about data, or may come to it later: the
session stays the observer of its queue until the session manager has handled
the end of the session.  Either send is a panic of the whole broker.

The condition below is on the two steps that close a channel.  It asks that
nobody is at a send and that no queue which the session manager can still reach
is observed by the session.  What can be reached later was registered,
subscribed to or about to be pushed before, so this stays true for good.
-/

/-- A process is at a send on a channel that has been closed. -/
inductive SendsOnClosed (system : System) : Process -> Prop
  | packet {conn : ConnId} {process : SessionProcess} {packet : MqttPacket}
      (found : system.sessions conn = some process)
      (busy : process.reader = .sendingPacket packet) (closed : process.packetOpen = false) :
      SendsOnClosed system (.reader conn)
  | available {conn : ConnId} {process : SessionProcess} {pushes : List (QueueRef × Message)}
      (found : system.sessions conn = some process)
      (busy : system.manager = .telling conn pushes) (closed : process.availableOpen = false) :
      SendsOnClosed system .manager

def Manager.pushes : Manager -> List (QueueRef × Message)
  | .selecting => []
  | .pushing later => later
  | .telling _ later => later

namespace System

/-- The session manager does not tell the session and will not come to it. -/
def Unheard (system : System) (conn : ConnId) : Prop :=
  system.told ≠ some conn ∧ Unreached system.broker system.manager.pushes conn

/-- The condition on a step.  A session closes the channel for data only when it
is unheard, and the channel for packets only when no packet is on its way. -/
def closesQuietly (system : System) : Label -> Prop
  | .session conn .act =>
    forall process todo rest, system.sessions conn = some process ->
      (process.mainLoop = .handling (.closeAvailableChan :: todo) rest -> system.Unheard conn) ∧
      (process.mainLoop = .handling (.closePacketChan :: todo) rest ->
        forall packet, process.reader ≠ .sendingPacket packet)
  | _ => True

end System

/-! ## Quiet steps -/

structure Spared (own : ConnId) (tree : SimpleTopicTree) (gone : ConnId -> Prop)
    (others : QueueRef -> Prop) (scene : Scene) : Prop where
  owned : scene.session.id = own
  tree : scene.broker.tree = tree
  unobserved : forall conn, gone conn -> scene.broker.queueService.Unobserved conn others

theorem spared_stable {own : ConnId} (tree : SimpleTopicTree) {gone : ConnId -> Prop}
    (others : QueueRef -> Prop) (present : ¬ gone own) :
    BrokerStable own (Spared own tree gone others) where
  owned := fun _ spared => spared.owned
  packet := fun _ _ spared => ⟨spared.owned, spared.tree, spared.unobserved⟩
  session := fun _ _ same spared => ⟨same, spared.tree, spared.unobserved⟩
  setContents := fun _ ref msgs spared => ⟨spared.owned, spared.tree,
    fun conn left => (spared.unobserved conn left).setContents ref msgs⟩
  setRetainList := fun _ ref list spared => ⟨spared.owned, spared.tree,
    fun conn left => (spared.unobserved conn left).setRetainList ref list⟩
  removeSession := fun _ _ spared => ⟨spared.owned, spared.tree, spared.unobserved⟩
  registerSession := fun scene clientId entry spared => by
    refine ⟨spared.owned, ?_, ?_⟩
    · exact (Broker.registerSession_tree scene.broker clientId entry).trans spared.tree
    · change forall conn, gone conn ->
        (scene.broker.registerSession clientId entry).queueService.Unobserved conn others
      rw [Broker.registerSession_queueService]
      exact spared.unobserved
  newQueue := fun _ clientId persistent dial spared => ⟨spared.owned, spared.tree,
    fun conn left => (spared.unobserved conn left).newQueue clientId persistent dial⟩
  registerObserver := fun _ ref spared => ⟨spared.owned, spared.tree, fun conn left =>
    (spared.unobserved conn left).registerObserver ref
      (fun same => present (Option.some.inj same ▸ left))⟩

structure SessionProcess.Proper (conn : ConnId) (process : SessionProcess) : Prop where
  owned : process.session.id = conn
  phase : process.Phase
  drained : process.packetOpen = false -> forall packet, process.reader ≠ .sendingPacket packet

namespace System

def Gone (system : System) (conn : ConnId) : Prop :=
  exists process, system.sessions conn = some process ∧ process.availableOpen = false

structure Orderly (system : System) : Prop where
  built : Built system.broker.tree
  proper : forall conn process, system.sessions conn = some process -> process.Proper conn
  unheard : forall conn, system.Gone conn -> system.Unheard conn

theorem Orderly.not_sendsOnClosed {system : System} (orderly : system.Orderly)
    (process : Process) : ¬ SendsOnClosed system process := by
  intro sends
  cases sends with
  | packet found busy closed => exact (orderly.proper _ _ found).drained closed _ busy
  | available found busy closed =>
    apply (orderly.unheard _ ⟨_, found, closed⟩).1
    rw [told, busy]

theorem orderly_start (brokerId : GoString) : (start brokerId).Orderly where
  built := ⟨[], rfl⟩
  proper := fun _ _ found => nomatch found
  unheard := fun _ gone => nomatch gone.choose_spec.1

namespace Orderly

variable {system next : System} {conn : ConnId} {process : SessionProcess}
  (orderly : system.Orderly)

include orderly

theorem update (sessions : next.sessions = (system.setSession conn process).sessions)
    (built : Built next.broker.tree) (proper : process.Proper conn)
    (own : process.availableOpen = false -> next.Unheard conn)
    (others : forall other, system.Gone other -> next.Unheard other) : next.Orderly := by
  have self : next.sessions conn = some process := by
    rw [sessions]
    exact Function.update_self _ _ _
  have apart : forall other, other ≠ conn -> next.sessions other = system.sessions other := by
    intro other different
    rw [sessions]
    exact Function.update_of_ne different _ _
  refine ⟨built, ?_, ?_⟩
  · intro other found here
    by_cases same : other = conn
    · subst same
      rw [self] at here
      cases here
      exact proper
    · rw [apart other same] at here
      exact orderly.proper other found here
  · rintro other ⟨found, here, gone⟩
    by_cases same : other = conn
    · subst same
      rw [self] at here
      cases here
      exact own gone
    · rw [apart other same] at here
      exact others other ⟨found, here, gone⟩

theorem revise (sessions : next.sessions = (system.setSession conn process).sessions)
    (broker : next.broker = system.broker) (manager : next.manager = system.manager)
    (proper : process.Proper conn)
    (own : process.availableOpen = false -> system.Gone conn ∨ system.Unheard conn) :
    next.Orderly := by
  have same : forall other, system.Unheard other -> next.Unheard other := by
    intro other unheard
    rw [Unheard, told, broker, manager]
    exact unheard
  refine orderly.update sessions (by rw [broker]; exact orderly.built) proper ?_ ?_
  · exact fun closed => same conn ((own closed).elim (orderly.unheard conn) id)
  · exact fun other gone => same other (orderly.unheard other gone)

theorem receive {host : Host} {input : Input} (owned : process.session.id = conn)
    (lives : process.Lives) (opened : process.Opened) (present : ¬ system.Gone conn)
    (received : system.receive conn process host input = some next) : next.Orderly := by
  rcases receive_eq received with ⟨rest, continues, rfl⟩
  rcases lives with ⟨life, scene, same, alive⟩
  let first : Scene := ⟨process.session, newMqttPacket, system.broker⟩
  have closes := handleInput_closes host input (alive.elsewhere same.symm : Alive life first)
  have spared : Spared conn system.broker.tree system.Gone
      (Pushable system.broker.tree system.manager.pushes) first :=
    ⟨owned, rfl, fun other gone => (orderly.unheard other gone).2⟩
  have after := (spared_stable _ _ present).handleInput_keeps host input spared
  refine orderly.update rfl ?_ ⟨after.owned, .begin opened closes continues, ?_⟩ ?_ ?_
  · exact after.tree.symm ▸ orderly.built
  · exact fun closed => nomatch opened.packet.symm.trans closed
  · exact fun closed => nomatch opened.available.symm.trans closed
  · intro other gone
    refine ⟨(orderly.unheard other gone).1, ?_⟩
    have unobserved := after.unobserved other gone
    rw [← after.tree] at unobserved
    exact unobserved

theorem take {host : Host} {input : Input} {reader : Reader} {keepAlive : KeepAlive}
    (found : system.sessions conn = some process) (idle : process.mainLoop = .selecting)
    (received : system.receive conn { process with reader := reader, keepAlive := keepAlive } host
      input = some next) : next.Orderly := by
  have proper := orderly.proper conn process found
  rcases proper.phase.of_selecting idle with ⟨lives, opened⟩
  have present : ¬ system.Gone conn := by
    rintro ⟨other, here, gone⟩
    cases found.symm.trans here
    exact nomatch opened.available.symm.trans gone
  exact @receive system next conn { process with reader := reader, keepAlive := keepAlive } orderly
    host input proper.owned lives ⟨opened.conn, opened.available, opened.packet⟩ present received

theorem perform {effect : Effect} {todo : List Effect} {rest : Continuation}
    (found : system.sessions conn = some process)
    (busy : process.mainLoop = .handling (effect :: todo) rest)
    (unheard : effect = .closeAvailableChan -> system.Unheard conn)
    (drained : effect = .closePacketChan -> forall packet, process.reader ≠ .sendingPacket packet)
    (sessions : next.sessions = (system.setSession conn
      { System.perform process effect with mainLoop := .handling todo rest }).sessions)
    (broker : next.broker = system.broker) (manager : next.manager = system.manager) :
    next.Orderly := by
  have proper := orderly.proper conn process found
  refine orderly.revise sessions broker manager ⟨?_, proper.phase.perform busy, ?_⟩ ?_
  · exact (congrArg MqttSession.id (SessionProcess.perform_session process effect)).trans
      proper.owned
  · intro closed packet
    rw [SessionProcess.perform_reader]
    by_cases closing : effect = .closePacketChan
    · exact drained closing packet
    · refine proper.drained ?_ packet
      cases effect with
      | closePacketChan => exact absurd rfl closing
      | _ => exact closed
  · intro closed
    by_cases closing : effect = .closeAvailableChan
    · exact .inr (unheard closing)
    · refine .inl ⟨process, found, ?_⟩
      cases effect with
      | closeAvailableChan => exact absurd rfl closing
      | _ => exact closed

theorem move {move : Move} (found : system.sessions conn = some process)
    (quiet : system.closesQuietly (.session conn move))
    (moves : system.Moves conn process move next) : next.Orderly := by
  have proper := orderly.proper conn process found
  have gone : process.availableOpen = false -> system.Gone conn ∨ system.Unheard conn :=
    fun closed => .inl ⟨process, found, closed⟩
  cases moves with
  | decode idle connected =>
    refine orderly.revise rfl rfl rfl ⟨proper.owned, proper.phase.congr rfl rfl rfl rfl rfl, ?_⟩ gone
    exact fun closed => nomatch (proper.phase.packetOpen connected).symm.trans closed
  | decodeFails idle =>
    exact orderly.revise rfl rfl rfl ⟨proper.owned, proper.phase.congr rfl rfl rfl rfl rfl, fun _ _ => nofun⟩ gone
  | timeout idle =>
    exact orderly.revise rfl rfl rfl ⟨proper.owned, proper.phase.congr rfl rfl rfl rfl rfl, proper.drained⟩ gone
  | takePacket idle sent received => exact orderly.take found idle received
  | takeError idle sent received => exact orderly.take found idle received
  | takeTimeout idle received => exact orderly.take found idle received
  | act busy silent =>
    rcases quiet process _ _ found with ⟨unheard, drained⟩
    exact orderly.perform found busy (fun closing => unheard (closing ▸ busy))
      (fun closing => drained (closing ▸ busy)) rfl rfl rfl
  | notify busy idle => exact orderly.perform found busy nofun nofun rfl rfl rfl
  | finish busy ends =>
    exact orderly.revise rfl rfl rfl ⟨proper.owned, proper.phase.finish busy ends, proper.drained⟩
      gone

theorem manage (sessions : next.sessions = system.sessions) (built : Built next.broker.tree)
    (unheard : forall conn, system.Gone conn -> next.Unheard conn) : next.Orderly := by
  refine ⟨built, ?_, ?_⟩
  · rw [sessions]
    exact orderly.proper
  · intro conn gone
    rw [Gone, sessions] at gone
    exact unheard conn gone

theorem calm {manager : Manager} (silent : { system with manager := manager }.told = none)
    (fewer : forall push, push ∈ manager.pushes -> push ∈ system.manager.pushes) :
    { system with manager := manager }.Orderly := by
  refine orderly.manage rfl orderly.built (fun conn gone => ⟨?_, ?_⟩)
  · rw [silent]
    exact nofun
  · refine QueueService.Unobserved.mono (orderly.unheard conn gone).2 ?_
    rintro ref (subscribed | ⟨push, pushed, rfl⟩)
    · exact .inr (.inl subscribed)
    · exact .inr (.inr ⟨push, fewer push pushed, rfl⟩)

theorem push {push : QueueRef × Message} {later : List (QueueRef × Message)}
    (pushing : system.manager = .pushing (push :: later)) {manager : Manager}
    (tells : manager = .pushing later ∨ exists conn, manager = .telling conn later ∧
      system.broker.queueService.observer push.1 = some conn) :
    { system with broker := system.broker.pushback push, manager := manager }.Orderly := by
  have pushes : manager.pushes = later := by
    rcases tells with rfl | ⟨conn, rfl, _⟩ <;> rfl
  refine orderly.manage rfl orderly.built (fun conn gone => ?_)
  have unreached := (orderly.unheard conn gone).2
  rw [pushing] at unreached
  constructor
  · rcases tells with rfl | ⟨other, rfl, observed⟩
    · exact nofun
    · intro told
      cases told
      exact unreached push.1 (.inr (.inr ⟨push, List.mem_cons_self, rfl⟩)) observed
  · have fewer : Unreached system.broker later conn := by
      refine QueueService.Unobserved.mono unreached ?_
      rintro ref (subscribed | ⟨other, pushed, rfl⟩)
      · exact .inr (.inl subscribed)
      · exact .inr (.inr ⟨other, List.mem_cons_of_mem _ pushed, rfl⟩)
    change Unreached (system.broker.pushback push) manager.pushes conn
    rw [pushes]
    exact QueueService.Unobserved.setContents fewer _ _

theorem step {label : Label} (quiet : system.closesQuietly label)
    (taken : system.step label = some next) : next.Orderly := by
  cases label with
  | accept conn authNeed =>
    cases taken
    have alive : Alive .new ⟨newMqttSession system.next conn authNeed, newMqttPacket,
        system.broker⟩ := ⟨rfl, rfl, Option.some_ne_none conn⟩
    exact orderly.revise rfl rfl rfl
      ⟨rfl, .selecting rfl ⟨.new, _, rfl, alive⟩ ⟨rfl, rfl, rfl⟩, nofun⟩ nofun
  | session conn move =>
    rcases Option.bind_eq_some_iff.mp taken with ⟨process, found, moved⟩
    exact orderly.move found quiet (stepSession_moves moved)
  | forward order dial =>
    simp only [System.step] at taken
    split at taken
    case h_1 event _ idle =>
      cases taken
      refine orderly.manage rfl (orderly.built.handleEvent order dial event) ?_
      intro conn gone
      have unreached := (orderly.unheard conn gone).2
      rw [idle] at unreached
      exact ⟨nofun, handleEvent_unreached orderly.built unreached order dial event⟩
    case h_2 => cases taken
  | publish =>
    simp only [System.step] at taken
    split at taken
    case h_1 =>
      cases taken
      exact orderly.manage rfl orderly.built orderly.unheard
    case h_2 => cases taken
  | push =>
    simp only [System.step] at taken
    split at taken
    case h_1 push later pushing =>
      cases taken
      apply orderly.push pushing
      cases observed : system.broker.queueService.observer push.1 with
      | none => exact .inl rfl
      | some conn => exact .inr ⟨conn, rfl, rfl⟩
    case h_2 => cases taken
  | tell host =>
    simp only [System.step] at taken
    split at taken
    case h_1 conn later telling =>
      rcases Option.bind_eq_some_iff.mp taken with ⟨process, found, received⟩
      split at received
      case h_1 idle =>
        have calm := @calm system orderly (.pushing later) rfl (by rw [telling]; exact fun _ => id)
        exact calm.take found idle received
      case h_2 => cases received
    case h_2 => cases taken
  | pushed =>
    simp only [System.step] at taken
    split at taken
    case h_1 =>
      cases taken
      exact orderly.calm rfl (fun _ member => absurd member List.not_mem_nil)
    case h_2 => cases taken

end Orderly

end System

/-- In every run whose sessions close their channels quietly no process is ever
at a send on a closed channel. -/
theorem not_sendsOnClosed_of_quiet {brokerId : GoString} {system : System}
    (reached : (machine brokerId).Reaches System.closesQuietly system) (process : Process) :
    ¬ SendsOnClosed system process := by
  have orderly : system.Orderly := reached.invariant (System.orderly_start brokerId)
    (fun orderly quiet taken => orderly.step quiet taken)
  exact orderly.not_sendsOnClosed process

/-! ## Sessions that close their channels -/

def Reader.sendsPacket : Reader -> Bool
  | .sendingPacket _ => true
  | _ => false

def System.closesUnobserved (system : System) : Label -> Bool
  | .session conn .act =>
    match system.sessions conn with
    | none => true
    | some process =>
      match process.mainLoop with
      | .handling (.closeAvailableChan :: _) _ => system.told != some conn &&
          system.broker.queueService.heap.all (fun queue => queue.observer != some conn)
      | .handling (.closePacketChan :: _) _ => !process.reader.sendsPacket
      | _ => true
  | _ => true

theorem closesQuietly_of_closesUnobserved (system : System) (label : Label)
    (closes : system.closesUnobserved label = true) : system.closesQuietly label := by
  cases label with
  | session conn move =>
    cases move with
    | act =>
      intro process todo rest found
      rw [System.closesUnobserved] at closes
      constructor
      · intro busy
        simp only [found, busy, Bool.and_eq_true, bne_iff_ne] at closes
        refine ⟨closes.1, fun ref _ observed => ?_⟩
        rcases Option.bind_eq_some_iff.mp observed with ⟨queue, placed, same⟩
        have free := List.all_eq_true.mp closes.2 queue (List.mem_of_getElem? placed)
        exact bne_iff_ne.mp free same
      · intro busy packet sending
        simp only [found, busy, sending] at closes
        cases closes
    | _ => exact True.intro
  | _ => exact True.intro

def keptRequest : MqttPacket :=
  request CONNECT (shortField (ascii "MQTT") ++ [4, 0xC0, 0, 0] ++
    shortField (ascii "c|timestamp=1") ++ shortField (ascii "d&p") ++ shortField [])

def moves (conn : ConnId) (steps : List Move) : List Label :=
  steps.map (.session conn)

def leaves : List Label :=
  .accept reliableConn false :: sends 0 keptRequest ++ moves 0 [.act, .act, .notify] ++ handles ++
    moves 0 [.act, .act, .finish] ++
  sends 0 (request DISCONNECT []) ++ moves 0 [.notify] ++ handles ++
    moves 0 [.act, .act, .act, .finish]

theorem kept_session_closes_quietly :
    exists system, (machine (ascii "b")).Reaches System.closesQuietly system ∧ system.Gone 0 ∧
      forall process, ¬ SendsOnClosed system process := by
  have executed : ((machine (ascii "b")).run (start (ascii "b")) leaves).any
      (fun system => (system.sessions 0).any (fun process => !process.availableOpen)) = true := by
    decide +kernel
  have closes : (machine (ascii "b")).Allowed
      (fun system label => system.closesUnobserved label = true) (start (ascii "b")) leaves := by
    decide +kernel
  rcases (Option.any_eq_true _ _).mp executed with ⟨system, executed, gone⟩
  rcases (Option.any_eq_true _ _).mp gone with ⟨process, found, closed⟩
  have reached := Machine.reaches_of_run .initial
    (closes.weaken closesQuietly_of_closesUnobserved) executed
  exact ⟨system, reached, ⟨process, found, (Bool.not_eq_true' _).mp closed⟩,
    not_sendsOnClosed_of_quiet reached⟩

def leavesInHaste : List Label :=
  subscribes ++ publishes ++ sends 0 (request DISCONNECT []) ++
    moves 0 [.decode publishRequest, .notify, .act, .act, .act]

/-- The reader and the session manager are both at a send on a closed channel. -/
theorem hasty_session_is_sent_to :
    exists system, (machine (ascii "b")).Reachable system ∧ SendsOnClosed system (.reader 0) ∧
      SendsOnClosed system .manager := by
  have executed : ((machine (ascii "b")).run (start (ascii "b")) leavesInHaste).any
      (fun system => (system.sessions 0).any (fun process => process.reader.sendsPacket &&
          !process.packetOpen && !process.availableOpen) &&
        decide (system.told = some 0)) = true := by
    decide +kernel
  rcases (Option.any_eq_true _ _).mp executed with ⟨system, executed, sends⟩
  rcases (Bool.and_eq_true _ _).mp sends with ⟨closed, told⟩
  rcases (Option.any_eq_true _ _).mp closed with ⟨process, found, closed⟩
  rcases (Bool.and_eq_true _ _).mp closed with ⟨closed, available⟩
  rcases (Bool.and_eq_true _ _).mp closed with ⟨sending, packet⟩
  refine ⟨system, Machine.reachable_of_run .initial executed, ?_, ?_⟩
  · cases busy : process.reader with
    | sendingPacket packet' => exact .packet found busy ((Bool.not_eq_true' _).mp packet)
    | reading | sendingError reason | returned => simp [busy, Reader.sendsPacket] at sending
  · have told := of_decide_eq_true told
    unfold System.told at told
    split at told
    case h_1 busy =>
      cases told
      exact .available found busy ((Bool.not_eq_true' _).mp available)
    case h_2 => cases told

end Concurrency
end Sentel
