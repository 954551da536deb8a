import Sentel.Mqtt.Authentication
import Sentel.Mqtt.Connecting
import Sentel.Mqtt.Framing

namespace Sentel
namespace Mqtt

open Library Handler Base Queue Event SessionMgr Auth SessionM MqttPacket

/-!
# Packets before a connection is accepted

A client that has not been accepted yet should be able to do nothing: no topic
event, no acknowledgement but a CONNACK, no access to the queue, and an error
for every packet that is not a CONNECT.  Only `handleConnect` checks the state
of the session, so a session serves every other packet as soon as it can be
read.

A packet that is not refused at once is therefore enough to break the rule,
and a session that refuses a packet ends.  The rule holds for a sequence of
packets exactly when it holds for its first packet.
-/

def Harmless : Effect -> Prop
  | .notify (.topicPublish _) => False
  | .notify (.topicSubscribe _) => False
  | .notify (.topicUnsubscribe _) => False
  | .notify _ => True
  | .write command _ => command = CONNACK
  | .accessQueue => False
  | _ => True

abbrev Round := Input × Run Scene Effect GoString (Option GoString)

def Input.isConnect : Input -> Prop
  | .packet received => packetType received = CONNECT
  | _ => False

def Round.Quiet (round : Round) : Prop :=
  (forall effect, effect ∈ round.2.effects -> Harmless effect) ∧
    (¬ round.1.isConnect -> exists reason, round.2.outcome = .ok (some reason))

def Round.Accepted (round : Round) : Prop :=
  round.2.state.session.sessionState = .connected

def QuietBeforeConnect : List Round -> Prop
  | [] => True
  | round :: later => round.Accepted ∨ round.Quiet ∧ QuietBeforeConnect later

def freshScene (id : ConnId) (conn : Connection) (authNeed : Bool) (broker : Broker) : Scene where
  session := newMqttSession id conn authNeed
  packet := newMqttPacket
  broker := broker

/-! ## The packets that are refused -/

def Rejects {Value : Type} (run : Run Scene Effect GoString Value) : Prop :=
  exists reason, run.outcome = .error reason

/-- The connection takes no byte of the next frame. -/
def NothingAccepted (scene : Scene) : Prop :=
  exists conn, scene.session.conn = some conn ∧ conn.next.1.limit = some 0

def LosesQueue (host : Host) (scene : Scene) : Prop :=
  exists request, (readConnect scene).outcome = .ok request ∧
    (identify host request (readConnect scene).state).outcome = .ok () ∧
    request.willMsg ≠ none ∧
    exists reason, (scene.broker.queueService.newQueue request.context.clientID
      (request.cleanSession = 0) host.dial).1 = .error reason

/-- A PUBLISH packet that cannot be read, is not authorized or asks for a
quality of service that is not supported. -/
def PublishRefused (host : Host) (scene : Scene) : Prop :=
  Rejects (readPublish host scene) ∨
    exists event pid, (readPublish host scene).outcome = .ok (event, pid) ∧
      (host.refusesPublish scene.session event.topic ∨ 2 ≤ event.qos)

def EntriesRefused {Entry : Type} (readEntry : SessionM Entry) (scene : Scene) : Prop :=
  let after := reading readUint16 scene
  Rejects after ∨ (exists pid, after.outcome = .ok pid) ∧
    if after.state.packet.pos < after.state.packet.remainingLength then
      Rejects (readEntry after.state)
    else NothingAccepted scene

/-- The condition under which the first packet of a client does no harm. -/
def FirstRefused (host : Host) (scene : Scene) : Prop :=
  let kind := packetType scene.packet
  if kind = PINGREQ then NothingAccepted scene
  else if kind = CONNECT then ¬ LosesQueue host scene
  else if kind = DISCONNECT then scene.packet.remainingLength ≠ 0
  else if kind = PUBLISH then PublishRefused host scene
  else if kind = PUBREL then
    Rejects (reading readUint16 scene) ∨
      (exists pid, (reading readUint16 scene).outcome = .ok pid) ∧ NothingAccepted scene
  else if kind = SUBSCRIBE then EntriesRefused readFilter scene
  else if kind = UNSUBSCRIBE then EntriesRefused (readingOr readString) scene
  else if kind = PUBACK then
    scene.packet.remainingLength ≠ 2 ∨ Rejects (reading readUint16 scene)
  else True

/-! ## Rounds of the main loop -/

structure Unopened (scene : Scene) : Prop where
  new : scene.session.sessionState = .new
  noWill : scene.session.willMsg = none
  connOpen : scene.session.conn ≠ none

structure Refuses (run : Run Scene Effect GoString Unit) : Prop where
  silent : run.effects = []
  rejects : Rejects run
  unopened : Unopened run.state

def Harms {Value : Type} (run : Run Scene Effect GoString Value) : Prop :=
  exists effect, effect ∈ run.effects ∧ ¬ Harmless effect

def Acts (run : Run Scene Effect GoString Unit) : Prop := Harms run ∨ ¬ Rejects run

section Rounds

variable {host : Host} {scene : Scene} {packet : MqttPacket}

def packetRun (host : Host) (packet : MqttPacket) (scene : Scene) :
    Run Scene Effect GoString Unit :=
  handleMqttPacket host { scene with packet := packet }

theorem handleInput_ok (returned : (packetRun host packet scene).outcome = .ok ()) :
    handleInput host (.packet packet) scene =
      ⟨(packetRun host packet scene).effects, .ok none, (packetRun host packet scene).state⟩ :=
  handleInput_returned returned

theorem handleInput_error {reason : GoString}
    (failed : (packetRun host packet scene).outcome = .error reason) :
    handleInput host (.packet packet) scene =
      precede (packetRun host packet scene).effects
        ((do disconnect (some reason); return some reason : SessionM (Option GoString))
          (packetRun host packet scene).state) :=
  handleInput_failed failed

theorem handleInput_stuck (notOk : (packetRun host packet scene).outcome ≠ .ok ())
    (notError : ¬ Rejects (packetRun host packet scene)) :
    (handleInput host (.packet packet) scene).effects = (packetRun host packet scene).effects ∧
      (handleInput host (.packet packet) scene).state = (packetRun host packet scene).state ∧
      forall answer, (handleInput host (.packet packet) scene).outcome ≠ .ok answer :=
  handleInput_stopped notOk (fun reason failed => notError ⟨reason, failed⟩)

end Rounds

/-! ## Deciding whether a packet is refused -/

def OnlyReads {Value : Type} (call : SessionM Value) : Prop :=
  forall scene, (call scene).effects = [] ∧ (call scene).state.session = scene.session

theorem OnlyReads.of_keeps {Value : Type} {call : SessionM Value}
    (keeps : forall session, Keeps (fun scene => scene.session = session)
      (fun _ => False) call) : OnlyReads call := by
  intro scene
  have kept := keeps scene.session scene rfl
  exact ⟨List.eq_nil_iff_forall_not_mem.mpr kept.1, kept.2⟩

theorem reading_onlyReads {Value : Type} {read : PacketM Effect Value}
    (quiet : Keeps (fun _ => True) (fun _ => False) read) : OnlyReads (reading read) :=
  .of_keeps (fun _ => reading_keeps (fun _ _ same => same) quiet)

theorem readUint16_onlyReads : OnlyReads (reading readUint16) :=
  reading_onlyReads readUint16_quiet

theorem readFilter_onlyReads : OnlyReads readFilter :=
  .of_keeps (fun _ => readFilter_keeps (fun _ _ same => same))

theorem readTopicName_onlyReads : OnlyReads (readingOr readString) :=
  .of_keeps (fun _ => readingOr_keeps (fun _ _ same => same) readString_quiet)

theorem readPublish_onlyReads (host : Host) : OnlyReads (readPublish host) :=
  .of_keeps (fun _ => readPublish_keeps (fun _ _ same => same) host)

theorem Harms.bind {Value Next : Type} {call : SessionM Value} {next : Value -> SessionM Next}
    {scene : Scene} (harms : Harms (call scene)) : Harms ((call >>= next) scene) := by
  rcases harms with ⟨effect, member, harmful⟩
  exact ⟨effect, mem_bind_effects member, harmful⟩

theorem notify_harms {event : BrokerEvent} (scene : Scene)
    (harmful : ¬ Harmless (.notify (event.setBrokerId scene.broker.brokerId))) :
    Harms (notify event scene) :=
  ⟨_, List.mem_cons_self, harmful⟩

theorem Unopened.of_session {scene after : Scene} (unopened : Unopened scene)
    (same : after.session = scene.session) : Unopened after := by
  refine ⟨?_, ?_, ?_⟩
  · rw [same]
    exact unopened.new
  · rw [same]
    exact unopened.noWill
  · rw [same]
    exact unopened.connOpen

structure Decides (condition : Prop) (run : Run Scene Effect GoString Unit) : Prop where
  refuses : condition -> Refuses run
  acts : ¬ condition -> Acts run

namespace Decides

variable {condition : Prop} {run : Run Scene Effect GoString Unit} {scene : Scene}

theorem congr {other : Prop} (decides : Decides condition run) (same : condition ↔ other) :
    Decides other run :=
  ⟨fun holds => decides.refuses (same.mpr holds), fun fails => decides.acts (mt same.mp fails)⟩

theorem fail (unopened : Unopened scene) (reason : GoString) :
    Decides True (fail reason scene) :=
  ⟨fun _ => ⟨rfl, ⟨reason, rfl⟩, unopened⟩, fun fails => absurd True.intro fails⟩

theorem of_harms (harms : Harms run) : Decides False run :=
  ⟨False.elim, fun _ => .inl harms⟩

theorem of_notError (notError : ¬ Rejects run) : Decides False run :=
  ⟨False.elim, fun _ => .inr notError⟩

theorem failIf {failing : Prop} [Decidable failing] {reason : GoString}
    {next : Unit -> SessionM Unit} (unopened : Unopened scene)
    (decides : ¬ failing -> Decides condition (next () scene)) :
    Decides (failing ∨ condition) ((failIf failing reason >>= next) scene) := by
  by_cases holds : failing
  · rw [failIf_pos_bind_apply holds]
    exact (fail unopened reason).congr (by simp [holds])
  · rw [failIf_neg_bind_apply holds]
    exact (decides holds).congr (by simp [holds])

theorem read {Value : Type} {call : SessionM Value} {next : Value -> SessionM Unit}
    {later : Value -> Prop} (reads : OnlyReads call) (unopened : Unopened scene)
    (decides : forall value, (call scene).outcome = .ok value ->
      Decides (later value) (next value (call scene).state)) :
    Decides (Rejects (call scene) ∨
      exists value, (call scene).outcome = .ok value ∧ later value) ((call >>= next) scene) := by
  rcases returned_or_stopped call scene with ⟨value, returned⟩ | never
  · rw [bind_of_returned returned, (reads scene).1, precede_nil]
    apply (decides value returned).congr
    constructor
    · exact fun holds => .inr ⟨value, returned, holds⟩
    · rintro (⟨reason, failed⟩ | ⟨other, same, holds⟩)
      · rw [returned] at failed
        cases failed
      · rw [returned] at same
        cases same
        exact holds
  · have stopped := bind_of_stopped next never
    constructor
    · rintro (⟨reason, failed⟩ | ⟨value, ended, _⟩)
      · refine ⟨stopped.1.trans (reads scene).1, ⟨reason, (stopped.2.2.2 reason).mpr failed⟩, ?_⟩
        rw [stopped.2.1]
        exact unopened.of_session (reads scene).2
      · exact absurd ended (never value)
    · intro fails
      refine .inr ?_
      rintro ⟨reason, failed⟩
      exact fails (.inl ⟨reason, (stopped.2.2.2 reason).mp failed⟩)

theorem frame {command : UInt8} {send : SessionM Unit} (frame : SendsFrame command send)
    (other : command ≠ CONNACK) (unopened : Unopened scene) :
    Decides (NothingAccepted scene) (send scene) := by
  rcases Option.ne_none_iff_exists'.mp unopened.connOpen with ⟨conn, opened⟩
  constructor
  · rintro ⟨same, opened, closed⟩
    rcases frame.refused opened closed with ⟨reason, refused⟩
    rw [refused]
    exact ⟨rfl, ⟨reason, rfl⟩, unopened.new, unopened.noWill, Option.some_ne_none _⟩
  · intro taken
    rcases frame.sends opened (fun closed => taken ⟨conn, opened, closed⟩) with ⟨bytes, member⟩
    exact .inl ⟨_, member, other⟩

end Decides

section Handlers

variable {host : Host} {scene : Scene} (unopened : Unopened scene)
  (invalid : scene.session.protocol = .invalid)

theorem handlePingReq_decides (unopened : Unopened scene) :
    Decides (NothingAccepted scene) (handlePingReq scene) :=
  .frame sendPingRsp_frame (by decide) unopened

theorem nothingAccepted_reading :
    NothingAccepted (reading readUint16 scene).state ↔ NothingAccepted scene := by
  unfold NothingAccepted
  rw [(readUint16_onlyReads scene).2]

theorem useQueue_decides {next : QueueRef -> SessionM Unit} :
    Decides False ((useQueue >>= next) scene) := by
  cases queue : scene.session.queue with
  | none =>
    have crashed : (useQueue scene).outcome = .panic .nilDereference := by
      rw [useQueue, session_bind_apply, queue]
      rfl
    have stopped := bind_of_stopped next (fun ref (ended : _ = _) => by
      rw [crashed] at ended
      cases ended)
    apply Decides.of_notError
    rintro ⟨reason, failed⟩
    rw [stopped.2.2.2, crashed] at failed
    cases failed
  | some ref =>
    have harms : Harms (useQueue scene) := by
      rw [useQueue, session_bind_apply, queue]
      exact ⟨.accessQueue, List.mem_cons_self, id⟩
    exact .of_harms harms.bind

include unopened

theorem handlePubAck_decides :
    Decides (scene.packet.remainingLength ≠ 2 ∨ Rejects (reading readUint16 scene))
      (handlePubAck scene) := by
  refine .failIf unopened (fun _ => ?_)
  exact Decides.congr (@Decides.read scene _ _ _ (fun _ => False) readUint16_onlyReads unopened
    (fun _ _ => useQueue_decides)) (by simp)

theorem handlePublish_decides : Decides (PublishRefused host scene) (handlePublish host scene) := by
  have same := (readPublish_onlyReads host scene).2
  unfold handlePublish
  refine Decides.congr (@Decides.read scene _ _ _ (fun received =>
    host.refusesPublish scene.session received.1.topic ∨ 2 ≤ received.1.qos)
    (readPublish_onlyReads host) unopened (fun received _ => ?_)) ?_
  · rw [← same]
    refine .failIf (unopened.of_session same) (fun _ => ?_)
    split
    case isTrue zero =>
      exact (Decides.of_harms (notify_harms _ id)).congr (by simp [zero])
    case isFalse =>
      split
      case isTrue one =>
        exact (Decides.of_harms (notify_harms _ id).bind).congr (by simp [one])
      case isFalse =>
        split
        case isTrue two =>
          exact (Decides.fail (unopened.of_session same) _).congr (by simp [two])
        case isFalse =>
          exact (Decides.fail (unopened.of_session same) _).congr (by simp; grind)
  · refine or_congr_right ?_
    simp [Prod.exists]

omit unopened in
theorem not_mqtt311 (invalid : scene.session.protocol = .invalid) (other : Prop) :
    ¬ (scene.session.protocol = .mqtt311 ∧ other) := by
  rw [invalid]
  exact fun both => nomatch both.1

include invalid

theorem handlePubRel_decides :
    Decides (Rejects (reading readUint16 scene) ∨
      (exists pid, (reading readUint16 scene).outcome = .ok pid) ∧ NothingAccepted scene)
      (handlePubRel scene) := by
  have same := (readUint16_onlyReads scene).2
  change Decides _ ((failIf _ _ >>= fun _ => reading readUint16 >>= sendPubComp)
    scene)
  rw [failIf_neg_bind_apply (not_mqtt311 invalid _)]
  refine Decides.congr (@Decides.read scene _ _ _ (fun _ => NothingAccepted scene)
    readUint16_onlyReads unopened (fun pid _ => ?_)) (by simp)
  rw [← nothingAccepted_reading]
  exact .frame (sendCommandWithPacketID_frame PUBCOMP pid) (by decide) (unopened.of_session same)

omit unopened invalid in
theorem readFilter_qos {filter : GoString × UInt8}
    (read : (readFilter scene).outcome = .ok filter) : filter.2 ≠ 0x80 := by
  rcases returned_of_bind read with ⟨topic, _, afterTopic⟩
  rcases returned_of_bind afterTopic with ⟨qos, _, afterQos⟩
  by_cases large : qos > 2
  · rw [failIf_pos_bind_apply large] at afterQos
    cases afterQos
  · rw [failIf_neg_bind_apply large] at afterQos
    cases afterQos
    rintro rfl
    exact large (by decide)

omit invalid in
theorem subscribeEach_decides (more : scene.packet.pos < scene.packet.remainingLength)
    (rounds : Nat) (payload : List UInt8) (next : List UInt8 -> SessionM Unit) :
    Decides (Rejects (readFilter scene)) ((subscribeEach (rounds + 1) payload >>= next) scene) := by
  rw [subscribeEach, bind_assoc_apply, look_bind_apply, if_pos more,
    bind_assoc_apply]
  refine Decides.congr (@Decides.read scene _ _ _ (fun _ => False) readFilter_onlyReads unopened
    (fun filter read => ?_)) (by simp)
  refine .of_harms (.bind ?_)
  rw [session_bind_apply, when_pos (readFilter_qos read)]
  exact (notify_harms _ id).bind

omit invalid in
theorem unsubscribeEach_decides (more : scene.packet.pos < scene.packet.remainingLength)
    (rounds : Nat) (next : Unit -> SessionM Unit) :
    Decides (Rejects (readingOr readString scene))
      ((unsubscribeEach (rounds + 1) >>= next) scene) := by
  rw [unsubscribeEach, bind_assoc_apply, look_bind_apply, if_pos more,
    bind_assoc_apply]
  refine Decides.congr (@Decides.read scene _ _ _ (fun _ => False) readTopicName_onlyReads unopened
    (fun topic _ => ?_)) (by simp)
  refine .of_harms (.bind ?_)
  rw [session_bind_apply]
  exact (notify_harms _ id).bind

omit invalid in
theorem entries_decide {Entry Payload : Type} {readEntry : SessionM Entry}
    {each : Nat -> SessionM Payload} {finish : UInt16 -> Payload -> SessionM Unit}
    (first : forall (after : Scene) (rounds : Nat) (next : Payload -> SessionM Unit),
      Unopened after -> after.packet.pos < after.packet.remainingLength ->
      Decides (Rejects (readEntry after)) ((each (rounds + 1) >>= next) after))
    (finishes : forall (after : Scene) (rounds : Nat) (pid : UInt16),
      Unopened after -> after.session = scene.session ->
      ¬ after.packet.pos < after.packet.remainingLength ->
      Decides (NothingAccepted after) ((each rounds >>= finish pid) after)) :
    Decides (EntriesRefused readEntry scene) ((do
      let pid ← reading readUint16
      let payload ← each scene.packet.remainingLength
      finish pid payload : SessionM Unit) scene) := by
  have same := (readUint16_onlyReads scene).2
  have length : (reading readUint16 scene).state.packet.remainingLength =
      scene.packet.remainingLength :=
    (@MqttPacket.readUint16_remainingLength (fun _ => True) _ scene.packet rfl).2
  refine Decides.congr (@Decides.read scene _ _ _ (fun _ =>
    let after := (reading readUint16 scene).state
    if after.packet.pos < after.packet.remainingLength then Rejects (readEntry after)
    else NothingAccepted scene) readUint16_onlyReads unopened (fun pid _ => ?_))
    (by simp [EntriesRefused])
  have after := unopened.of_session same
  by_cases more : (reading readUint16 scene).state.packet.pos <
      (reading readUint16 scene).state.packet.remainingLength
  · obtain ⟨rounds, shape⟩ : exists rounds, scene.packet.remainingLength = rounds + 1 :=
      Nat.exists_eq_succ_of_ne_zero (by omega)
    rw [shape]
    exact (first _ rounds (finish pid) after more).congr (by simp only [if_pos more])
  · apply (finishes _ scene.packet.remainingLength pid after same more).congr
    simp only [if_neg more, nothingAccepted_reading]

theorem handleSubscribe_decides :
    Decides (EntriesRefused readFilter scene) (handleSubscribe scene) := by
  unfold handleSubscribe
  rw [look_bind_apply, failIf_neg_bind_apply (not_mqtt311 invalid _)]
  refine @entries_decide scene unopened _ _ _ (fun rounds => subscribeEach rounds []) _
    (fun after rounds next unopened more => subscribeEach_decides unopened more rounds [] next)
    (fun after rounds pid unopened same noMore => ?_)
  rw [bind_of_ok (subscribeEach_done noMore rounds []), precede_nil,
    failIf_neg_bind_apply (not_mqtt311 invalid _)]
  exact .frame (sendSubAck_frame pid) (by decide) unopened

theorem handleUnsubscribe_decides :
    Decides (EntriesRefused (readingOr readString) scene) (handleUnsubscribe scene) := by
  unfold handleUnsubscribe
  rw [look_bind_apply, failIf_neg_bind_apply (not_mqtt311 invalid _)]
  refine entries_decide unopened
    (fun after rounds next unopened more => unsubscribeEach_decides unopened more rounds next)
    (fun after rounds pid unopened same noMore => ?_)
  rw [bind_of_ok (unsubscribeEach_done noMore rounds), precede_nil]
  exact .frame (sendCommandWithPacketID_frame UNSUBACK pid) (by decide) unopened

theorem handleDisconnect_decides :
    Decides (scene.packet.remainingLength ≠ 0) (handleDisconnect scene) := by
  unfold handleDisconnect
  rw [look_bind_apply]
  refine Decides.congr (@Decides.failIf False scene _ _ _ _ unopened (fun _ => ?_)) (by simp)
  rw [failIf_neg_bind_apply (not_mqtt311 invalid _), setSession_bind_apply, setSessionState,
    setSession_bind_apply, disconnect_eq]
  · apply Decides.of_notError
    rintro ⟨reason, failed⟩
    cases failed
  · exact SessionState.noConfusion
  · exact unopened.connOpen

theorem handleMqttPacket_decides (other : packetType scene.packet ≠ CONNECT) :
    Decides (FirstRefused host scene) (handleMqttPacket host scene) := by
  rw [handleMqttPacket, look_bind_apply, FirstRefused]
  by_cases pingReq : packetType scene.packet = PINGREQ
  · simp only [if_pos pingReq]
    exact handlePingReq_decides unopened
  by_cases disconnect : packetType scene.packet = DISCONNECT
  · simp only [if_neg pingReq, if_neg other, if_pos disconnect]
    exact handleDisconnect_decides unopened invalid
  by_cases publish : packetType scene.packet = PUBLISH
  · simp only [if_neg pingReq, if_neg other, if_neg disconnect, if_pos publish]
    exact handlePublish_decides unopened
  by_cases pubRel : packetType scene.packet = PUBREL
  · simp only [if_neg pingReq, if_neg other, if_neg disconnect, if_neg publish, if_pos pubRel]
    exact handlePubRel_decides unopened invalid
  by_cases subscribe : packetType scene.packet = SUBSCRIBE
  · simp only [if_neg pingReq, if_neg other, if_neg disconnect, if_neg publish, if_neg pubRel,
      if_pos subscribe]
    exact handleSubscribe_decides unopened invalid
  by_cases unsubscribe : packetType scene.packet = UNSUBSCRIBE
  · simp only [if_neg pingReq, if_neg other, if_neg disconnect, if_neg publish, if_neg pubRel,
      if_neg subscribe, if_pos unsubscribe]
    exact handleUnsubscribe_decides unopened invalid
  by_cases pubAck : packetType scene.packet = PUBACK
  · simp only [if_neg pingReq, if_neg other, if_neg disconnect, if_neg publish, if_neg pubRel,
      if_neg subscribe, if_neg unsubscribe, if_pos pubAck]
    exact handlePubAck_decides unopened
  · simp only [if_neg pingReq, if_neg other, if_neg disconnect, if_neg publish, if_neg pubRel,
      if_neg subscribe, if_neg unsubscribe, if_neg pubAck]
    exact .fail unopened _

end Handlers

/-! ## The round of the first packet -/

def Unaccepted (scene : Scene) : Prop :=
  scene.session.sessionState ≠ .connected ∧ scene.session.willMsg = none

theorem unaccepted_stable : Stable Unaccepted where
  packet := fun _ _ holds => holds
  conn := fun _ _ _ holds => holds
  nextPacketID := fun _ _ holds => holds
  protocol := fun _ _ holds => holds
  keepalive := fun _ _ holds => holds

theorem harmless_of_ending (effect : Effect) (ending : Ending effect) : Harmless effect := by
  cases effect with
  | notify event =>
    cases event with
    | sessionDestroy event => exact True.intro
    | _ => exact ending.elim
  | write command bytes => exact ending.elim
  | accessQueue => exact ending
  | _ => exact True.intro

theorem publishWill_quiet {reason : Option GoString} {scene : Scene} (unaccepted : Unaccepted scene) :
    Keeps Unaccepted Harmless (publishWill reason scene.session) := by
  unfold publishWill
  rw [unaccepted.2]
  cases reason with
  | none | some reason => exact .pure ()

theorem disconnect_quiet (reason : Option GoString) :
    Keeps Unaccepted Harmless (disconnect reason) :=
  disconnect_keeps (fun _ holds => ⟨SessionState.noConfusion, holds.2⟩) (fun _ holds => holds)
    harmless_of_ending reason (fun _ holds => publishWill_quiet holds)

theorem identify_quiet (host : Host) (request : ConnectRequest) :
    Keeps Unaccepted Harmless (identify host request) :=
  .bind (setSession_keeps (fun _ holds => holds)) (fun _ => .bind (.failWith _) (fun _ =>
    .bind session_keeps (fun _ => .bind (.when (fun _ =>
      checkAuthentication_keeps unaccepted_stable (fun _ => rfl) disconnect_quiet _))
      (fun _ => setSession_keeps (fun _ holds => holds)))))

section FirstRound

variable {host : Host} {scene : Scene} {packet : MqttPacket}

theorem handleInput_harmless
    (harmless : forall effect, effect ∈ (packetRun host packet scene).effects -> Harmless effect)
    (unaccepted : Unaccepted (packetRun host packet scene).state) :
    forall effect, effect ∈ (handleInput host (.packet packet) scene).effects -> Harmless effect := by
  by_cases failed : Rejects (packetRun host packet scene)
  · rcases failed with ⟨reason, failed⟩
    have closing : Keeps Unaccepted Harmless
        (do disconnect (some reason); return some reason : SessionM (Option GoString)) :=
      .bind (disconnect_quiet _) (fun _ => .pure _)
    rw [handleInput_error failed]
    intro effect member
    exact (List.mem_append.mp member).elim (harmless effect) ((closing _ unaccepted).1 effect)
  · by_cases returned : (packetRun host packet scene).outcome = .ok ()
    · rw [handleInput_ok returned]
      exact harmless
    · rw [(handleInput_stuck returned failed).1]
      exact harmless

theorem handleInput_goesOn
    (goesOn : (handleInput host (.packet packet) scene).outcome = .ok none) :
    (packetRun host packet scene).outcome = .ok () := by
  by_contra notOk
  by_cases failed : Rejects (packetRun host packet scene)
  · rcases failed with ⟨reason, failed⟩
    rw [handleInput_error failed] at goesOn
    rcases returned_of_bind goesOn with ⟨_, _, ended⟩
    cases ended
  · exact (handleInput_stuck notOk failed).2.2 none goesOn

theorem handleInput_rejects {reason : GoString}
    (ended : (handleInput host (.packet packet) scene).outcome = .ok (some reason)) :
    Rejects (packetRun host packet scene) := by
  by_contra notError
  by_cases returned : (packetRun host packet scene).outcome = .ok ()
  · rw [handleInput_ok returned] at ended
    cases ended
  · exact (handleInput_stuck returned notError).2.2 _ ended

theorem handleInput_effects {effect : Effect}
    (member : effect ∈ (packetRun host packet scene).effects) :
    effect ∈ (handleInput host (.packet packet) scene).effects := by
  apply mem_bind_effects
  rw [attempt_effects]
  exact member

theorem handleInputs_last (last : (packetRun host packet scene).outcome ≠ .ok ())
    (later : List Input) :
    handleInputs host (.packet packet :: later) scene =
      [(.packet packet, handleInput host (.packet packet) scene)] := by
  rw [handleInputs]
  refine congrArg (List.cons _) ?_
  split
  case h_1 goesOn => exact absurd (handleInput_goesOn goesOn) last
  case h_2 => rfl

theorem quiet_of_refuses (refuses : Refuses (packetRun host packet scene)) (later : List Input) :
    QuietBeforeConnect (handleInputs host (.packet packet :: later) scene) := by
  rcases refuses.rejects with ⟨reason, failed⟩
  have last : (packetRun host packet scene).outcome ≠ .ok () := by
    rw [failed]
    exact nofun
  rw [handleInputs_last last]
  refine .inr ⟨⟨?_, fun _ => ⟨reason, ?_⟩⟩, True.intro⟩
  · apply handleInput_harmless
    · rw [refuses.silent]
      exact fun _ member => absurd member List.not_mem_nil
    · refine ⟨?_, refuses.unopened.noWill⟩
      rw [refuses.unopened.new]
      exact SessionState.noConfusion
  · have running : (packetRun host packet scene).state.session.sessionState ≠ .disconnected := by
      rw [refuses.unopened.new]
      exact SessionState.noConfusion
    have closed := disconnect_eq (some reason) running refuses.unopened.connOpen
    have round := handleInput_error failed
    rw [bind_of_ok closed] at round
    change (handleInput host (.packet packet) scene).outcome = _
    rw [round]
    rfl

theorem quiet_of_unaccepted (connect : packetType packet = CONNECT)
    (harmless : forall effect, effect ∈ (packetRun host packet scene).effects -> Harmless effect)
    (unaccepted : Unaccepted (packetRun host packet scene).state)
    (last : (packetRun host packet scene).outcome ≠ .ok ()) (later : List Input) :
    QuietBeforeConnect (handleInputs host (.packet packet :: later) scene) := by
  rw [handleInputs_last last]
  exact .inr ⟨⟨handleInput_harmless harmless unaccepted, fun other => absurd connect other⟩,
    True.intro⟩

theorem notConnected_lifeStable :
    LifeStable (fun scene => scene.session.sessionState ≠ .connected) :=
  { notConnected_stable with
    setContents := fun _ _ _ holds => holds
    setRetainList := fun _ _ _ holds => holds
    willMsg := fun _ _ holds => holds
    disconnecting := fun _ _ => SessionState.noConfusion
    disconnected := fun _ _ => SessionState.noConfusion
    closed := fun _ holds => holds }

theorem disconnect_publishes {reason : GoString} {will : Message}
    (running : scene.session.sessionState ≠ .disconnected)
    (hasWill : scene.session.willMsg = some will) : Harms (disconnect (some reason) scene) := by
  rw [disconnect, session_bind_apply, if_pos running]
  apply Harms.bind
  unfold publishWill
  rw [hasWill]
  exact notify_harms scene id

theorem not_quiet_of_will {reason : GoString} {will : Message}
    (failed : (packetRun host packet scene).outcome = .error reason)
    (new : (packetRun host packet scene).state.session.sessionState = .new)
    (hasWill : (packetRun host packet scene).state.session.willMsg = some will)
    (later : List Input) :
    ¬ QuietBeforeConnect (handleInputs host (.packet packet :: later) scene) := by
  have running : (packetRun host packet scene).state.session.sessionState ≠ .disconnected := by
    rw [new]
    exact SessionState.noConfusion
  have unconnected : (packetRun host packet scene).state.session.sessionState ≠ .connected := by
    rw [new]
    exact SessionState.noConfusion
  have last : (packetRun host packet scene).outcome ≠ .ok () := by
    rw [failed]
    exact nofun
  rw [handleInputs_last last]
  have round := handleInput_error failed
  rintro (accepted | ⟨⟨harmless, _⟩, _⟩)
  · have closing : Keeps _ (fun _ => True)
        (do disconnect (some reason); return some reason : SessionM (Option GoString)) :=
      .bind (disconnect_keepsAny notConnected_lifeStable (some reason)) (fun _ => .pure _)
    have kept := (closing _ unconnected).2
    change (handleInput host (.packet packet) scene).state.session.sessionState = _ at accepted
    rw [round] at accepted
    exact kept accepted
  · have harms : Harms ((do disconnect (some reason); return some reason :
        SessionM (Option GoString)) (packetRun host packet scene).state) :=
      (disconnect_publishes running hasWill).bind
    rcases harms with ⟨effect, member, harmful⟩
    apply harmful
    apply harmless
    change effect ∈ (handleInput host (.packet packet) scene).effects
    rw [round]
    exact List.mem_append_right _ member

theorem quiet_of_connected (notError : ¬ Rejects (packetRun host packet scene))
    (connected : (packetRun host packet scene).state.session.sessionState = .connected)
    (later : List Input) :
    QuietBeforeConnect (handleInputs host (.packet packet :: later) scene) := by
  have same : (handleInput host (.packet packet) scene).state =
      (packetRun host packet scene).state := by
    by_cases returned : (packetRun host packet scene).outcome = .ok ()
    · rw [handleInput_ok returned]
    · exact (handleInput_stuck returned notError).2.1
  rw [handleInputs]
  refine .inl ?_
  change (handleInput host (.packet packet) scene).state.session.sessionState = .connected
  rw [same]
  exact connected

theorem not_quiet_of_acts (acts : Acts (packetRun host packet scene))
    (other : packetType packet ≠ CONNECT)
    (unconnected : scene.session.sessionState ≠ .connected) (later : List Input) :
    ¬ QuietBeforeConnect (handleInputs host (.packet packet :: later) scene) := by
  have kept := @handleInput_keeps _ notConnected_lifeStable host (.packet packet) scene
    (handleMqttPacket_keeps notConnected_lifeStable host
      (notConnected_lifeStable.packet scene packet unconnected) other)
  rintro (accepted | ⟨⟨harmless, ends⟩, _⟩)
  · exact kept accepted
  · rcases acts with ⟨effect, member, harmful⟩ | notError
    · exact harmful (harmless effect (handleInput_effects member))
    · rcases ends other with ⟨reason, ended⟩
      exact notError (handleInput_rejects ended)

end FirstRound

/-! ## The first packet is a CONNECT -/

section Connect

variable {host : Host} {scene : Scene} {request : ConnectRequest}

theorem readConnect_quiet (new : scene.session.sessionState = .new)
    (noWill : scene.session.willMsg = none) :
    (forall effect, effect ∈ (readConnect scene).effects -> Harmless effect) ∧
      (readConnect scene).state.session.sessionState = .new ∧
      (readConnect scene).state.session.willMsg = none ∧
      (readConnect scene).state.broker = scene.broker := by
  have stable : Stable (fun now => now.session.sessionState = .new ∧
      now.session.willMsg = none ∧ now.broker = scene.broker) := {
    packet := fun _ _ holds => holds
    conn := fun _ _ _ holds => holds
    nextPacketID := fun _ _ holds => holds
    protocol := fun _ _ holds => holds
    keepalive := fun _ _ holds => holds }
  exact readConnect_keeps stable (fun _ => rfl) scene ⟨new, noWill, rfl⟩

def Openable (host : Host) (scene : Scene) (request : ConnectRequest) : Prop :=
  (readConnect scene).outcome = .ok request ∧
    (identify host request (readConnect scene).state).outcome = .ok ()

theorem handleConnect_stopped (new : scene.session.sessionState = .new)
    (noWill : scene.session.willMsg = none)
    (unknown : forall request, ¬ Openable host scene request) :
    (forall effect, effect ∈ (handleConnect host scene).effects -> Harmless effect) ∧
      Unaccepted (handleConnect host scene).state ∧
      (handleConnect host scene).outcome ≠ .ok () := by
  rcases readConnect_quiet new noWill with ⟨harmless, stillNew, stillNoWill, _⟩
  have unaccepted : Unaccepted (readConnect scene).state := by
    refine ⟨?_, stillNoWill⟩
    rw [stillNew]
    exact SessionState.noConfusion
  rcases returned_or_stopped readConnect scene with ⟨request, read⟩ | never
  · have kept := identify_quiet host request (readConnect scene).state unaccepted
    have stopped := bind_of_stopped
      (fun _ : Unit => openSession host request.cleanSession request.willMsg)
      (fun value identified => unknown request ⟨read, identified⟩)
    rw [handleConnect, bind_of_returned read]
    refine ⟨?_, ?_, stopped.2.2.1 ()⟩
    · intro effect member
      rw [precede_effects, stopped.1] at member
      exact (List.mem_append.mp member).elim (harmless effect) (kept.1 effect)
    · rw [precede_state, stopped.2.1]
      exact kept.2
  · have stopped := bind_of_stopped (fun request => do
        identify host request
        openSession host request.cleanSession request.willMsg) never
    rw [handleConnect, stopped.1, stopped.2.1]
    exact ⟨harmless, unaccepted, stopped.2.2.1 ()⟩

theorem handleConnect_opens (openable : Openable host scene request) :
    handleConnect host scene = precede (readConnect scene).effects
      (openSession host request.cleanSession request.willMsg
        ((readConnect scene).state.identified request.context)) := by
  rw [handleConnect, bind_of_returned openable.1,
    bind_of_ok (identify_returned openable.2), precede_nil]

theorem identified_newQueue (sameBroker : (readConnect scene).state.broker = scene.broker)
    (persistent : Bool) :
    ((readConnect scene).state.identified request.context).newQueue host persistent =
      scene.broker.queueService.newQueue request.context.clientID persistent host.dial := by
  rw [← sameBroker]
  rfl

theorem losesQueue_iff_of_openable (openable : Openable host scene request)
    (sameBroker : (readConnect scene).state.broker = scene.broker) :
    LosesQueue host scene ↔ request.willMsg ≠ none ∧ exists reason,
      (((readConnect scene).state.identified request.context).newQueue host
        (request.cleanSession = 0)).1 = .error reason := by
  rw [identified_newQueue sameBroker]
  constructor
  · rintro ⟨other, read, _, hasWill, refused⟩
    rw [openable.1] at read
    cases read
    exact ⟨hasWill, refused⟩
  · rintro ⟨hasWill, refused⟩
    exact ⟨request, openable.1, openable.2, hasWill, refused⟩

theorem quietBeforeConnect_openable {packet : MqttPacket} (connect : packetType packet = CONNECT)
    (unopened : Unopened scene) (openable : Openable host { scene with packet := packet } request)
    (later : List Input) :
    QuietBeforeConnect (handleInputs host (.packet packet :: later) scene) ↔
      ¬ LosesQueue host { scene with packet := packet } := by
  let first : Scene := { scene with packet := packet }
  rcases @readConnect_quiet first unopened.new unopened.noWill
      with ⟨harmless, stillNew, stillNoWill, sameBroker⟩
  have run : packetRun host packet scene = _ :=
    (handleMqttPacket_connect connect).trans (handleConnect_opens openable)
  rw [losesQueue_iff_of_openable openable sameBroker]
  cases answer : (((readConnect first).state.identified request.context).newQueue host
      (request.cleanSession = 0)).1 with
  | ok ref =>
    rcases @openSession_given host _ request.willMsg _ ref answer
        with ⟨effects, ack, _, entered⟩
    rw [entered] at run
    refine iff_of_true (quiet_of_connected ?_ ?_ later) ?_
    · rintro ⟨reason, failed⟩
      rw [run, precede_outcome, precede_outcome] at failed
      exact enterSession_neverFails _ _ _ _ failed
    · rw [run, precede_state, precede_state]
      exact enterSession_connected _ _ _
    · rintro ⟨_, reason, refused⟩
      cases refused
  | error reason =>
    rcases @openSession_refused host _ request.willMsg _ _ answer
        with ⟨effects, resumes, failed⟩
    rw [failed] at run
    cases will : request.willMsg with
    | none =>
      refine iff_of_true (quiet_of_unaccepted connect ?_ ?_ ?_ later) (fun lost => lost.1 rfl)
      · rw [run]
        intro effect member
        rcases List.mem_append.mp member with read | resumed
        · exact harmless effect read
        · rcases resumes effect resumed with ⟨event, rfl⟩
          exact True.intro
      · rw [run]
        refine ⟨?_, will⟩
        change (readConnect first).state.session.sessionState ≠ .connected
        rw [stillNew]
        exact SessionState.noConfusion
      · rw [run]
        exact nofun
    | some msg =>
      refine iff_of_false (@not_quiet_of_will host scene packet reason msg ?_ ?_ ?_ later)
        (not_not.mpr ⟨Option.some_ne_none msg, reason, rfl⟩)
      · rw [run]
        rfl
      · rw [run]
        exact stillNew
      · rw [run]
        exact will

theorem quietBeforeConnect_connect {packet : MqttPacket} (connect : packetType packet = CONNECT)
    (unopened : Unopened scene) (later : List Input) :
    QuietBeforeConnect (handleInputs host (.packet packet :: later) scene) ↔
      ¬ LosesQueue host { scene with packet := packet } := by
  let first : Scene := { scene with packet := packet }
  have same : packetRun host packet scene = handleConnect host first :=
    handleMqttPacket_connect connect
  by_cases known : exists request, Openable host first request
  · rcases known with ⟨request, openable⟩
    exact quietBeforeConnect_openable connect unopened openable later
  · have stopped := @handleConnect_stopped host first unopened.new unopened.noWill
      (fun request openable => known ⟨request, openable⟩)
    have quiet := @quiet_of_unaccepted host scene packet connect (by rw [same]; exact stopped.1)
      (by rw [same]; exact stopped.2.1) (by rw [same]; exact stopped.2.2) later
    refine iff_of_true quiet ?_
    rintro ⟨request, read, identified, _⟩
    exact known ⟨request, read, identified⟩

end Connect

/-- A sequence of packets on a new connection does no harm before a connection
is accepted exactly when its first packet does none. -/
theorem quietBeforeConnect_iff (host : Host) (id : ConnId) (conn : Connection) (authNeed : Bool)
    (broker : Broker) (packets : List MqttPacket) :
    QuietBeforeConnect (handleInputs host (packets.map .packet)
        (freshScene id conn authNeed broker)) ↔
      forall first, packets.head? = some first ->
        FirstRefused host { freshScene id conn authNeed broker with packet := first } := by
  cases packets with
  | nil => exact iff_of_true True.intro (fun _ found => nomatch found)
  | cons first later =>
    have unopened : Unopened (freshScene id conn authNeed broker) :=
      ⟨rfl, rfl, Option.some_ne_none conn⟩
    have head : forall condition : MqttPacket -> Prop,
        (forall packet, (first :: later).head? = some packet -> condition packet) ↔
          condition first := by
      simp
    rw [head, List.map_cons]
    by_cases connect : packetType first = CONNECT
    · rw [quietBeforeConnect_connect connect unopened, FirstRefused]
      have other : packetType first ≠ PINGREQ := by
        rw [connect]
        decide
      simp only [if_neg other, if_pos connect]
    · let scene : Scene := { freshScene id conn authNeed broker with packet := first }
      have decides := @handleMqttPacket_decides host scene
        ⟨rfl, rfl, Option.some_ne_none conn⟩ rfl connect
      constructor
      · intro quiet
        by_contra served
        exact not_quiet_of_acts (decides.acts served) connect SessionState.noConfusion _ quiet
      · intro refused
        exact quiet_of_refuses (decides.refuses refused) _

def subscribePacket : MqttPacket :=
  { newMqttPacket with
    command := SUBSCRIBE ||| 2
    remainingLength := 6
    payload := ⟨[0, 1, 0, 1, 0x74, 0], []⟩ }

/-- The subscription is notified before any connection has been accepted. -/
theorem subscription_before_connect :
    ¬ QuietBeforeConnect (handleInputs signingHost ([subscribePacket].map .packet)
      (freshScene 0 ⟨[], {}⟩ true (newBroker (ascii "b")))) := by
  rintro (accepted | ⟨⟨harmless, _⟩, _⟩)
  · unfold Round.Accepted at accepted
    exact absurd accepted (by decide)
  · exact harmless (.notify (.topicSubscribe
      { brokerID := ascii "b", topic := ascii "t", retain := true })) (by decide)

end Mqtt
end Sentel
