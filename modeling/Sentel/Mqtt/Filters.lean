import Sentel.Mqtt.Fields

namespace Sentel
namespace Mqtt

open Library Handler Event SessionM MqttPacket

/-!
# Malformed SUBSCRIBE and UNSUBSCRIBE packets

The handlers of these packets read one filter after the other and notify each
one as soon as it is read.  A packet should be obeyed as a whole or not at all.
When its first filter is in order and a later one is not, the filters before
the mistake have already been notified.
-/

/-! ## The filters of a packet -/

/-- A filter with a quality of service of at most 2, and the bytes behind it. -/
def scanFilter (bytes : List UInt8) : Option ((GoString × UInt8) × List UInt8) :=
  match scanString bytes with
  | some (topic, qos :: later) => if qos > 2 then none else some ((topic, qos), later)
  | _ => none

section Scanning

variable {Entry : Type} (one : List UInt8 -> Option (Entry × List UInt8))

def scanEntries : Nat -> List UInt8 -> List Entry × Bool
  | _, [] => ([], true)
  | 0, _ :: _ => ([], false)
  | rounds + 1, byte :: bytes =>
    match one (byte :: bytes) with
    | none => ([], false)
    | some (entry, later) =>
      let rest := scanEntries rounds later
      (entry :: rest.1, rest.2)

/-- The entries behind the packet identifier.  An entry takes at least one
byte, so there are enough rounds. -/
def bodyEntries (body : List UInt8) : List Entry × Bool :=
  match body with
  | _ :: _ :: rest => scanEntries one body.length rest
  | _ => ([], false)

theorem scanEntries_nil (rounds : Nat) : scanEntries one rounds [] = ([], true) := by
  cases rounds <;> rfl

variable {one} {bytes : List UInt8}

theorem scanEntries_broken (nonempty : bytes ≠ []) (broken : one bytes = none) (rounds : Nat) :
    scanEntries one (rounds + 1) bytes = ([], false) := by
  cases bytes with
  | nil => exact absurd rfl nonempty
  | cons byte bytes => rw [scanEntries, broken]

theorem scanEntries_found {entry : Entry} {later : List UInt8} (nonempty : bytes ≠ [])
    (found : one bytes = some (entry, later)) (rounds : Nat) :
    scanEntries one (rounds + 1) bytes =
      (entry :: (scanEntries one rounds later).1, (scanEntries one rounds later).2) := by
  cases bytes with
  | nil => exact absurd rfl nonempty
  | cons byte bytes => rw [scanEntries, found]

end Scanning

structure Scanner {Entry : Type} (read : SessionM Entry)
    (one : List UInt8 -> Option (Entry × List UInt8)) : Prop where
  shorter : forall {bytes entry later}, one bytes = some (entry, later) ->
    later.length < bytes.length
  found : forall {scene : Scene} {bytes entry later}, scene.packet.Leaves bytes ->
    one bytes = some (entry, later) ->
    exists count, read scene = ⟨[], .ok entry, scene.advance count⟩ ∧
      (scene.advance count).packet.Leaves later
  broken : forall {scene : Scene} {bytes}, scene.packet.Leaves bytes -> one bytes = none ->
    (read scene).effects = [] ∧ (read scene).outcome = .error mqttErrorInvalidProtocol

theorem scanString_shorter {bytes text rest : List UInt8}
    (scanned : scanString bytes = some (text, rest)) : rest.length < bytes.length := by
  rcases scanString_eq_some scanned with ⟨first, second, rfl, _⟩
  rw [List.length_cons, List.length_cons, List.length_append]
  omega

theorem readTopicName_scanner : Scanner (readingOr readString) scanString where
  shorter := scanString_shorter
  found := by
    intro scene bytes text rest leaves scanned
    rcases leaves.readString_found scanned with ⟨read, left⟩
    refine ⟨2 + text.length, ?_, left⟩
    rw [readingOr, bind_of_ok (attempt_of_returned (reading_apply read))]
    rfl
  broken := by
    intro scene bytes leaves scanned
    rcases leaves.readString_broken scanned with ⟨quiet, failed⟩
    have stopped : (reading readString scene).outcome =
        .error mqttErrorInvalidProtocol := failed
    rw [readingOr, bind_of_ok (attempt_of_error stopped)]
    refine ⟨?_, rfl⟩
    change (readString scene.packet).effects ++ [] = []
    rw [quiet]
    rfl

theorem scanFilter_eq_some {bytes later : List UInt8} {filter : GoString × UInt8}
    (scanned : scanFilter bytes = some (filter, later)) :
    scanString bytes = some (filter.1, filter.2 :: later) ∧ ¬ filter.2 > 2 := by
  rw [scanFilter] at scanned
  split at scanned
  case h_1 topic qos rest found =>
    by_cases large : qos > 2
    · rw [if_pos large] at scanned
      cases scanned
    · rw [if_neg large] at scanned
      cases scanned
      exact ⟨found, large⟩
  case h_2 => cases scanned

theorem scanFilter_eq_none {bytes : List UInt8} (scanned : scanFilter bytes = none) :
    scanString bytes = none ∨
      exists topic rest, scanString bytes = some (topic, rest) ∧
        (rest = [] ∨ exists qos later, rest = qos :: later ∧ qos > 2) := by
  rw [scanFilter] at scanned
  cases found : scanString bytes with
  | none => exact .inl rfl
  | some parts =>
    rcases parts with ⟨topic, _ | ⟨qos, later⟩⟩
    · exact .inr ⟨topic, [], rfl, .inl rfl⟩
    · refine .inr ⟨topic, qos :: later, rfl, .inr ⟨qos, later, rfl, ?_⟩⟩
      by_contra small
      simp only [found, if_neg small] at scanned
      cases scanned

theorem readFilter_scanner : Scanner readFilter scanFilter where
  shorter := by
    intro bytes filter later scanned
    have shorter := scanString_shorter (scanFilter_eq_some scanned).1
    rw [List.length_cons] at shorter
    omega
  found := by
    intro scene bytes filter later leaves scanned
    rcases scanFilter_eq_some scanned with ⟨found, small⟩
    rcases leaves.readString_found found with ⟨read, left⟩
    let moved := scene.advance (2 + filter.1.length)
    have code : reading readByte moved = ⟨[], .ok filter.2, moved.advance 1⟩ :=
      @reading_apply _ _ moved _ 1 (Leaves.readByte left)
    refine ⟨2 + filter.1.length + 1, ?_, ?_⟩
    · rw [readFilter, bind_of_ok (reading_apply read), precede_nil,
        bind_of_ok code, precede_nil, failIf_neg_bind_apply small,
        ← Scene.advance_advance]
      rfl
    · rw [← Scene.advance_advance]
      exact @MqttPacket.Leaves.advance moved.packet [filter.2] later left
  broken := by
    intro scene bytes leaves scanned
    rcases scanFilter_eq_none scanned with broken | ⟨topic, rest, found, wrong⟩
    · rcases leaves.readString_broken broken with ⟨quiet, failed⟩
      have stopped : (reading readString scene).outcome =
          .error mqttErrorInvalidProtocol := failed
      rw [readFilter, bind_of_error stopped]
      exact ⟨quiet, rfl⟩
    · rcases leaves.readString_found found with ⟨read, left⟩
      rw [readFilter, bind_of_ok (reading_apply read), precede_nil]
      let moved := scene.advance (2 + topic.length)
      rcases wrong with rfl | ⟨qos, later, rfl, large⟩
      · have missing := @MqttPacket.Leaves.readByte_nil Effect _ left
        have stopped : (reading readByte moved).outcome =
            .error mqttErrorInvalidProtocol := congrArg Run.outcome missing
        rw [bind_of_error stopped]
        exact ⟨congrArg Run.effects missing, rfl⟩
      · have code : reading readByte moved = ⟨[], .ok qos, moved.advance 1⟩ :=
          @reading_apply _ _ moved _ 1 (Leaves.readByte left)
        rw [bind_of_ok code, precede_nil, failIf_pos_bind_apply large]
        exact ⟨rfl, rfl⟩

/-! ## The loops -/

def subscribeEvent (scene : Scene) (filter : GoString × UInt8) : BrokerEvent :=
  .topicSubscribe
    { brokerID := scene.broker.brokerId
      clientID := scene.session.clientID
      topic := scene.session.mountpoint ++ filter.1
      qos := filter.2
      retain := true }

def unsubscribeEvent (scene : Scene) (topic : GoString) : BrokerEvent :=
  .topicUnsubscribe
    { brokerID := scene.broker.brokerId, clientID := scene.session.clientID, topic := topic }

structure EntryLoop {Entry Result : Type} (one : List UInt8 -> Option (Entry × List UInt8))
    (event : Scene -> Entry -> BrokerEvent) (collect : Result -> Entry -> Result)
    (loop : Nat -> Result -> SessionM Result) : Prop where
  shorter : forall {bytes entry later}, one bytes = some (entry, later) ->
    later.length < bytes.length
  advance : forall scene count, event (scene.advance count) = event scene
  finished : forall {rounds result} {scene : Scene}, scene.packet.Leaves [] ->
    loop rounds result scene = ⟨[], .ok result, scene⟩
  broken : forall {rounds result} {scene : Scene} {bytes}, scene.packet.Leaves bytes ->
    bytes ≠ [] -> one bytes = none ->
      (loop (rounds + 1) result scene).effects = [] ∧
        (loop (rounds + 1) result scene).outcome = .error mqttErrorInvalidProtocol
  found : forall {rounds result} {scene : Scene} {bytes entry later},
    scene.packet.Leaves bytes -> bytes ≠ [] -> one bytes = some (entry, later) ->
      exists count, (scene.advance count).packet.Leaves later ∧
        loop (rounds + 1) result scene =
          precede [.notify (event scene entry)]
            (loop rounds (collect result entry) (scene.advance count))

def notices (events : List BrokerEvent) : List Effect := events.map .notify

theorem notified_notices (events : List BrokerEvent) : notified (notices events) = events := by
  rw [notified, notices, List.filterMap_map]
  exact List.filterMap_some

section Loops

variable {Entry Result : Type} {one : List UInt8 -> Option (Entry × List UInt8)}
  {event : Scene -> Entry -> BrokerEvent} {collect : Result -> Entry -> Result}
  {loop : Nat -> Result -> SessionM Result} (reads : EntryLoop one event collect loop)

include reads

theorem EntryLoop.scanned (rounds : Nat) (result : Result) {scene : Scene} {bytes : List UInt8}
    (leaves : scene.packet.Leaves bytes) (enough : bytes.length ≤ rounds) :
    ((scanEntries one rounds bytes).2 = true -> exists count, loop rounds result scene =
      ⟨notices ((scanEntries one rounds bytes).1.map (event scene)),
        .ok ((scanEntries one rounds bytes).1.foldl collect result), scene.advance count⟩) ∧
    ((scanEntries one rounds bytes).2 = false ->
      (loop rounds result scene).effects =
          notices ((scanEntries one rounds bytes).1.map (event scene)) ∧
        (loop rounds result scene).outcome = .error mqttErrorInvalidProtocol) := by
  induction rounds generalizing result scene bytes with
  | zero =>
    have empty : bytes = [] := List.length_eq_zero_iff.mp (Nat.le_zero.mp enough)
    subst empty
    rw [reads.finished leaves, scanEntries_nil]
    exact ⟨fun _ => ⟨0, rfl⟩, fun incomplete => absurd incomplete Bool.noConfusion⟩
  | succ rounds ih =>
    by_cases empty : bytes = []
    · subst empty
      rw [reads.finished leaves, scanEntries_nil]
      exact ⟨fun _ => ⟨0, rfl⟩, fun incomplete => absurd incomplete Bool.noConfusion⟩
    cases scanned : one bytes with
    | none =>
      rw [scanEntries_broken empty scanned]
      exact ⟨fun complete => absurd complete Bool.noConfusion,
        fun _ => reads.broken leaves empty scanned⟩
    | some parts =>
      rcases parts with ⟨entry, later⟩
      have fewer := reads.shorter scanned
      rcases reads.found leaves empty scanned with ⟨count, left, step⟩
      rcases @ih (collect result entry) (scene.advance count) later left (by omega)
        with ⟨complete, incomplete⟩
      rw [reads.advance] at complete incomplete
      rw [step, scanEntries_found empty scanned]
      refine ⟨fun whole => ?_, fun broken => ?_⟩
      · rcases complete whole with ⟨more, ended⟩
        rw [ended, Scene.advance_advance]
        exact ⟨count + more, rfl⟩
      · rcases incomplete broken with ⟨effects, failed⟩
        rw [precede_effects, effects]
        exact ⟨rfl, failed⟩

end Loops

theorem small_ne {qos : UInt8} (small : ¬ qos > 2) : qos ≠ 0x80 := by
  rintro rfl
  exact small (by decide)

theorem subscribeEach_loop :
    EntryLoop scanFilter subscribeEvent (fun payload filter => payload ++ [filter.2])
      subscribeEach where
  shorter := readFilter_scanner.shorter
  advance := fun _ _ => rfl
  finished := fun leaves => subscribeEach_done (fun more => leaves.more_iff.mp more rfl) _ _
  broken := by
    intro rounds payload scene bytes leaves nonempty scanned
    rcases readFilter_scanner.broken leaves scanned with ⟨quiet, failed⟩
    rw [subscribeEach, look_bind_apply, if_pos (leaves.more_iff.mpr nonempty),
      bind_of_error failed]
    exact ⟨quiet, rfl⟩
  found := by
    intro rounds payload scene bytes filter later leaves nonempty scanned
    rcases readFilter_scanner.found leaves scanned with ⟨count, read, left⟩
    have code := small_ne (scanFilter_eq_some scanned).2
    refine ⟨count, left, ?_⟩
    rw [subscribeEach, look_bind_apply, if_pos (leaves.more_iff.mpr nonempty),
      bind_of_ok read, precede_nil, session_bind_apply,
      when_pos code, bind_of_ok (notify_apply _ _)]
    rfl

theorem unsubscribeEach_loop :
    EntryLoop scanString unsubscribeEvent (fun _ _ => ())
      (fun rounds _ => unsubscribeEach rounds) where
  shorter := readTopicName_scanner.shorter
  advance := fun _ _ => rfl
  finished := fun leaves => unsubscribeEach_done (fun more => leaves.more_iff.mp more rfl) _
  broken := by
    intro rounds _ scene bytes leaves nonempty scanned
    rcases readTopicName_scanner.broken leaves scanned with ⟨quiet, failed⟩
    rw [unsubscribeEach, look_bind_apply, if_pos (leaves.more_iff.mpr nonempty),
      bind_of_error failed]
    exact ⟨quiet, rfl⟩
  found := by
    intro rounds _ scene bytes topic later leaves nonempty scanned
    rcases readTopicName_scanner.found leaves scanned with ⟨count, read, left⟩
    refine ⟨count, left, ?_⟩
    rw [unsubscribeEach, look_bind_apply, if_pos (leaves.more_iff.mpr nonempty),
      bind_of_ok read, precede_nil, session_bind_apply,
      bind_of_ok (notify_apply _ _)]
    rfl

/-! ## The handlers -/

/-- MQTT 3.1.1 fixes the flags of both packets. -/
def Flagged (scene : Scene) : Prop :=
  scene.session.protocol = .mqtt311 ∧ scene.packet.command &&& 0x0F ≠ 0x02

/-- A SUBSCRIBE packet has the right flags, a packet identifier and filters up
to its end.  MQTT 3.1.1 asks for at least one filter. -/
def SubscribeMalformed (scene : Scene) (body : List UInt8) : Prop :=
  Flagged scene ∨ (bodyEntries scanFilter body).2 = false ∨
    (scene.session.protocol = .mqtt311 ∧ (bodyEntries scanFilter body).1 = [])

/-- An UNSUBSCRIBE packet has the right flags, a packet identifier and topics
up to its end. -/
def UnsubscribeMalformed (scene : Scene) (body : List UInt8) : Prop :=
  Flagged scene ∨ (bodyEntries scanString body).2 = false

/-- A malformed packet fails and notifies nothing.  Any other packet notifies
the given events. -/
structure AllOrNothing (malformed : Prop) (events : List BrokerEvent)
    (run : Run Scene Effect GoString Unit) : Prop where
  refused : malformed -> run.outcome = .error mqttErrorInvalidProtocol ∧ notified run.effects = []
  obeyed : ¬ malformed -> notified run.effects = events

theorem allOrNothing_iff {malformed flagged : Prop} {events : List BrokerEvent}
    {run : Run Scene Effect GoString Unit} (early : flagged -> malformed ∧ notified run.effects = [])
    (reads : ¬ flagged -> notified run.effects = events)
    (fails : malformed -> run.outcome = .error mqttErrorInvalidProtocol) :
    AllOrNothing malformed events run ↔ (malformed -> flagged ∨ events = []) := by
  constructor
  · intro whole wrong
    by_cases flag : flagged
    · exact .inl flag
    · rw [← reads flag]
      exact .inr (whole.refused wrong).2
  · intro nothing
    refine ⟨fun wrong => ⟨fails wrong, ?_⟩, fun right => reads (fun flag => right (early flag).1)⟩
    by_cases flag : flagged
    · exact (early flag).2
    · rw [reads flag]
      exact (nothing wrong).resolve_left flag

theorem handleSubscribe_flagged {scene : Scene} (flag : Flagged scene) :
    handleSubscribe scene = ⟨[], .error mqttErrorInvalidProtocol, scene⟩ := by
  rw [Flagged] at flag
  rw [handleSubscribe, look_bind_apply, failIf_pos_bind_apply flag]

theorem handleUnsubscribe_flagged {scene : Scene} (flag : Flagged scene) :
    handleUnsubscribe scene = ⟨[], .error mqttErrorInvalidProtocol, scene⟩ := by
  rw [Flagged] at flag
  rw [handleUnsubscribe, look_bind_apply, failIf_pos_bind_apply flag]

theorem notified_sendSubAck (pid : UInt16) (payload : List UInt8) (scene : Scene) :
    notified (sendSubAck pid payload scene).effects = [] :=
  notified_of_silent (sendSubAck_keeps queueStable_true.toStable (silent_write SUBACK) pid payload
    scene trivial).1

theorem notified_unsubAck (pid : UInt16) (scene : Scene) :
    notified (sendCommandWithPacketID UNSUBACK pid false scene).effects = [] :=
  notified_of_silent (sendCommandWithPacketID_keeps queueStable_true.toStable
    (silent_write UNSUBACK) pid scene trivial).1

theorem collected_eq (filters : List (GoString × UInt8)) :
    filters.foldl (fun payload filter => payload ++ [filter.2]) [] = filters.map Prod.snd := by
  rw [List.foldl_append_eq_append, List.nil_append]
  exact List.map_eq_flatMap.symm

section Handlers

variable {scene : Scene} {command : UInt8} {body : List UInt8}
  (holds : scene.packet.Holds command body) (plain : ¬ Flagged scene)
include holds

theorem readUint16_of_short (short : body.length < 2) :
    reading readUint16 scene = ⟨[], .error mqttErrorInvalidProtocol, scene⟩ := by
  have missing := @MqttPacket.Leaves.readUint16_short Effect _ _ holds.leaves short
  rw [reading, within]
  simp only [missing]

theorem readUint16_bind_of_short {Value : Type} {next : UInt16 -> SessionM Value}
    (short : body.length < 2) :
    (reading readUint16 >>= next) scene =
      ⟨[], .error mqttErrorInvalidProtocol, scene⟩ := by
  have failed := readUint16_of_short holds short
  rw [bind_of_error (by rw [failed]), failed]

theorem EntryLoop.packet {Entry Result : Type} {one : List UInt8 -> Option (Entry × List UInt8)}
    {event : Scene -> Entry -> BrokerEvent} {collect : Result -> Entry -> Result}
    {loop : Nat -> Result -> SessionM Result} (reads : EntryLoop one event collect loop)
    (result : Result) (finish : UInt16 -> Result -> SessionM Unit) :
    ((bodyEntries one body).2 = true -> exists first second rest count,
      body = first :: second :: rest ∧
      (do let pid ← reading readUint16
          let collected ← loop scene.packet.remainingLength result
          finish pid collected : SessionM Unit) scene =
        precede (notices ((bodyEntries one body).1.map (event scene)))
          (finish (uint16Of first second) ((bodyEntries one body).1.foldl collect result)
            (scene.advance count))) ∧
    ((bodyEntries one body).2 = false ->
      ((do let pid ← reading readUint16
           let collected ← loop scene.packet.remainingLength result
           finish pid collected : SessionM Unit) scene).effects =
          notices ((bodyEntries one body).1.map (event scene)) ∧
        ((do let pid ← reading readUint16
             let collected ← loop scene.packet.remainingLength result
             finish pid collected : SessionM Unit) scene).outcome =
          .error mqttErrorInvalidProtocol) := by
  rcases body with _ | ⟨first, _ | ⟨second, rest⟩⟩
  · rw [readUint16_bind_of_short holds Nat.two_pos]
    exact ⟨fun whole => absurd whole Bool.noConfusion, fun _ => ⟨rfl, rfl⟩⟩
  · rw [readUint16_bind_of_short holds Nat.one_lt_two]
    exact ⟨fun whole => absurd whole Bool.noConfusion, fun _ => ⟨rfl, rfl⟩⟩
  have pid := reading_apply (Leaves.readUint16 holds.leaves)
  have left : (scene.advance 2).packet.Leaves rest :=
    @MqttPacket.Leaves.advance scene.packet [first, second] rest holds.leaves
  rcases reads.scanned (first :: second :: rest).length result left (Nat.le_add_right _ 2)
    with ⟨complete, incomplete⟩
  rw [reads.advance] at complete incomplete
  rw [bind_of_ok pid, precede_nil, holds.announced]
  refine ⟨fun whole => ?_, fun broken => ?_⟩
  · rcases complete whole with ⟨count, ended⟩
    refine ⟨first, second, rest, 2 + count, rfl, ?_⟩
    rw [bind_of_ok ended, Scene.advance_advance]
    rfl
  · rcases incomplete broken with ⟨effects, failed⟩
    rw [bind_of_error failed]
    exact ⟨effects, rfl⟩

include plain

theorem handleSubscribe_scanned :
    notified (handleSubscribe scene).effects =
        (bodyEntries scanFilter body).1.map (subscribeEvent scene) ∧
      (SubscribeMalformed scene body ->
        (handleSubscribe scene).outcome = .error mqttErrorInvalidProtocol) := by
  have flags : ¬ (scene.session.protocol = .mqtt311 ∧ scene.packet.command &&& 0x0F ≠ 0x02) := plain
  rw [handleSubscribe, look_bind_apply, failIf_neg_bind_apply flags]
  rcases subscribeEach_loop.packet holds [] (fun pid payload => do
    failIf (scene.session.protocol = .mqtt311 ∧ payload = []) mqttErrorInvalidProtocol
    sendSubAck pid payload) with ⟨complete, incomplete⟩
  cases whole : (bodyEntries scanFilter body).2 with
  | false =>
    rcases incomplete whole with ⟨effects, failed⟩
    exact ⟨(congrArg notified effects).trans (notified_notices _), fun _ => failed⟩
  | true =>
    rcases complete whole with ⟨first, second, rest, count, _, run⟩
    rw [run, precede_effects, precede_outcome, notified_append, notified_notices, collected_eq]
    by_cases none : scene.session.protocol = .mqtt311 ∧
        (bodyEntries scanFilter body).1.map Prod.snd = []
    · rw [failIf_pos_bind_apply none]
      exact ⟨List.append_nil _, fun _ => rfl⟩
    · rw [failIf_neg_bind_apply none, notified_sendSubAck, List.append_nil]
      refine ⟨rfl, ?_⟩
      rintro (flag | broken | ⟨protocol, empty⟩)
      · exact absurd flag plain
      · exact absurd (whole.symm.trans broken) Bool.noConfusion
      · exact absurd ⟨protocol, List.map_eq_nil_iff.mpr empty⟩ none

theorem handleUnsubscribe_scanned :
    notified (handleUnsubscribe scene).effects =
        (bodyEntries scanString body).1.map (unsubscribeEvent scene) ∧
      (UnsubscribeMalformed scene body ->
        (handleUnsubscribe scene).outcome = .error mqttErrorInvalidProtocol) := by
  have flags : ¬ (scene.session.protocol = .mqtt311 ∧ scene.packet.command &&& 0x0F ≠ 0x02) := plain
  rw [handleUnsubscribe, look_bind_apply, failIf_neg_bind_apply flags]
  rcases unsubscribeEach_loop.packet holds ()
    (fun pid _ => sendCommandWithPacketID UNSUBACK pid false) with ⟨complete, incomplete⟩
  cases whole : (bodyEntries scanString body).2 with
  | false =>
    rcases incomplete whole with ⟨effects, failed⟩
    exact ⟨(congrArg notified effects).trans (notified_notices _), fun _ => failed⟩
  | true =>
    rcases complete whole with ⟨first, second, rest, count, _, run⟩
    rw [run, precede_effects, notified_append, notified_notices, notified_unsubAck,
      List.append_nil]
    refine ⟨rfl, ?_⟩
    rintro (flag | broken)
    · exact absurd flag plain
    · exact absurd (whole.symm.trans broken) Bool.noConfusion

end Handlers

/-- Both handlers are all or nothing exactly on the packets whose flags are
refused, that are read to their end, or whose first entry is already broken. -/
theorem filters_allOrNothing_iff {scene : Scene} {command : UInt8} {body : List UInt8}
    (holds : scene.packet.Holds command body) :
    (AllOrNothing (SubscribeMalformed scene body)
        ((bodyEntries scanFilter body).1.map (subscribeEvent scene)) (handleSubscribe scene) ↔
      Flagged scene ∨ (bodyEntries scanFilter body).2 = true ∨
        (bodyEntries scanFilter body).1 = []) ∧
    (AllOrNothing (UnsubscribeMalformed scene body)
        ((bodyEntries scanString body).1.map (unsubscribeEvent scene))
        (handleUnsubscribe scene) ↔
      Flagged scene ∨ (bodyEntries scanString body).2 = true ∨
        (bodyEntries scanString body).1 = []) := by
  constructor
  · rw [@allOrNothing_iff _ (Flagged scene)]
    · rw [List.map_eq_nil_iff, SubscribeMalformed]
      cases (bodyEntries scanFilter body).2 <;> tauto
    · intro flag
      rw [handleSubscribe_flagged flag]
      exact ⟨.inl flag, rfl⟩
    · exact fun plain => (handleSubscribe_scanned holds plain).1
    · intro wrong
      by_cases flag : Flagged scene
      · rw [handleSubscribe_flagged flag]
      · exact (handleSubscribe_scanned holds flag).2 wrong
  · rw [@allOrNothing_iff _ (Flagged scene)]
    · rw [List.map_eq_nil_iff, UnsubscribeMalformed]
      cases (bodyEntries scanString body).2 <;> tauto
    · intro flag
      rw [handleUnsubscribe_flagged flag]
      exact ⟨.inl flag, rfl⟩
    · exact fun plain => (handleUnsubscribe_scanned holds plain).1
    · intro wrong
      by_cases flag : Flagged scene
      · rw [handleUnsubscribe_flagged flag]
      · exact (handleUnsubscribe_scanned holds flag).2 wrong

def receiving (command : UInt8) (body : List UInt8) : Scene where
  session := newMqttSession 1 ⟨[], {}⟩ false
  packet := { newMqttPacket with
    command := command, remainingLength := body.length, payload := ⟨body, []⟩ }
  broker := SessionMgr.newBroker []

theorem receiving_holds (command : UInt8) (body : List UInt8) :
    (receiving command body).packet.Holds command body :=
  ⟨rfl, rfl, rfl, rfl⟩

/-- The filter "a" with quality of service 1. -/
theorem one_filter_obeyed :
    AllOrNothing (SubscribeMalformed (receiving 0x82 [0, 7, 0, 1, 97, 1]) [0, 7, 0, 1, 97, 1])
      ((bodyEntries scanFilter [0, 7, 0, 1, 97, 1]).1.map
        (subscribeEvent (receiving 0x82 [0, 7, 0, 1, 97, 1])))
      (handleSubscribe (receiving 0x82 [0, 7, 0, 1, 97, 1])) :=
  (filters_allOrNothing_iff (receiving_holds 0x82 [0, 7, 0, 1, 97, 1])).1.mpr
    (.inr (.inl (by decide)))

/-- The filter "a", and a filter "b" with quality of service 3.  The handler
fails after it has notified the first one. -/
theorem broken_subscribe_notified :
    SubscribeMalformed (receiving 0x82 [0, 7, 0, 1, 97, 1, 0, 1, 98, 3])
        [0, 7, 0, 1, 97, 1, 0, 1, 98, 3] ∧
      (handleSubscribe (receiving 0x82 [0, 7, 0, 1, 97, 1, 0, 1, 98, 3])).outcome =
        .error mqttErrorInvalidProtocol ∧
      notified (handleSubscribe (receiving 0x82 [0, 7, 0, 1, 97, 1, 0, 1, 98, 3])).effects =
        [.topicSubscribe { topic := ascii "a", qos := 1, retain := true }] := by
  refine ⟨.inr (.inl (by decide)), by decide, by decide⟩

end Mqtt
end Sentel
