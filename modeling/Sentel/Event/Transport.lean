import Sentel.Event.Event
import Sentel.Kafka.Message

namespace Sentel
namespace Event

open Library JsonText Kafka

/-!
# Events between brokers

An event that a broker notifies is published on the event bus of the cluster.
The event is marshalled, wrapped in a raw event that names its type, marshalled
again and put into a broker message, which the producer serializes.  A
consumer on another broker deserializes the broker message and decodes the
event from it.  The decoder selects the kind of event by the type field of the
broker message and unmarshals its payload as that event.

The publisher sets neither of the two things that the decoder relies on: the
type field of the broker message stays zero, and the payload is the raw event
and not the event.
-/

/-! ## The struct codecs -/

def SessionCreateEvent.marshal (event : SessionCreateEvent) : JsonText :=
  .object [("brokerId", .ofString event.brokerId), ("type", .number event.type.toNat),
    ("clientId", .ofString event.clientId), ("persistent", .bool event.persistent),
    ("retain", .bool event.retain)]

def SessionCreateEvent.unmarshal (text : JsonText) : Option SessionCreateEvent := do
  let fields ← text.fields
  let brokerId ← field "brokerId" [] asString fields
  let type ← field "type" 0 asUInt32 fields
  let clientId ← field "clientId" [] asString fields
  let persistent ← field "persistent" false asBool fields
  let retain ← field "retain" false asBool fields
  return { brokerId, type, clientId, persistent, retain }

def SessionDestroyEvent.marshal (event : SessionDestroyEvent) : JsonText :=
  .object [("brokerId", .ofString event.brokerId), ("type", .number event.type.toNat),
    ("clientId", .ofString event.clientId), ("persistent", .bool event.persistent),
    ("retain", .bool event.retain)]

def SessionDestroyEvent.unmarshal (text : JsonText) : Option SessionDestroyEvent := do
  let fields ← text.fields
  let brokerId ← field "brokerId" [] asString fields
  let type ← field "type" 0 asUInt32 fields
  let clientId ← field "clientId" [] asString fields
  let persistent ← field "persistent" false asBool fields
  let retain ← field "retain" false asBool fields
  return { brokerId, type, clientId, persistent, retain }

def SessionResumeEvent.marshal (event : SessionResumeEvent) : JsonText :=
  .object [("brokerId", .ofString event.brokerId), ("type", .number event.type.toNat),
    ("clientId", .ofString event.clientId)]

def TopicSubscribeEvent.marshal (event : TopicSubscribeEvent) : JsonText :=
  .object [("brokerId", .ofString event.brokerID), ("type", .number event.type.toNat),
    ("clientId", .ofString event.clientID), ("persistent", .bool event.persistent),
    ("topic", .ofString event.topic), ("qos", .number event.qos.toNat),
    ("data", .bytes event.data), ("retain", .bool event.retain)]

def TopicSubscribeEvent.unmarshal (text : JsonText) : Option TopicSubscribeEvent := do
  let fields ← text.fields
  let brokerID ← field "brokerId" [] asString fields
  let type ← field "type" 0 asUInt32 fields
  let clientID ← field "clientId" [] asString fields
  let persistent ← field "persistent" false asBool fields
  let topic ← field "topic" [] asString fields
  let qos ← field "qos" 0 asUInt8 fields
  let data ← field "data" [] asBytes fields
  let retain ← field "retain" false asBool fields
  return { brokerID, type, clientID, persistent, topic, qos, data, retain }

def TopicUnsubscribeEvent.marshal (event : TopicUnsubscribeEvent) : JsonText :=
  .object [("brokerId", .ofString event.brokerID), ("type", .number event.type.toNat),
    ("clientId", .ofString event.clientID), ("persistent", .bool event.persistent),
    ("topic", .ofString event.topic), ("data", .bytes event.data)]

def TopicUnsubscribeEvent.unmarshal (text : JsonText) : Option TopicUnsubscribeEvent := do
  let fields ← text.fields
  let brokerID ← field "brokerId" [] asString fields
  let type ← field "type" 0 asUInt32 fields
  let clientID ← field "clientId" [] asString fields
  let persistent ← field "persistent" false asBool fields
  let topic ← field "topic" [] asString fields
  let data ← field "data" [] asBytes fields
  return { brokerID, type, clientID, persistent, topic, data }

def TopicPublishEvent.marshal (event : TopicPublishEvent) : JsonText :=
  .object [("brokerId", .ofString event.brokerID), ("type", .number event.type.toNat),
    ("clientId", .ofString event.clientID), ("productId", .ofString event.productID),
    ("persistent", .bool event.persistent), ("id", .number event.id.toNat),
    ("topic", .ofString event.topic), ("data", .bytes event.payload),
    ("qos", .number event.qos.toNat), ("direction", .number event.direction.toNat),
    ("retain", .bool event.retain), ("dup", .bool event.dup)]

def TopicPublishEvent.unmarshal (text : JsonText) : Option TopicPublishEvent := do
  let fields ← text.fields
  let brokerID ← field "brokerId" [] asString fields
  let type ← field "type" 0 asUInt32 fields
  let clientID ← field "clientId" [] asString fields
  let productID ← field "productId" [] asString fields
  let persistent ← field "persistent" false asBool fields
  let id ← field "id" 0 asUInt16 fields
  let topic ← field "topic" [] asString fields
  let payload ← field "data" [] asBytes fields
  let qos ← field "qos" 0 asUInt8 fields
  let direction ← field "direction" 0 asUInt8 fields
  let retain ← field "retain" false asBool fields
  let dup ← field "dup" false asBool fields
  return ⟨brokerID, type, clientID, productID, persistent, id, topic, payload, qos, direction,
    retain, dup⟩

def BrokerEvent.marshal : BrokerEvent -> JsonText
  | .sessionCreate event => event.marshal
  | .sessionDestroy event => event.marshal
  | .sessionResume event => event.marshal
  | .topicSubscribe event => event.marshal
  | .topicUnsubscribe event => event.marshal
  | .topicPublish event => event.marshal

structure RawEvent where
  type : UInt32 := 0
  payload : JsonText := .null

def RawEvent.marshal (event : RawEvent) : JsonText :=
  .object [("type", .number event.type.toNat), ("payload", event.payload)]

/-! ## Publishing and receiving -/

def nameOfEventBus (tenant : GoString) (event : BrokerEvent) : GoString :=
  if event.getType = SessionCreate ∨ event.getType = SessionDestroy ∨
      event.getType = TopicPublish ∨ event.getType = TopicSubscribe ∨
      event.getType = TopicUnsubscribe then
    ascii "iot-" ++ tenant ++ ascii "-event-mqtt"
  else ascii "iot-" ++ tenant ++ ascii "-event-broker"

def encode (event : BrokerEvent) : JsonText :=
  RawEvent.marshal { type := event.getType, payload := event.marshal }

def publishMsg (topic : GoString) (event : BrokerEvent) : Broker JsonText where
  topicName := topic
  payload := encode event

/-- `Decode` -/
def decode (msg : Broker JsonText) : Option BrokerEvent :=
  if msg.eventType = SessionCreate then
    (SessionCreateEvent.unmarshal msg.payload).map .sessionCreate
  else if msg.eventType = SessionDestroy then
    (SessionDestroyEvent.unmarshal msg.payload).map .sessionDestroy
  else if msg.eventType = TopicSubscribe then
    (TopicSubscribeEvent.unmarshal msg.payload).map .topicSubscribe
  else if msg.eventType = TopicUnsubscribe then
    (TopicUnsubscribeEvent.unmarshal msg.payload).map .topicUnsubscribe
  else if msg.eventType = TopicPublish then
    (TopicPublishEvent.unmarshal msg.payload).map .topicPublish
  else none

def consume (topic : GoString) (text : JsonText) : Option (Broker JsonText) :=
  text.fields.bind (Broker.deserialize asDocument { topicName := topic, payload := .null })

def messageHandlerFunc (localBroker : GoString) (msg : Broker JsonText) : Option BrokerEvent :=
  match decode msg with
  | none => none
  | some event => if event.getBrokerId = localBroker then none else some event

def transport (tenant : GoString) (event : BrokerEvent) : Option (Broker JsonText) :=
  let bus := nameOfEventBus tenant event
  consume bus ((publishMsg bus event).serialize .document)

def RoundTrips (tenant : GoString) (event : BrokerEvent) : Prop :=
  (transport tenant event).bind decode = some event

/-! ## The codecs invert -/

/-- The strings of an event are valid UTF-8. -/
def BrokerEvent.Utf8 : BrokerEvent -> Prop
  | .sessionCreate event => ValidUtf8 event.brokerId ∧ ValidUtf8 event.clientId
  | .sessionDestroy event => ValidUtf8 event.brokerId ∧ ValidUtf8 event.clientId
  | .sessionResume event => ValidUtf8 event.brokerId ∧ ValidUtf8 event.clientId
  | .topicSubscribe event =>
    ValidUtf8 event.brokerID ∧ ValidUtf8 event.clientID ∧ ValidUtf8 event.topic
  | .topicUnsubscribe event =>
    ValidUtf8 event.brokerID ∧ ValidUtf8 event.clientID ∧ ValidUtf8 event.topic
  | .topicPublish event => ValidUtf8 event.brokerID ∧ ValidUtf8 event.clientID ∧
    ValidUtf8 event.productID ∧ ValidUtf8 event.topic

theorem SessionCreateEvent.unmarshal_marshal (event : SessionCreateEvent)
    (utf8 : (BrokerEvent.sessionCreate event).Utf8) : unmarshal event.marshal = some event := by
  rcases utf8 with ⟨broker, client⟩
  simp [marshal, unmarshal, fields, field, List.lookup_cons, asString, asBool,
    ofString_of_valid broker, ofString_of_valid client]

theorem SessionDestroyEvent.unmarshal_marshal (event : SessionDestroyEvent)
    (utf8 : (BrokerEvent.sessionDestroy event).Utf8) : unmarshal event.marshal = some event := by
  rcases utf8 with ⟨broker, client⟩
  simp [marshal, unmarshal, fields, field, List.lookup_cons, asString, asBool,
    ofString_of_valid broker, ofString_of_valid client]

theorem TopicSubscribeEvent.unmarshal_marshal (event : TopicSubscribeEvent)
    (utf8 : (BrokerEvent.topicSubscribe event).Utf8) : unmarshal event.marshal = some event := by
  rcases utf8 with ⟨broker, client, topic⟩
  simp [marshal, unmarshal, fields, field, List.lookup_cons, asString, asBool, asBytes,
    ofString_of_valid broker, ofString_of_valid client, ofString_of_valid topic]

theorem TopicUnsubscribeEvent.unmarshal_marshal (event : TopicUnsubscribeEvent)
    (utf8 : (BrokerEvent.topicUnsubscribe event).Utf8) : unmarshal event.marshal = some event := by
  rcases utf8 with ⟨broker, client, topic⟩
  simp [marshal, unmarshal, fields, field, List.lookup_cons, asString, asBool, asBytes,
    ofString_of_valid broker, ofString_of_valid client, ofString_of_valid topic]

theorem TopicPublishEvent.unmarshal_marshal (event : TopicPublishEvent)
    (utf8 : (BrokerEvent.topicPublish event).Utf8) : unmarshal event.marshal = some event := by
  rcases utf8 with ⟨broker, client, product, topic⟩
  simp [marshal, unmarshal, fields, field, List.lookup_cons, asString, asBool, asBytes,
    ofString_of_valid broker, ofString_of_valid client, ofString_of_valid product, ofString_of_valid topic]

/-- The decoder accepts every event with valid strings whose broker message has
the type of the event and whose payload is the event itself. -/
theorem decode_of_tagged (topic : GoString) (event : BrokerEvent)
    (clustered : event.getType ≠ SessionResume) (utf8 : event.Utf8) :
    decode { topicName := topic, eventType := event.getType, payload := event.marshal } =
      some event := by
  cases event with
  | sessionCreate event =>
    change (SessionCreateEvent.unmarshal event.marshal).map _ = _
    rw [event.unmarshal_marshal utf8]
    rfl
  | sessionDestroy event =>
    change (SessionDestroyEvent.unmarshal event.marshal).map _ = _
    rw [event.unmarshal_marshal utf8]
    rfl
  | sessionResume event => exact absurd rfl clustered
  | topicSubscribe event =>
    change (TopicSubscribeEvent.unmarshal event.marshal).map _ = _
    rw [event.unmarshal_marshal utf8]
    rfl
  | topicUnsubscribe event =>
    change (TopicUnsubscribeEvent.unmarshal event.marshal).map _ = _
    rw [event.unmarshal_marshal utf8]
    rfl
  | topicPublish event =>
    change (TopicPublishEvent.unmarshal event.marshal).map _ = _
    rw [event.unmarshal_marshal utf8]
    rfl

theorem tagged_end_decoded : decode ⟨[], SessionDestroy,
    (BrokerEvent.sessionDestroy { clientId := [0xC3, 0xA9] }).marshal⟩ =
      some (.sessionDestroy { clientId := [0xC3, 0xA9] }) :=
  decode_of_tagged [] (.sessionDestroy { clientId := [0xC3, 0xA9] }) (by decide)
    ⟨⟨[], rfl⟩, ⟨['\u00E9'], by decide⟩⟩

/-! ## What arrives -/

theorem transport_eq (tenant : GoString) (event : BrokerEvent) :
    transport tenant event = some (publishMsg (nameOfEventBus tenant event) event) := by
  have inverse : forall zero payload : JsonText,
      field "payload" zero asDocument [("payload", .document payload)] = some payload :=
    fun _ _ => rfl
  simp only [transport, consume]
  exact Broker.deserialize_serialize inverse _ _

theorem decode_publishMsg (topic : GoString) (event : BrokerEvent) :
    decode (publishMsg topic event) = none := rfl

/-- No event survives the way to another broker. -/
theorem not_roundTrips (tenant : GoString) (event : BrokerEvent) : ¬ RoundTrips tenant event := by
  intro arrives
  rw [RoundTrips, transport_eq, Option.bind_some, decode_publishMsg] at arrives
  cases arrives

/-- A published message of a client does not reach the other brokers. -/
theorem publish_event_lost :
    ¬ RoundTrips (ascii "t") (.topicPublish
      { brokerID := ascii "A", clientID := ascii "c", topic := ascii "a", payload := [1] }) := by
  intro arrives
  cases arrives

theorem messageHandlerFunc_silent (tenant localBroker : GoString) (event : BrokerEvent) :
    (transport tenant event).bind (messageHandlerFunc localBroker) = none := by
  rw [transport_eq, Option.bind_some, messageHandlerFunc, decode_publishMsg]

end Event
end Sentel
