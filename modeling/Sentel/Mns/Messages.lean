import Sentel.Kafka.Message

namespace Sentel
namespace Mns

open Library

/-!
# Messages of the queues

A queue and a topic of the message service send their messages through the same
message server as the other services.  Their types read a text with a receiver
that is a value, so that the record which the factory created is left as it is.
-/

def zeroTime : GoString := ascii "0001-01-01T00:00:00Z"

/-- A time stands for the text that it is written as. -/
structure QueueMessage where
  topicName : GoString := []
  messageId : GoString := []
  receiptHandle : GoString := []
  messageBody : List UInt8 := []
  messageBodyMd5 : GoString := []
  messageTag : GoString := []
  priority : UInt8 := 0
  firstEnqueueTime : GoString := zeroTime
  attributes : List (String × JsonText) := []

structure TopicMessage where
  topicName : GoString := []
  messageId : GoString := []
  messageBody : GoString := []
  messageBodyMd5 : GoString := []
  messageTag : GoString := []
  attributes : List (String × JsonText) := []
  publishTime : GoString := zeroTime

/-! ## Texts -/

/-- The topic name is not written.  A time is never left out. -/
def QueueMessage.serialize (msg : QueueMessage) : JsonText :=
  .object ([("message_id", .string msg.messageId), ("receipt_handle", .string msg.receiptHandle),
      ("message_body", .bytes msg.messageBody), ("message_body_md5", .string msg.messageBodyMd5)] ++
    JsonText.omitEmpty msg.messageTag.isEmpty "message_tag" (.string msg.messageTag) ++
    JsonText.omitEmpty (msg.priority == 0) "priority" (.number msg.priority.toNat) ++
    [("first_enqueue_time", .string msg.firstEnqueueTime)] ++
    JsonText.omitEmpty msg.attributes.isEmpty "attributes" (.object msg.attributes))

def TopicMessage.serialize (msg : TopicMessage) : JsonText :=
  .object ([("message_id", .string msg.messageId), ("message_body", .string msg.messageBody),
      ("message_body_md5", .string msg.messageBodyMd5)] ++
    JsonText.omitEmpty msg.messageTag.isEmpty "message_tag" (.string msg.messageTag) ++
    JsonText.omitEmpty msg.attributes.isEmpty "attributes" (.object msg.attributes) ++
    [("publish_time", .string msg.publishTime)])

/-- `Unmarshal` into a record without attributes. -/
def QueueMessage.unmarshal (msg : QueueMessage) (fields : List (String × JsonText)) :
    Option QueueMessage := do
  return {
    topicName := msg.topicName
    messageId := ← JsonText.field "message_id" msg.messageId JsonText.asString fields
    receiptHandle := ← JsonText.field "receipt_handle" msg.receiptHandle JsonText.asString fields
    messageBody := ← JsonText.field "message_body" msg.messageBody JsonText.asBytes fields
    messageBodyMd5 :=
      ← JsonText.field "message_body_md5" msg.messageBodyMd5 JsonText.asString fields
    messageTag := ← JsonText.field "message_tag" msg.messageTag JsonText.asString fields
    priority := ← JsonText.field "priority" msg.priority JsonText.asUInt8 fields
    firstEnqueueTime :=
      ← JsonText.field "first_enqueue_time" msg.firstEnqueueTime JsonText.asString fields
    attributes := ← JsonText.field "attributes" msg.attributes JsonText.fields fields }

@[inherit_doc QueueMessage.unmarshal]
def TopicMessage.unmarshal (msg : TopicMessage) (fields : List (String × JsonText)) :
    Option TopicMessage := do
  return {
    topicName := msg.topicName
    messageId := ← JsonText.field "message_id" msg.messageId JsonText.asString fields
    messageBody := ← JsonText.field "message_body" msg.messageBody JsonText.asString fields
    messageBodyMd5 :=
      ← JsonText.field "message_body_md5" msg.messageBodyMd5 JsonText.asString fields
    messageTag := ← JsonText.field "message_tag" msg.messageTag JsonText.asString fields
    attributes := ← JsonText.field "attributes" msg.attributes JsonText.fields fields
    publishTime := ← JsonText.field "publish_time" msg.publishTime JsonText.asString fields }

/-- A copy is filled with every field that was sent; the fields that are left
out are empty. -/
theorem QueueMessage.unmarshal_serialize (topicName : GoString) (sent : QueueMessage) :
    sent.serialize.fields.bind (QueueMessage.unmarshal { topicName := topicName }) =
      some { sent with topicName := topicName } := by
  by_cases tagged : sent.messageTag = [] <;> by_cases plain : sent.priority = 0 <;>
    by_cases bare : sent.attributes = [] <;>
    simp [serialize, unmarshal, JsonText.fields, JsonText.field, List.lookup_cons,
      JsonText.omitEmpty, JsonText.asString, JsonText.asBytes, tagged, plain, bare]

@[inherit_doc QueueMessage.unmarshal_serialize]
theorem TopicMessage.unmarshal_serialize (topicName : GoString) (sent : TopicMessage) :
    sent.serialize.fields.bind (TopicMessage.unmarshal { topicName := topicName }) =
      some { sent with topicName := topicName } := by
  by_cases tagged : sent.messageTag = [] <;> by_cases bare : sent.attributes = [] <;>
    simp [serialize, unmarshal, JsonText.fields, JsonText.field, List.lookup_cons,
      JsonText.omitEmpty, JsonText.asString, tagged, bare]

/-! ## What a handler receives -/

/-- The messages that are sent through the message server. -/
inductive Sent
  | service (msg : Kafka.Message)
  | queue (msg : QueueMessage)
  | topic (msg : TopicMessage)

namespace Sent

def serialize : Sent -> JsonText
  | .service msg => msg.serialize
  | .queue msg => msg.serialize
  | .topic msg => msg.serialize

/-- The message of the same type that a factory creates for a topic. -/
def fresh (topicName : GoString) : Sent -> Sent
  | .service msg => .service (msg.fresh topicName)
  | .queue _ => .queue { topicName := topicName }
  | .topic _ => .topic { topicName := topicName }

/-- The record that `Unmarshal` is given, filled from a text. -/
def unmarshal (target : Sent) (text : JsonText) : Option Sent :=
  match target with
  | .service msg => (msg.deserialize text).map .service
  | .queue msg => (text.fields.bind msg.unmarshal).map .queue
  | .topic msg => (text.fields.bind msg.unmarshal).map .topic

/-- The receiver of `Deserialize` is a pointer.  Otherwise `Unmarshal` is given
a copy. -/
def pointerReceiver : Sent -> Bool
  | .service _ => true
  | .queue _ => false
  | .topic _ => false

/-- `Deserialize`: the record after the call, if the call returns no error. -/
def deserialize (target : Sent) (text : JsonText) : Option Sent :=
  (target.unmarshal text).map (fun filled => if target.pointerReceiver then filled else target)

/-- A message without the fields that are not serialized. -/
def serialized : Sent -> Sent
  | .service msg => .service msg
  | .queue msg => .queue { msg with topicName := [] }
  | .topic msg => .topic { msg with topicName := [] }

/-- The fresh message holds what was sent. -/
def Arrives (topicName : GoString) (sent : Sent) : Prop :=
  exists received, (sent.fresh topicName).deserialize sent.serialize = some received ∧
    received.serialized = sent.serialized

theorem unmarshal_serialize (topicName : GoString) (sent : Sent) :
    exists filled, (sent.fresh topicName).unmarshal sent.serialize = some filled ∧
      filled.serialized = sent.serialized := by
  cases sent with
  | service msg =>
    have read := msg.deserialize_serialize topicName
    exact ⟨.service msg, congrArg (Option.map Sent.service) read, rfl⟩
  | queue msg =>
    have read := msg.unmarshal_serialize topicName
    exact ⟨.queue { msg with topicName := topicName }, congrArg (Option.map Sent.queue) read, rfl⟩
  | topic msg =>
    have read := msg.unmarshal_serialize topicName
    exact ⟨.topic { msg with topicName := topicName }, congrArg (Option.map Sent.topic) read, rfl⟩

theorem fresh_pointerReceiver (topicName : GoString) (sent : Sent) :
    (sent.fresh topicName).pointerReceiver = sent.pointerReceiver := by
  cases sent with
  | service msg | queue msg | topic msg => rfl

theorem deserialize_serialize (topicName : GoString) (sent : Sent) :
    exists filled, filled.serialized = sent.serialized ∧
      (sent.fresh topicName).deserialize sent.serialize =
        some (if sent.pointerReceiver then filled else sent.fresh topicName) := by
  rcases unmarshal_serialize topicName sent with ⟨filled, read, same⟩
  refine ⟨filled, same, ?_⟩
  rw [deserialize, read, fresh_pointerReceiver]
  rfl

/-- A message arrives if its type reads into the record itself; otherwise only
the empty message does. -/
theorem arrives_iff (topicName : GoString) (sent : Sent) :
    Arrives topicName sent ↔
      sent.pointerReceiver = true ∨ (sent.fresh topicName).serialized = sent.serialized := by
  rcases deserialize_serialize topicName sent with ⟨filled, same, received⟩
  rw [Arrives, received]
  by_cases pointer : sent.pointerReceiver = true
  · rw [if_pos pointer]
    exact iff_of_true ⟨filled, rfl, same⟩ (.inl pointer)
  · rw [if_neg pointer]
    constructor
    · rintro ⟨record, found, unchanged⟩
      cases found
      exact .inr unchanged
    · rintro (read | unchanged)
      · exact absurd read pointer
      · exact ⟨_, rfl, unchanged⟩

/-- A message of a queue with a body arrives empty. -/
theorem queue_message_lost :
    ¬ Arrives (ascii "q") (.queue { topicName := ascii "q", messageBody := [0x41] }) := by
  rintro ⟨record, found, same⟩
  rcases deserialize_serialize (ascii "q")
    (.queue { topicName := ascii "q", messageBody := [0x41] }) with ⟨filled, _, received⟩
  rw [received] at found
  cases found
  have body := congrArg QueueMessage.messageBody (Sent.queue.inj same)
  cases body

end Sent

end Mns
end Sentel
