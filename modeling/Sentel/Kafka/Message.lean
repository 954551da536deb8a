import Sentel.Library.JsonText

namespace Sentel
namespace Kafka

open Library JsonText

/-!
# Messages between the services

The services tell each other about tenants, products and rules through topics
of a message server.  A message is written as a JSON object and read into the
record that a factory creates for its topic.  The record of a tenant writes the
identifier of the tenant under the name `productId`.
-/

def topicNameTenant : GoString := ascii "sentel-iot-tenant"
def topicNameProduct : GoString := ascii "sentel-iot-product"
def topicNameRule : GoString := ascii "sentel-iot-rule"

def actionCreate : GoString := ascii "register"
def actionRemove : GoString := ascii "unregister"
def actionUpdate : GoString := ascii "update"

structure Tenant where
  topicName : GoString := []
  tenantId : GoString := []
  action : GoString := []
  deriving DecidableEq

structure Product where
  topicName : GoString := []
  productId : GoString := []
  action : GoString := []
  tenantId : GoString := []
  replicas : Int32 := 0
  deriving DecidableEq

structure Rule where
  topicName : GoString := []
  ruleName : GoString := []
  productId : GoString := []
  action : GoString := []
  deriving DecidableEq

/-- The payload is a byte slice, given by its bytes or by the tree of the JSON text
that they are. -/
structure Broker (Payload : Type) where
  topicName : GoString := []
  eventType : UInt32 := 0
  payload : Payload
  deriving DecidableEq

inductive Message
  | tenant (record : Tenant)
  | product (record : Product)
  | rule (record : Rule)
  | broker (record : Broker (List UInt8))
  deriving DecidableEq

def Message.topic : Message -> GoString
  | .tenant _ => topicNameTenant
  | .product _ => topicNameProduct
  | .rule _ => topicNameRule
  | .broker record => record.topicName

def builtinFactory (topicName : GoString) : Message :=
  if topicName = topicNameTenant then .tenant {}
  else if topicName = topicNameProduct then .product {}
  else if topicName = topicNameRule then .rule {}
  else .broker { topicName := topicName, payload := [] }

/-! ## Encoding -/

def Tenant.deserialize (record : Tenant) (fields : List (String × JsonText)) : Option Tenant := do
  return {
    topicName := ← field "TopicName" record.topicName asString fields
    tenantId := ← field "productId" record.tenantId asString fields
    action := ← field "action" record.action asString fields }

def Product.deserialize (record : Product) (fields : List (String × JsonText)) :
    Option Product := do
  return {
    topicName := ← field "TopicName" record.topicName asString fields
    productId := ← field "productId" record.productId asString fields
    action := ← field "action" record.action asString fields
    tenantId := ← field "tenantId" record.tenantId asString fields
    replicas := ← field "replicas" record.replicas asInt32 fields }

def Rule.deserialize (record : Rule) (fields : List (String × JsonText)) : Option Rule := do
  return {
    topicName := ← field "TopicName" record.topicName asString fields
    ruleName := ← field "ruleName" record.ruleName asString fields
    productId := ← field "productId" record.productId asString fields
    action := ← field "action" record.action asString fields }

def Broker.deserialize {Payload : Type} (read : JsonText -> Option Payload)
    (record : Broker Payload) (fields : List (String × JsonText)) : Option (Broker Payload) := do
  return {
    topicName := ← field "TopicName" record.topicName asString fields
    eventType := ← field "eventType" record.eventType asUInt32 fields
    payload := ← field "payload" record.payload read fields }

def Message.deserialize (record : Message) (text : JsonText) : Option Message :=
  text.fields.bind (fun fields =>
    match record with
    | .tenant record => (record.deserialize fields).map .tenant
    | .product record => (record.deserialize fields).map .product
    | .rule record => (record.deserialize fields).map .rule
    | .broker record => (record.deserialize asBytes fields).map .broker)

/-! The texts that are sent. -/

def Tenant.serialize (record : Tenant) : JsonText :=
  .object [("TopicName", .string record.topicName), ("productId", .string record.tenantId),
    ("action", .string record.action)]

def Product.serialize (record : Product) : JsonText :=
  .object [("TopicName", .string record.topicName), ("productId", .string record.productId),
    ("action", .string record.action), ("tenantId", .string record.tenantId),
    ("replicas", .number record.replicas.toInt)]

def Rule.serialize (record : Rule) : JsonText :=
  .object [("TopicName", .string record.topicName), ("ruleName", .string record.ruleName),
    ("productId", .string record.productId), ("action", .string record.action)]

def Broker.serialize {Payload : Type} (write : Payload -> JsonText) (record : Broker Payload) :
    JsonText :=
  .object [("TopicName", .string record.topicName), ("eventType", .number record.eventType.toNat),
    ("payload", write record.payload)]

def Message.serialize : Message -> JsonText
  | .tenant record => record.serialize
  | .product record => record.serialize
  | .rule record => record.serialize
  | .broker record => record.serialize .bytes

/-! ## What arrives -/

def Message.fresh (topicName : GoString) : Message -> Message
  | .tenant _ => .tenant {}
  | .product _ => .product {}
  | .rule _ => .rule {}
  | .broker _ => .broker { topicName := topicName, payload := [] }

theorem Tenant.deserialize_serialize (fresh sent : Tenant) :
    sent.serialize.fields.bind fresh.deserialize = some sent := by
  simp [serialize, deserialize, fields, field, List.lookup_cons,
    asString]

theorem Product.deserialize_serialize (fresh sent : Product) :
    sent.serialize.fields.bind fresh.deserialize = some sent := by
  simp [serialize, deserialize, fields, field, List.lookup_cons,
    asString]

theorem Rule.deserialize_serialize (fresh sent : Rule) :
    sent.serialize.fields.bind fresh.deserialize = some sent := by
  simp [serialize, deserialize, fields, field, List.lookup_cons,
    asString]

theorem Broker.deserialize_serialize {Payload : Type} {read : JsonText -> Option Payload}
    {write : Payload -> JsonText} (inverse : forall zero payload,
      field "payload" zero read [("payload", write payload)] = some payload)
    (fresh sent : Broker Payload) :
    (sent.serialize write).fields.bind (fresh.deserialize read) = some sent := by
  have inside : field "payload" fresh.payload read
      [("TopicName", .string sent.topicName), ("eventType", .number sent.eventType.toNat),
        ("payload", write sent.payload)] = some sent.payload := by
    simpa [field, List.lookup_cons] using inverse fresh.payload sent.payload
  simp only [serialize, fields, Option.bind_some, deserialize, inside]
  simp [field, List.lookup_cons, asString]

theorem Message.deserialize_serialize (topicName : GoString) (sent : Message) :
    (sent.fresh topicName).deserialize sent.serialize = some sent := by
  cases sent with
  | tenant record =>
    exact congrArg (Option.map Message.tenant) (Tenant.deserialize_serialize {} record)
  | product record =>
    exact congrArg (Option.map Message.product) (Product.deserialize_serialize {} record)
  | rule record =>
    exact congrArg (Option.map Message.rule) (Rule.deserialize_serialize {} record)
  | broker record =>
    exact congrArg (Option.map Message.broker)
      (Broker.deserialize_serialize (fun _ _ => rfl) _ record)

end Kafka
end Sentel
