import Sentel.Library.Collection
import Sentel.Library.Machine
import Sentel.Mns.Messages

namespace Sentel
namespace Mns

open Library

/-!
# The metadata store

The message service keeps its queues, topics and subscriptions in three
collections of a document database.  A record is written under the names of its
tags and looked up by queries that repeat these names.
-/

/-! ## Records and their documents -/

structure QueueAttribute where
  accountId : GoString := []
  queueName : GoString := []
  delaySeconds : Int32 := 0
  maxMessageSize : Int32 := 0
  messageRetentionPeriod : Int32 := 0
  visibilityTimeout : Int32 := 0
  pollingWaitSeconds : Int32 := 0
  activeMessages : Int64 := 0
  inactiveMessages : Int64 := 0
  delayMessages : Int64 := 0
  createTime : GoString := zeroTime
  lastModifyTime : GoString := zeroTime
  deriving DecidableEq

structure Topic where
  accountId : GoString := []
  topicName : GoString := []
  createdAt : GoString := zeroTime
  lastModifiedAt : GoString := zeroTime
  maximumMessageSize : UInt32 := 0
  messageRetentionPeriod : UInt32 := 0
  logginEnabled : Bool := false
  deriving DecidableEq

structure Subscription where
  accountId : GoString := []
  subscriptionName : GoString := []
  subscriber : GoString := []
  topicOwner : GoString := []
  topicName : GoString := []
  endpoint : GoString := []
  notifyStrategy : GoString := []
  notifyContentFormat : GoString := []
  filterTag : GoString := []
  createdAt : GoString := zeroTime
  lastModifiedAt : GoString := zeroTime
  deriving DecidableEq

inductive Bson
  | string (value : GoString)
  | time (value : GoString)
  | bool (value : Bool)
  | int32 (value : Int32)
  | int64 (value : Int64)
  | uint32 (value : UInt32)
  deriving DecidableEq

namespace Bson

def asString : Bson -> Option GoString
  | .string value => some value
  | _ => none

def asTime : Bson -> Option GoString
  | .time value => some value
  | _ => none

def asBool : Bson -> Option Bool
  | .bool value => some value
  | _ => none

def asInt32 : Bson -> Option Int32
  | .int32 value => some value
  | _ => none

def asInt64 : Bson -> Option Int64
  | .int64 value => some value
  | _ => none

def asUInt32 : Bson -> Option UInt32
  | .uint32 value => some value
  | _ => none

def omitEmpty {Value : Type} [DecidableEq Value] (name : String) (wrap : Value -> Bson)
    (zero value : Value) : Document Bson :=
  if value = zero then [] else [(name, wrap value)]

def read {Value : Type} (name : String) (convert : Bson -> Option Value) (zero : Value)
    (document : Document Bson) : Value :=
  ((document.lookup name).bind convert).getD zero

end Bson

def QueueAttribute.toDocument (attr : QueueAttribute) : Document Bson :=
  [("_", .string attr.accountId)] ++
    Bson.omitEmpty "QueueName" .string [] attr.queueName ++
    Bson.omitEmpty "DelaySenconds" .int32 0 attr.delaySeconds ++
    Bson.omitEmpty "MaximumMessageSize" .int32 0 attr.maxMessageSize ++
    Bson.omitEmpty "MessageRetentionPeriod" .int32 0 attr.messageRetentionPeriod ++
    Bson.omitEmpty "VisibilityTimeout" .int32 0 attr.visibilityTimeout ++
    Bson.omitEmpty "PollingWaitSeconds" .int32 0 attr.pollingWaitSeconds ++
    Bson.omitEmpty "ActiveMessages" .int64 0 attr.activeMessages ++
    Bson.omitEmpty "InactiveMessages" .int64 0 attr.inactiveMessages ++
    Bson.omitEmpty "DelayMessages" .int64 0 attr.delayMessages ++
    Bson.omitEmpty "CreateTime" .time zeroTime attr.createTime ++
    Bson.omitEmpty "LastModifyTime" .time zeroTime attr.lastModifyTime

def QueueAttribute.ofDocument (document : Document Bson) : QueueAttribute where
  accountId := Bson.read "_" Bson.asString [] document
  queueName := Bson.read "QueueName" Bson.asString [] document
  delaySeconds := Bson.read "DelaySenconds" Bson.asInt32 0 document
  maxMessageSize := Bson.read "MaximumMessageSize" Bson.asInt32 0 document
  messageRetentionPeriod := Bson.read "MessageRetentionPeriod" Bson.asInt32 0 document
  visibilityTimeout := Bson.read "VisibilityTimeout" Bson.asInt32 0 document
  pollingWaitSeconds := Bson.read "PollingWaitSeconds" Bson.asInt32 0 document
  activeMessages := Bson.read "ActiveMessages" Bson.asInt64 0 document
  inactiveMessages := Bson.read "InactiveMessages" Bson.asInt64 0 document
  delayMessages := Bson.read "DelayMessages" Bson.asInt64 0 document
  createTime := Bson.read "CreateTime" Bson.asTime zeroTime document
  lastModifyTime := Bson.read "LastModifyTime" Bson.asTime zeroTime document

def Topic.toDocument (topic : Topic) : Document Bson :=
  [("AccountId", .string topic.accountId), ("TopicName", .string topic.topicName),
    ("CreatedAt", .time topic.createdAt), ("LastModifiedAt", .time topic.lastModifiedAt),
    ("MaximumMessageSize", .uint32 topic.maximumMessageSize),
    ("MessageRetentionPeriod", .uint32 topic.messageRetentionPeriod),
    ("LogginEnabled", .bool topic.logginEnabled)]

def Topic.ofDocument (document : Document Bson) : Topic where
  accountId := Bson.read "AccountId" Bson.asString [] document
  topicName := Bson.read "TopicName" Bson.asString [] document
  createdAt := Bson.read "CreatedAt" Bson.asTime zeroTime document
  lastModifiedAt := Bson.read "LastModifiedAt" Bson.asTime zeroTime document
  maximumMessageSize := Bson.read "MaximumMessageSize" Bson.asUInt32 0 document
  messageRetentionPeriod := Bson.read "MessageRetentionPeriod" Bson.asUInt32 0 document
  logginEnabled := Bson.read "LogginEnabled" Bson.asBool false document

def Subscription.toDocument (subscription : Subscription) : Document Bson :=
  [("AccountId", .string subscription.accountId),
    ("SubscriptionName", .string subscription.subscriptionName),
    ("Subscriber", .string subscription.subscriber),
    ("TopicOwner", .string subscription.topicOwner),
    ("TopicName", .string subscription.topicName), ("Endpoint", .string subscription.endpoint),
    ("NotifyStrategy", .string subscription.notifyStrategy),
    ("NotifyContentFormat", .string subscription.notifyContentFormat),
    ("FilterTag", .string subscription.filterTag), ("CreatedAt", .time subscription.createdAt),
    ("LastModifiedAt", .time subscription.lastModifiedAt)]

def Subscription.ofDocument (document : Document Bson) : Subscription where
  accountId := Bson.read "AccountId" Bson.asString [] document
  subscriptionName := Bson.read "SubscriptionName" Bson.asString [] document
  subscriber := Bson.read "Subscriber" Bson.asString [] document
  topicOwner := Bson.read "TopicOwner" Bson.asString [] document
  topicName := Bson.read "TopicName" Bson.asString [] document
  endpoint := Bson.read "Endpoint" Bson.asString [] document
  notifyStrategy := Bson.read "NotifyStrategy" Bson.asString [] document
  notifyContentFormat := Bson.read "NotifyContentFormat" Bson.asString [] document
  filterTag := Bson.read "FilterTag" Bson.asString [] document
  createdAt := Bson.read "CreatedAt" Bson.asTime zeroTime document
  lastModifiedAt := Bson.read "LastModifiedAt" Bson.asTime zeroTime document

/-! ## The adaptor -/

abbrev Query := List (String × GoString)

def selects (query : Query) (document : Document Bson) : Bool :=
  document.satisfies (query.map (fun clause => (clause.1, Bson.string clause.2)))

structure MongoAdaptor where
  queues : List (Document Bson) := []
  topics : List (Document Bson) := []
  subscriptions : List (Document Bson) := []

section Collections

variable (query : Query) (documents : List (Document Bson))

def findRecord {Record : Type} (ofDocument : Document Bson -> Record) (zero : Record) :
    Record × Option GoString :=
  match Collection.findOne (selects query) documents with
  | none => (zero, some notFound)
  | some document => (ofDocument document, none)

def findRecords {Record : Type} (ofDocument : Document Bson -> Record) : List Record :=
  (Collection.findAll (selects query) documents).map ofDocument

/-- The error of `Update` and `Remove`. -/
def missing : Option GoString :=
  if documents.any (selects query) then none else some notFound

end Collections

namespace MongoAdaptor

variable (m : MongoAdaptor)

def getQueueAttribute (accountId queueName : GoString) : QueueAttribute × Option GoString :=
  findRecord [("AccountId", accountId), ("QueueName", queueName)] m.queues
    QueueAttribute.ofDocument {}

def addQueue (accountId queueName : GoString) (attr : QueueAttribute) : MongoAdaptor :=
  let attr := { attr with accountId := accountId, queueName := queueName }
  { m with queues := Collection.insert attr.toDocument m.queues }

def updateQueue (accountId queueName : GoString) (attr : QueueAttribute) :
    MongoAdaptor × Option GoString :=
  let query := [("AccountId", accountId), ("QueueName", queueName)]
  let attr := { attr with accountId := accountId, queueName := queueName }
  ({ m with queues := Collection.update (selects query) attr.toDocument m.queues },
    missing query m.queues)

def removeQueue (accountId queueName : GoString) : MongoAdaptor × Option GoString :=
  let query := [("AccountId", accountId), ("queueName", queueName)]
  ({ m with queues := Collection.remove (selects query) m.queues }, missing query m.queues)

def getAccountQueues (accountId : GoString) : List GoString :=
  (findRecords [("AccountId", accountId)] m.queues QueueAttribute.ofDocument).map
    QueueAttribute.queueName

def removeAccountQueues (accountId : GoString) : MongoAdaptor :=
  { m with queues := Collection.remove (selects [("AccountId", accountId)]) m.queues }

def getTopic (accountId topicName : GoString) : Topic × Option GoString :=
  findRecord [("AccountId", accountId), ("TopicName", topicName)] m.topics Topic.ofDocument {}

def addTopic (accountId topicName : GoString) (topic : Topic) : MongoAdaptor :=
  let topic := { topic with accountId := accountId, topicName := topicName }
  { m with topics := Collection.insert topic.toDocument m.topics }

def updateTopic (accountId topicName : GoString) (topic : Topic) :
    MongoAdaptor × Option GoString :=
  let query := [("AccountId", accountId), ("TopicName", topicName)]
  let topic := { topic with accountId := accountId, topicName := topicName }
  ({ m with topics := Collection.update (selects query) topic.toDocument m.topics },
    missing query m.topics)

def removeTopic (accountId topicName : GoString) : MongoAdaptor × Option GoString :=
  let query := [("AccountId", accountId), ("TopicName", topicName)]
  ({ m with topics := Collection.remove (selects query) m.topics }, missing query m.topics)

def getAccountTopics (accountId : GoString) : List GoString :=
  (findRecords [("AccountId", accountId)] m.topics Topic.ofDocument).map Topic.topicName

def removeAccountTopics (accountId : GoString) : MongoAdaptor :=
  { m with topics := Collection.remove (selects [("AccountId", accountId)]) m.topics }

def getSubscription (accountId topicName subscriptionName : GoString) :
    Subscription × Option GoString :=
  findRecord [("AccountId", accountId), ("TopicName", topicName),
    ("SubscriptionName", subscriptionName)] m.subscriptions Subscription.ofDocument {}

def addSubscription (accountId topicName : GoString) (subscription : Subscription) :
    MongoAdaptor :=
  let subscription := { subscription with topicName := topicName, accountId := accountId }
  { m with subscriptions := Collection.insert subscription.toDocument m.subscriptions }

def updateSubscription (accountId topicName subscriptionName : GoString)
    (subscription : Subscription) : MongoAdaptor × Option GoString :=
  let query := [("AccountId", accountId), ("TopicName", topicName),
    ("SubscriptionName", subscriptionName)]
  let subscription := { subscription with
    topicName := topicName
    accountId := accountId
    subscriptionName := subscriptionName }
  ({ m with
      subscriptions :=
        Collection.update (selects query) subscription.toDocument m.subscriptions },
    missing query m.subscriptions)

def removeSubscription (accountId topicName subscriptionName : GoString) :
    MongoAdaptor × Option GoString :=
  let query := [("AccountId", accountId), ("TopicName", topicName),
    ("subscriptionName", subscriptionName)]
  ({ m with subscriptions := Collection.remove (selects query) m.subscriptions },
    missing query m.subscriptions)

def getAccountSubscriptions (accountId topicName : GoString) : List GoString :=
  (findRecords [("AccountId", accountId), ("TopicName", topicName)] m.subscriptions
    Subscription.ofDocument).map Subscription.subscriptionName

def removeAccountSubscriptions (accountId topicName : GoString) : MongoAdaptor :=
  { m with
    subscriptions := Collection.remove
      (selects [("AccountId", accountId), ("TopicName", topicName)]) m.subscriptions }

end MongoAdaptor

end Mns
end Sentel
