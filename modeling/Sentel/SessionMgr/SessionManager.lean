import Sentel.Event.Event
import Sentel.Queue.QueueService
import Sentel.SessionMgr.TopicTree

namespace Sentel
namespace SessionMgr

open Library Base Queue Event

/-!
# The session manager

The services of one broker share three maps: the sessions and the topic tree
of the session manager and the queues of the queue service.  Sessions of
clients change them while they connect, and the event handlers of the session
manager change them when the events of the sessions arrive.  An event names a
client and not a connection.
-/

/-- The sessions that can be registered: those of local connections, and the
virtual ones that stand for persistent sessions of another broker. -/
inductive Session
  | mqtt (conn : ConnId) (persistent : Bool)
  | virtual (brokerId : GoString) (persistent : Bool)
  deriving DecidableEq

def Session.isPersistent : Session -> Bool
  | .mqtt _ persistent => persistent
  | .virtual _ persistent => persistent

/-- The state that the services of one broker share. -/
structure Broker where
  brokerId : GoString
  sessions : AList (fun _ : GoString => Session)
  tree : SimpleTopicTree
  queueService : QueueService

def newBroker (brokerId : GoString) : Broker where
  brokerId := brokerId
  sessions := ∅
  tree := newSimpleTopicTree
  queueService := newQueueService

namespace Broker

def findSession (broker : Broker) (clientId : GoString) : Option Session :=
  broker.sessions.lookup clientId

def removeSession (broker : Broker) (clientId : GoString) : Broker :=
  { broker with sessions := broker.sessions.erase clientId }

/-- `registerSession`, whose error every caller ignores: a client that is
already registered keeps its session. -/
def registerSession (broker : Broker) (clientId : GoString) (session : Session) : Broker :=
  match broker.findSession clientId with
  | some _ => broker
  | none => { broker with sessions := broker.sessions.insert clientId session }

def addVirtualSession (broker : Broker) (dial : Except GoString Unit)
    (brokerId clientId : GoString) : Broker :=
  match broker.queueService.newQueue clientId true dial with
  | (.error _, service) => { broker with queueService := service }
  | (.ok _, service) =>
    { broker with queueService := service }.registerSession clientId (.virtual brokerId true)

def onSessionCreate (broker : Broker) (dial : Except GoString Unit)
    (event : SessionCreateEvent) : Broker :=
  if event.brokerId ≠ broker.brokerId ∧ event.persistent then
    match broker.findSession event.clientId with
    | some _ => broker
    | none => broker.addVirtualSession dial event.brokerId event.clientId
  else broker

/-- The loop of `onSessionDestroy`.  It ranges over the client's slice of
topics, whose array is changed by every removal. -/
def removeTopics (tree : SimpleTopicTree) (clientId : GoString) : List Nat -> SimpleTopicTree
  | [] => tree
  | index :: later =>
    match (tree.getSubscriptionTopics clientId)[index]? with
    | none => removeTopics tree clientId later
    | some topic => removeTopics (tree.apply (.remove clientId topic)) clientId later

def onSessionDestroy (broker : Broker) (event : SessionDestroyEvent) : Broker :=
  let clientId := event.clientId
  if (broker.findSession clientId).any Session.isPersistent then
    match broker.queueService.getQueue clientId with
    | none => broker
    | some ref =>
      { broker with queueService := broker.queueService.registerObserver ref none }
  else
    let topics := broker.tree.getSubscriptionTopics clientId
    { broker.removeSession clientId with
      tree := removeTopics broker.tree clientId (List.range topics.length)
      queueService := broker.queueService.destroyQueue clientId }

def addSubscription (broker : Broker) (event : TopicSubscribeEvent) : Broker :=
  match broker.queueService.getQueue event.clientID with
  | none => broker
  | some ref =>
    { broker with
      tree := broker.tree.apply (.add
        { clientID := event.clientID, topic := event.topic, qos := event.qos, queue := ref }) }

def onTopicSubscribe (broker : Broker) (event : TopicSubscribeEvent) : Broker :=
  if event.brokerID ≠ broker.brokerId ∧ event.persistent then broker.addSubscription event
  else if event.brokerID = broker.brokerId then broker.addSubscription event
  else broker

def onTopicUnsubscribe (broker : Broker) (event : TopicUnsubscribeEvent) : Broker :=
  if event.brokerID ≠ broker.brokerId ∧ event.persistent then
    { broker with tree := broker.tree.apply (.remove event.clientID event.topic) }
  else if event.brokerID = broker.brokerId then
    { broker with tree := broker.tree.apply (.remove event.clientID event.topic) }
  else broker

def onTopicPublish (broker : Broker) (order : RangeOrder) (event : TopicPublishEvent) :
    List (QueueRef × Message) :=
  broker.tree.addMessage order
    { topic := event.topic, qos := event.qos, payload := event.payload, retain := event.retain }

def pushback (broker : Broker) (push : QueueRef × Message) : Broker :=
  { broker with queueService := broker.queueService.pushback push.1 push.2 }

def handleEvent (broker : Broker) (order : RangeOrder) (dial : Except GoString Unit) :
    BrokerEvent -> Broker × List (QueueRef × Message)
  | .sessionCreate event => (broker.onSessionCreate dial event, [])
  | .sessionDestroy event => (broker.onSessionDestroy event, [])
  | .sessionResume _ => (broker, [])
  | .topicSubscribe event => (broker.onTopicSubscribe event, [])
  | .topicUnsubscribe event => (broker.onTopicUnsubscribe event, [])
  | .topicPublish event => (broker, broker.onTopicPublish order event)

@[simp] theorem registerSession_queueService (broker : Broker) (clientId : GoString)
    (session : Session) :
    (broker.registerSession clientId session).queueService = broker.queueService := by
  rw [registerSession]
  split <;> rfl

end Broker

end SessionMgr
end Sentel
