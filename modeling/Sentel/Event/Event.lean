import Mathlib.Data.List.AList
import Sentel.Library.GoString

namespace Sentel
namespace Event

open Library

/-!
# Broker events

An event names the broker and the client it comes from.  `Notify` stamps the
broker identifier on it and hands it to the event service.  The type that an
event reports is fixed by its kind.  Each event also has a type field that is
carried on the wire and that the broker never sets.
-/

def SessionCreate : UInt32 := 1
def SessionDestroy : UInt32 := 2
def TopicPublish : UInt32 := 3
def TopicSubscribe : UInt32 := 4
def TopicUnsubscribe : UInt32 := 5
def SessionResume : UInt32 := 7

structure SessionCreateEvent where
  brokerId : GoString := []
  type : UInt32 := 0
  clientId : GoString := []
  persistent : Bool := false
  retain : Bool := false
  deriving DecidableEq, Repr

structure SessionDestroyEvent where
  brokerId : GoString := []
  type : UInt32 := 0
  clientId : GoString := []
  persistent : Bool := false
  retain : Bool := false
  deriving DecidableEq, Repr

structure SessionResumeEvent where
  brokerId : GoString := []
  type : UInt32 := 0
  clientId : GoString := []
  deriving DecidableEq, Repr

structure TopicSubscribeEvent where
  brokerID : GoString := []
  type : UInt32 := 0
  clientID : GoString := []
  persistent : Bool := false
  topic : GoString := []
  qos : UInt8 := 0
  data : List UInt8 := []
  retain : Bool := false
  deriving DecidableEq, Repr

structure TopicUnsubscribeEvent where
  brokerID : GoString := []
  type : UInt32 := 0
  clientID : GoString := []
  persistent : Bool := false
  topic : GoString := []
  data : List UInt8 := []
  deriving DecidableEq, Repr

structure TopicPublishEvent where
  brokerID : GoString := []
  type : UInt32 := 0
  clientID : GoString := []
  productID : GoString := []
  persistent : Bool := false
  id : UInt16 := 0
  topic : GoString := []
  payload : List UInt8 := []
  qos : UInt8 := 0
  direction : UInt8 := 0
  retain : Bool := false
  dup : Bool := false
  deriving DecidableEq, Repr

/-- The events that the sessions of a broker notify. -/
inductive BrokerEvent
  | sessionCreate (event : SessionCreateEvent)
  | sessionDestroy (event : SessionDestroyEvent)
  | sessionResume (event : SessionResumeEvent)
  | topicSubscribe (event : TopicSubscribeEvent)
  | topicUnsubscribe (event : TopicUnsubscribeEvent)
  | topicPublish (event : TopicPublishEvent)
  deriving DecidableEq, Repr

namespace BrokerEvent

def getType : BrokerEvent -> UInt32
  | .sessionCreate _ => SessionCreate
  | .sessionDestroy _ => SessionDestroy
  | .sessionResume _ => SessionResume
  | .topicSubscribe _ => TopicSubscribe
  | .topicUnsubscribe _ => TopicUnsubscribe
  | .topicPublish _ => TopicPublish

def getBrokerId : BrokerEvent -> GoString
  | .sessionCreate event => event.brokerId
  | .sessionDestroy event => event.brokerId
  | .sessionResume event => event.brokerId
  | .topicSubscribe event => event.brokerID
  | .topicUnsubscribe event => event.brokerID
  | .topicPublish event => event.brokerID

def getClientId : BrokerEvent -> GoString
  | .sessionCreate event => event.clientId
  | .sessionDestroy event => event.clientId
  | .sessionResume event => event.clientId
  | .topicSubscribe event => event.clientID
  | .topicUnsubscribe event => event.clientID
  | .topicPublish event => event.clientID

def setBrokerId (brokerId : GoString) : BrokerEvent -> BrokerEvent
  | .sessionCreate event => .sessionCreate { event with brokerId := brokerId }
  | .sessionDestroy event => .sessionDestroy { event with brokerId := brokerId }
  | .sessionResume event => .sessionResume { event with brokerId := brokerId }
  | .topicSubscribe event => .topicSubscribe { event with brokerID := brokerId }
  | .topicUnsubscribe event => .topicUnsubscribe { event with brokerID := brokerId }
  | .topicPublish event => .topicPublish { event with brokerID := brokerId }

end BrokerEvent

end Event
end Sentel
