import Sentel.Library.Handler
import Sentel.Mns.Store

namespace Sentel
namespace Mns

open Library Handler

/-!
# Routing of queue messages

A message reaches a queue directly, or through a topic to which the queue is
subscribed, and is received from the queue.  All three calls go to the message
server, where a queue has a topic of its own.  This module follows the calls
from the manager down to the message server.
-/

/-! ## The message server -/

/-- The configuration, as far as the message server is concerned. -/
structure Config where
  kafka : Except GoString GoString

inductive Effect
  | produce (topicName : GoString) (value : JsonText)
  | consume (topicName : GoString)

/-- The content of `ErrInvalidArgument`, which `With` overwrites. -/
structure Globals where
  invalidArgument : GoString := []

/-- What the modelled code gets from outside: the text that `Sprintf` makes of a
format without arguments, what `Serialize` makes of a message, whether the
message server can be reached, and what becomes of a message that is sent by mail
or as a short message.  Attributes can hold values that have no text, so
serialization may fail. -/
structure Surroundings where
  sprintf : GoString -> GoString
  serialize : QueueMessage -> Except GoString JsonText
  newAsyncProducer : GoString -> Option GoString
  push : GoString -> List UInt8 -> List (String × JsonText) -> Option GoString

abbrev MnsM (Value : Type) := Handler Globals Effect GoString Value

def kafkaHosts (c : Option Config) (invalid : GoString) : MnsM GoString :=
  match c with
  | none => crash .nilDereference
  | some c =>
    match c.kafka with
    | .error _ => fail invalid
    | .ok khosts => if khosts = [] then fail invalid else pure khosts

def newKafkaProducer (outside : Surroundings) (c : Option Config) : MnsM Unit := do
  let khosts ← kafkaHosts c (ascii "invalid kafka setting")
  failWith (outside.newAsyncProducer khosts)

def serializeMessage (outside : Surroundings) (msg : QueueMessage) : MnsM JsonText :=
  match outside.serialize msg with
  | .ok value => pure value
  | .error reason => fail reason

def producerSendMessage (outside : Surroundings) (msg : QueueMessage) : MnsM Unit := do
  let value ← serializeMessage outside msg
  emit (.produce msg.topicName value)

def withProducer (outside : Surroundings) (c : Option Config) (use : MnsM Unit) : MnsM Unit := do
  match ← attempt (newKafkaProducer outside c) with
  | .ok _ => use
  | .error _ => pure ()

def postMessage (outside : Surroundings) (c : Option Config) (msg : QueueMessage) : MnsM Unit :=
  withProducer outside c (producerSendMessage outside msg)

def newConsumer (c : Option Config) : MnsM Unit := do
  let _ ← kafkaHosts c (ascii "message service is not rightly configed")

/-! ## Queues -/

structure KafkaQueue where
  queueName : GoString := []
  config : Option Config := none
  attr : QueueAttribute := {}

def newKafkaQueue (_c : Option Config) (_attr : QueueAttribute) : KafkaQueue := {}

def KafkaQueue.sendMessage (outside : Surroundings) (q : KafkaQueue) (msg : QueueMessage) :
    MnsM Unit :=
  postMessage outside q.config msg

/-- `ReceiveMessage`.  The handler of the subscription sends nothing to the
channel, so that the call waits for its timer; the error is shadowed and not
returned. -/
def KafkaQueue.receiveMessage (q : KafkaQueue) : MnsM QueueMessage := do
  match ← attempt (newConsumer q.config) with
  | .ok _ =>
    emit (.consume q.queueName)
    return {}
  | .error _ => return {}

/-! ## Endpoints -/

def queueTopic (accountId queueName : GoString) : GoString :=
  ascii "mns-queues-" ++ accountId ++ ascii "-" ++ queueName

def errInvalidArgument : GoString := ascii "InvalidArgument"

def withContent (outside : Surroundings) (err : Option GoString) (text : GoString) :
    MnsM (Option GoString) :=
  match err with
  | none => crash .nilDereference
  | some message => do
    change (fun globals => { globals with invalidArgument := outside.sprintf text })
    return some (message ++ ascii ":" ++ outside.sprintf text)

def queueNames (uri : GoString) : Option (GoString × GoString) :=
  match split 0x3A uri with
  | [_, accountId, resource] =>
    match split 0x2F resource with
    | [_, queueName] => some (accountId, queueName)
    | _ => none
  | _ => none

def parseQueueScheme (outside : Surroundings) (uri : GoString) : MnsM (GoString × GoString) := do
  let names := queueNames uri
  let err := if names.isSome then none else some errInvalidArgument
  let err ← withContent outside err uri
  failWith err
  return names.getD ([], [])

inductive Endpoint
  | http (uri : GoString)
  | queue (config : Option Config) (accountId queueName : GoString)
  | mail (toaddr : GoString)
  | sms (receiver : GoString)

def newEndpoint (outside : Surroundings) (c : Option Config) (subscription : Subscription) :
    MnsM Endpoint :=
  match split 0x3A subscription.endpoint with
  | [] => fail errInvalidArgument
  | scheme :: _ =>
    if scheme = ascii "http" then pure (.http subscription.endpoint)
    else if scheme = ascii "mns" then do
      let names ← parseQueueScheme outside subscription.endpoint
      return .queue c names.1 names.2
    else if scheme = ascii "mail" then pure (.mail subscription.endpoint)
    else if scheme = ascii "sms" then pure (.sms subscription.endpoint)
    else fail errInvalidArgument

def Endpoint.pushMessage (outside : Surroundings) (body : List UInt8) (tag : GoString)
    (attrs : List (String × JsonText)) : Endpoint -> MnsM Unit
  | .http _ => pure ()
  | .queue config accountId queueName =>
    postMessage outside config
      { topicName := queueTopic accountId queueName
        messageBody := body
        messageTag := tag
        attributes := attrs }
  | .mail toaddr => failWith (outside.push toaddr body attrs)
  | .sms receiver => failWith (outside.push receiver body attrs)

/-! ## The manager -/

/-- The calls of the adaptor that the manager makes. -/
structure Adaptor where
  getQueueAttribute : GoString -> GoString -> QueueAttribute × Option GoString
  getAccountSubscriptions : GoString -> GoString -> List GoString × Option GoString
  getSubscription : GoString -> GoString -> GoString -> Subscription × Option GoString

structure Manager where
  config : Option Config
  adaptor : Option Adaptor

namespace Manager

variable (outside : Surroundings) (m : Manager)

def getQueue (accountId queueName : GoString) : MnsM (Option KafkaQueue) :=
  match m.adaptor with
  | none => crash .nilDereference
  | some adaptor =>
    match adaptor.getQueueAttribute accountId queueName with
    | (attr, none) => pure (some (newKafkaQueue m.config attr))
    | (_, some _) => pure none

def sendQueueMessage (accountId queueName : GoString) (msg : QueueMessage) : MnsM Unit := do
  match ← m.getQueue accountId queueName with
  | none => crash .nilDereference
  | some queue => queue.sendMessage outside msg

def receiveQueueMessage (accountId queueName : GoString) : MnsM QueueMessage := do
  match ← m.getQueue accountId queueName with
  | none => crash .nilDereference
  | some queue => queue.receiveMessage

def publishTo (body : List UInt8) (tag : GoString) (attrs : List (String × JsonText))
    (subscription : Subscription) : MnsM Unit := do
  match ← attempt (newEndpoint outside m.config subscription) with
  | .ok endpoint => ignore (endpoint.pushMessage outside body tag attrs)
  | .error _ => pure ()

def publishAll (body : List UInt8) (tag : GoString) (attrs : List (String × JsonText)) :
    List Subscription -> MnsM Unit
  | [] => pure ()
  | subscription :: later => do
    m.publishTo outside body tag attrs subscription
    publishAll body tag attrs later

def publishMessage (accountId topicName : GoString) (body : List UInt8) (tag : GoString)
    (attrs : List (String × JsonText)) : MnsM Unit :=
  match m.adaptor with
  | none => crash .nilDereference
  | some adaptor => do
    let listed := adaptor.getAccountSubscriptions accountId topicName
    m.publishAll outside body tag attrs
      (listed.1.map (fun name => (adaptor.getSubscription accountId topicName name).1))
    failWith listed.2

end Manager

/-! ## Calls that return or panic -/

def Panics {Value : Type} (call : MnsM Value) : Prop :=
  forall globals, (call globals).outcome = .panic .nilDereference

def ReturnsOrPanics {Value : Type} (call : MnsM Value) : Prop :=
  forall globals, (exists value, (call globals).outcome = .ok value) ∨
    (exists reason, (call globals).outcome = .error reason) ∨
      (call globals).outcome = .panic .nilDereference

namespace Panics

variable {Value Next : Type} {call : MnsM Value} (panics : Panics call)
include panics

theorem bind (next : Value -> MnsM Next) : Panics (call >>= next) := by
  intro globals
  rw [bind_of_panic (panics globals)]

theorem attempt : Panics (attempt call) := by
  intro globals
  rw [attempt_of_panic (panics globals)]

end Panics

namespace ReturnsOrPanics

variable {Value Next : Type}

theorem pure (value : Value) : ReturnsOrPanics (Pure.pure value : MnsM Value) :=
  fun _ => .inl ⟨value, rfl⟩

theorem fail (reason : GoString) : ReturnsOrPanics (fail reason : MnsM Value) :=
  fun _ => .inr (.inl ⟨reason, rfl⟩)

theorem crash : ReturnsOrPanics (crash .nilDereference : MnsM Value) :=
  fun _ => .inr (.inr rfl)

theorem change (update : Globals -> Globals) : ReturnsOrPanics (change update : MnsM Unit) :=
  fun _ => .inl ⟨(), rfl⟩

theorem emit (effect : Effect) : ReturnsOrPanics (emit effect : MnsM Unit) :=
  fun _ => .inl ⟨(), rfl⟩

theorem failWith (problem : Option GoString) :
    ReturnsOrPanics (failWith problem : MnsM Unit) := by
  cases problem with
  | none => exact pure ()
  | some reason => exact fail reason

theorem bind {call : MnsM Value} {next : Value -> MnsM Next} (first : ReturnsOrPanics call)
    (later : forall value, ReturnsOrPanics (next value)) : ReturnsOrPanics (call >>= next) := by
  intro globals
  rcases first globals with ⟨value, ended⟩ | ⟨reason, ended⟩ | ended
  · rw [bind_of_returned ended]
    exact later value _
  · rw [bind_of_error ended]
    exact .inr (.inl ⟨reason, rfl⟩)
  · rw [bind_of_panic ended]
    exact .inr (.inr rfl)

theorem attempt_ends {call : MnsM Value} (first : ReturnsOrPanics call) (globals : Globals) :
    (exists answer, (attempt call globals).outcome = .ok answer) ∨
      (attempt call globals).outcome = .panic .nilDereference := by
  rcases first globals with ⟨value, ended⟩ | ⟨reason, ended⟩ | ended
  · exact .inl ⟨_, congrArg Run.outcome (attempt_of_ok ended)⟩
  · exact .inl ⟨_, congrArg Run.outcome (attempt_of_error ended)⟩
  · exact .inr (congrArg Run.outcome (attempt_of_panic ended))

theorem attempt {call : MnsM Value} (first : ReturnsOrPanics call) :
    ReturnsOrPanics (attempt call) :=
  fun globals => (first.attempt_ends globals).imp_right .inr

theorem kafkaHosts (c : Option Config) (invalid : GoString) :
    ReturnsOrPanics (kafkaHosts c invalid) := by
  unfold Mns.kafkaHosts
  split
  · exact crash
  · split
    · exact fail invalid
    · split
      · exact fail invalid
      · exact pure _

theorem postMessage (outside : Surroundings) (c : Option Config) (msg : QueueMessage) :
    ReturnsOrPanics (postMessage outside c msg) := by
  have producer : ReturnsOrPanics (newKafkaProducer outside c) :=
    bind (kafkaHosts c _) (fun khosts => failWith (outside.newAsyncProducer khosts))
  refine bind producer.attempt (fun answer => ?_)
  cases answer with
  | ok _ =>
    refine bind ?_ (fun _ => emit _)
    rw [serializeMessage]
    cases outside.serialize msg with
    | ok value => exact pure value
    | error reason => exact fail reason
  | error _ => exact pure ()

theorem parseQueueScheme (outside : Surroundings) (uri : GoString) :
    ReturnsOrPanics (parseQueueScheme outside uri) := by
  have content (err : Option GoString) : ReturnsOrPanics (withContent outside err uri) := by
    cases err with
    | none => exact crash
    | some message => exact bind (change _) (fun _ => pure _)
  exact bind (content _) (fun err => bind (failWith err) (fun _ => pure _))

theorem newEndpoint (outside : Surroundings) (c : Option Config) (subscription : Subscription) :
    ReturnsOrPanics (newEndpoint outside c subscription) := by
  unfold Mns.newEndpoint
  split
  · exact fail _
  · split
    · exact pure _
    · split
      · exact bind (parseQueueScheme outside _) (fun _ => pure _)
      · split
        · exact pure _
        · split
          · exact pure _
          · exact fail _

theorem pushMessage (outside : Surroundings) (body : List UInt8) (tag : GoString)
    (attrs : List (String × JsonText)) (endpoint : Endpoint) :
    ReturnsOrPanics (endpoint.pushMessage outside body tag attrs) := by
  cases endpoint with
  | http uri => exact pure ()
  | queue config accountId queueName => exact postMessage outside config _
  | mail toaddr | sms receiver => exact failWith _

end ReturnsOrPanics

/-! ## The three calls -/

def queueAddress (accountId queueName : GoString) : GoString :=
  ascii "mns:" ++ accountId ++ ascii ":queues/" ++ queueName

theorem split_address {accountId queueName : GoString} (account : 0x3A ∉ accountId)
    (queue : 0x3A ∉ queueName) :
    split 0x3A (queueAddress accountId queueName) =
      [ascii "mns", accountId, ascii "queues/" ++ queueName] := by
  have address : queueAddress accountId queueName =
      [0x3A].intercalate [ascii "mns", accountId, ascii "queues/" ++ queueName] := by
    simp [queueAddress, List.intercalate, ascii]
  rw [address]
  refine split_intercalate ?_ (List.cons_ne_nil _ _)
  simp only [List.mem_cons, List.not_mem_nil, or_false, forall_eq_or_imp, forall_eq,
    List.mem_append, not_or]
  exact ⟨by decide, account, by decide, queue⟩

theorem split_resource {queueName : GoString} (queue : 0x2F ∉ queueName) :
    split 0x2F (ascii "queues/" ++ queueName) = [ascii "queues", queueName] := by
  have resource : ascii "queues/" ++ queueName =
      [0x2F].intercalate [ascii "queues", queueName] := by
    simp [List.intercalate, ascii]
  rw [resource]
  refine split_intercalate ?_ (List.cons_ne_nil _ _)
  simp only [List.mem_cons, List.not_mem_nil, or_false, forall_eq_or_imp, forall_eq]
  exact ⟨by decide, queue⟩

theorem newEndpoint_panics (outside : Surroundings) (c : Option Config)
    {accountId queueName : GoString} (account : 0x3A ∉ accountId)
    (queue : 0x3A ∉ queueName ∧ 0x2F ∉ queueName) {subscription : Subscription}
    (subscribed : subscription.endpoint = queueAddress accountId queueName) :
    Panics (newEndpoint outside c subscription) := by
  have parts := split_address account queue.1
  have names : queueNames (queueAddress accountId queueName) = some (accountId, queueName) := by
    rw [queueNames, parts]
    dsimp only
    rw [split_resource queue.2]
  have scheme : Panics (parseQueueScheme outside (queueAddress accountId queueName)) := by
    intro globals
    rw [parseQueueScheme, names]
    rfl
  rw [newEndpoint, subscribed, parts]
  exact scheme.bind _

namespace Manager

variable (outside : Surroundings) (m : Manager)

theorem getQueue_cases (accountId queueName : GoString) :
    m.getQueue accountId queueName = crash .nilDereference ∨
      m.getQueue accountId queueName = pure none ∨
      exists attr, m.getQueue accountId queueName = pure (some (newKafkaQueue m.config attr)) := by
  rw [getQueue]
  cases m.adaptor with
  | none => exact .inl rfl
  | some adaptor =>
    dsimp only
    rcases adaptor.getQueueAttribute accountId queueName with ⟨attr, _ | reason⟩
    · exact .inr (.inr ⟨attr, rfl⟩)
    · exact .inr (.inl rfl)

theorem getQueue_bind_panics {Value : Type} {next : Option KafkaQueue -> MnsM Value}
    {globals : Globals} (accountId queueName : GoString)
    (missing : next none globals = ⟨[], .panic .nilDereference, globals⟩)
    (unconfigured : forall attr, next (some (newKafkaQueue m.config attr)) globals =
      ⟨[], .panic .nilDereference, globals⟩) :
    (m.getQueue accountId queueName >>= next) globals =
      ⟨[], .panic .nilDereference, globals⟩ := by
  rcases m.getQueue_cases accountId queueName with found | found | ⟨attr, found⟩
  · rw [found]
    rfl
  · rw [found, pure_bind_apply]
    exact missing
  · rw [found, pure_bind_apply]
    exact unconfigured attr

/-- Nothing is sent: a queue has no configuration, and a queue that is not found
is nil. -/
theorem sendQueueMessage_apply (accountId queueName : GoString) (msg : QueueMessage)
    (globals : Globals) :
    m.sendQueueMessage outside accountId queueName msg globals =
      ⟨[], .panic .nilDereference, globals⟩ :=
  m.getQueue_bind_panics accountId queueName rfl (fun _ => rfl)

@[inherit_doc sendQueueMessage_apply]
theorem receiveQueueMessage_apply (accountId queueName : GoString) (globals : Globals) :
    m.receiveQueueMessage accountId queueName globals =
      ⟨[], .panic .nilDereference, globals⟩ :=
  m.getQueue_bind_panics accountId queueName rfl (fun _ => rfl)

section Publishing

variable {body : List UInt8} {tag : GoString} {attrs : List (String × JsonText)}

theorem publishTo_ends (subscription : Subscription) (globals : Globals) :
    (m.publishTo outside body tag attrs subscription globals).outcome = .ok () ∨
      (m.publishTo outside body tag attrs subscription globals).outcome =
        .panic .nilDereference := by
  rw [publishTo]
  rcases (ReturnsOrPanics.newEndpoint outside m.config subscription).attempt_ends globals with
    ⟨answer, made⟩ | panicked
  · rw [bind_of_returned made]
    cases answer with
    | error reason => exact .inl rfl
    | ok endpoint =>
      have pushed := ReturnsOrPanics.pushMessage outside body tag attrs endpoint
      rcases pushed.attempt_ends _ with ⟨answer, sent⟩ | panicked
      · exact .inl (congrArg Run.outcome (bind_of_returned sent))
      · exact .inr (congrArg Run.outcome (bind_of_panic panicked))
  · rw [bind_of_panic panicked]
    exact .inr rfl

theorem publishAll_panics {subscriptions : List Subscription} {subscription : Subscription}
    (listed : subscription ∈ subscriptions)
    (panics : Panics (newEndpoint outside m.config subscription)) :
    Panics (m.publishAll outside body tag attrs subscriptions) := by
  induction subscriptions with
  | nil => cases listed
  | cons first later ih =>
    rw [publishAll]
    rcases List.mem_cons.mp listed with rfl | listed
    · exact (panics.attempt.bind _).bind _
    · intro globals
      rcases m.publishTo_ends outside first globals with returned | panicked
      · rw [bind_of_returned returned]
        exact ih listed _
      · rw [bind_of_panic panicked]

end Publishing

/-- Whatever the queue, sending to it and receiving from it panic, and so does
publishing to a topic to which it is subscribed. -/
theorem routing_panics {accountId queueName : GoString} (account : 0x3A ∉ accountId)
    (queue : 0x3A ∉ queueName ∧ 0x2F ∉ queueName) :
    (forall msg globals, m.sendQueueMessage outside accountId queueName msg globals =
        ⟨[], .panic .nilDereference, globals⟩) ∧
      (forall globals, m.receiveQueueMessage accountId queueName globals =
        ⟨[], .panic .nilDereference, globals⟩) ∧
      forall adaptor publisher topicName body tag attrs, m.adaptor = some adaptor ->
        (∃ name ∈ (adaptor.getAccountSubscriptions publisher topicName).1,
          (adaptor.getSubscription publisher topicName name).1.endpoint =
            queueAddress accountId queueName) ->
        Panics (m.publishMessage outside publisher topicName body tag attrs) := by
  refine ⟨m.sendQueueMessage_apply outside accountId queueName,
    m.receiveQueueMessage_apply accountId queueName, ?_⟩
  intro adaptor publisher topicName body tag attrs present subscribed
  rcases subscribed with ⟨name, listed, address⟩
  rw [publishMessage, present]
  have panics := newEndpoint_panics outside m.config account queue address
  exact (m.publishAll_panics outside (List.mem_map_of_mem listed) panics).bind _

end Manager

def oneQueue : Manager where
  config := some { kafka := .ok (ascii "localhost:9092") }
  adaptor := some
    { getQueueAttribute := fun _ _ => ({}, none)
      getAccountSubscriptions := fun _ _ => ([ascii "s"], none)
      getSubscription := fun _ _ _ =>
        ({ endpoint := queueAddress (ascii "a") (ascii "q") }, none) }

def reachable : Surroundings where
  sprintf := id
  serialize := fun msg => .ok msg.serialize
  newAsyncProducer := fun _ => none
  push := fun _ _ _ => none

/-- The theorem applies to this manager. -/
theorem oneQueue_panics :
    Panics (oneQueue.publishMessage reachable (ascii "a") (ascii "t") [] [] []) :=
  (Manager.routing_panics reachable oneQueue (by decide) (by decide)).2.2 _ _ _ _ _ _ rfl
    ⟨ascii "s", List.mem_cons_self, rfl⟩

/-- All three calls panic at a queue that exists, and two queues of different
accounts have one topic name. -/
theorem queue_calls_panic_and_names_collide :
    (oneQueue.sendQueueMessage reachable (ascii "a") (ascii "q") {} {}).outcome =
        .panic .nilDereference ∧
      (oneQueue.receiveQueueMessage (ascii "a") (ascii "q") {}).outcome =
        .panic .nilDereference ∧
      (oneQueue.publishMessage reachable (ascii "a") (ascii "t") [] [] [] {}).outcome =
        .panic .nilDereference ∧
      queueTopic (ascii "a-b") (ascii "c") = queueTopic (ascii "a") (ascii "b-c") :=
  ⟨rfl, rfl, rfl, by decide⟩

end Mns
end Sentel
