import Sentel.Mns.Routing

namespace Sentel
namespace Mns

open Library Handler

/-!
# Errors of the queue operations

The manager has eight operations on the messages of a queue.  Each looks the
queue up and then acts on it.  The error of the lookup is shadowed on the way, so
that a queue that does not exist is a nil value, and acting on it panics.  The
error of a producer that cannot be created is shadowed in the same manner, but a
queue has no configuration and panics before a producer is asked for.
-/

section Producer

variable (outside : Surroundings)

def serializeMessages : List QueueMessage -> MnsM (List (GoString × JsonText))
  | [] => pure []
  | msg :: rest => do
    let value ← serializeMessage outside msg
    let later ← serializeMessages rest
    return (msg.topicName, value) :: later

def inputMessages : List (GoString × JsonText) -> MnsM Unit
  | [] => pure ()
  | kmsg :: rest => do
    emit (.produce kmsg.1 kmsg.2)
    inputMessages rest

def producerSendMessages (msgs : List QueueMessage) : MnsM Unit := do
  let kmsgs ← serializeMessages outside msgs
  inputMessages kmsgs

def postMessages (c : Option Config) (msgs : List QueueMessage) : MnsM Unit :=
  withProducer outside c (producerSendMessages outside msgs)

def Produced (msg : QueueMessage) (effect : Effect) : Prop :=
  exists value, outside.serialize msg = .ok value ∧ effect = .produce msg.topicName value

theorem inputMessages_apply (kmsgs : List (GoString × JsonText)) (globals : Globals) :
    inputMessages kmsgs globals =
      ⟨kmsgs.map (fun kmsg => .produce kmsg.1 kmsg.2), .ok (), globals⟩ := by
  induction kmsgs with
  | nil => rfl
  | cons kmsg rest ih =>
    rw [inputMessages, bind_of_ok (rfl : emit _ globals = ⟨_, .ok (), _⟩), ih]
    rfl

variable {msgs : List QueueMessage} {globals : Globals}

theorem serializeMessages_returned {kmsgs : List (GoString × JsonText)}
    (returned : (serializeMessages outside msgs globals).outcome = .ok kmsgs) :
    (serializeMessages outside msgs globals).effects = [] ∧
      List.Forall₂ (Produced outside) msgs (kmsgs.map (fun kmsg => .produce kmsg.1 kmsg.2)) := by
  induction msgs generalizing kmsgs with
  | nil =>
    cases returned
    exact ⟨rfl, .nil⟩
  | cons msg rest ih =>
    cases text : outside.serialize msg with
    | error reason =>
      rw [serializeMessages, serializeMessage, text] at returned
      cases returned
    | ok value =>
      have ran : serializeMessages outside (msg :: rest) globals =
          (serializeMessages outside rest >>= fun later =>
            pure ((msg.topicName, value) :: later)) globals := by
        rw [serializeMessages, serializeMessage, text]
        rfl
      rw [ran] at returned ⊢
      rcases returned_of_bind returned with ⟨later, first, last⟩
      cases last
      rw [bind_of_returned first]
      refine ⟨?_, .cons ⟨value, text, rfl⟩ (ih first).2⟩
      rw [precede, (ih first).1]
      rfl

theorem producerSendMessages_returned
    (returned : (producerSendMessages outside msgs globals).outcome = .ok ()) :
    List.Forall₂ (Produced outside) msgs (producerSendMessages outside msgs globals).effects := by
  rw [producerSendMessages] at returned ⊢
  rcases returned_of_bind returned with ⟨kmsgs, first, last⟩
  have serialized := serializeMessages_returned outside first
  rw [bind_of_returned first, inputMessages_apply, precede, serialized.1]
  exact serialized.2

theorem newKafkaProducer_effects (c : Option Config) (globals : Globals) :
    (newKafkaProducer outside c globals).effects = [] := by
  unfold newKafkaProducer kafkaHosts
  cases c with
  | none => rfl
  | some c =>
    dsimp only
    cases c.kafka with
    | error reason => rfl
    | ok khosts =>
      dsimp only
      split
      · rfl
      · cases reached : outside.newAsyncProducer khosts with
        | none | some reason =>
          rw [bind_of_returned rfl, reached]
          rfl

/-- No error means that every message was handed over, or that there was no
producer: this error alone is lost. -/
theorem postMessages_returned {c : Option Config}
    (returned : (postMessages outside c msgs globals).outcome = .ok ()) :
    (exists reason, (newKafkaProducer outside c globals).outcome = .error reason) ∨
      (newKafkaProducer outside c globals).outcome = .ok () ∧
        List.Forall₂ (Produced outside) msgs
          (postMessages outside c msgs globals).effects := by
  rw [postMessages, withProducer] at returned ⊢
  rcases returned_of_bind returned with ⟨answer, first, last⟩
  cases ended : (newKafkaProducer outside c globals).outcome with
  | error reason => exact .inl ⟨reason, rfl⟩
  | panic cause | diverges =>
    rw [attempt, ended] at first
    cases first
  | ok created =>
    refine .inr ⟨rfl, ?_⟩
    rw [attempt_of_ok ended] at first last
    cases first
    rw [bind_of_ok (attempt_of_ok ended), precede,
      newKafkaProducer_effects]
    exact producerSendMessages_returned outside last

/-- Two messages that are handed over one after the other. -/
theorem two_messages_returned :
    let msgs : List QueueMessage := [{ topicName := ascii "q", messageBody := [1] },
      { topicName := ascii "r", messageBody := [2] }]
    let run := postMessages reachable (some ⟨.ok (ascii "k")⟩) msgs {}
    run.outcome = .ok () ∧ List.Forall₂ (Produced reachable) msgs run.effects := by
  intro msgs run
  have returned : run.outcome = .ok () := rfl
  rcases postMessages_returned reachable returned with ⟨reason, failed⟩ | sent
  · cases failed
  · exact ⟨returned, sent.2⟩

end Producer

/-! ## The queue and its operations -/

namespace KafkaQueue

variable (outside : Surroundings) (q : KafkaQueue)

def batchSendMessage (msgs : List QueueMessage) : MnsM Unit :=
  postMessages outside q.config msgs

def batchReceiveMessages : MnsM (List QueueMessage) := do
  match ← attempt (newConsumer q.config) with
  | .ok _ =>
    emit (.consume q.queueName)
    return []
  | .error _ => return []

def deleteMessage (_q : KafkaQueue) (_handle : GoString) : MnsM Unit := pure ()

def batchDeleteMessages (_q : KafkaQueue) (_handles : List GoString) : MnsM Unit := pure ()

def peekMessage (_q : KafkaQueue) (_waitSeconds : Int) : MnsM QueueMessage := pure {}

def batchPeekMessages (_q : KafkaQueue) (_waitSeconds _numOfMessages : Int) :
    MnsM (List QueueMessage) :=
  pure []

end KafkaQueue

inductive QueueOperation : Type -> Type
  | send (msg : QueueMessage) : QueueOperation Unit
  | batchSend (msgs : List QueueMessage) : QueueOperation Unit
  | receive (ws : Int) : QueueOperation QueueMessage
  | batchReceive (ws numOfMessages : Int) : QueueOperation (List QueueMessage)
  | delete (handle : GoString) : QueueOperation Unit
  | batchDelete (handles : List GoString) : QueueOperation Unit
  | peek (ws : Int) : QueueOperation QueueMessage
  | batchPeek (ws numOfMessages : Int) : QueueOperation (List QueueMessage)

def KafkaQueue.act (outside : Surroundings) (q : KafkaQueue) {Value : Type} :
    QueueOperation Value -> MnsM Value
  | .send msg => q.sendMessage outside msg
  | .batchSend msgs => q.batchSendMessage outside msgs
  | .receive _ => q.receiveMessage
  | .batchReceive _ _ => q.batchReceiveMessages
  | .delete handle => q.deleteMessage handle
  | .batchDelete handles => q.batchDeleteMessages handles
  | .peek ws => q.peekMessage ws
  | .batchPeek ws numOfMessages => q.batchPeekMessages ws numOfMessages

namespace Manager

variable (outside : Surroundings) (m : Manager) (accountId queueName : GoString)

def actOn {Value : Type} (operation : QueueOperation Value) : Option KafkaQueue -> MnsM Value
  | none => crash .nilDereference
  | some queue => queue.act outside operation

/-- All eight operations look the queue up and call its method. -/
def operate {Value : Type} (operation : QueueOperation Value) : MnsM Value := do
  let queue ← m.getQueue accountId queueName
  actOn outside operation queue

/-- The adaptor finds the queue. -/
def HasQueue : Prop :=
  exists adaptor, m.adaptor = some adaptor ∧
    (adaptor.getQueueAttribute accountId queueName).2 = none

/-! ## What a caller is told -/

def Handed (msgs : List QueueMessage) (globals : Globals) (effects : List Effect) : Prop :=
  (exists queue, (m.getQueue accountId queueName globals).outcome = .ok (some queue) ∧
    (newKafkaProducer outside queue.config globals).outcome = .ok ()) ∧
    List.Forall₂ (Produced outside) msgs effects

structure NoSilentLoss : Prop where
  missing : ¬ m.HasQueue accountId queueName -> forall {Value : Type}
    (operation : QueueOperation Value) (globals : Globals), exists reason,
      (m.operate outside accountId queueName operation globals).outcome = .error reason
  sent : forall (msg : QueueMessage) (globals : Globals),
    (m.operate outside accountId queueName (.send msg) globals).outcome = .ok () ->
      m.Handed outside accountId queueName [msg] globals
        (m.operate outside accountId queueName (.send msg) globals).effects
  batchSent : forall (msgs : List QueueMessage) (globals : Globals),
    (m.operate outside accountId queueName (.batchSend msgs) globals).outcome = .ok () ->
      m.Handed outside accountId queueName msgs globals
        (m.operate outside accountId queueName (.batchSend msgs) globals).effects

variable {m accountId queueName}

theorem getQueue_of_missing (missing : ¬ m.HasQueue accountId queueName) :
    m.getQueue accountId queueName = crash .nilDereference ∨
      m.getQueue accountId queueName = pure none := by
  rw [getQueue]
  cases present : m.adaptor with
  | none => exact .inl rfl
  | some adaptor =>
    dsimp only
    rcases answer : adaptor.getQueueAttribute accountId queueName with ⟨attr, _ | reason⟩
    · exact absurd ⟨adaptor, present, congrArg Prod.snd answer⟩ missing
    · exact .inr rfl

theorem operate_of_missing (missing : ¬ m.HasQueue accountId queueName) {Value : Type}
    (operation : QueueOperation Value) :
    Panics (m.operate outside accountId queueName operation) := by
  intro globals
  rw [operate]
  rcases getQueue_of_missing missing with found | found
  · rw [found]
    rfl
  · rw [found]
    rfl

variable (m accountId queueName)

theorem operate_send (msg : QueueMessage) :
    m.operate outside accountId queueName (.send msg) =
      m.sendQueueMessage outside accountId queueName msg := rfl

theorem operate_send_panics (msg : QueueMessage) :
    Panics (m.operate outside accountId queueName (.send msg)) := by
  intro globals
  rw [operate_send, sendQueueMessage_apply]

theorem operate_batchSend_panics (msgs : List QueueMessage) :
    Panics (m.operate outside accountId queueName (.batchSend msgs)) := by
  intro globals
  rw [operate, m.getQueue_bind_panics accountId queueName rfl (fun _ => rfl)]

/-- Losses are reported at the queues that exist and at no others. -/
theorem noSilentLoss_iff :
    m.NoSilentLoss outside accountId queueName ↔ m.HasQueue accountId queueName := by
  constructor
  · intro reported
    by_contra missing
    rcases reported.missing missing (.delete []) {} with ⟨reason, returned⟩
    rw [operate_of_missing outside missing (.delete []) {}] at returned
    cases returned
  · intro found
    refine ⟨fun missing => absurd found missing, ?_, ?_⟩
    · intro msg globals returned
      rw [m.operate_send_panics outside accountId queueName msg globals] at returned
      cases returned
    · intro msgs globals returned
      rw [m.operate_batchSend_panics outside accountId queueName msgs globals] at returned
      cases returned

end Manager

def noQueue : Manager where
  config := some { kafka := .ok (ascii "localhost:9092") }
  adaptor := some
    { getQueueAttribute := fun _ _ => ({}, some notFound)
      getAccountSubscriptions := fun _ _ => ([], none)
      getSubscription := fun _ _ _ => ({}, some notFound) }

/-- Deleting a message of a queue that does not exist panics. -/
theorem missing_queue_not_reported :
    ¬ noQueue.HasQueue (ascii "a") (ascii "q") ∧
      (noQueue.operate reachable (ascii "a") (ascii "q")
        (.delete (ascii "h")) {}).outcome = .panic .nilDereference ∧
      ¬ noQueue.NoSilentLoss reachable (ascii "a") (ascii "q") := by
  have missing : ¬ noQueue.HasQueue (ascii "a") (ascii "q") := by
    rintro ⟨adaptor, present, found⟩
    cases present
    cases found
  refine ⟨missing, rfl, ?_⟩
  intro reported
  rcases reported.missing missing (.delete (ascii "h")) {} with ⟨reason, returned⟩
  cases returned

end Mns
end Sentel
