import Sentel.Queue.QueueService
import Sentel.Queue.SyncQueue

namespace Sentel
namespace Queue

open Library Base

/-!
# The two kinds of queue

A transient queue keeps its messages in a synchronous queue and takes them out
by position.  A persistent queue keeps documents in a collection, reads the
first one and then removes the first one that is equal to what it has read.  As
long as the head is asked for only when there is one, both return what a
sequence of messages returns, first in, first out, and so does the queue object
that the sessions are modelled with.

A collection is a list of documents in the order of insertion.  The encoding of
messages is a parameter that loses nothing.
-/

/-- How messages are stored. -/
structure Bson (Document : Type) where
  marshal : Message -> Document
  unmarshal : Document -> Option Message
  roundTrip : forall msg, unmarshal (marshal msg) = some msg

/-- A call of a queue.  The observer, which `Pushback` tells about the message
afterwards, is not part of the queue. -/
inductive QueueOp
  | pushback (msg : Message)
  | length
  | front
  | pop

/-- What a call returns.  A nil message is none. -/
inductive QueueReply
  | done
  | count (length : Nat)
  | message (msg : Option Message)
  deriving DecidableEq

/-- The replies to a sequence of calls.  There are none if a call panics or does
not return. -/
def replies {State : Type} (perform : State -> QueueOp -> Option (QueueReply × State)) :
    State -> List QueueOp -> Option (List QueueReply)
  | _, [] => some []
  | state, op :: later =>
    (perform state op).bind (fun performed =>
      (replies perform performed.2 later).map (performed.1 :: ·))

/-- A sequence of messages, first in, first out.  Its head exists or is not
asked for. -/
def fifo (msgs : List Message) : QueueOp -> Option (QueueReply × List Message)
  | .pushback msg => some (.done, msgs ++ [msg])
  | .length => some (.count msgs.length, msgs)
  | .front => msgs.head?.map (fun msg => (.message (some msg), msgs))
  | .pop => msgs.head?.map (fun msg => (.message (some msg), msgs.tail))

structure Simulates {State : Type} (perform : State -> QueueOp -> Option (QueueReply × State))
    (holds : State -> List Message -> Prop) : Prop where
  pushback : forall {state msgs}, holds state msgs -> forall msg, exists after,
    perform state (.pushback msg) = some (.done, after) ∧ holds after (msgs ++ [msg])
  length : forall {state msgs}, holds state msgs ->
    perform state .length = some (.count msgs.length, state)
  front : forall {state msg others}, holds state (msg :: others) ->
    perform state .front = some (.message (some msg), state)
  pop : forall {state msg others}, holds state (msg :: others) -> exists after,
    perform state .pop = some (.message (some msg), after) ∧ holds after others

namespace Simulates

variable {State : Type} {perform : State -> QueueOp -> Option (QueueReply × State)}
  {holds : State -> List Message -> Prop} (simulates : Simulates perform holds)
include simulates

theorem step {state : State} {msgs rest : List Message} {op : QueueOp} {reply : QueueReply}
    (start : holds state msgs) (answered : fifo msgs op = some (reply, rest)) :
    exists after, perform state op = some (reply, after) ∧ holds after rest := by
  cases op with
  | pushback msg =>
    cases answered
    exact simulates.pushback start msg
  | length =>
    cases answered
    exact ⟨state, simulates.length start, start⟩
  | front =>
    cases msgs with
    | nil => cases answered
    | cons msg others =>
      cases answered
      exact ⟨state, simulates.front start, start⟩
  | pop =>
    cases msgs with
    | nil => cases answered
    | cons msg others =>
      cases answered
      exact simulates.pop start

theorem replies {state : State} {msgs : List Message} (start : holds state msgs)
    {ops : List QueueOp} {expected : List QueueReply}
    (permitted : Queue.replies fifo msgs ops = some expected) :
    Queue.replies perform state ops = some expected := by
  induction ops generalizing state msgs expected with
  | nil => exact permitted
  | cons op later ih =>
    rcases Option.bind_eq_some_iff.mp permitted with ⟨⟨reply, rest⟩, answered, remaining⟩
    rcases Option.map_eq_some_iff.mp remaining with ⟨others, further, rfl⟩
    rcases simulates.step start answered with ⟨after, performed, goesOn⟩
    rw [Queue.replies, performed, Option.bind_some, ih goesOn further]
    rfl

end Simulates

/-! ## The transient queue -/

/-- The calls of `transientQueue`.  `Front` panics on an empty queue, and the
conversion of nil, which a closed and empty queue returns, panics as well. -/
def transientQueue (syncq : SyncQueue Message) :
    QueueOp -> Option (QueueReply × SyncQueue Message)
  | .pushback msg => some (.done, (syncq.push msg).2)
  | .length => some (.count syncq.len, syncq)
  | .front => syncq.front.join.map (fun msg => (.message (some msg), syncq))
  | .pop =>
    match syncq.pop with
    | (.returns (some msg), after) => some (.message (some msg), after)
    | _ => none

theorem transientQueue_simulates : Simulates transientQueue
    (fun syncq msgs => syncq.buffer.items = msgs ∧ syncq.closed = false) where
  pushback := by
    rintro syncq msgs ⟨items, opened⟩ msg
    refine ⟨_, rfl, ?_, ?_⟩ <;> simp [SyncQueue.push, items, opened]
  length := by
    rintro syncq msgs ⟨items, opened⟩
    rw [transientQueue, SyncQueue.len, RingQueue.length_eq, items]
  front := by
    rintro syncq msg others ⟨items, opened⟩
    have nonempty : 0 < syncq.buffer.length := by simp [RingQueue.length_eq, items]
    rcases syncq.buffer.sound.peek nonempty with ⟨first, peeked, head⟩
    have same : first = some msg := head.trans (congrArg List.head? items)
    rw [transientQueue, SyncQueue.front, peeked, same]
    rfl
  pop := by
    rintro syncq msg others ⟨items, opened⟩
    have nonempty : ¬ syncq.buffer.length = 0 := by simp [RingQueue.length_eq, items]
    have first := syncq.take_items.1
    have rest := syncq.take_items.2
    rw [items] at first rest
    refine ⟨syncq.take.2, ?_, rest, syncq.take_closed.trans opened⟩
    rw [transientQueue, SyncQueue.pop, if_neg (fun waits => nonempty waits.1), first]
    rfl

/-! ## The persistent queue -/

section Persistent

variable {Document : Type} [DecidableEq Document] (bson : Bson Document)

def findOne (collection : List Document) : Option Message :=
  collection.head?.bind bson.unmarshal

/-- The calls of `persistentQueue`, through the plugin, on a collection. -/
def persistentQueue (collection : List Document) :
    QueueOp -> Option (QueueReply × List Document)
  | .pushback msg => some (.done, collection ++ [bson.marshal msg])
  | .length => some (.count collection.length, collection)
  | .front => some (.message (findOne bson collection), collection)
  | .pop =>
    match findOne bson collection with
    | some msg => some (.message (some msg), collection.erase (bson.marshal msg))
    | none => some (.message none, collection)

theorem persistentQueue_simulates :
    Simulates (persistentQueue bson) (fun collection msgs => collection = msgs.map bson.marshal) where
  pushback := by
    rintro _ msgs rfl msg
    exact ⟨_, rfl, by simp⟩
  length := by
    rintro _ msgs rfl
    simp [persistentQueue]
  front := by
    rintro _ msg others rfl
    simp [persistentQueue, findOne, bson.roundTrip]
  pop := by
    rintro _ msg others rfl
    exact ⟨_, by simp [persistentQueue, findOne, bson.roundTrip], rfl⟩

end Persistent

/-! ## The queue object of a session -/

/-- On every sequence of calls that asks for the head only if there is one, a new
transient queue and a persistent queue on an empty collection return what the
sequence of messages returns. -/
theorem queues_interchangeable {Document : Type} [DecidableEq Document] (bson : Bson Document)
    {ops : List QueueOp} {expected : List QueueReply}
    (permitted : replies fifo [] ops = some expected) :
    replies transientQueue .new ops = some expected ∧
      replies (persistentQueue bson) [] ops = some expected := by
  constructor
  · exact transientQueue_simulates.replies ⟨rfl, rfl⟩ permitted
  · exact (persistentQueue_simulates bson).replies rfl permitted

def twins : List QueueOp :=
  [.pushback { topic := ascii "t" }, .pushback { topic := ascii "t" }, .pop, .length, .front]

/-- The other message is still there. -/
theorem twins_interchangeable :
    exists expected, replies fifo [] twins = some expected ∧
      replies transientQueue .new twins = some expected ∧
      replies (persistentQueue ⟨id, some, fun _ => rfl⟩) [] twins = some expected ∧
      expected = [.done, .done, .message (some { topic := ascii "t" }), .count 1,
        .message (some { topic := ascii "t" })] :=
  have both := queues_interchangeable ⟨id, some, fun _ => rfl⟩ (rfl : replies fifo [] twins = _)
  ⟨_, rfl, both.1, both.2, rfl⟩

end Queue
end Sentel
