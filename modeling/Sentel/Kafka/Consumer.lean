import Sentel.Kafka.Message
import Sentel.Library.GoMap
import Sentel.Library.Machine

namespace Sentel
namespace Kafka

open Library

/-!
# The consumer

`Start` ranges over the subscribed topics and starts one goroutine for each
partition of a topic.  A goroutine is given the subscriber and the partition.
The topic it is not given: it reads the variable of the loop, which all rounds
share, whenever it creates a message for a record.  A record is therefore
decoded for the topic that the loop reached last, and not for the topic it
arrived on.

The model is generic in the messages, the factory and the handlers.  The answers
of the message server are part of the labels: how many partitions a topic has,
which are numbered from zero, and whether a partition can be consumed.  What
ends a goroutine, an error of its partition or the closing of the consumer, is
left out: the records considered are those that a goroutine receives.
-/

universe u

section Model

variable (Record Callback Context Text : Type u)

structure Subscriber where
  handler : Option Callback
  ctx : Context

/-- A consumer with its factory.  A factory need not know a topic. -/
structure Consumer where
  subscribers : AList (fun _ : GoString => Subscriber Callback Context)
  createMessage : GoString -> Option Record
  deserialize : Record -> Text -> Option Record

/-- A goroutine of `Start`, with the topic whose partition it consumes. -/
structure Goroutine where
  source : GoString
  partition : Nat
  subscriber : Subscriber Callback Context

inductive StartPhase
  | ranging (rest : List (Sigma fun _ : GoString => Subscriber Callback Context))
  | opening (subscriber : Subscriber Callback Context) (partition count : Nat)
      (rest : List (Sigma fun _ : GoString => Subscriber Callback Context))
  | returned

/-- The variable `topic`, the goroutines that run and the phase of `Start`. -/
structure Consuming where
  topic : GoString
  goroutines : List (Goroutine Callback Context)
  phase : StartPhase Callback Context

structure Delivery where
  handler : Callback
  message : Record
  ctx : Context

/-- A step of `Start`, with the answer of the server, or a record that a
goroutine receives. -/
inductive ConsumerLabel
  | partitions (count : Option Nat)
  | consume (fine : Bool)
  | receive (goroutine : Nat) (text : Text)

end Model

section Steps

variable {Record Callback Context Text : Type u}

namespace Consumer

def decode (consumer : Consumer Record Callback Context Text) (topic : GoString) (text : Text) :
    Option Record :=
  (consumer.createMessage topic).bind (fun message => consumer.deserialize message text)

def handle (consumer : Consumer Record Callback Context Text) (topic : GoString)
    (subscriber : Subscriber Callback Context) (text : Text) :
    List (Delivery Record Callback Context) :=
  match subscriber.handler with
  | none => []
  | some handler =>
    match consumer.decode topic text with
    | some message => [⟨handler, message, subscriber.ctx⟩]
    | none => []

end Consumer

namespace Consuming

/-- The next round of the loop over the topics. -/
def range (consuming : Consuming Callback Context) (count : Option Nat) :
    Option (Consuming Callback Context) :=
  match consuming.phase with
  | .ranging [] => some { consuming with phase := .returned }
  | .ranging (entry :: rest) =>
    some { consuming with
      topic := entry.1
      phase :=
        match count with
        | some count => .opening entry.2 0 count rest
        | none => .ranging rest }
  | _ => none

/-- The next round of the loop over the partitions. -/
def consume (consuming : Consuming Callback Context) (fine : Bool) :
    Option (Consuming Callback Context) :=
  match consuming.phase with
  | .opening subscriber partition count rest =>
    if partition < count then
      if fine then
        some { consuming with
          goroutines := consuming.goroutines ++ [⟨consuming.topic, partition, subscriber⟩]
          phase := .opening subscriber (partition + 1) count rest }
      else some { consuming with phase := .returned }
    else some { consuming with phase := .ranging rest }
  | _ => none

end Consuming

/-- The interleavings of `Start` and the goroutines, for an order in which the
subscribed topics are visited. -/
def consumers (Text : Type u)
    (order : List (Sigma fun _ : GoString => Subscriber Callback Context)) :
    Machine (Consuming Callback Context) (ConsumerLabel Text) where
  initial := ⟨[], [], .ranging order⟩
  step := fun consuming label =>
    match label with
    | .partitions count => consuming.range count
    | .consume fine => consuming.consume fine
    | .receive goroutine _ => if goroutine < consuming.goroutines.length then some consuming else none

/-- A received record is decoded for the topic it arrived on and passed once to
the handler of this topic, with its context. -/
def Faithful (consumer : Consumer Record Callback Context Text)
    (consuming : Consuming Callback Context) : ConsumerLabel Text -> Prop
  | .receive goroutine text =>
    forall running, consuming.goroutines[goroutine]? = some running ->
      exists subscriber, consumer.subscribers.lookup running.source = some subscriber ∧
        consumer.handle consuming.topic running.subscriber text =
          consumer.handle running.source subscriber text
  | _ => True

def Alike (consumer : Consumer Record Callback Context Text) : Prop :=
  forall topic other subscriber, consumer.subscribers.lookup topic = some subscriber ->
    subscriber.handler ≠ none -> consumer.subscribers.lookup other ≠ none ->
    forall text, consumer.decode other text = consumer.decode topic text

/-! ## The variable is always a subscribed topic -/

def Subscribed (consumer : Consumer Record Callback Context Text)
    (entries : List (Sigma fun _ : GoString => Subscriber Callback Context)) : Prop :=
  forall entry, entry ∈ entries -> consumer.subscribers.lookup entry.1 = some entry.2

structure Tracked (consumer : Consumer Record Callback Context Text)
    (consuming : Consuming Callback Context) : Prop where
  own : forall running, running ∈ consuming.goroutines ->
    consumer.subscribers.lookup running.source = some running.subscriber
  reached : consuming.goroutines ≠ [] -> consumer.subscribers.lookup consuming.topic ≠ none
  ranging : forall rest, consuming.phase = .ranging rest -> Subscribed consumer rest
  opening : forall subscriber partition count rest,
    consuming.phase = .opening subscriber partition count rest ->
    consumer.subscribers.lookup consuming.topic = some subscriber ∧ Subscribed consumer rest

namespace Tracked

variable {consumer : Consumer Record Callback Context Text}
  {consuming next : Consuming Callback Context}

theorem initial {order : List (Sigma fun _ : GoString => Subscriber Callback Context)}
    (perm : order.Perm consumer.subscribers.entries) :
    Tracked consumer (consumers Text order).initial where
  own := fun _ member => nomatch member
  reached := fun some => absurd rfl some
  ranging := by
    intro rest same entry member
    cases same
    exact AList.mem_lookup_iff.mpr (perm.mem_iff.mp member)
  opening := fun _ _ _ _ same => nomatch same

theorem range (tracked : Tracked consumer consuming) {count : Option Nat}
    (taken : consuming.range count = some next) : Tracked consumer next := by
  rw [Consuming.range] at taken
  split at taken
  · cases taken
    exact ⟨tracked.own, tracked.reached, (fun _ same => nomatch same),
      (fun _ _ _ _ same => nomatch same)⟩
  · rename_i entry rest phase
    cases taken
    have subscribed := tracked.ranging _ phase
    have first := subscribed entry List.mem_cons_self
    have later : Subscribed consumer rest :=
      fun other member => subscribed other (List.mem_cons_of_mem entry member)
    refine ⟨tracked.own, fun _ => ?_, ?_, ?_⟩
    · change consumer.subscribers.lookup entry.1 ≠ none
      rw [first]
      exact Option.some_ne_none _
    · intro others same
      cases count with
      | none =>
        cases same
        exact later
      | some count => cases same
    · intro subscriber partition bound others same
      cases count with
      | none => cases same
      | some count =>
        cases same
        exact ⟨first, later⟩
  · cases taken

theorem consume (tracked : Tracked consumer consuming) {fine : Bool}
    (taken : consuming.consume fine = some next) : Tracked consumer next := by
  rw [Consuming.consume] at taken
  split at taken
  · rename_i subscriber partition count rest phase
    have opened := tracked.opening _ _ _ _ phase
    split at taken
    · split at taken
      · cases taken
        refine ⟨?_, fun _ => ?_, (fun _ same => nomatch same), ?_⟩
        · intro running member
          rcases List.mem_append.mp member with old | new
          · exact tracked.own running old
          · rw [List.mem_singleton.mp new]
            exact opened.1
        · change consumer.subscribers.lookup consuming.topic ≠ none
          rw [opened.1]
          exact Option.some_ne_none _
        · intro other index bound others same
          cases same
          exact opened
      · cases taken
        exact ⟨tracked.own, tracked.reached, (fun _ same => nomatch same),
          (fun _ _ _ _ same => nomatch same)⟩
    · cases taken
      refine ⟨tracked.own, tracked.reached, ?_, (fun _ _ _ _ same => nomatch same)⟩
      intro others same
      cases same
      exact opened.2
  · cases taken

theorem step (tracked : Tracked consumer consuming)
    {order : List (Sigma fun _ : GoString => Subscriber Callback Context)}
    {label : ConsumerLabel Text}
    (taken : (consumers Text order).step consuming label = some next) : Tracked consumer next := by
  cases label with
  | partitions count => exact tracked.range taken
  | consume fine => exact tracked.consume taken
  | receive goroutine text =>
    change (if goroutine < consuming.goroutines.length then some consuming else none) =
      some next at taken
    split at taken
    · cases taken
      exact tracked
    · cases taken

theorem faithful (tracked : Tracked consumer consuming) (alike : Alike consumer)
    (label : ConsumerLabel Text) : Faithful consumer consuming label := by
  cases label with
  | partitions count | consume fine => exact True.intro
  | receive goroutine text =>
    intro running found
    have member := List.mem_of_getElem? found
    have own := tracked.own running member
    refine ⟨running.subscriber, own, ?_⟩
    cases handler : running.subscriber.handler with
    | none => rw [Consumer.handle, Consumer.handle, handler]
    | some callback =>
      have given : running.subscriber.handler ≠ none := by
        rw [handler]
        exact Option.some_ne_none callback
      have reached := tracked.reached (List.ne_nil_of_mem member)
      rw [Consumer.handle, Consumer.handle, handler,
        alike running.source consuming.topic running.subscriber own given reached text]

end Tracked

/-! ## Which consumers are faithful -/

theorem Consumer.decode_eq_of_handle_eq {consumer : Consumer Record Callback Context Text}
    {subscriber : Subscriber Callback Context} {callback : Callback}
    (handler : subscriber.handler = some callback) {topic other : GoString} {text : Text}
    (same : consumer.handle other subscriber text = consumer.handle topic subscriber text) :
    consumer.decode other text = consumer.decode topic text := by
  rw [Consumer.handle, Consumer.handle, handler] at same
  cases first : consumer.decode other text with
  | none =>
    cases second : consumer.decode topic text with
    | none => rfl
    | some message =>
      rw [first, second] at same
      cases same
  | some message =>
    cases second : consumer.decode topic text with
    | none =>
      rw [first, second] at same
      cases same
    | some message' =>
      rw [first, second] at same
      cases same
      rfl

theorem exists_perm_front {Entry : Type u} {entries : List Entry} {first second : Entry}
    (differ : first ≠ second) (one : first ∈ entries) (two : second ∈ entries) :
    exists rest, (first :: second :: rest).Perm entries := by
  rcases List.mem_iff_append.mp one with ⟨before, after, split⟩
  rw [split] at two ⊢
  have other : second ∈ before ++ after := by
    rcases List.mem_append.mp two with left | right
    · exact List.mem_append_left _ left
    · rcases List.mem_cons.mp right with same | right
      · exact absurd same.symm differ
      · exact List.mem_append_right _ right
  rcases List.mem_iff_append.mp other with ⟨left, right, remaining⟩
  refine ⟨left ++ right, ?_⟩
  refine List.Perm.trans (List.Perm.cons first ?_) List.perm_middle.symm
  rw [remaining]
  exact List.perm_middle.symm

def overtaken (text : Text) : List (ConsumerLabel Text) :=
  [.partitions (some 1), .consume true, .consume true, .partitions none, .receive 0 text]

/-- Every run of every order is faithful exactly when all subscribed topics
decode alike. -/
theorem faithful_iff_alike (consumer : Consumer Record Callback Context Text) :
    (forall order : List (Sigma fun _ : GoString => Subscriber Callback Context),
      order.Perm consumer.subscribers.entries -> forall labels,
      (consumers Text order).Allowed (Faithful consumer) (consumers Text order).initial labels) ↔
      Alike consumer := by
  constructor
  · intro faithful topic other subscriber known given found text
    by_cases same : other = topic
    · rw [same]
    · rcases Option.ne_none_iff_exists'.mp found with ⟨otherSubscriber, otherKnown⟩
      rcases Option.ne_none_iff_exists'.mp given with ⟨callback, handler⟩
      have differ : (⟨topic, subscriber⟩ : Sigma fun _ : GoString => Subscriber Callback Context) ≠
          ⟨other, otherSubscriber⟩ := by
        intro equal
        exact same (congrArg Sigma.fst equal).symm
      rcases exists_perm_front differ (AList.mem_lookup_iff.mp known)
        (AList.mem_lookup_iff.mp otherKnown) with ⟨rest, perm⟩
      rcases faithful _ perm (overtaken text) with ⟨_, _, _, _, received, _⟩
      rcases received ⟨topic, 0, subscriber⟩ rfl with ⟨own, ownKnown, handled⟩
      change consumer.subscribers.lookup topic = some own at ownKnown
      rw [known] at ownKnown
      cases ownKnown
      exact Consumer.decode_eq_of_handle_eq handler handled
  · intro alike order perm labels
    exact Machine.allowed_of_invariant (fun tracked taken => Tracked.step tracked taken)
      (fun tracked label => Tracked.faithful tracked alike label) (Tracked.initial perm) labels

end Steps

def conductorConsumer : Consumer Message Unit Unit JsonText where
  subscribers := AList.insert topicNameProduct ⟨some (), ()⟩
    (AList.insert topicNameTenant ⟨some (), ()⟩ ∅)
  createMessage := fun topic => some (builtinFactory topic)
  deserialize := Message.deserialize

def newProduct : Product where
  topicName := topicNameProduct
  productId := [112]
  action := actionCreate
  tenantId := [116]

/-- The record of a new product is passed on as a new tenant, whose identifier
is the one of the product. -/
theorem product_record_becomes_tenant :
    conductorConsumer.decode topicNameTenant newProduct.serialize =
        some (.tenant { topicName := topicNameProduct, tenantId := [112], action := actionCreate }) ∧
      ¬ (consumers JsonText conductorConsumer.subscribers.entries).Allowed
        (Faithful conductorConsumer)
        (consumers JsonText conductorConsumer.subscribers.entries).initial
        (overtaken newProduct.serialize) := by
  have becomes : conductorConsumer.decode topicNameTenant newProduct.serialize =
      some (.tenant { topicName := topicNameProduct, tenantId := [112], action := actionCreate }) := by
    decide +kernel
  refine ⟨becomes, ?_⟩
  rintro ⟨_, _, _, _, received, _⟩
  rcases received ⟨topicNameProduct, 0, ⟨some (), ()⟩⟩ rfl with ⟨own, known, handled⟩
  have same : own = ⟨some (), ()⟩ := by
    change conductorConsumer.subscribers.lookup topicNameProduct = some own at known
    rw [conductorConsumer, AList.lookup_insert] at known
    exact (Option.some.inj known).symm
  subst same
  have decoded := Consumer.decode_eq_of_handle_eq rfl handled
  revert decoded
  change ¬ (conductorConsumer.decode topicNameTenant newProduct.serialize =
    conductorConsumer.decode topicNameProduct newProduct.serialize)
  decide +kernel

end Kafka
end Sentel
