import Mathlib.Data.List.AList
import Sentel.Queue.TransientList

namespace Sentel
namespace Queue

open Library Base

/-!
# The queue service

The service registers at most one queue object for a client identifier.  Queue
objects are never freed while something refers to them, so they are kept in a
growing heap and the registry only names them.  A transient queue holds its
messages itself.  A persistent queue holds a handle on the stored collection
of its client, which outlives every queue object opened on it; the list of
messages waiting for an acknowledgement is part of the object in both cases.
-/

/-- `transientQueue` and `persistentQueue`, told apart by `persistent`. -/
structure QueueObject where
  clientId : GoString
  persistent : Bool
  observer : Option ConnId := none
  syncq : List Message := []
  list : TransientList := newTransientList
  deriving DecidableEq

structure QueueService where
  queues : AList (fun _ : GoString => QueueRef)
  heap : List QueueObject
  collections : AList (fun _ : GoString => List Message)

def newQueueService : QueueService where
  queues := ∅
  heap := []
  collections := ∅

namespace QueueService

def destroyQueue (service : QueueService) (id : GoString) : QueueService :=
  { service with queues := service.queues.erase id }

def getQueue (service : QueueService) (id : GoString) : Option QueueRef :=
  service.queues.lookup id

def isPersistent (service : QueueService) (ref : QueueRef) : Bool :=
  (service.heap[ref]?).any QueueObject.persistent

def allocate (service : QueueService) (id : GoString) (persistent : Bool) :
    QueueRef × QueueService :=
  (service.heap.length,
    { service with
      queues := service.queues.insert id service.heap.length
      heap := service.heap ++ [{ clientId := id, persistent := persistent }] })

def create (service : QueueService) (id : GoString) (persistent : Bool)
    (dial : Except GoString Unit) : Except GoString (QueueRef × QueueService) :=
  if persistent then
    match dial with
    | .error reason => .error reason
    | .ok _ => .ok (service.allocate id persistent)
  else .ok (service.allocate id persistent)

/-- The error of a refused `newQueue`. -/
def alreadyExist (id : GoString) : GoString :=
  ascii "broker: queue for '" ++ id ++ ascii "' already exist"

/-- `newQueue`, with the service it leaves behind.  A persistent queue is
shared by persistent sessions and replaced by a clean one; any other queue
that is still registered refuses the request. -/
def newQueue (service : QueueService) (id : GoString) (persistent : Bool)
    (dial : Except GoString Unit) : Except GoString QueueRef × QueueService :=
  match service.getQueue id with
  | none => answer service (service.create id persistent dial)
  | some ref =>
    if persistent && service.isPersistent ref then (.ok ref, service)
    else if service.isPersistent ref && !persistent then
      answer (service.destroyQueue id) ((service.destroyQueue id).create id persistent dial)
    else (.error (alreadyExist id), service)
where
  /-- A failed constructor leaves the service as it was. -/
  answer (service : QueueService) :
      Except GoString (QueueRef × QueueService) -> Except GoString QueueRef × QueueService
    | .error reason => (.error reason, service)
    | .ok (ref, after) => (.ok ref, after)

/-! ## Operations of a queue object -/

def modify (service : QueueService) (ref : QueueRef)
    (update : QueueObject -> QueueObject) : QueueService :=
  { service with heap := service.heap.modify ref update }

def registerObserver (service : QueueService) (ref : QueueRef) (observer : Option ConnId) :
    QueueService :=
  service.modify ref (fun queue => { queue with observer := observer })

def observer (service : QueueService) (ref : QueueRef) : Option ConnId :=
  (service.heap[ref]?).bind QueueObject.observer

def getRetainList (service : QueueService) (ref : QueueRef) : TransientList :=
  ((service.heap[ref]?).map QueueObject.list).getD newTransientList

def setRetainList (service : QueueService) (ref : QueueRef) (list : TransientList) :
    QueueService :=
  service.modify ref (fun queue => { queue with list := list })

/-- The stored messages of a client. -/
def collection (service : QueueService) (clientId : GoString) : List Message :=
  (service.collections.lookup clientId).getD []

def contents (service : QueueService) (ref : QueueRef) : List Message :=
  match service.heap[ref]? with
  | none => []
  | some queue =>
    if queue.persistent then service.collection queue.clientId else queue.syncq

def setContents (service : QueueService) (ref : QueueRef) (msgs : List Message) : QueueService :=
  match service.heap[ref]? with
  | none => service
  | some queue =>
    if queue.persistent then
      { service with collections := service.collections.insert queue.clientId msgs }
    else service.modify ref (fun found => { found with syncq := msgs })

def length (service : QueueService) (ref : QueueRef) : Nat :=
  (service.contents ref).length

def front (service : QueueService) (ref : QueueRef) : Option Message :=
  (service.contents ref).head?

def pop (service : QueueService) (ref : QueueRef) : QueueService :=
  service.setContents ref (service.contents ref).tail

def pushback (service : QueueService) (ref : QueueRef) (msg : Message) : QueueService :=
  service.setContents ref (service.contents ref ++ [msg])

/-! ## A queue object in use -/

structure Serves (service : QueueService) (ref : QueueRef) (clientId : GoString)
    (persistent : Bool) (msgs : List Message) (list : TransientList) : Prop where
  object : exists queue, service.heap[ref]? = some queue ∧ queue.clientId = clientId ∧
    queue.persistent = persistent ∧ queue.list = list
  contents : service.contents ref = msgs

namespace Serves

variable {service : QueueService} {ref : QueueRef} {clientId : GoString} {persistent : Bool}
  {msgs : List Message} {list : TransientList}

theorem getRetainList (serves : service.Serves ref clientId persistent msgs list) :
    service.getRetainList ref = list := by
  rcases serves.object with ⟨queue, found, _, _, same⟩
  rw [QueueService.getRetainList, found, ← same]
  rfl

theorem length (serves : service.Serves ref clientId persistent msgs list) :
    service.length ref = msgs.length := by
  rw [QueueService.length, serves.contents]

theorem front (serves : service.Serves ref clientId persistent msgs list) :
    service.front ref = msgs.head? := by
  rw [QueueService.front, serves.contents]

theorem isPersistent (serves : service.Serves ref clientId persistent msgs list) :
    service.isPersistent ref = persistent := by
  rcases serves.object with ⟨queue, found, _, same, _⟩
  rw [QueueService.isPersistent, found, ← same]
  rfl

theorem modify (serves : service.Serves ref clientId persistent msgs list)
    {update : QueueObject -> QueueObject} {after : TransientList}
    (keeps : forall queue, (update queue).clientId = queue.clientId ∧
      (update queue).persistent = queue.persistent ∧ (update queue).syncq = queue.syncq)
    (lists : forall queue, queue.list = list -> (update queue).list = after) :
    (service.modify ref update).Serves ref clientId persistent msgs after := by
  rcases serves.object with ⟨queue, found, sameClient, samePersistent, sameList⟩
  have changed : (service.modify ref update).heap[ref]? = some (update queue) := by
    rw [QueueService.modify, List.getElem?_modify_eq, found]
    rfl
  refine ⟨⟨update queue, changed, (keeps queue).1.trans sameClient,
    (keeps queue).2.1.trans samePersistent, lists queue sameList⟩, ?_⟩
  have contents := serves.contents
  rw [QueueService.contents, found] at contents
  rw [QueueService.contents, changed]
  simp only [(keeps queue).1, (keeps queue).2.1, (keeps queue).2.2]
  exact contents

theorem registerObserver (serves : service.Serves ref clientId persistent msgs list)
    (observer : Option ConnId) :
    (service.registerObserver ref observer).Serves ref clientId persistent msgs list :=
  serves.modify (fun _ => ⟨rfl, rfl, rfl⟩) (fun _ same => same)

theorem setRetainList (serves : service.Serves ref clientId persistent msgs list)
    (after : TransientList) :
    (service.setRetainList ref after).Serves ref clientId persistent msgs after :=
  serves.modify (fun _ => ⟨rfl, rfl, rfl⟩) (fun _ _ => rfl)

theorem setContents (serves : service.Serves ref clientId persistent msgs list)
    (after : List Message) :
    (service.setContents ref after).Serves ref clientId persistent after list := by
  rcases serves.object with ⟨queue, found, sameClient, samePersistent, sameList⟩
  rw [QueueService.setContents, found]
  by_cases stored : queue.persistent
  · simp only [if_pos stored]
    refine ⟨⟨queue, found, sameClient, samePersistent, sameList⟩, ?_⟩
    rw [QueueService.contents]
    simp only [found, if_pos stored, collection, AList.lookup_insert]
    rfl
  · simp only [if_neg stored]
    have changed : (service.modify ref (fun found => { found with syncq := after })).heap[ref]? =
        some { queue with syncq := after } := by
      rw [QueueService.modify, List.getElem?_modify_eq, found]
      rfl
    refine ⟨⟨_, changed, sameClient, samePersistent, sameList⟩, ?_⟩
    rw [QueueService.contents, changed]
    exact if_neg stored

theorem pop (serves : service.Serves ref clientId persistent msgs list) :
    (service.pop ref).Serves ref clientId persistent msgs.tail list := by
  rw [QueueService.pop, serves.contents]
  exact serves.setContents msgs.tail

theorem pushback (serves : service.Serves ref clientId persistent msgs list) (msg : Message) :
    (service.pushback ref msg).Serves ref clientId persistent (msgs ++ [msg]) list := by
  rw [QueueService.pushback, serves.contents]
  exact serves.setContents (msgs ++ [msg])

end Serves

/-! ## The registry -/

@[simp] theorem setContents_queues (service : QueueService) (ref : QueueRef)
    (msgs : List Message) : (service.setContents ref msgs).queues = service.queues := by
  rw [setContents]
  split
  · rfl
  · split <;> rfl

def kind (service : QueueService) (ref : QueueRef) : Option Bool :=
  (service.heap[ref]?).map QueueObject.persistent

variable {service : QueueService} {ref : QueueRef} {persistent : Bool} {id : GoString}

theorem kind_of_isPersistent (persistent : service.isPersistent ref = true) :
    service.kind ref = some true := by
  rcases (Option.any_eq_true _ _).mp persistent with ⟨queue, found, same⟩
  rw [kind, found]
  exact congrArg some same

theorem modify_map {Field : Type} {field : QueueObject -> Field}
    {update : QueueObject -> QueueObject}
    (keeps : forall queue, field (update queue) = field queue)
    (service : QueueService) (ref other : QueueRef) :
    ((service.modify ref update).heap[other]?).map field = (service.heap[other]?).map field := by
  rw [modify, List.getElem?_modify]
  by_cases same : ref = other
  · cases service.heap[other]? <;> simp [same, keeps]
  · simp [same]

theorem setContents_map {Field : Type} {field : QueueObject -> Field}
    (keeps : forall queue msgs, field { queue with syncq := msgs } = field queue)
    (service : QueueService) (ref other : QueueRef) (msgs : List Message) :
    ((service.setContents ref msgs).heap[other]?).map field = (service.heap[other]?).map field := by
  rw [setContents]
  split
  · rfl
  · split
    · rfl
    · exact modify_map (fun queue => keeps queue msgs) service ref other

@[simp] theorem registerObserver_kind (service : QueueService) (ref other : QueueRef)
    (observer : Option ConnId) :
    (service.registerObserver ref observer).kind other = service.kind other := by
  apply modify_map
  exact fun _ => rfl

@[simp] theorem setRetainList_kind (service : QueueService) (ref other : QueueRef)
    (list : TransientList) : (service.setRetainList ref list).kind other = service.kind other := by
  apply modify_map
  exact fun _ => rfl

@[simp] theorem setContents_kind (service : QueueService) (ref other : QueueRef)
    (msgs : List Message) : (service.setContents ref msgs).kind other = service.kind other :=
  setContents_map (fun _ _ => rfl) service ref other msgs

theorem observer_eq (service : QueueService) (ref : QueueRef) :
    service.observer ref = ((service.heap[ref]?).map QueueObject.observer).join := by
  rw [observer]
  cases service.heap[ref]? <;> rfl

@[simp] theorem setRetainList_observer (service : QueueService) (ref other : QueueRef)
    (list : TransientList) :
    (service.setRetainList ref list).observer other = service.observer other := by
  rw [observer_eq, observer_eq]
  apply congrArg
  apply modify_map
  exact fun _ => rfl

@[simp] theorem setContents_observer (service : QueueService) (ref other : QueueRef)
    (msgs : List Message) :
    (service.setContents ref msgs).observer other = service.observer other := by
  rw [observer_eq, observer_eq, setContents_map (fun _ _ => rfl)]

theorem registerObserver_observer (known : service.kind ref = some persistent)
    (observer : Option ConnId) :
    (service.registerObserver ref observer).observer ref = observer := by
  rcases Option.map_eq_some_iff.mp known with ⟨queue, found, _⟩
  rw [QueueService.observer, registerObserver, modify, List.getElem?_modify_eq, found]
  rfl

theorem registerObserver_none (service : QueueService) (ref : QueueRef) :
    (service.registerObserver ref none).observer ref = none := by
  rw [observer, registerObserver, modify, List.getElem?_modify_eq]
  cases service.heap[ref]? <;> rfl

structure Opens (before after : QueueService) (id : GoString) (persistent : Bool)
    (ref : QueueRef) : Prop where
  registered : after.getQueue id = some ref
  others : forall other, other ≠ id -> after.getQueue other = before.getQueue other
  opened : after.kind ref = some persistent
  kinds : forall old known, before.kind old = some known -> after.kind old = some known

theorem Opens.congr {before middle after : QueueService}
    (opens : Opens before middle id persistent ref) (queues : after.queues = middle.queues)
    (kinds : forall other, after.kind other = middle.kind other) :
    Opens before after id persistent ref := by
  have same : forall other, after.getQueue other = middle.getQueue other :=
    fun other => congrArg (AList.lookup other) queues
  refine ⟨(same id).trans opens.registered, ?_, (kinds ref).trans opens.opened, ?_⟩
  · exact fun other different => (same other).trans (opens.others other different)
  · exact fun old known found => (kinds old).trans (opens.kinds old known found)

theorem allocate_opens (service : QueueService) (id : GoString) (persistent : Bool) :
    Opens service (service.allocate id persistent).2 id persistent
      (service.allocate id persistent).1 where
  registered := AList.lookup_insert _
  others := fun _ different => AList.lookup_insert_ne different
  opened := by simp [allocate, kind]
  kinds := by
    intro old known found
    rcases Option.map_eq_some_iff.mp found with ⟨queue, placed, same⟩
    have bound := (List.getElem?_eq_some_iff.mp placed).1
    rw [kind, allocate, List.getElem?_append_left bound, placed]
    exact congrArg some same

inductive Answered (service : QueueService) (id : GoString) (persistent : Bool) :
    Except GoString QueueRef × QueueService -> Prop
  | shared {ref : QueueRef} (registered : service.getQueue id = some ref)
      (kept : service.isPersistent ref = true) (asked : persistent = true) :
      Answered service id persistent (.ok ref, service)
  | created (unregistered : service.getQueue id = none) :
      Answered service id persistent
        (.ok (service.allocate id persistent).1, (service.allocate id persistent).2)
  | replaced {ref : QueueRef} (registered : service.getQueue id = some ref)
      (kept : service.isPersistent ref = true) (clean : persistent = false) :
      Answered service id persistent
        (.ok ((service.destroyQueue id).allocate id persistent).1,
          ((service.destroyQueue id).allocate id persistent).2)
  | refused {reason : GoString}
      (blocked : persistent = true ∨
        exists ref, service.getQueue id = some ref ∧ service.isPersistent ref = false) :
      Answered service id persistent (.error reason, service)

theorem newQueue_answered (service : QueueService) (id : GoString) (persistent : Bool)
    (dial : Except GoString Unit) :
    Answered service id persistent (service.newQueue id persistent dial) := by
  unfold newQueue
  cases found : service.getQueue id with
  | none =>
    simp only [create]
    cases persistent with
    | false => exact .created found
    | true =>
      cases dial with
      | error reason => exact .refused (.inl rfl)
      | ok value => exact .created found
  | some ref =>
    simp only [create]
    cases kept : service.isPersistent ref with
    | false =>
      rw [Bool.and_false, if_neg Bool.false_ne_true, Bool.false_and, if_neg Bool.false_ne_true]
      exact .refused (.inr ⟨ref, found, kept⟩)
    | true =>
      cases persistent with
      | true => exact .shared found kept rfl
      | false => exact .replaced found kept rfl

theorem newQueue_given {dial : Except GoString Unit}
    (given : (service.newQueue id persistent dial).1 = .ok ref) :
    Opens service (service.newQueue id persistent dial).2 id persistent ref ∧
      forall old, service.getQueue id = some old ->
        service.isPersistent old = true ∧ (persistent = true -> old = ref) := by
  have answered := newQueue_answered service id persistent dial
  generalize service.newQueue id persistent dial = answer at answered given
  cases answered with
  | shared registered kept asked =>
    cases given
    subst asked
    refine ⟨⟨registered, fun _ _ => rfl, kind_of_isPersistent kept, fun _ _ known => known⟩, ?_⟩
    intro old found
    cases registered.symm.trans found
    exact ⟨kept, fun _ => rfl⟩
  | created unregistered =>
    cases given
    exact ⟨allocate_opens service id persistent,
      fun _ found => nomatch unregistered.symm.trans found⟩
  | replaced registered kept clean =>
    cases given
    have opens := allocate_opens (service.destroyQueue id) id persistent
    refine ⟨⟨opens.registered, fun other different => ?_, opens.opened, opens.kinds⟩, ?_⟩
    · rw [opens.others other different]
      exact AList.lookup_erase_ne different
    · intro old found
      cases registered.symm.trans found
      exact ⟨kept, fun asked => absurd (clean.symm.trans asked) Bool.false_ne_true⟩
  | refused => cases given

theorem newQueue_refused {dial : Except GoString Unit} {reason : GoString}
    (refused : (service.newQueue id persistent dial).1 = .error reason) :
    (service.newQueue id persistent dial).2 = service := by
  have answered := newQueue_answered service id persistent dial
  generalize service.newQueue id persistent dial = answer at answered refused
  cases answered with
  | refused => rfl
  | shared | created | replaced => cases refused

theorem newQueue_registered (registered : service.getQueue id = some ref)
    (dial : Except GoString Unit) : (service.newQueue id true dial).2 = service := by
  have answered := newQueue_answered service id true dial
  generalize service.newQueue id true dial = answer at answered
  cases answered with
  | shared | refused => rfl
  | created unregistered => exact nomatch unregistered.symm.trans registered
  | replaced _ _ clean => exact nomatch clean

/-! ## Observers -/

def Unobserved (service : QueueService) (conn : ConnId) (others : QueueRef -> Prop) : Prop :=
  forall ref, (exists id, service.getQueue id = some ref) ∨ others ref ->
    service.observer ref ≠ some conn

theorem registerObserver_observer_of_ne (service : QueueService) {other : QueueRef}
    (different : other ≠ ref) (observer : Option ConnId) :
    (service.registerObserver ref observer).observer other = service.observer other := by
  have found : (service.registerObserver ref observer).heap[other]? = service.heap[other]? :=
    List.getElem?_modify_ne _ _ different.symm
  rw [QueueService.observer, found]
  rfl

theorem allocate_observer (service : QueueService) (id : GoString) (persistent : Bool)
    (different : ref ≠ service.heap.length) :
    (service.allocate id persistent).2.observer ref = service.observer ref := by
  rw [observer, observer, allocate, List.getElem?_append]
  by_cases old : ref < service.heap.length
  · rw [if_pos old]
  · have beyond : service.heap.length < ref := Nat.lt_of_le_of_ne (Nat.le_of_not_lt old) different.symm
    rw [if_neg old, List.getElem?_eq_none (Nat.le_of_lt beyond),
      List.getElem?_eq_none (by simp only [List.length_singleton]; omega)]

theorem allocate_observer_self (service : QueueService) (id : GoString) (persistent : Bool) :
    (service.allocate id persistent).2.observer service.heap.length = none := by
  rw [observer, allocate, List.getElem?_concat_length]
  rfl

namespace Unobserved

variable {service after : QueueService} {conn : ConnId} {others : QueueRef -> Prop}

theorem congr (unobserved : service.Unobserved conn others)
    (queues : after.queues = service.queues)
    (observers : forall ref, after.observer ref = service.observer ref) :
    after.Unobserved conn others := by
  intro ref reached
  rw [observers]
  refine unobserved ref (reached.imp_left ?_)
  rintro ⟨id, found⟩
  exact ⟨id, (congrArg (AList.lookup id) queues).symm.trans found⟩

theorem mono (unobserved : service.Unobserved conn others) {fewer : QueueRef -> Prop}
    (known : forall ref, fewer ref -> (exists id, service.getQueue id = some ref) ∨ others ref) :
    service.Unobserved conn fewer :=
  fun ref reached => unobserved ref (reached.elim .inl (known ref))

theorem setContents (unobserved : service.Unobserved conn others) (ref : QueueRef)
    (msgs : List Message) : (service.setContents ref msgs).Unobserved conn others :=
  unobserved.congr (setContents_queues service ref msgs)
    (fun other => setContents_observer service ref other msgs)

theorem setRetainList (unobserved : service.Unobserved conn others) (ref : QueueRef)
    (list : TransientList) : (service.setRetainList ref list).Unobserved conn others :=
  unobserved.congr rfl (fun other => setRetainList_observer service ref other list)

theorem registerObserver (unobserved : service.Unobserved conn others) (ref : QueueRef)
    {observer : Option ConnId} (different : observer ≠ some conn) :
    (service.registerObserver ref observer).Unobserved conn others := by
  intro other reached
  by_cases same : other = ref
  · subst same
    rw [QueueService.observer, QueueService.registerObserver, modify, List.getElem?_modify_eq]
    cases service.heap[other]? with
    | none => exact nofun
    | some queue => exact different
  · rw [registerObserver_observer_of_ne service same]
    exact unobserved other reached

theorem destroyQueue (unobserved : service.Unobserved conn others) (id : GoString) :
    (service.destroyQueue id).Unobserved conn others := by
  intro ref reached
  refine unobserved ref (reached.imp_left ?_)
  rintro ⟨other, found⟩
  have different : other ≠ id := by
    rintro rfl
    rw [getQueue, QueueService.destroyQueue, AList.lookup_erase] at found
    cases found
  rw [getQueue, QueueService.destroyQueue, AList.lookup_erase_ne different] at found
  exact ⟨other, found⟩

theorem allocate (unobserved : service.Unobserved conn others) (id : GoString)
    (persistent : Bool) : (service.allocate id persistent).2.Unobserved conn others := by
  intro ref reached
  by_cases fresh : ref = service.heap.length
  · rw [fresh, allocate_observer_self]
    exact nofun
  · rw [allocate_observer service id persistent fresh]
    refine unobserved ref (reached.imp_left ?_)
    rintro ⟨other, found⟩
    by_cases same : other = id
    · rw [same, (allocate_opens service id persistent).registered] at found
      exact absurd (Option.some.inj found).symm fresh
    · rw [(allocate_opens service id persistent).others other same] at found
      exact ⟨other, found⟩

theorem newQueue (unobserved : service.Unobserved conn others) (id : GoString)
    (persistent : Bool) (dial : Except GoString Unit) :
    (service.newQueue id persistent dial).2.Unobserved conn others := by
  have answered := newQueue_answered service id persistent dial
  generalize service.newQueue id persistent dial = answer at answered
  cases answered with
  | shared => exact unobserved
  | created => exact unobserved.allocate id persistent
  | replaced => exact (unobserved.destroyQueue id).allocate id persistent
  | refused => exact unobserved

end Unobserved

end QueueService

end Queue
end Sentel
