import Sentel.Queue.QueueService

namespace Sentel
namespace Queue

open Library Base QueueService

/-!
# What a clean queue leaves of the stored messages

A client that asks for a clean queue should lose the messages that were stored
for it.  The registry forgets the persistent queue, but nothing removes the
messages from the collection behind it.  A persistent queue that is opened
later finds them again.  They are gone exactly if the collection was empty when
the clean queue was opened.
-/

/-- The calls that the clients of the service make. -/
inductive QueueCall
  | newQueue (id : GoString) (persistent : Bool) (dial : Except GoString Unit)
  | pushback (ref : QueueRef) (msg : Message)
  | pop (ref : QueueRef)
  | destroyQueue (id : GoString)

namespace QueueService

def owner (service : QueueService) (ref : QueueRef) : Option (GoString × Bool) :=
  (service.heap[ref]?).map (fun queue => (queue.clientId, queue.persistent))

end QueueService

structure Watch where
  service : QueueService
  pushed : List Message := []
  opened : List QueueRef := []

namespace Watch

def call (id : GoString) (watch : Watch) : QueueCall -> Watch
  | .newQueue name persistent dial =>
    let answer := watch.service.newQueue name persistent dial
    { watch with
      service := answer.2
      opened := match answer.1 with
        | .ok ref => if name = id ∧ persistent then ref :: watch.opened else watch.opened
        | .error _ => watch.opened }
  | .pushback ref msg =>
    { watch with
      service := watch.service.pushback ref msg
      pushed := if (watch.service.owner ref).any (fun owner => owner.1 == id) then
          msg :: watch.pushed
        else watch.pushed }
  | .pop ref => { watch with service := watch.service.pop ref }
  | .destroyQueue name => { watch with service := watch.service.destroyQueue name }

def during (id : GoString) (service : QueueService) (calls : List QueueCall) : Watch :=
  calls.foldl (call id) { service := service }

end Watch

/-- The service after a sequence of calls, with all messages pushed for a client. -/
def history (id : GoString) (before : List QueueCall) : Watch :=
  Watch.during id newQueueService before

def afterwards (id : GoString) (before after : List QueueCall) : Watch :=
  Watch.during id ((history id before).service.newQueue id false (.ok ())).2 after

/-- If the client is given the clean queue, no persistent queue that it is given
later holds a message from before, unless the message was pushed again. -/
def Discards (id : GoString) (before after : List QueueCall) : Prop :=
  forall clean, ((history id before).service.newQueue id false (.ok ())).1 = .ok clean ->
    forall ref, ref ∈ (afterwards id before after).opened ->
      forall msg, msg ∈ (afterwards id before after).service.contents ref ->
        msg ∈ (history id before).pushed -> msg ∈ (afterwards id before after).pushed

/-! ## Objects and collections -/

namespace QueueService

variable {service : QueueService} {ref : QueueRef} {id : GoString}

theorem contents_of_owner (owned : service.owner ref = some (id, true)) :
    service.contents ref = service.collection id := by
  rcases Option.map_eq_some_iff.mp owned with ⟨queue, found, same⟩
  rcases Prod.mk.inj same with ⟨client, persistent⟩
  rw [contents, found]
  exact (if_pos persistent).trans (congrArg service.collection client)

@[simp] theorem setContents_owner (service : QueueService) (ref other : QueueRef)
    (msgs : List Message) : (service.setContents ref msgs).owner other = service.owner other :=
  setContents_map (fun _ _ => rfl) service ref other msgs

theorem setContents_collection (service : QueueService) (ref : QueueRef) (msgs : List Message)
    (id : GoString) :
    (service.setContents ref msgs).collection id =
      if service.owner ref = some (id, true) then msgs else service.collection id := by
  unfold setContents owner
  cases found : service.heap[ref]? with
  | none => simp
  | some queue =>
    by_cases persistent : queue.persistent = true
    · by_cases client : queue.clientId = id
      · simp [persistent, client, collection]
      · simp [persistent, client, collection, AList.lookup_insert_ne (Ne.symm client)]
    · simp [persistent, modify, collection]

theorem pushback_collection (service : QueueService) (ref : QueueRef) (msg : Message)
    (id : GoString) :
    (service.pushback ref msg).collection id =
      if service.owner ref = some (id, true) then service.collection id ++ [msg]
      else service.collection id := by
  rw [pushback, setContents_collection]
  split
  case isTrue owned => rw [contents_of_owner owned]
  case isFalse => rfl

theorem pop_collection (service : QueueService) (ref : QueueRef) (id : GoString) :
    (service.pop ref).collection id =
      if service.owner ref = some (id, true) then (service.collection id).tail
      else service.collection id := by
  rw [pop, setContents_collection]
  split
  case isTrue owned => rw [contents_of_owner owned]
  case isFalse => rfl

theorem allocate_owner_self (service : QueueService) (id : GoString) (persistent : Bool) :
    (service.allocate id persistent).2.owner (service.allocate id persistent).1 =
      some (id, persistent) := by
  simp [allocate, owner]

theorem allocate_owner {owned : GoString × Bool} (known : service.owner ref = some owned)
    (id : GoString) (persistent : Bool) :
    (service.allocate id persistent).2.owner ref = some owned := by
  rcases Option.map_eq_some_iff.mp known with ⟨queue, placed, same⟩
  have bound := (List.getElem?_eq_some_iff.mp placed).1
  rw [owner, allocate, List.getElem?_append_left bound, placed]
  exact congrArg some same

def Registers (service : QueueService) : Prop :=
  forall name ref, service.getQueue name = some ref ->
    exists persistent, service.owner ref = some (name, persistent)

theorem Registers.destroyQueue (registers : service.Registers) (name : GoString) :
    (service.destroyQueue name).Registers := by
  intro other ref found
  by_cases same : other = name
  · subst same
    exact nomatch (AList.lookup_erase other service.queues).symm.trans found
  · exact registers other ref ((AList.lookup_erase_ne same).symm.trans found)

theorem Registers.allocate (registers : service.Registers) (name : GoString) (persistent : Bool) :
    (service.allocate name persistent).2.Registers := by
  intro other ref found
  by_cases same : other = name
  · subst same
    cases (AList.lookup_insert service.queues).symm.trans found
    exact ⟨persistent, allocate_owner_self service other persistent⟩
  · rcases registers other ref ((AList.lookup_insert_ne same).symm.trans found) with ⟨kind, owned⟩
    exact ⟨kind, allocate_owner owned name persistent⟩

theorem Registers.setContents (registers : service.Registers) (ref : QueueRef)
    (msgs : List Message) : (service.setContents ref msgs).Registers := by
  intro name other found
  rw [getQueue, setContents_queues] at found
  rw [setContents_owner]
  exact registers name other found

theorem Registers.owner_persistent (registers : service.Registers)
    (registered : service.getQueue id = some ref) (kept : service.isPersistent ref = true) :
    service.owner ref = some (id, true) := by
  rcases registers id ref registered with ⟨persistent, owned⟩
  rcases Option.map_eq_some_iff.mp owned with ⟨queue, placed, same⟩
  rcases Prod.mk.inj same with ⟨_, kind⟩
  rw [isPersistent, placed] at kept
  rw [owned, ← kind]
  exact congrArg (fun value => some (id, value)) kept

theorem newQueue_spec (registers : service.Registers) (name : GoString) (persistent : Bool)
    (dial : Except GoString Unit) :
    (service.newQueue name persistent dial).2.Registers ∧
    (service.newQueue name persistent dial).2.collections = service.collections ∧
    (forall other owned, service.owner other = some owned ->
      (service.newQueue name persistent dial).2.owner other = some owned) ∧
    forall given, (service.newQueue name persistent dial).1 = .ok given -> persistent = true ->
      (service.newQueue name persistent dial).2.owner given = some (name, true) := by
  have answered := newQueue_answered service name persistent dial
  generalize service.newQueue name persistent dial = answer at answered
  cases answered with
  | shared registered kept _ =>
    refine ⟨registers, rfl, fun _ _ known => known, fun given same _ => ?_⟩
    cases same
    exact registers.owner_persistent registered kept
  | created =>
    refine ⟨registers.allocate name persistent, rfl,
      fun _ _ known => allocate_owner known name persistent, fun given same asked => ?_⟩
    cases same
    subst asked
    exact allocate_owner_self service name true
  | replaced _ _ clean =>
    refine ⟨(registers.destroyQueue name).allocate name persistent, rfl,
      fun _ _ known => allocate_owner known name persistent, fun given same asked => ?_⟩
    exact absurd (clean.symm.trans asked) Bool.false_ne_true
  | refused => exact ⟨registers, rfl, fun _ _ known => known, fun _ same => nomatch same⟩

theorem newQueue_clean_iff (service : QueueService) (id : GoString) (dial : Except GoString Unit) :
    (exists clean, (service.newQueue id false dial).1 = .ok clean) ↔
      forall ref, service.getQueue id = some ref -> service.isPersistent ref = true := by
  have answered := newQueue_answered service id false dial
  generalize service.newQueue id false dial = answer at answered
  cases answered with
  | shared _ _ asked => cases asked
  | created unregistered =>
    exact iff_of_true ⟨_, rfl⟩ (fun _ found => nomatch unregistered.symm.trans found)
  | replaced registered kept _ =>
    refine iff_of_true ⟨_, rfl⟩ (fun other found => ?_)
    cases registered.symm.trans found
    exact kept
  | refused blocked =>
    rcases blocked.resolve_left Bool.false_ne_true with ⟨ref, registered, transient⟩
    refine iff_of_false (fun granted => nomatch granted.choose_spec) (fun always => ?_)
    exact Bool.false_ne_true (transient.symm.trans (always ref registered))

end QueueService

/-! ## Watching a client -/

namespace Watch

variable {id : GoString} {stored : List Message} {watch : Watch}

structure Sound (id : GoString) (stored : List Message) (watch : Watch) : Prop where
  registers : watch.service.Registers
  opened : forall ref, ref ∈ watch.opened -> watch.service.owner ref = some (id, true)
  held : forall msg, msg ∈ watch.service.collection id -> msg ∈ stored ∨ msg ∈ watch.pushed

theorem Sound.call (sound : Sound id stored watch) (made : QueueCall) :
    Sound id stored (watch.call id made) := by
  cases made with
  | newQueue name persistent dial =>
    rcases newQueue_spec sound.registers name persistent dial
        with ⟨registers, collections, owners, given⟩
    refine ⟨registers, fun ref member => ?_, fun msg member => ?_⟩
    · change ref ∈ (match (watch.service.newQueue name persistent dial).1 with
        | .ok ref => if name = id ∧ persistent then ref :: watch.opened else watch.opened
        | .error _ => watch.opened) at member
      have old := fun listed => owners ref _ (sound.opened ref listed)
      cases answer : (watch.service.newQueue name persistent dial).1 with
      | error reason =>
        rw [answer] at member
        exact old member
      | ok granted =>
        rw [answer] at member
        dsimp only at member
        split at member
        case isTrue asked =>
          rcases List.mem_cons.mp member with rfl | listed
          · exact asked.1 ▸ given ref answer asked.2
          · exact old listed
        case isFalse => exact old member
    · apply sound.held msg
      rw [collection, ← collections]
      exact member
  | pushback ref msg =>
    refine ⟨sound.registers.setContents ref _, fun other listed => ?_, fun found member => ?_⟩
    · rw [← sound.opened other listed]
      exact setContents_owner _ _ _ _
    · change found ∈ (watch.service.pushback ref msg).collection id at member
      change _ ∨ found ∈ (if (watch.service.owner ref).any (fun owner => owner.1 == id) then
        msg :: watch.pushed else watch.pushed)
      rw [pushback_collection] at member
      split at member
      case isTrue owned =>
        rw [owned]
        simp only [Option.any_some, beq_self_eq_true, if_true, List.mem_cons]
        rcases List.mem_append.mp member with old | new
        · exact (sound.held found old).imp_right .inr
        · exact .inr (.inl (List.mem_singleton.mp new))
      case isFalse =>
        refine (sound.held found member).imp_right (fun old => ?_)
        split
        · exact List.mem_cons_of_mem msg old
        · exact old
  | pop ref =>
    refine ⟨sound.registers.setContents ref _, fun other listed => ?_, fun found member => ?_⟩
    · rw [← sound.opened other listed]
      exact setContents_owner _ _ _ _
    · apply sound.held found
      change found ∈ (watch.service.pop ref).collection id at member
      rw [pop_collection] at member
      split at member
      · exact List.mem_of_mem_tail member
      · exact member
  | destroyQueue name =>
    exact ⟨sound.registers.destroyQueue name, sound.opened, sound.held⟩

theorem Sound.during {service : QueueService} (registers : service.Registers)
    (calls : List QueueCall) :
    Sound id (service.collection id) (Watch.during id service calls) := by
  have fromAny : forall (calls : List QueueCall) (watch : Watch),
      Sound id (service.collection id) watch ->
      Sound id (service.collection id) (calls.foldl (Watch.call id) watch) := by
    intro calls
    induction calls with
    | nil => exact fun _ sound => sound
    | cons made later ih => exact fun watch sound => ih _ (sound.call made)
  apply fromAny
  exact ⟨registers, fun _ member => absurd member List.not_mem_nil, fun _ member => .inl member⟩

end Watch

theorem newQueueService_registers : newQueueService.Registers := by
  intro name ref found
  exact nomatch (AList.lookup_empty name).symm.trans found

/-! ## Exactly when a clean queue discards what is stored -/

theorem newQueue_unregistered {service : QueueService} {id : GoString}
    (unregistered : service.getQueue id = none) :
    service.newQueue id true (.ok ()) =
      (.ok (service.allocate id true).1, (service.allocate id true).2) := by
  unfold newQueue
  rw [unregistered]
  rfl

def reopening (id : GoString) : List QueueCall :=
  [.destroyQueue id, .newQueue id true (.ok ())]

theorem during_reopening {service : QueueService} {id : GoString} :
    exists ref, ref ∈ (Watch.during id service (reopening id)).opened ∧
      (Watch.during id service (reopening id)).service.contents ref = service.collection id ∧
      (Watch.during id service (reopening id)).pushed = [] := by
  let freed := service.destroyQueue id
  have answer : freed.newQueue id true (.ok ()) =
      (.ok (freed.allocate id true).1, (freed.allocate id true).2) :=
    newQueue_unregistered (AList.lookup_erase id service.queues)
  have reopened : Watch.during id service (reopening id) =
      { service := (freed.allocate id true).2, pushed := [], opened := [(freed.allocate id true).1] } := by
    change Watch.call id { service := freed } (.newQueue id true (.ok ())) = _
    simp only [Watch.call, answer]
    simp
  rw [reopened]
  refine ⟨_, List.mem_cons_self, ?_, rfl⟩
  exact contents_of_owner (allocate_owner_self freed id true)

/-- After any calls, a clean queue discards the stored messages of its client,
whatever follows, exactly when none are stored at that moment.  A client with a
transient queue is not given a clean one. -/
theorem discards_iff (id : GoString) (before : List QueueCall) :
    (forall after, Discards id before after) ↔
      ((forall ref, (history id before).service.getQueue id = some ref ->
          (history id before).service.isPersistent ref = true) ->
        (history id before).service.collection id = []) := by
  have earlier : Watch.Sound id [] (history id before) :=
    Watch.Sound.during newQueueService_registers before
  rcases newQueue_spec earlier.registers id false (.ok ())
      with ⟨registers, collections, _, _⟩
  have kept : ((history id before).service.newQueue id false (.ok ())).2.collection id =
      (history id before).service.collection id := by
    rw [collection, collections]
    rfl
  rw [← newQueue_clean_iff _ id (.ok ())]
  constructor
  · rintro discards ⟨clean, granted⟩
    rcases @during_reopening
      ((history id before).service.newQueue id false (.ok ())).2 id
        with ⟨ref, listed, contents, nothing⟩
    rw [List.eq_nil_iff_forall_not_mem]
    intro msg member
    have pushed := (earlier.held msg member).resolve_left List.not_mem_nil
    have again := discards (reopening id) clean granted ref listed msg
      (by rw [afterwards, contents, kept]; exact member) pushed
    rw [afterwards, nothing] at again
    exact List.not_mem_nil again
  · intro emptied after clean granted ref listed msg member _
    have later : Watch.Sound id [] (afterwards id before after) := by
      have sound := @Watch.Sound.during id _ registers after
      rw [kept, emptied ⟨clean, granted⟩] at sound
      exact sound
    rw [contents_of_owner (later.opened ref listed)] at member
    exact (later.held msg member).resolve_left List.not_mem_nil

/-- A message that was stored before a clean connection is found after it. -/
theorem stored_message_survives :
    ¬ Discards (ascii "c")
      [.newQueue (ascii "c") true (.ok ()), .pushback 0 { topic := ascii "t" }]
      [.destroyQueue (ascii "c"), .newQueue (ascii "c") true (.ok ())] := by
  intro discards
  have found := discards 1 (by decide +kernel) 2 (by decide +kernel) { topic := ascii "t" }
    (by decide +kernel) (by decide +kernel)
  revert found
  decide +kernel

end Queue
end Sentel
