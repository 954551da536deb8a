import Sentel.Mqtt.WriteAnswers

namespace Sentel
namespace Mqtt

open Library Handler Base Queue SessionMgr SessionM

/-!
# Draining the queue of a session

`handleDataAvailableNotification` sends the queued messages until the queue is
empty.  A message that cannot be written should stay at the front and the call
should end, since the main loop then notices that the connection is broken.
The loop tries the same message again at once.  It ends only when the queue is
empty, so it cannot end with a message that was refused, and on a connection
that stays broken it does not end at all.
-/

/-! ## Rounds of the loop -/

structure Faces (scene : Scene) (ref : QueueRef) (msg : Message) : Prop where
  queue : scene.session.queue = some ref
  front : scene.broker.queueService.front ref = some msg

def sendFront (ref : QueueRef) (msg : Message) : SessionM Unit := do
  sendPublish msg
  setQueueService (fun service => service.pop ref)
  when (msg.qos = 1) (retainMessage ref { msg with dup := true })

def settle (rounds : Nat) (ref : QueueRef) (msg : Message) : Except GoString Unit -> SessionM Unit
  | .error _ => drainQueue rounds
  | .ok _ => do
    setQueueService (fun service => service.pop ref)
    when (msg.qos = 1) (retainMessage ref { msg with dup := true })
    drainQueue rounds

inductive DrainRound (scene : Scene) : Scene -> Prop
  | sent {ref : QueueRef} {msg : Message} (faces : Faces scene ref msg)
      (returned : (sendFront ref msg scene).outcome = .ok ()) :
      DrainRound scene (sendFront ref msg scene).state
  | refused {ref : QueueRef} {msg : Message} {reason : GoString} (faces : Faces scene ref msg)
      (failed : (sendPublish msg scene).outcome = .error reason) :
      DrainRound scene (sendPublish msg scene).state

section Rounds

variable {scene : Scene} {ref : QueueRef}

theorem length_pos_of_front {service : QueueService} {msg : Message}
    (front : service.front ref = some msg) : 0 < service.length ref := by
  rw [QueueService.front] at front
  rw [QueueService.length]
  exact List.length_pos_iff.mpr (List.ne_nil_of_mem (List.mem_of_head? front))

theorem length_eq_zero_of_front {service : QueueService} (front : service.front ref = none) :
    service.length ref = 0 := by
  rw [QueueService.front, List.head?_eq_none_iff] at front
  rw [QueueService.length, front, List.length_nil]

variable {msg : Message} (faces : Faces scene ref msg)
include faces

theorem drainQueue_faces (rounds : Nat) :
    drainQueue (rounds + 1) scene = precede [.accessQueue]
      ((attempt (sendPublish msg) >>= settle rounds ref msg) scene) := by
  rw [drainQueue, bind_of_ok (useQueue_of_queue faces.queue), broker_bind_apply,
    if_pos (length_pos_of_front faces.front), faces.front]
  rfl

omit faces in
theorem settle_sent {value : Unit} (sent : (sendPublish msg scene).outcome = .ok value)
    (rounds : Nat) :
    ((attempt (sendPublish msg) >>= settle rounds ref msg) scene) =
      (sendFront ref msg >>= fun _ => drainQueue rounds) scene := by
  rw [sendFront, bind_assoc_apply, bind_of_returned sent,
    bind_of_ok (attempt_of_ok sent), bind_assoc_apply]
  rfl

theorem drainQueue_sent (returned : (sendFront ref msg scene).outcome = .ok ()) (rounds : Nat) :
    exists effects, drainQueue (rounds + 1) scene =
      precede effects (drainQueue rounds (sendFront ref msg scene).state) := by
  rcases returned_of_bind returned with ⟨_, sent, _⟩
  rw [drainQueue_faces faces, settle_sent sent, bind_of_returned returned,
    precede_precede]
  exact ⟨_, rfl⟩

theorem drainQueue_refused {reason : GoString}
    (failed : (sendPublish msg scene).outcome = .error reason) (rounds : Nat) :
    exists effects, drainQueue (rounds + 1) scene =
      precede effects (drainQueue rounds (sendPublish msg scene).state) := by
  rw [drainQueue_faces faces, bind_of_ok (attempt_of_error failed),
    precede_precede]
  exact ⟨_, rfl⟩

end Rounds

variable {scene : Scene} {rounds : Nat} {ref : QueueRef} {msg : Message} {final : WriteAnswer}
  {reason : GoString}

theorem DrainRound.drainQueue {after : Scene} (round : DrainRound scene after) (rounds : Nat) :
    exists effects, Mqtt.drainQueue (rounds + 1) scene =
      precede effects (Mqtt.drainQueue rounds after) := by
  cases round with
  | sent faces returned => exact drainQueue_sent faces returned rounds
  | refused faces failed => exact drainQueue_refused faces failed rounds

theorem drainQueue_empty (queue : scene.session.queue = some ref)
    (front : scene.broker.queueService.front ref = none) (rounds : Nat) :
    drainQueue (rounds + 1) scene = ⟨[.accessQueue], .ok (), scene⟩ := by
  have empty : ¬ 0 < scene.broker.queueService.length ref := by
    rw [length_eq_zero_of_front front]
    exact Nat.lt_irrefl 0
  rw [drainQueue, bind_of_ok (useQueue_of_queue queue), broker_bind_apply, if_neg empty]
  rfl

theorem drainQueue_returned (returned : (drainQueue rounds scene).outcome = .ok ()) :
    exists ref, scene.session.queue = some ref ∧
      ((scene.broker.queueService.front ref = none ∧ (drainQueue rounds scene).state = scene) ∨
        exists msg, Faces scene ref msg ∧ ((sendFront ref msg scene).outcome = .ok () ∨
          exists reason, (sendPublish msg scene).outcome = .error reason)) := by
  cases rounds with
  | zero => cases returned
  | succ rounds =>
    cases queue : scene.session.queue with
    | none =>
      rw [drainQueue] at returned
      rcases returned_of_bind returned with ⟨ref, used, _⟩
      rw [useQueue, session_bind_apply, queue] at used
      cases used
    | some ref =>
      refine ⟨ref, rfl, ?_⟩
      cases front : scene.broker.queueService.front ref with
      | none =>
        refine .inl ⟨rfl, ?_⟩
        rw [drainQueue_empty queue front]
      | some msg =>
        refine .inr ⟨msg, ⟨queue, front⟩, ?_⟩
        rw [drainQueue_faces ⟨queue, front⟩, precede_outcome] at returned
        cases sent : (sendPublish msg scene).outcome with
        | ok _ =>
          rw [settle_sent sent] at returned
          rcases returned_of_bind returned with ⟨_, kept, _⟩
          exact .inl kept
        | error reason => exact .inr ⟨reason, rfl⟩
        | panic cause | diverges =>
          rcases returned_of_bind returned with ⟨answer, attempted, _⟩
          rw [attempt, sent] at attempted
          cases attempted

/-! ## Runs of the loop -/

def Visits : Scene -> Scene -> Prop := Relation.ReflTransGen DrainRound

theorem drainQueue_empties (returned : (drainQueue rounds scene).outcome = .ok ()) :
    ¬ Faces (drainQueue rounds scene).state ref msg := by
  induction rounds generalizing scene with
  | zero => cases returned
  | succ rounds ih =>
    rcases drainQueue_returned returned with ⟨named, queue, ⟨empty, same⟩ | ⟨front, faces, tried⟩⟩
    · rw [same]
      intro faces
      have named := queue.symm.trans faces.queue
      cases named
      rw [faces.front] at empty
      cases empty
    · have round : exists after, DrainRound scene after := by
        rcases tried with sent | ⟨reason, failed⟩
        · exact ⟨_, .sent faces sent⟩
        · exact ⟨_, .refused faces failed⟩
      rcases round with ⟨after, round⟩
      rcases round.drainQueue rounds with ⟨effects, step⟩
      rw [step] at returned ⊢
      exact ih returned

def Untouched (scene now : Scene) : Prop :=
  now.session.queue = scene.session.queue ∧ now.broker = scene.broker

theorem untouched_stable (scene : Scene) : Stable (Untouched scene) where
  packet := fun _ _ same => same
  conn := fun _ _ _ same => same
  nextPacketID := fun _ _ same => same
  protocol := fun _ _ same => same
  keepalive := fun _ _ same => same

theorem sendPublish_untouched (msg : Message) (scene : Scene) :
    Untouched scene (sendPublish msg scene).state :=
  (@sendPublish_keeps _ (fun _ => True) (untouched_stable scene) (fun _ => trivial) msg scene
    ⟨rfl, rfl⟩).2

theorem Faces.sendPublish (faces : Faces scene ref msg) :
    Faces (Mqtt.sendPublish msg scene).state ref msg := by
  rcases sendPublish_untouched msg scene with ⟨queue, broker⟩
  refine ⟨queue.trans faces.queue, ?_⟩
  rw [broker]
  exact faces.front

theorem exists_serves {service : QueueService} (front : service.front ref = some msg) :
    exists clientId persistent list,
      service.Serves ref clientId persistent (service.contents ref) list := by
  cases found : service.heap[ref]? with
  | none =>
    rw [QueueService.front, QueueService.contents, found] at front
    cases front
  | some queue => exact ⟨_, _, _, ⟨queue, found, rfl, rfl, rfl⟩, rfl⟩

theorem sendFront_shrinks (faces : Faces scene ref msg)
    (returned : (sendFront ref msg scene).outcome = .ok ()) :
    (sendFront ref msg scene).state.session = (sendPublish msg scene).state.session ∧
      (sendFront ref msg scene).state.broker.queueService.contents ref =
        (scene.broker.queueService.contents ref).tail ∧
      (if msg.qos = 1 then
        (scene.broker.queueService.getRetainList ref).pushback { msg with dup := true }
      else .ok (scene.broker.queueService.getRetainList ref)) =
        .ok ((sendFront ref msg scene).state.broker.queueService.getRetainList ref) := by
  rcases returned_of_bind returned with ⟨_, sent, kept⟩
  have broker := (sendPublish_untouched msg scene).2
  rcases exists_serves faces.front with ⟨clientId, persistent, list, serves⟩
  rw [serves.getRetainList]
  rw [← broker] at serves ⊢
  let after := (sendPublish msg scene).state
  let popped : Scene := { after with broker :=
    { after.broker with queueService := after.broker.queueService.pop ref } }
  rw [sendFront, bind_of_returned sent, precede_state]
  change (when (msg.qos = 1) (retainMessage ref { msg with dup := true }) popped).outcome =
    .ok () at kept
  change (when (msg.qos = 1) (retainMessage ref { msg with dup := true })
      popped).state.session = popped.session ∧ (when (msg.qos = 1)
      (retainMessage ref { msg with dup := true }) popped).state.broker.queueService.contents ref =
      _ ∧ _ = Except.ok ((when (msg.qos = 1) (retainMessage ref { msg with dup := true })
        popped).state.broker.queueService.getRetainList ref)
  by_cases one : msg.qos = 1
  · rw [when_pos one, retainMessage, broker_bind_apply, serves.pop.getRetainList] at kept ⊢
    rw [if_pos one]
    cases pushed : list.pushback { msg with dup := true } with
    | error cause =>
      rw [pushed] at kept
      cases kept
    | ok longer =>
      have stored := serves.pop.setRetainList longer
      exact ⟨rfl, stored.contents, congrArg _ stored.getRetainList.symm⟩
  · rw [when_neg one, if_neg one]
    exact ⟨rfl, serves.pop.contents, congrArg _ serves.pop.getRetainList.symm⟩

theorem sendFront_returned (faces : Faces scene ref msg)
    (sent : (sendPublish msg scene).outcome = .ok ())
    (kept : msg.qos = 1 -> exists longer,
      (scene.broker.queueService.getRetainList ref).pushback { msg with dup := true } =
        .ok longer) : (sendFront ref msg scene).outcome = .ok () := by
  rcases exists_serves faces.front with ⟨clientId, persistent, list, serves⟩
  rw [serves.getRetainList] at kept
  rw [← (sendPublish_untouched msg scene).2] at serves
  let after := (sendPublish msg scene).state
  let popped : Scene := { after with broker :=
    { after.broker with queueService := after.broker.queueService.pop ref } }
  rw [sendFront, bind_of_returned sent, precede_outcome]
  change (when (msg.qos = 1) (retainMessage ref { msg with dup := true }) popped).outcome = _
  by_cases one : msg.qos = 1
  · rcases kept one with ⟨longer, pushed⟩
    rw [when_pos one, retainMessage, broker_bind_apply, serves.pop.getRetainList, pushed]
    rfl
  · rw [when_neg one]
    rfl

/-! ## Sending the messages of a list -/

inductive Along (hand : Message -> Option Connection -> Option Connection -> Prop) :
    List Message -> Option Connection -> Option Connection -> Prop
  | done (conn : Option Connection) : Along hand [] conn conn
  | next {msg : Message} {msgs : List Message} {conn middle after : Option Connection}
      (first : hand msg conn middle) (later : Along hand msgs middle after) :
      Along hand (msg :: msgs) conn after

def Passes (msg : Message) (conn after : Option Connection) : Prop :=
  Delivered msg conn after ∨ Undelivered msg conn after

theorem sendPublish_passes_iff {after : Option Connection} :
    ((sendPublish msg scene).outcome.Ends ∧ (sendPublish msg scene).state.session.conn = after) ↔
      Passes msg scene.session.conn after := by
  constructor
  · rintro ⟨ends, rfl⟩
    cases ended : (sendPublish msg scene).outcome with
    | ok _ =>
      rcases (sendPublish_ends msg scene).1 ended with ⟨after, delivered⟩
      exact .inl (delivered.sendPublish.2 ▸ delivered)
    | error reason =>
      rcases (sendPublish_ends msg scene).2 reason ended with ⟨after, undelivered⟩
      exact .inr (undelivered.sendPublish.2 ▸ undelivered)
    | panic cause | diverges =>
      rw [ended] at ends
      exact ends.elim
  · rintro (delivered | undelivered)
    · rcases delivered.sendPublish with ⟨sent, conn⟩
      rw [sent]
      exact ⟨trivial, conn⟩
    · rcases undelivered.sendPublish with ⟨⟨reason, failed⟩, conn⟩
      rw [failed]
      exact ⟨trivial, conn⟩

theorem resendEach_returned_iff (queue : scene.session.queue = some ref) (indices : List Nat)
    (after : Option Connection) :
    ((resendEach indices scene).outcome = .ok () ∧
        (resendEach indices scene).state.session.conn = after) ↔
      Along Passes (indices.filterMap (scene.broker.queueService.getRetainList ref).get)
        scene.session.conn after := by
  induction indices generalizing scene with
  | nil =>
    constructor
    · rintro ⟨_, rfl⟩
      exact .done _
    · rintro ⟨⟩
      exact ⟨rfl, rfl⟩
  | cons index later ih =>
    have opened : resendEach (index :: later) scene = precede [.accessQueue]
        ((resend ((scene.broker.queueService.getRetainList ref).get index) >>=
          fun _ => resendEach later) scene) := by
      rw [resendEach, bind_of_ok (useQueue_of_queue queue), broker_bind_apply]
    rw [opened, precede_outcome, precede_state]
    cases found : (scene.broker.queueService.getRetainList ref).get index with
    | none =>
      rw [List.filterMap_cons_none found]
      exact ih queue
    | some msg =>
      rcases sendPublish_untouched msg scene with ⟨queue', broker'⟩
      have rest := ih (queue'.trans queue)
      rw [broker'] at rest
      rw [List.filterMap_cons_some found]
      constructor
      · rintro ⟨returned, conn⟩
        rcases returned_of_bind returned with ⟨_, ignored, _⟩
        have ends := ends_of_ignore ignored
        have first : resend (some msg) scene = _ := ignore_of_ends ends
        rw [bind_of_ok first, precede_outcome] at returned
        rw [bind_of_ok first, precede_state] at conn
        exact .next (sendPublish_passes_iff.mp ⟨ends, rfl⟩) (rest.mp ⟨returned, conn⟩)
      · rintro (_ | ⟨passes, later⟩)
        rcases sendPublish_passes_iff.mpr passes with ⟨ends, conn⟩
        have first : resend (some msg) scene = _ := ignore_of_ends ends
        rw [bind_of_ok first, precede_outcome, precede_state]
        exact rest.mpr (conn ▸ later)

/-! ## Ending the call -/

def resent (t : UInt16) : SessionM Unit :=
  when (t &&& availableList = availableList) resendRetained

/-- The loop of the call tries to send this message. -/
structure Attempts (t : UInt16) (scene before : Scene) (ref : QueueRef) (msg : Message) : Prop where
  resent : (resent t scene).outcome = .ok ()
  asked : t &&& availableQueue = availableQueue
  visits : Visits (Mqtt.resent t scene).state before
  faces : Faces before ref msg

/-- The call returns.  When a message cannot be sent, the call returns with
this message at the front of the queue. -/
structure Yields (t : UInt16) (scene : Scene) : Prop where
  returns : (handleDataAvailableNotification t scene).outcome = .ok ()
  stays : forall before ref msg reason, Attempts t scene before ref msg ->
    (sendPublish msg before).outcome = .error reason ->
      Faces (handleDataAvailableNotification t scene).state ref msg

def kept (list : TransientList) : List Message :=
  (List.range list.length).filterMap list.get

/-- If it is asked for, every message of the list passes the connection, which is
then left in this state. -/
def Resends (t : UInt16) (scene : Scene) (conn : Option Connection) : Prop :=
  if t &&& availableList = availableList then
    exists ref, scene.session.queue = some ref ∧
      Along Passes (kept (scene.broker.queueService.getRetainList ref)) scene.session.conn conn
  else scene.session.conn = conn

theorem resent_returned_iff (t : UInt16) (scene : Scene) (conn : Option Connection) :
    ((resent t scene).outcome = .ok () ∧ (resent t scene).state.session.conn = conn) ↔
      Resends t scene conn := by
  rw [resent, Resends]
  by_cases asked : t &&& availableList = availableList
  · rw [when_pos asked, if_pos asked, resendRetained]
    cases queue : scene.session.queue with
    | none =>
      constructor
      · rintro ⟨returned, _⟩
        rcases returned_of_bind returned with ⟨ref, used, _⟩
        rw [useQueue, session_bind_apply, queue] at used
        cases used
      · rintro ⟨ref, none, _⟩
        cases none
    | some ref =>
      rw [bind_of_ok (useQueue_of_queue queue), broker_bind_apply, precede_outcome, precede_state,
        resendEach_returned_iff queue]
      refine ⟨fun along => ⟨ref, rfl, along⟩, ?_⟩
      rintro ⟨_, named, along⟩
      cases named
      exact along
  · rw [when_neg asked, if_neg asked]
    exact and_iff_right rfl

theorem resent_untouched (t : UInt16) (scene : Scene) : Untouched scene (resent t scene).state := by
  rw [resent]
  by_cases asked : t &&& availableList = availableList
  · rw [when_pos asked]
    have keeps : Keeps (Untouched scene) (fun _ => True) resendRetained :=
      .bind (useQueue_keeps trivial) (fun _ => .bind broker_keeps (fun _ =>
        resendEach_keeps (fun _ => trivial) trivial (untouched_stable scene) _))
    exact (keeps scene ⟨rfl, rfl⟩).2
  · rw [when_neg asked]
    exact ⟨rfl, rfl⟩

def Roomy (list : TransientList) : Prop := list.count ≤ list.buf.length ∧ list.buf ≠ []

theorem pushback_ok_iff (list : TransientList) (msg : Message) :
    (exists longer, list.pushback msg = .ok longer) ↔ Roomy list := by
  have nonempty : list.buf ≠ [] ↔ 0 < list.buf.length := List.length_pos_iff.symm
  rw [Roomy, nonempty, TransientList.pushback]
  by_cases full : list.count = list.buf.length
  · simp only [if_pos full, TransientList.resize, List.length_append, List.length_take,
      List.length_replicate]
    split
    · exact iff_of_true ⟨_, rfl⟩ (by omega)
    · refine iff_of_false ?_ (by omega)
      rintro ⟨longer, same⟩
      cases same
  · simp only [if_neg full]
    split
    · exact iff_of_true ⟨_, rfl⟩ (by omega)
    · refine iff_of_false ?_ (by omega)
      rintro ⟨longer, same⟩
      cases same

theorem roomy_of_pushback {list longer : TransientList} (pushed : list.pushback msg = .ok longer) :
    Roomy longer := by
  rw [TransientList.pushback] at pushed
  generalize (if list.count = list.buf.length then list.resize else list) = room at pushed
  split at pushed
  case isTrue free =>
    cases pushed
    have size : (room.buf.set room.count (some msg)).length = room.buf.length := List.length_set
    refine ⟨?_, List.ne_nil_of_length_pos ?_⟩
    · rw [size]
      exact free
    · rw [size]
      exact Nat.zero_lt_of_lt free
  case isFalse => cases pushed

/-- The queue, the list and the answers of the connection let every queued message
be sent at its first attempt and be kept for its acknowledgement. -/
structure Ready (ref : QueueRef) (service : QueueService) (conn : Option Connection) : Prop where
  sent : exists after, Along Delivered (service.contents ref) conn after
  room : (∃ msg ∈ service.contents ref, msg.qos = 1) -> Roomy (service.getRetainList ref)

theorem Faces.contents (faces : Faces scene ref msg) : exists later,
    scene.broker.queueService.contents ref = msg :: later := by
  have front := faces.front
  rw [QueueService.front, List.head?_eq_some_iff] at front
  exact front

theorem Ready.round (ready : Ready ref scene.broker.queueService scene.session.conn)
    (faces : Faces scene ref msg) :
    (sendFront ref msg scene).outcome = .ok () ∧
      (sendFront ref msg scene).state.session.queue = some ref ∧
      Ready ref (sendFront ref msg scene).state.broker.queueService
        (sendFront ref msg scene).state.session.conn := by
  rcases faces.contents with ⟨later, contents⟩
  rcases ready with ⟨⟨after, along⟩, room⟩
  rw [contents] at along room
  rcases along with _ | ⟨delivered, along⟩
  rcases delivered.sendPublish with ⟨sent, conn⟩
  have returned : (sendFront ref msg scene).outcome = .ok () :=
    sendFront_returned faces sent (fun one =>
      (pushback_ok_iff _ _).mpr (room ⟨msg, List.mem_cons_self, one⟩))
  rcases sendFront_shrinks faces returned with ⟨session, fewer, list⟩
  rw [contents, List.tail_cons] at fewer
  refine ⟨returned, ?_, ?_, ?_⟩
  · rw [session, (sendPublish_untouched msg scene).1, faces.queue]
  · rw [fewer, session, conn]
    exact ⟨after, along⟩
  · rw [fewer]
    rintro ⟨next, member, one⟩
    split at list
    · exact roomy_of_pushback list
    · rw [← Except.ok.inj list]
      exact room ⟨next, List.mem_cons_of_mem _ member, one⟩

theorem Visits.ready {start : Scene} (visits : Visits start scene)
    (queue : start.session.queue = some ref)
    (ready : Ready ref start.broker.queueService start.session.conn) :
    scene.session.queue = some ref ∧ Ready ref scene.broker.queueService scene.session.conn := by
  induction visits with
  | refl => exact ⟨queue, ready⟩
  | tail _ round ih =>
    rcases ih with ⟨queue, ready⟩
    cases round with
    | sent faces returned =>
      have names := queue.symm.trans faces.queue
      cases names
      exact (ready.round faces).2
    | refused faces failed =>
      have names := queue.symm.trans faces.queue
      cases names
      rcases returned_of_bind (ready.round faces).1 with ⟨_, sent, _⟩
      rw [failed] at sent
      cases sent

theorem Ready.drainQueue (queue : scene.session.queue = some ref)
    (ready : Ready ref scene.broker.queueService scene.session.conn)
    (enough : scene.broker.queueService.length ref < rounds) :
    (Mqtt.drainQueue rounds scene).outcome = .ok () := by
  induction rounds generalizing scene with
  | zero => exact absurd enough (Nat.not_lt_zero _)
  | succ rounds ih =>
    cases front : scene.broker.queueService.front ref with
    | none => rw [drainQueue_empty queue front]
    | some msg =>
      have faces : Faces scene ref msg := ⟨queue, front⟩
      rcases ready.round faces with ⟨returned, queue', later⟩
      rcases (DrainRound.sent faces returned).drainQueue rounds with ⟨effects, step⟩
      rw [step, precede_outcome]
      apply ih queue' later
      have positive := length_pos_of_front front
      rw [QueueService.length] at enough positive ⊢
      rw [(sendFront_shrinks faces returned).2.1, List.length_tail]
      omega

theorem ready_of_returned (queue : scene.session.queue = some ref)
    (returned : (drainQueue rounds scene).outcome = .ok ())
    (never : forall before msg reason, Visits scene before -> Faces before ref msg ->
      (sendPublish msg before).outcome ≠ .error reason) :
    Ready ref scene.broker.queueService scene.session.conn := by
  induction rounds generalizing scene with
  | zero => cases returned
  | succ rounds ih =>
    rcases drainQueue_returned returned with ⟨named, same, ⟨empty, _⟩ | ⟨msg, faces, tried⟩⟩
    · have names := queue.symm.trans same
      cases names
      rw [QueueService.front, List.head?_eq_none_iff] at empty
      refine ⟨?_, ?_⟩
      · rw [empty]
        exact ⟨_, .done _⟩
      · rw [empty]
        rintro ⟨_, member, _⟩
        cases member
    · have names := queue.symm.trans same
      cases names
      rcases tried with sent | ⟨reason, failed⟩
      · have round := DrainRound.sent faces sent
        rcases round.drainQueue rounds with ⟨effects, step⟩
        rw [step, precede_outcome] at returned
        rcases sendFront_shrinks faces sent with ⟨session, fewer, list⟩
        have queue' : (sendFront ref msg scene).state.session.queue = some ref := by
          rw [session, (sendPublish_untouched msg scene).1, queue]
        rcases ih queue' returned (fun before next reason visits =>
          never before next reason (.head round visits)) with ⟨⟨after, along⟩, room⟩
        rcases returned_of_bind sent with ⟨_, written, _⟩
        rcases (sendPublish_ends msg scene).1 written with ⟨middle, delivered⟩
        rcases faces.contents with ⟨later, contents⟩
        rw [fewer, contents, List.tail_cons] at along room
        rw [session, delivered.sendPublish.2] at along
        refine ⟨?_, ?_⟩
        · rw [contents]
          exact ⟨after, .next delivered along⟩
        · rw [contents]
          rintro ⟨next, member, one⟩
          split at list
          · exact (pushback_ok_iff _ _).mp ⟨_, list⟩
          · next other =>
              rw [Except.ok.inj list]
              rcases List.mem_cons.mp member with rfl | member
              · exact absurd one other
              · exact room ⟨next, member, one⟩
      · exact absurd failed (never scene msg reason .refl faces)

/-- The call returns with a refused message at the front of the queue exactly
when no message of the queue is refused: the messages of the list pass the
connection, if they are asked for, and then each answer takes the whole frame of
a queued message. -/
theorem yields_iff (t : UInt16) (scene : Scene) :
    Yields t scene ↔ exists conn, Resends t scene conn ∧
      (t &&& availableQueue = availableQueue -> exists ref, scene.session.queue = some ref ∧
        Ready ref scene.broker.queueService conn) := by
  rcases resent_untouched t scene with ⟨sameQueue, sameBroker⟩
  constructor
  · intro yields
    rcases returned_of_bind yields.returns with ⟨_, first, second⟩
    refine ⟨_, (resent_returned_iff t scene _).mp ⟨first, rfl⟩, fun asked => ?_⟩
    have final : (handleDataAvailableNotification t scene).state =
        (drainQueue (drainRounds (resent t scene).state) (resent t scene).state).state := by
      rw [handleDataAvailableNotification, bind_of_returned first, when_pos asked]
      rfl
    rw [when_pos asked] at second
    rcases drainQueue_returned second with ⟨ref, queue, _⟩
    refine ⟨ref, sameQueue ▸ queue, sameBroker ▸ ready_of_returned queue second ?_⟩
    intro before msg reason visits faces failed
    -- the loop has returned from an empty queue
    have facing := yields.stays before ref msg reason ⟨first, asked, visits, faces⟩ failed
    rw [final] at facing
    exact drainQueue_empties second facing
  · rintro ⟨conn, resends, sends⟩
    rcases (resent_returned_iff t scene conn).mpr resends with ⟨first, opened⟩
    rw [← sameQueue, ← sameBroker, ← opened] at sends
    refine ⟨?_, fun before ref msg reason attempts failed => ?_⟩
    · change ((resent t >>= fun _ => _) scene).outcome = _
      rw [bind_of_returned first, precede_outcome]
      by_cases asked : t &&& availableQueue = availableQueue
      · rw [when_pos asked]
        rcases sends asked with ⟨ref, queue, ready⟩
        refine ready.drainQueue queue ?_
        rw [drainRounds, queue]
        exact Nat.lt_succ_of_le (Nat.le_add_right _ _)
      · rw [when_neg asked]
        rfl
    · rcases sends attempts.asked with ⟨named, queue, ready⟩
      rcases attempts.visits.ready queue ready with ⟨queue', ready'⟩
      have names := queue'.symm.trans attempts.faces.queue
      cases names
      rcases returned_of_bind (ready'.round attempts.faces).1 with ⟨_, sent, _⟩
      rw [failed] at sent
      cases sent

/-! ## Broken connections -/

def Exhausted (final : WriteAnswer) (scene : Scene) : Prop :=
  scene.session.conn = some ⟨[], final⟩

theorem next_final (conn : Connection) : conn.next.2.final = conn.final := by
  rcases conn with ⟨_ | ⟨answer, later⟩, final⟩ <;> rfl

theorem next_answers_length (conn : Connection) :
    conn.next.2.answers.length = conn.answers.length - 1 := by
  rcases conn with ⟨_ | ⟨answer, later⟩, final⟩ <;> rfl

theorem Refused.answers {size taken : Nat} {conn after : Connection}
    (refused : Refused size taken conn after) :
    after.final = conn.final ∧ after.answers.length ≤ conn.answers.length - 1 := by
  induction refused with
  | declined _ => exact ⟨(next_final _), Nat.le_of_eq (next_answers_length _)⟩
  | @part _ conn _ _ _ _ ih =>
    have fewer := next_answers_length conn
    exact ⟨ih.1.trans (next_final conn), by omega⟩

theorem sendPublish_refused_again (exhausted : Exhausted final scene)
    (failed : (sendPublish msg scene).outcome = .error reason) :
    Exhausted final (sendPublish msg scene).state ∧
      exists again, (sendPublish msg (sendPublish msg scene).state).outcome = .error again := by
  rcases (sendPublish_ends msg scene).2 reason failed with ⟨after, undelivered⟩
  have left := undelivered.sendPublish.2
  rw [exhausted] at undelivered
  have same : after = some ⟨[], final⟩ := by
    rcases undelivered with @⟨_, rest, _, refused⟩
    rcases refused.answers with ⟨last, none⟩
    have empty := List.eq_nil_of_length_eq_zero (Nat.le_zero.mp none)
    exact congrArg some (by cases rest; simp_all)
  rw [same] at left
  refine ⟨left, ?_⟩
  rw [same, ← left] at undelivered
  exact undelivered.sendPublish.1

theorem drainQueue_exhausted {final : WriteAnswer} {scene : Scene}
    (exhausted : Exhausted final scene) {ref : QueueRef} {msg : Message}
    (faces : Faces scene ref msg) {reason : GoString}
    (failed : (sendPublish msg scene).outcome = .error reason) (rounds : Nat) :
    (drainQueue rounds scene).outcome = .diverges := by
  induction rounds generalizing scene reason with
  | zero => rfl
  | succ rounds ih =>
    rcases sendPublish_refused_again exhausted failed with ⟨later, again, refused⟩
    rcases drainQueue_refused faces failed rounds with ⟨effects, step⟩
    rw [step, precede_outcome]
    exact ih later faces.sendPublish refused

/-! ## The number of rounds -/

theorem drainRound_or_decided (scene : Scene) :
    (exists after, DrainRound scene after) ∨ forall rounds more,
      (drainQueue (rounds + 1) scene).outcome = (drainQueue (more + 1) scene).outcome := by
  cases queue : scene.session.queue with
  | none =>
    refine .inr (fun rounds more => ?_)
    have crashed : forall ref, (useQueue scene).outcome ≠ .ok ref := by
      intro ref returned
      rw [useQueue, session_bind_apply, queue] at returned
      cases returned
    rw [drainQueue, drainQueue]
    exact congrArg Run.outcome (bind_congr_of_stopped crashed _ _)
  | some ref =>
    cases front : scene.broker.queueService.front ref with
    | none =>
      refine .inr (fun rounds more => ?_)
      rw [drainQueue_empty queue front, drainQueue_empty queue front]
    | some msg =>
      have faces : Faces scene ref msg := ⟨queue, front⟩
      have stuck (ends : forall answer,
          (attempt (sendPublish msg) scene).outcome ≠ .ok answer) (rounds more : Nat) :
          (drainQueue (rounds + 1) scene).outcome = (drainQueue (more + 1) scene).outcome := by
        rw [drainQueue_faces faces, drainQueue_faces faces,
          bind_congr_of_stopped ends (settle rounds ref msg) (settle more ref msg)]
      cases sent : (sendPublish msg scene).outcome with
      | error reason => exact .inl ⟨_, .refused faces sent⟩
      | ok _ =>
        by_cases kept : (sendFront ref msg scene).outcome = .ok ()
        · exact .inl ⟨_, .sent faces kept⟩
        · refine .inr (fun rounds more => ?_)
          have stopped : forall value, (sendFront ref msg scene).outcome ≠ .ok value :=
            fun _ => kept
          rw [drainQueue_faces faces, drainQueue_faces faces, settle_sent sent,
            settle_sent sent, bind_congr_of_stopped stopped (fun _ =>
              drainQueue rounds) (fun _ => drainQueue more)]
      | panic cause | diverges =>
        refine .inr (stuck (fun answer attempted => ?_))
        rw [attempt, sent] at attempted
        cases attempted

def answersLeft (scene : Scene) : Nat :=
  (scene.session.conn.map (fun conn => conn.answers.length)).getD 0

theorem answersLeft_stable (count : Nat) : Stable (fun scene => answersLeft scene ≤ count) where
  packet := fun _ _ few => few
  conn := by
    intro scene conn opened few
    rw [answersLeft, opened] at few
    change conn.answers.length ≤ count at few
    change conn.next.2.answers.length ≤ count
    rw [next_answers_length]
    omega
  nextPacketID := fun _ _ few => few
  protocol := fun _ _ few => few
  keepalive := fun _ _ few => few

theorem sendPublish_answersLeft (msg : Message) (scene : Scene) :
    answersLeft (sendPublish msg scene).state ≤ answersLeft scene :=
  (@sendPublish_keeps _ (fun _ => True) (answersLeft_stable (answersLeft scene)) (fun _ => trivial)
    msg scene (Nat.le_refl _)).2

theorem sendPublish_failed_conn (failed : (sendPublish msg scene).outcome = .error reason) :
    exists conn, scene.session.conn = some conn ∧
      answersLeft (sendPublish msg scene).state ≤ conn.answers.length - 1 := by
  rcases (sendPublish_ends msg scene).2 reason failed with ⟨after, undelivered⟩
  have left := undelivered.sendPublish.2
  generalize opened : scene.session.conn = conn at undelivered
  rcases undelivered with ⟨_, refused⟩
  refine ⟨_, rfl, ?_⟩
  rw [answersLeft, left]
  exact refused.answers.2

theorem drainRounds_eq (queue : scene.session.queue = some ref) :
    drainRounds scene = scene.broker.queueService.length ref + answersLeft scene + 1 := by
  rw [drainRounds, queue]
  rfl

theorem drainQueue_diverges {bound : Nat} (small : drainRounds scene ≤ bound)
    (diverges : (drainQueue bound scene).outcome = .diverges) (rounds : Nat) :
    (drainQueue rounds scene).outcome = .diverges := by
  induction bound generalizing scene rounds with
  | zero => exact absurd small (Nat.not_succ_le_zero _)
  | succ bound ih =>
    -- a round leaves fewer messages or fewer answers, or no answers are left
    have onward : forall after, DrainRound scene after -> drainRounds after ≤ bound ->
        (drainQueue rounds scene).outcome = .diverges := by
      intro after round less
      rcases round.drainQueue bound with ⟨_, step⟩
      rw [step, precede_outcome] at diverges
      cases rounds with
      | zero => rfl
      | succ rounds =>
        rcases round.drainQueue rounds with ⟨_, step⟩
        rw [step, precede_outcome]
        exact ih less diverges rounds
    rcases drainRound_or_decided scene with ⟨after, round⟩ | decided
    · cases round with
      | @sent ref msg faces returned =>
        apply onward _ (.sent faces returned)
        rcases sendFront_shrinks faces returned with ⟨session, contents, _⟩
        have queue : (sendFront ref msg scene).state.session.queue = some ref := by
          rw [session, (sendPublish_untouched msg scene).1, faces.queue]
        have answers : answersLeft (sendFront ref msg scene).state ≤ answersLeft scene := by
          rw [answersLeft, session]
          exact sendPublish_answersLeft msg scene
        have positive := length_pos_of_front faces.front
        rw [drainRounds_eq faces.queue] at small
        rw [drainRounds_eq queue]
        rw [QueueService.length] at small positive ⊢
        rw [contents, List.length_tail]
        omega
      | @refused ref msg reason faces failed =>
        rcases sendPublish_failed_conn failed with ⟨conn, opened, fewer⟩
        by_cases none : conn.answers = []
        · have exhausted : Exhausted conn.final scene := by
            rw [Exhausted, opened, ← none]
          exact drainQueue_exhausted exhausted faces failed rounds
        · apply onward _ (.refused faces failed)
          rcases sendPublish_untouched msg scene with ⟨queue, broker⟩
          have positive := List.length_pos_iff.mpr none
          have answers : answersLeft scene = conn.answers.length := by
            rw [answersLeft, opened]
            rfl
          rw [drainRounds_eq faces.queue, answers] at small
          rw [drainRounds_eq (queue.trans faces.queue), broker]
          omega
    · cases rounds with
      | zero => rfl
      | succ rounds =>
        rw [decided rounds bound]
        exact diverges

/-- The rounds that `sendQueued` allows are enough for every run that ends. -/
theorem sendQueued_diverges_iff (scene : Scene) :
    (sendQueued scene).outcome = .diverges ↔
      forall rounds, (drainQueue rounds scene).outcome = .diverges :=
  ⟨drainQueue_diverges (Nat.le_refl _), fun diverges => diverges _⟩

def brokenScene : Scene where
  session := { newMqttSession 0 ⟨[], ⟨some 0, some (ascii "broken pipe")⟩⟩ false with
    queue := some 0 }
  packet := newMqttPacket
  broker := { newBroker [] with queueService :=
    (newQueueService.allocate [] false).2.setContents 0 [{ topic := ascii "a", payload := [] }] }

/-- The call tries to send the message for ever. -/
theorem broken_connection_never_yields :
    ¬ Yields availableQueue brokenScene ∧
      (handleDataAvailableNotification availableQueue brokenScene).outcome = .diverges ∧
      forall rounds, (drainQueue rounds brokenScene).outcome = .diverges := by
  have endless : forall rounds, (drainQueue rounds brokenScene).outcome = .diverges := by
    apply @drainQueue_exhausted ⟨some 0, some (ascii "broken pipe")⟩ brokenScene rfl 0
      { topic := ascii "a", payload := [] } ⟨rfl, rfl⟩ (ascii "broken pipe")
    decide
  have stuck : (handleDataAvailableNotification availableQueue brokenScene).outcome = .diverges :=
    endless (drainRounds brokenScene)
  refine ⟨fun yields => ?_, stuck, endless⟩
  have returned := yields.returns
  rw [stuck] at returned
  cases returned

end Mqtt
end Sentel
