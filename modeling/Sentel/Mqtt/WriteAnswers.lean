import Sentel.Mqtt.PartialWrites
import Sentel.Mqtt.Publishing

namespace Sentel
namespace Mqtt

open Library Handler Base SessionMgr SessionM

/-!
# Sending by the answers of the connection

Whether a message is sent, refused or ends in a panic depends on the size of its
frame and on the answers of the connection to the calls of `Write`.  A frame is
sent by one answer that takes all of it.  An answer that takes a part leads to
an offer of less than the rest, hence to a refusal, or to a panic if the part is
more than half of the frame.
-/

variable {scene : Scene} {rounds : Nat} {msg : Message}

/-! ## Writing a frame -/

def WriteAnswer.share (answer : WriteAnswer) (offered : Nat) : Nat :=
  match answer.limit with
  | none => offered
  | some limit => min limit offered

theorem accepts_length (answer : WriteAnswer) (bytes : List UInt8) :
    (answer.accepts bytes).length = answer.share bytes.length := by
  rw [WriteAnswer.accepts, WriteAnswer.share]
  cases answer.limit with
  | none => rfl
  | some limit => exact List.length_take

theorem subslice_length {slice : GoSlice} {low high : Nat} {bytes : List UInt8}
    (found : slice.subslice low high = .ok bytes) :
    (low ≤ high ∧ high ≤ slice.capacity) ∧ bytes.length = high - low := by
  rw [GoSlice.subslice] at found
  split at found
  case isTrue inside =>
    cases found
    refine ⟨inside, ?_⟩
    rw [GoSlice.capacity] at inside
    rw [List.length_take, List.length_drop, List.length_append]
    omega
  case isFalse outside => cases found

theorem subslice_inside {slice : GoSlice} {low high : Nat}
    (inside : low ≤ high ∧ high ≤ slice.capacity) :
    exists bytes, slice.subslice low high = .ok bytes := by
  rw [GoSlice.subslice, if_pos inside]
  exact ⟨_, rfl⟩

def WriteAnswer.Declines (answer : WriteAnswer) (offered : Nat) : Prop :=
  answer.failure ≠ none ∨ answer.share offered = 0

inductive Refused (size : Nat) : Nat -> Connection -> Connection -> Prop
  | declined {taken : Nat} {conn : Connection}
      (declines : conn.next.1.Declines (size - 2 * taken)) : Refused size taken conn conn.next.2
  | part {taken : Nat} {conn after : Connection}
      (takes : ¬ conn.next.1.Declines (size - 2 * taken))
      (half : 2 * (taken + conn.next.1.share (size - 2 * taken)) ≤ size)
      (later : Refused size (taken + conn.next.1.share (size - 2 * taken)) conn.next.2 after) :
      Refused size taken conn after

structure Partly (size taken : Nat) (packet : MqttPacket) : Prop where
  pos : packet.pos = taken
  toprocess : packet.toprocess = size - taken
  holds : size ≤ packet.payload.capacity

namespace Partly

variable {size taken : Nat} {packet : MqttPacket} {conn : Connection}
  (partly : Partly size taken packet)

include partly

theorem moved (len : Nat) : Partly size (taken + len) (packet.moved len) where
  pos := congrArg (· + len) partly.pos
  toprocess := by
    rw [← Nat.sub_sub]
    exact congrArg (· - len) partly.toprocess
  holds := partly.holds

theorem crashes (more : taken < size) (half : ¬ 2 * taken ≤ size) (rounds : Nat) (scene : Scene) :
    (writeRounds (rounds + 1) packet scene).outcome = .panic .sliceOutOfRange := by
  have outside : packet.payload.subslice packet.pos packet.toprocess =
      .error .sliceOutOfRange := by
    rw [GoSlice.subslice, if_neg]
    rw [partly.pos, partly.toprocess]
    omega
  have unfinished : 0 < packet.toprocess := by
    rw [partly.toprocess]
    omega
  rw [writeRounds, if_pos unfinished, outside]
  rfl

theorem round (opened : scene.session.conn = some conn) (more : taken < size)
    (half : 2 * taken ≤ size) :
    (conn.next.1.Declines (size - 2 * taken) ∧ exists effects reason, forall rounds,
        writeRounds (rounds + 1) packet scene = ⟨effects, .error reason, scene.answered conn⟩) ∨
      (¬ conn.next.1.Declines (size - 2 * taken) ∧ exists effects, forall rounds,
        writeRounds (rounds + 1) packet scene = precede effects (writeRounds rounds
          (packet.moved (conn.next.1.share (size - 2 * taken))) (scene.answered conn))) := by
  have unfinished : 0 < packet.toprocess := by
    rw [partly.toprocess]
    omega
  have share {call : WriteCall} (answer : call.answer = conn.next.1)
      (offer : packet.payload.subslice packet.pos packet.toprocess = .ok call.offered) :
      call.accepted.length = conn.next.1.share (size - 2 * taken) := by
    rw [WriteCall.accepted, accepts_length, answer, (subslice_length offer).2, partly.pos,
      partly.toprocess]
    apply congrArg
    omega
  cases writeRound opened unfinished with
  | crashed cause outside calls run =>
    have inside : packet.pos ≤ packet.toprocess ∧ packet.toprocess ≤ packet.payload.capacity := by
      have holds := partly.holds
      rw [partly.pos, partly.toprocess]
      omega
    rcases subslice_inside inside with ⟨bytes, found⟩
    rw [found] at outside
    cases outside
  | refused call effects reason offer answer calls sent bad run =>
    refine .inl ⟨?_, effects, reason, run⟩
    rcases bad with failed | nothing
    · exact .inl (answer ▸ failed)
    · refine .inr ?_
      rw [← share answer offer, nothing, List.length_nil]
  | advanced call offer answer calls fine some_sent run =>
    refine .inr ⟨?_, _, share answer offer ▸ run⟩
    rintro (failed | nothing)
    · exact failed (answer ▸ fine)
    · rw [← share answer offer] at nothing
      exact some_sent (List.length_eq_zero_iff.mp nothing)

theorem sends (opened : scene.session.conn = some conn) (none : taken = 0) (more : 0 < size)
    (fine : conn.next.1.failure = .none) (whole : conn.next.1.share size = size)
    (enough : size ≤ rounds) :
    (writeRounds rounds packet scene).outcome = .ok () ∧
      (writeRounds rounds packet scene).state.session.conn = some conn.next.2 := by
  subst none
  rcases Nat.exists_eq_succ_of_ne_zero (Nat.ne_of_gt (Nat.lt_of_lt_of_le more enough))
    with ⟨rounds, rfl⟩
  rcases partly.round opened more (Nat.zero_le _) with ⟨declines, _⟩ | ⟨_, effects, run⟩
  · rcases declines with failed | nothing
    · exact absurd fine failed
    · rw [Nat.mul_zero, Nat.sub_zero, whole] at nothing
      omega
  · have finished : ¬ 0 < (packet.moved (conn.next.1.share (size - 2 * 0))).toprocess := by
      rw [(partly.moved _).toprocess, Nat.mul_zero, Nat.sub_zero, whole]
      omega
    rw [run, writeRounds_done finished]
    exact ⟨rfl, rfl⟩

theorem ends (opened : scene.session.conn = some conn) (more : taken < size)
    (half : 2 * taken ≤ size) (enough : size - taken ≤ rounds) :
    ((writeRounds rounds packet scene).outcome = .ok () ->
        taken = 0 ∧ conn.next.1.failure = none ∧ conn.next.1.share size = size) ∧
      forall reason, (writeRounds rounds packet scene).outcome = .error reason ->
        exists after, Refused size taken conn after := by
  induction rounds generalizing taken packet scene conn with
  | zero => omega
  | succ rounds ih =>
    rcases partly.round opened more half with ⟨declines, effects, failure, run⟩ |
      ⟨takes, effects, run⟩
    · rw [run]
      exact ⟨nofun, fun _ _ => ⟨_, .declined declines⟩⟩
    · have later := partly.moved (conn.next.1.share (size - 2 * taken))
      have some_taken : 0 < conn.next.1.share (size - 2 * taken) :=
        Nat.pos_of_ne_zero (fun zero => takes (.inr zero))
      have bounded : conn.next.1.share (size - 2 * taken) ≤ size - 2 * taken := by
        rw [WriteAnswer.share]
        split
        · exact Nat.le_refl _
        · exact Nat.min_le_right _ _
      rw [run, precede_outcome]
      by_cases past : 2 * (taken + conn.next.1.share (size - 2 * taken)) ≤ size
      · rcases ih later (answered_conn scene conn) (by omega) past (by omega) with ⟨sent, refused⟩
        refine ⟨fun returned => ?_, fun reason failed => ?_⟩
        · have := (sent returned).1
          omega
        · rcases refused reason failed with ⟨after, refused⟩
          exact ⟨after, .part takes past refused⟩
      · by_cases whole : taken + conn.next.1.share (size - 2 * taken) < size
        · cases rounds with
          | zero => omega
          | succ rounds =>
            rw [later.crashes whole past]
            exact ⟨nofun, nofun⟩
        · have zero : taken = 0 := by omega
          subst zero
          rw [Nat.mul_zero, Nat.sub_zero] at bounded whole later takes ⊢
          have all : conn.next.1.share size = size := by omega
          have finished : ¬ 0 < (packet.moved (conn.next.1.share size)).toprocess := by
            rw [later.toprocess]
            omega
          rw [writeRounds_done finished]
          refine ⟨fun _ => ⟨rfl, not_not.mp (fun failed => takes (.inl failed)), all⟩, nofun⟩

end Partly

theorem Refused.writeRounds {size taken : Nat} {conn after : Connection} {packet : MqttPacket}
    (refused : Refused size taken conn after) (partly : Partly size taken packet)
    (opened : scene.session.conn = some conn) (more : taken < size) (half : 2 * taken ≤ size)
    (enough : size - taken ≤ rounds) :
    (exists reason, (Mqtt.writeRounds rounds packet scene).outcome = .error reason) ∧
      (Mqtt.writeRounds rounds packet scene).state.session.conn = some after := by
  induction refused generalizing packet scene rounds with
  | declined declines =>
    rcases partly.round opened more half with ⟨_, effects, reason, run⟩ | ⟨takes, _⟩
    · cases rounds with
      | zero => omega
      | succ rounds =>
        rw [run]
        exact ⟨⟨reason, rfl⟩, rfl⟩
    · exact absurd declines takes
  | part takes under _ ih =>
    rcases partly.round opened more half with ⟨declines, _⟩ | ⟨_, effects, run⟩
    · exact absurd declines takes
    · cases rounds with
      | zero => omega
      | succ rounds =>
        rw [run, precede_outcome, precede_state]
        have some_taken := Nat.pos_of_ne_zero (fun zero => takes (.inr zero))
        exact ih (partly.moved _) (answered_conn _ _) (by omega) under (by omega)

/-! ## Sending a message -/

def publishSize (msg : Message) : Nat := (publishFrame msg 0).length

/-- The next answer takes the frame of a message.  A message without a frame needs
no answer. -/
inductive Delivered (msg : Message) : Option Connection -> Option Connection -> Prop
  | frameless {conn : Option Connection} (oversize : ¬ Fits msg) : Delivered msg conn conn
  | written {conn : Connection} (fits : Fits msg) (fine : conn.next.1.failure = none)
      (whole : conn.next.1.share (publishSize msg) = publishSize msg) :
      Delivered msg (some conn) (some conn.next.2)

/-- The next answers refuse the frame of a message. -/
inductive Undelivered (msg : Message) : Option Connection -> Option Connection -> Prop
  | refused {conn after : Connection} (fits : Fits msg)
      (refused : Refused (publishSize msg) 0 conn after) : Undelivered msg (some conn) (some after)

theorem publishSize_pos (msg : Message) : 0 < publishSize msg :=
  List.length_pos_iff.mpr (publishFrame_ne_nil msg 0)

theorem publishFrame_length (msg : Message) (pid : UInt16) :
    (publishFrame msg pid).length = publishSize msg := by
  simp only [publishSize, publishFrame, List.length_append, identifierBytes_length]

theorem assembledPublish_partly (msg : Message) (pid : UInt16) :
    Partly (publishSize msg) 0 (assembledPublish msg pid).started := by
  refine ⟨rfl, ?_, ?_⟩
  · exact publishFrame_length msg pid
  · change publishSize msg ≤ (publishFrame msg pid ++ []).length + 0
    rw [List.append_nil, publishFrame_length, Nat.add_zero]

theorem sendPublish_fits (fits : Fits msg) (scene : Scene) :
    sendPublish msg scene = writeRounds (publishSize msg)
      (assembledPublish msg (identifierFor scene.session.nextPacketID msg)).started
      (scene.counted (counterAfter scene.session.nextPacketID msg)) := by
  rw [sendPublish_draws, sendPacket_fits fits]
  exact congrArg (fun size => writeRounds size (assembledPublish msg _).started _)
    (publishFrame_length msg _)

theorem sendPublish_oversize (oversize : ¬ Fits msg) (scene : Scene) :
    sendPublish msg scene =
      ⟨[], .ok (), scene.counted (counterAfter scene.session.nextPacketID msg)⟩ := by
  rw [sendPublish_draws, sendPacket_oversize oversize]

theorem sendPublish_closed (fits : Fits msg) (closed : scene.session.conn = none) :
    (sendPublish msg scene).outcome = .panic .nilDereference := by
  rcases assembledPublish_length msg (identifierFor scene.session.nextPacketID msg)
    with ⟨positive, sized⟩
  have missing : (scene.counted (counterAfter scene.session.nextPacketID msg)).session.conn =
      none := closed
  rw [sendPublish_draws, sendPacket_fits fits, writePacket_eq positive sized]
  have crashed (command : UInt8) (bytes : List UInt8) : (connWrite command bytes
      (scene.counted (counterAfter scene.session.nextPacketID msg))).outcome =
        .panic .nilDereference := by
    rw [connWrite, session_bind_apply, missing]
    rfl
  rw [bind_of_panic (crashed _ _)]

theorem Delivered.sendPublish {after : Option Connection}
    (delivered : Delivered msg scene.session.conn after) :
    (Mqtt.sendPublish msg scene).outcome = .ok () ∧
      (Mqtt.sendPublish msg scene).state.session.conn = after := by
  generalize opened : scene.session.conn = conn at delivered
  cases delivered with
  | frameless oversize =>
    rw [sendPublish_oversize oversize]
    exact ⟨rfl, opened⟩
  | written fits fine whole =>
    rw [sendPublish_fits fits]
    exact (assembledPublish_partly msg _).sends opened rfl (publishSize_pos msg) fine whole
      (Nat.le_refl _)

theorem Undelivered.sendPublish {after : Option Connection}
    (undelivered : Undelivered msg scene.session.conn after) :
    (exists reason, (Mqtt.sendPublish msg scene).outcome = .error reason) ∧
      (Mqtt.sendPublish msg scene).state.session.conn = after := by
  generalize opened : scene.session.conn = conn at undelivered
  rcases undelivered with ⟨fits, refused⟩
  rw [sendPublish_fits fits]
  exact refused.writeRounds (assembledPublish_partly msg _) opened (publishSize_pos msg)
    (Nat.zero_le _) (Nat.le_refl _)

theorem sendPublish_ends (msg : Message) (scene : Scene) :
    ((sendPublish msg scene).outcome = .ok () -> exists after,
        Delivered msg scene.session.conn after) ∧
      forall reason, (sendPublish msg scene).outcome = .error reason -> exists after,
        Undelivered msg scene.session.conn after := by
  by_cases fits : Fits msg
  · cases opened : scene.session.conn with
    | none =>
      rw [sendPublish_closed fits opened]
      exact ⟨nofun, nofun⟩
    | some conn =>
      have opened' : (scene.counted (counterAfter scene.session.nextPacketID msg)).session.conn =
          some conn := opened
      rcases (assembledPublish_partly msg (identifierFor scene.session.nextPacketID msg)).ends
        opened' (publishSize_pos msg) (Nat.zero_le _) (Nat.le_refl _) with ⟨sent, refused⟩
      rw [sendPublish_fits fits]
      refine ⟨fun returned => ?_, fun reason failed => ?_⟩
      · rcases sent returned with ⟨_, fine, whole⟩
        exact ⟨_, .written fits fine whole⟩
      · rcases refused reason failed with ⟨after, refused⟩
        exact ⟨_, .refused fits refused⟩
  · rw [sendPublish_oversize fits]
    exact ⟨fun _ => ⟨_, .frameless fits⟩, nofun⟩

end Mqtt
end Sentel
