import Sentel.Mqtt.Framing

namespace Sentel
namespace Mqtt

open Library Handler SessionM SessionMgr

/-!
# Partial writes

`writePacket` keeps two indices into the buffer: what it offers is
`payload[pos:toprocess]`.  A short write moves both, so that the end of the
next offer moves to the front by as much as its start moves to the back.  The
bytes behind the new end are never offered again.  The sum of the two indices
is the length of the frame in every round, hence the loop could end normally
only with the start at the end of the frame, and no round can take it there
after a short write.  Such a run ends in an error or in a slice expression out
of range.

A run is described by its calls of `Write`, each with the bytes it was offered
and the answer of the connection.
-/

/-- One call of `Write` on the connection. -/
structure WriteCall where
  offered : List UInt8
  answer : WriteAnswer
  deriving DecidableEq

namespace WriteCall

def accepted (call : WriteCall) : List UInt8 :=
  call.answer.accepts call.offered

/-- The connection reports no error and takes at least one byte of what it is
offered, if it is offered any. -/
def Willing (call : WriteCall) : Prop :=
  call.answer.failure = none ∧ call.answer.limit ≠ some 0

instance (call : WriteCall) : Decidable call.Willing :=
  inferInstanceAs (Decidable (_ ∧ _))

end WriteCall

def MqttPacket.moved (packet : MqttPacket) (len : Nat) : MqttPacket :=
  { packet with
    toprocess := packet.toprocess - len
    pos := packet.pos + len }

/-- The calls of `Write` that the loop of `writePacket` makes. -/
def writeCalls : Nat -> MqttPacket -> Connection -> List WriteCall
  | 0, _, _ => []
  | rounds + 1, packet, conn =>
    if 0 < packet.toprocess then
      match packet.payload.subslice packet.pos packet.toprocess with
      | .error _ => []
      | .ok offered =>
        ⟨offered, conn.next.1⟩ ::
          (if conn.next.1.failure = none ∧ 0 < (conn.next.1.accepts offered).length then
            writeCalls rounds (packet.moved (conn.next.1.accepts offered).length) conn.next.2
          else [])
    else []

/-- The packet before the first round of `writePacket`. -/
def MqttPacket.started (packet : MqttPacket) : MqttPacket :=
  { packet with pos := 0, toprocess := packet.length }

/-- The calls of `Write` that `writePacket` makes. -/
def writePacketCalls (packet : MqttPacket) (conn : Connection) : List WriteCall :=
  writeCalls packet.length packet.started conn

/-- The bytes that the connection accepted during a run, in order. -/
def acceptedBytes (effects : List Effect) : List UInt8 :=
  (written effects).flatten

theorem acceptedBytes_append (first second : List Effect) :
    acceptedBytes (first ++ second) = acceptedBytes first ++ acceptedBytes second := by
  simp [acceptedBytes, written]

theorem acceptedBytes_write (command : UInt8) (bytes : List UInt8) :
    acceptedBytes [.write command bytes] = bytes := by
  simp [acceptedBytes, written]

theorem accepts_isPrefix (answer : WriteAnswer) (bytes : List UInt8) :
    answer.accepts bytes <+: bytes := by
  unfold WriteAnswer.accepts
  cases answer.limit with
  | none => exact List.prefix_refl bytes
  | some limit => exact List.take_prefix limit bytes

theorem accepts_ne_nil {call : WriteCall} (willing : call.Willing) (some_offered : call.offered ≠ []) :
    call.accepted ≠ [] := by
  unfold WriteCall.accepted WriteAnswer.accepts
  cases limit : call.answer.limit with
  | none => exact some_offered
  | some count =>
    intro empty
    rcases List.take_eq_nil_iff.mp empty with zero | nothing
    · exact willing.2 (limit.trans (congrArg some zero))
    · exact some_offered nothing

/-! ## One round of the loop -/

variable {scene : Scene} {conn : Connection} {packet : MqttPacket} {rounds : Nat}
  {frame : List UInt8}

theorem acceptedBytes_connWrite (opened : scene.session.conn = some conn) (command : UInt8)
    (bytes : List UInt8) :
    acceptedBytes (connWrite command bytes scene).effects = conn.next.1.accepts bytes := by
  have silent : ((do
      failWith conn.next.1.failure
      return (conn.next.1.accepts bytes).length : SessionM Nat) (scene.answered conn)).effects =
      [] := by
    cases conn.next.1.failure <;> rfl
  rw [connWrite_eq opened, precede_effects, silent, List.append_nil]
  by_cases empty : conn.next.1.accepts bytes = []
  · rw [if_pos empty, empty]
    rfl
  · rw [if_neg empty, acceptedBytes_write]

inductive WriteRound (packet : MqttPacket) (scene : Scene) (conn : Connection) : Prop
  | crashed (cause : Panic)
      (outside : packet.payload.subslice packet.pos packet.toprocess = .error cause)
      (calls : forall rounds, writeCalls (rounds + 1) packet conn = [])
      (run : forall rounds, writeRounds (rounds + 1) packet scene = ⟨[], .panic cause, scene⟩)
  | refused (call : WriteCall) (effects : List Effect) (reason : GoString)
      (offer : packet.payload.subslice packet.pos packet.toprocess = .ok call.offered)
      (answer : call.answer = conn.next.1)
      (calls : forall rounds, writeCalls (rounds + 1) packet conn = [call])
      (sent : acceptedBytes effects = call.accepted)
      (bad : call.answer.failure ≠ none ∨ call.accepted = [])
      (run : forall rounds, writeRounds (rounds + 1) packet scene =
        ⟨effects, .error reason, scene.answered conn⟩)
  | advanced (call : WriteCall)
      (offer : packet.payload.subslice packet.pos packet.toprocess = .ok call.offered)
      (answer : call.answer = conn.next.1)
      (calls : forall rounds, writeCalls (rounds + 1) packet conn =
        call :: writeCalls rounds (packet.moved call.accepted.length) conn.next.2)
      (fine : call.answer.failure = none) (some_sent : call.accepted ≠ [])
      (run : forall rounds, writeRounds (rounds + 1) packet scene =
        precede [.write packet.command call.accepted]
          (writeRounds rounds (packet.moved call.accepted.length) (scene.answered conn)))

theorem writeRound {packet : MqttPacket} {scene : Scene} {conn : Connection}
    (opened : scene.session.conn = some conn) (more : 0 < packet.toprocess) :
    WriteRound packet scene conn := by
  cases found : packet.payload.subslice packet.pos packet.toprocess with
  | error cause =>
    refine .crashed cause found (fun rounds => ?_) (fun rounds => ?_)
    · rw [writeCalls, if_pos more, found]
    · rw [writeRounds, if_pos more, found]
      rfl
  | ok offered =>
    have written := connWrite_eq opened packet.command offered
    have started : forall rounds, writeRounds (rounds + 1) packet scene =
        (do
          let len ← connWrite packet.command offered
          if 0 < len then writeRounds rounds (packet.moved len)
          else
            let session ← session
            fail (ascii "Failed to send packet to '" ++ session.clientID ++ ascii "'") :
          SessionM Unit) scene := by
      intro rounds
      rw [writeRounds, if_pos more, found, ofPanic_ok_bind_apply]
      rfl
    cases failure : conn.next.1.failure with
    | some reason =>
      rw [failure] at written
      have failed : (connWrite packet.command offered scene).outcome = .error reason := by
        rw [written]
        rfl
      refine .refused ⟨offered, conn.next.1⟩ (connWrite packet.command offered scene).effects
        reason found rfl (fun rounds => ?_) (acceptedBytes_connWrite opened _ _) (.inl ?_)
        (fun rounds => ?_)
      · rw [writeCalls, if_pos more, found]
        simp [failure]
      · rw [failure]
        exact Option.some_ne_none reason
      · rw [started, bind_of_error failed, written]
        rfl
    | none =>
      rw [failure] at written
      by_cases empty : conn.next.1.accepts offered = []
      · have returned : connWrite packet.command offered scene =
            ⟨[], .ok 0, scene.answered conn⟩ := by
          rw [written, empty]
          rfl
        refine .refused ⟨offered, conn.next.1⟩ []
          (ascii "Failed to send packet to '" ++ scene.session.clientID ++ ascii "'")
          found rfl (fun rounds => ?_) empty.symm
          (.inr empty) (fun rounds => ?_)
        · rw [writeCalls, if_pos more, found]
          simp [empty]
        · rw [started, bind_of_ok returned]
          rfl
      · have positive : 0 < (conn.next.1.accepts offered).length :=
          List.length_pos_iff.mpr empty
        have returned : connWrite packet.command offered scene =
            ⟨[.write packet.command (conn.next.1.accepts offered)],
              .ok (conn.next.1.accepts offered).length, scene.answered conn⟩ := by
          rw [written, if_neg empty]
          rfl
        refine .advanced ⟨offered, conn.next.1⟩ found rfl (fun rounds => ?_) failure empty
          (fun rounds => ?_)
        · rw [writeCalls, if_pos more, found]
          simp [failure, positive, WriteCall.accepted]
        · rw [started, bind_of_ok returned, if_pos positive]
          rfl

theorem writeRounds_done (done : ¬ 0 < packet.toprocess) (rounds : Nat) (scene : Scene) :
    writeRounds rounds packet scene = ⟨[], .ok (), scene⟩ := by
  cases rounds with
  | zero => rfl
  | succ rounds =>
    rw [writeRounds, if_neg done]
    rfl

theorem writeCalls_done (done : ¬ 0 < packet.toprocess) (rounds : Nat) (conn : Connection) :
    writeCalls rounds packet conn = [] := by
  cases rounds with
  | zero => rfl
  | succ rounds => rw [writeCalls, if_neg done]

theorem answered_conn (scene : Scene) (conn : Connection) :
    (scene.answered conn).session.conn = some conn.next.2 := rfl

/-! ## The frame and the two indices -/

structure Midway (frame : List UInt8) (packet : MqttPacket) : Prop where
  holds : frame <+: packet.payload.elems ++ packet.payload.spare
  balance : packet.pos + packet.toprocess = frame.length

namespace Midway

variable {frame : List UInt8} {packet : MqttPacket} (midway : Midway frame packet)

include midway

theorem offer {offered : List UInt8}
    (found : packet.payload.subslice packet.pos packet.toprocess = .ok offered) :
    packet.pos ≤ packet.toprocess ∧
      offered = (frame.drop packet.pos).take (packet.toprocess - packet.pos) := by
  unfold GoSlice.subslice at found
  split at found
  case isFalse => cases found
  case isTrue inside =>
    refine ⟨inside.1, ?_⟩
    rcases midway.holds with ⟨later, shape⟩
    have bound := midway.balance
    rw [← Except.ok.inj found, ← shape, List.drop_append_of_le_length (by omega),
      List.take_append_of_le_length (by rw [List.length_drop]; omega)]

variable {call : WriteCall}

theorem accepted (found : packet.payload.subslice packet.pos packet.toprocess = .ok call.offered) :
    call.accepted <+: frame.drop packet.pos := by
  rw [WriteCall.accepted]
  refine (accepts_isPrefix call.answer call.offered).trans ?_
  rw [(midway.offer found).2]
  exact List.take_prefix _ _

theorem left_over (found : packet.payload.subslice packet.pos packet.toprocess = .ok call.offered) :
    packet.pos + call.accepted.length ≤ packet.toprocess := by
  have sized := (accepts_isPrefix call.answer call.offered).length_le
  rw [(midway.offer found).2, List.length_take] at sized
  have ordered := (midway.offer found).1
  change packet.pos + (call.answer.accepts call.offered).length ≤ packet.toprocess
  rw [(midway.offer found).2]
  omega

theorem moved (found : packet.payload.subslice packet.pos packet.toprocess = .ok call.offered) :
    Midway frame (packet.moved call.accepted.length) := by
  refine ⟨midway.holds, ?_⟩
  have fits := midway.left_over found
  have balance := midway.balance
  simp only [MqttPacket.moved]
  omega

end Midway

/-! ## Whole runs -/

theorem accepted_isPrefix (opened : scene.session.conn = some conn) (midway : Midway frame packet) :
    acceptedBytes (writeRounds rounds packet scene).effects <+: frame.drop packet.pos := by
  induction rounds generalizing packet scene conn with
  | zero => exact List.nil_prefix
  | succ rounds ih =>
    by_cases more : 0 < packet.toprocess
    · cases writeRound opened more with
      | crashed cause outside calls run =>
        rw [run]
        exact List.nil_prefix
      | refused call effects reason offer answer calls sent bad run =>
        rw [run, sent]
        exact midway.accepted offer
      | advanced call offer answer calls fine some_sent run =>
        rw [run, precede_effects, acceptedBytes_append, acceptedBytes_write]
        rcases midway.accepted offer with ⟨rest, shape⟩
        have later := ih (answered_conn scene conn) (midway.moved offer)
        have remaining : frame.drop (packet.moved call.accepted.length).pos = rest := by
          change frame.drop (packet.pos + call.accepted.length) = rest
          rw [← List.drop_drop, ← shape, List.drop_left]
        rw [remaining] at later
        rw [← shape]
        exact List.prefix_append_right_inj _ |>.mpr later
    · rw [writeRounds_done more]
      exact List.nil_prefix

theorem error_of_unwilling (opened : scene.session.conn = some conn)
    (unwilling : ∃ call ∈ writeCalls rounds packet conn, ¬ call.Willing) :
    exists reason, (writeRounds rounds packet scene).outcome = .error reason := by
  induction rounds generalizing packet scene conn with
  | zero =>
    rcases unwilling with ⟨call, member, _⟩
    exact absurd member List.not_mem_nil
  | succ rounds ih =>
    rcases unwilling with ⟨call, member, unwilling⟩
    by_cases more : 0 < packet.toprocess
    · cases writeRound opened more with
      | crashed cause outside calls run =>
        rw [calls] at member
        exact absurd member List.not_mem_nil
      | refused first effects reason offer answer calls sent bad run =>
        rw [run]
        exact ⟨reason, rfl⟩
      | advanced first offer answer calls fine some_sent run =>
        rw [run, precede_outcome]
        rw [calls] at member
        rcases List.mem_cons.mp member with same | later
        · -- the call that advanced was willing
          subst same
          refine absurd ⟨fine, ?_⟩ unwilling
          intro zero
          apply some_sent
          rw [WriteCall.accepted, WriteAnswer.accepts, zero]
          rfl
        · exact ih (answered_conn scene conn) ⟨call, later, unwilling⟩
    · rw [writeCalls_done more] at member
      exact absurd member List.not_mem_nil

theorem never_ends_after_short_write (opened : scene.session.conn = some conn)
    (midway : Midway frame packet) (begun : 0 < packet.pos) (more : 0 < packet.toprocess)
    (enough : packet.toprocess ≤ rounds) : (writeRounds rounds packet scene).outcome ≠ .ok () := by
  induction rounds generalizing packet scene conn with
  | zero => exact absurd (Nat.lt_of_lt_of_le more enough) (Nat.lt_irrefl 0)
  | succ rounds ih =>
    cases writeRound opened more with
    | crashed cause outside calls run | refused call effects reason offer answer calls sent bad run =>
      rw [run]
      intro normal
      cases normal
    | advanced call offer answer calls fine some_sent run =>
      rw [run, precede_outcome]
      have fits := midway.left_over offer
      have positive : 0 < call.accepted.length := List.length_pos_iff.mpr some_sent
      refine ih (answered_conn scene conn) (midway.moved offer) ?_ ?_ ?_
      · exact Nat.lt_of_lt_of_le begun (Nat.le_add_right _ _)
      · simp only [MqttPacket.moved]
        omega
      · simp only [MqttPacket.moved]
        omega

theorem writeRounds_enough (opened : scene.session.conn = some conn) (midway : Midway frame packet)
    (enough : packet.toprocess ≤ rounds) (further : Nat) :
    writeRounds (rounds + further) packet scene = writeRounds rounds packet scene := by
  induction rounds generalizing packet scene conn with
  | zero =>
    have done : ¬ 0 < packet.toprocess := by omega
    rw [writeRounds_done done, writeRounds_done done]
  | succ rounds ih =>
    by_cases more : 0 < packet.toprocess
    · rw [Nat.add_right_comm]
      cases writeRound opened more with
      | crashed cause outside calls run => rw [run, run]
      | refused call effects reason offer answer calls sent bad run => rw [run, run]
      | advanced call offer answer calls fine some_sent run =>
        have positive : 0 < call.accepted.length := List.length_pos_iff.mpr some_sent
        rw [run, run, ih (answered_conn scene conn) (midway.moved offer) ?_]
        simp only [MqttPacket.moved]
        omega
    · rw [writeRounds_done more, writeRounds_done more]

/-! ## Writing a frame -/

/-- Willing calls hand over the whole frame and the loop ends normally; a call
that fails or takes nothing ends it with an error, and what was accepted is a
prefix of the frame. -/
def WritesFrame (packet : MqttPacket) (frame : List UInt8) (scene : Scene) (conn : Connection) :
    Prop :=
  ((forall call, call ∈ writePacketCalls packet conn -> call.Willing) ->
    (writePacket packet scene).outcome = .ok () ∧
      acceptedBytes (writePacket packet scene).effects = frame) ∧
  ((∃ call ∈ writePacketCalls packet conn, ¬ call.Willing) ->
    (exists reason, (writePacket packet scene).outcome = .error reason) ∧
      acceptedBytes (writePacket packet scene).effects <+: frame)

theorem subslice_frame {slice : GoSlice} {size : Nat} (found : slice.subslice 0 size = .ok frame) :
    frame <+: slice.elems ++ slice.spare ∧ frame.length = size := by
  unfold GoSlice.subslice GoSlice.capacity at found
  split at found
  case isFalse => cases found
  case isTrue inside =>
    rw [← Except.ok.inj found, List.drop_zero, Nat.sub_zero]
    refine ⟨List.take_prefix _ _, ?_⟩
    rw [List.length_take, List.length_append]
    omega

section Frames

variable {packet : MqttPacket} {frame : List UInt8} {scene : Scene} {conn : Connection}
  (opened : scene.session.conn = some conn)
  (sized : packet.payload.subslice 0 packet.length = .ok frame)

include sized

theorem midway_started : Midway frame packet.started := by
  rcases subslice_frame sized with ⟨holds, length⟩
  exact ⟨holds, (Nat.zero_add _).trans length.symm⟩

include opened

theorem writePacket_unwilling
    (unwilling : ∃ call ∈ writePacketCalls packet conn, ¬ call.Willing) :
    (exists reason, (writePacket packet scene).outcome = .error reason) ∧
      acceptedBytes (writePacket packet scene).effects <+: frame :=
  ⟨error_of_unwilling opened unwilling, accepted_isPrefix opened (midway_started sized)⟩

theorem writePacket_first (nonempty : frame ≠ [])
    (willing : forall call, call ∈ writePacketCalls packet conn -> call.Willing) :
    conn.next.1.accepts frame ≠ [] ∧
      Midway frame (packet.started.moved (conn.next.1.accepts frame).length) ∧
      writePacket packet scene =
        precede [.write packet.command (conn.next.1.accepts frame)]
          (writeRounds (packet.length - 1)
            (packet.started.moved (conn.next.1.accepts frame).length) (scene.answered conn)) := by
  have length := (subslice_frame sized).2
  have positive : 0 < packet.length := by
    rw [← length]
    exact List.length_pos_iff.mpr nonempty
  rcases Nat.exists_eq_succ_of_ne_zero (Nat.ne_of_gt positive) with ⟨rounds, count⟩
  have begin : writePacket packet = writeRounds (rounds + 1) packet.started :=
    congrArg (fun rounds => writeRounds rounds packet.started) count
  have made : writePacketCalls packet conn = writeCalls (rounds + 1) packet.started conn :=
    congrArg (fun rounds => writeCalls rounds packet.started conn) count
  have offersFrame : forall {call : WriteCall},
      packet.started.payload.subslice packet.started.pos packet.started.toprocess =
        .ok call.offered -> call.offered = frame := by
    intro call offer
    exact Except.ok.inj (offer.symm.trans sized)
  rw [begin, count, Nat.succ_sub_one]
  rw [made] at willing
  cases @writeRound packet.started scene conn opened positive with
  | crashed cause outside calls run => exact absurd (outside.symm.trans sized) (by simp)
  | refused call effects reason offer answer calls sent bad run =>
    -- a willing call takes something of a frame that is not empty
    rw [calls] at willing
    have fine := willing call List.mem_cons_self
    have takes := accepts_ne_nil fine ((offersFrame offer).trans_ne nonempty)
    rcases bad with failed | nothing
    · exact absurd fine.1 failed
    · exact absurd nothing takes
  | advanced call offer answer calls fine some_sent run =>
    have taken : call.accepted = conn.next.1.accepts frame := by
      rw [WriteCall.accepted, answer, offersFrame offer]
    have midway := (midway_started sized).moved offer
    rw [taken] at some_sent midway run
    exact ⟨some_sent, midway, run rounds⟩

theorem writePacket_willing (nonempty : frame ≠ [])
    (willing : forall call, call ∈ writePacketCalls packet conn -> call.Willing) :
    ((writePacket packet scene).outcome = .ok () ∧
        acceptedBytes (writePacket packet scene).effects = frame) ↔
      conn.next.1.accepts frame = frame := by
  have length := (subslice_frame sized).2
  rcases writePacket_first opened sized nonempty willing with ⟨some_sent, midway, run⟩
  have size : 0 < (conn.next.1.accepts frame).length := List.length_pos_iff.mpr some_sent
  have prefixed := accepts_isPrefix conn.next.1 frame
  rw [run, precede_outcome, precede_effects]
  constructor
  · rintro ⟨normal, _⟩
    -- an ordinary end leaves nothing to process
    by_contra short
    have shorter : (conn.next.1.accepts frame).length < frame.length := by
      refine Nat.lt_of_le_of_ne prefixed.length_le (fun same => short ?_)
      exact prefixed.eq_of_length same
    refine never_ends_after_short_write (answered_conn scene conn) midway ?_ ?_ ?_ normal
    · exact Nat.lt_of_lt_of_le size (Nat.le_add_left _ _)
    · change 0 < packet.length - (conn.next.1.accepts frame).length
      omega
    · change packet.length - (conn.next.1.accepts frame).length ≤ packet.length - 1
      omega
  · intro whole
    have done : ¬ 0 < (packet.started.moved (conn.next.1.accepts frame).length).toprocess := by
      change ¬ 0 < packet.length - (conn.next.1.accepts frame).length
      rw [whole]
      omega
    rw [writeRounds_done done, List.append_nil, acceptedBytes_write]
    exact ⟨rfl, whole⟩

end Frames

/-- The loop ends by itself.  It offers the whole frame in its first round, so a
frame is written as it should be exactly when it is empty, or the first call
takes all of it, or some call fails or takes nothing. -/
theorem writesFrame_iff {packet : MqttPacket} {frame : List UInt8} {scene : Scene}
    {conn : Connection} (opened : scene.session.conn = some conn)
    (sized : packet.payload.subslice 0 packet.length = .ok frame) :
    (forall further, writeRounds (packet.length + further) packet.started scene =
      writePacket packet scene) ∧
    (WritesFrame packet frame scene conn ↔
      frame = [] ∨ conn.next.1.accepts frame = frame ∨
        ∃ call ∈ writePacketCalls packet conn, ¬ call.Willing) := by
  refine ⟨writeRounds_enough opened (midway_started sized) (Nat.le_refl _), ?_⟩
  refine (and_iff_left (writePacket_unwilling opened sized)).trans ?_
  by_cases empty : frame = []
  · refine iff_of_true (fun _ => ?_) (.inl empty)
    have length := (subslice_frame sized).2
    have done : ¬ 0 < packet.started.toprocess := by
      change ¬ 0 < packet.length
      rw [← length, empty]
      exact Nat.lt_irrefl 0
    have run : writePacket packet scene = ⟨[], .ok (), scene⟩ := writeRounds_done done _ scene
    rw [run]
    exact ⟨rfl, empty.symm⟩
  · rw [or_iff_right empty]
    by_cases willing : forall call, call ∈ writePacketCalls packet conn -> call.Willing
    · have none : ¬ ∃ call ∈ writePacketCalls packet conn, ¬ call.Willing := by
        rintro ⟨call, member, unwilling⟩
        exact unwilling (willing call member)
      rw [or_iff_left none, ← writePacket_willing opened sized empty willing]
      exact ⟨fun whole => whole willing, fun whole _ => whole⟩
    · refine iff_of_true (fun all => absurd all willing) (.inr ?_)
      simpa using willing

def threeBytes : MqttPacket :=
  { command := PINGRESP, length := 3, payload := { elems := [1, 2, 3] } }

def threeBytesScene (conn : Connection) : Scene where
  session := newMqttSession 0 conn true
  packet := threeBytes
  broker := newBroker (ascii "b")

def breakingConn : Connection :=
  ⟨[{ limit := some 2, failure := some (ascii "broken pipe") }], {}⟩

theorem broken_write_refused :
    WritesFrame threeBytes [1, 2, 3] (threeBytesScene breakingConn) breakingConn ∧
      acceptedBytes (writePacket threeBytes (threeBytesScene breakingConn)).effects = [1, 2] :=
  ⟨(writesFrame_iff rfl rfl).2.mpr (.inr (.inr (by decide))), by decide⟩

/-- After two of three bytes the slice expression is `payload[2:1]`. -/
theorem short_write_panics :
    ¬ WritesFrame threeBytes [1, 2, 3] (threeBytesScene ⟨[{ limit := some 2 }], {}⟩)
      ⟨[{ limit := some 2 }], {}⟩ := by
  intro writes
  have normal := (writes.1 (by decide)).1
  have panicked : (writePacket threeBytes
      (threeBytesScene ⟨[{ limit := some 2 }], {}⟩)).outcome = .panic .sliceOutOfRange := rfl
  rw [panicked] at normal
  cases normal

end Mqtt
end Sentel
