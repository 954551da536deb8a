import Sentel.Mqtt.SessionRules

namespace Sentel
namespace Mqtt

open Library Handler Base Queue Event SessionMgr Auth SessionM MqttPacket

/-!
# Frames

A packet that is being assembled consists of the bytes written so far and of
the bytes still to be written; the position is where the two meet.  In this
view every writing function moves bytes from the second part to the first, and
a frame is complete when the second part is empty.
-/

namespace MqttPacket

variable {Effect : Type}

/-- A packet whose buffer holds `front` before its position and `back` after
it. -/
def filling (packet : MqttPacket) (front back : List UInt8) : MqttPacket :=
  { packet with
    payload := ⟨front ++ back, []⟩
    pos := front.length
    length := front.length + back.length }

theorem initializePacket_filling (packet : MqttPacket)
    (fits : (remainingBytes 5 packet.remainingLength).length ≠ 5) :
    (initializePacket : PacketM Effect Unit) packet =
      ⟨[], .ok (), filling
        { packet with remainingCount := (remainingBytes 5 packet.remainingLength).length }
        (packet.headerByte :: remainingBytes 5 packet.remainingLength)
        (List.replicate packet.remainingLength 0)⟩ := by
  rw [initializePacket, look_bind_apply, if_neg fits]
  simp only [change_apply, filling, List.length_cons, List.length_replicate]
  have size : packet.remainingLength + 1 + (remainingBytes 5 packet.remainingLength).length =
      (remainingBytes 5 packet.remainingLength).length + 1 + packet.remainingLength := by omega
  have start : 1 + (remainingBytes 5 packet.remainingLength).length =
      (remainingBytes 5 packet.remainingLength).length + 1 := by omega
  simp only [size, start]

theorem assignAt_filling (packet : MqttPacket) (front : List UInt8) {back : List UInt8}
    {offset : Nat} (inside : offset < back.length) (byte : UInt8) :
    (assignAt offset byte : PacketM Effect Unit) (packet.filling front back) =
      ⟨[], .ok (), packet.filling front (back.set offset byte)⟩ := by
  have bound : front.length + offset < (front ++ back).length := by
    rw [List.length_append]
    omega
  have assigned : (packet.filling front back).payload.assign
      ((packet.filling front back).pos + offset) byte = .ok ⟨front ++ back.set offset byte, []⟩ := by
    rw [GoSlice.assign, filling, GoSlice.length, if_pos bound]
    simp only [List.set_append_right _ _ (Nat.le_add_right _ _), Nat.add_sub_cancel_left]
  rw [assignAt, look_bind_apply, assigned, ofPanic_ok_bind_apply,
    change_apply]
  simp [filling]

theorem writeByte_filling (packet : MqttPacket) (front : List UInt8) (gap : UInt8)
    (back : List UInt8) (byte : UInt8) :
    (writeByte byte : PacketM Effect Unit) (packet.filling front (gap :: back)) =
      ⟨[], .ok (), packet.filling (front ++ [byte]) back⟩ := by
  have room : ¬ (packet.filling front (gap :: back)).length <
      (packet.filling front (gap :: back)).pos + 1 := by
    simp only [filling, List.length_cons]
    omega
  rw [writeByte, look_bind_apply, failIf_neg_bind_apply room,
    bind_of_ok (assignAt_filling packet front (Nat.succ_pos back.length) byte)]
  simp [filling, precede]
  omega

theorem writeEach_filling (packet : MqttPacket) (front : List UInt8) {gap : List UInt8}
    (back : List UInt8) {bytes : List UInt8} (sized : gap.length = bytes.length) :
    (writeEach bytes : PacketM Effect Unit) (packet.filling front (gap ++ back)) =
      ⟨[], .ok (), packet.filling (front ++ bytes) back⟩ := by
  induction bytes generalizing front gap with
  | nil =>
    rw [List.length_eq_zero_iff.mp sized, List.append_nil]
    rfl
  | cons byte rest ih =>
    cases gap with
    | nil => cases sized
    | cons first gap =>
      rw [writeEach, bind_of_ok
        (assignAt_filling packet front (Nat.succ_pos (gap ++ back).length) byte)]
      have moved : { packet.filling front ((first :: gap ++ back).set 0 byte) with
          pos := (packet.filling front ((first :: gap ++ back).set 0 byte)).pos + 1 } =
          packet.filling (front ++ [byte]) (gap ++ back) := by
        simp [filling]
        omega
      change precede [] (writeEach rest
        { packet.filling front ((first :: gap ++ back).set 0 byte) with
          pos := (packet.filling front ((first :: gap ++ back).set 0 byte)).pos + 1 }) = _
      rw [moved, ih (front ++ [byte]) (Nat.succ.inj sized)]
      simp [precede]

theorem writeBytes_filling (packet : MqttPacket) (front : List UInt8) {gap : List UInt8}
    (back : List UInt8) {bytes : List UInt8} (sized : gap.length = bytes.length) :
    (writeBytes bytes : PacketM Effect Unit) (packet.filling front (gap ++ back)) =
      ⟨[], .ok (), packet.filling (front ++ bytes) back⟩ := by
  have room : ¬ (packet.filling front (gap ++ back)).length <
      (packet.filling front (gap ++ back)).pos + bytes.length := by
    simp only [filling, List.length_append]
    omega
  rw [writeBytes, look_bind_apply, failIf_neg_bind_apply room]
  exact writeEach_filling packet front back sized

def uint16Bytes (data : UInt16) : List UInt8 :=
  [((data >>> 8) &&& 0xF).toUInt8, (data &&& 0xF).toUInt8]

theorem writeUint16_filling (packet : MqttPacket) (front : List UInt8) (first second : UInt8)
    (back : List UInt8) (data : UInt16) :
    (writeUint16 data : PacketM Effect Unit) (packet.filling front (first :: second :: back)) =
      ⟨[], .ok (), packet.filling (front ++ uint16Bytes data) back⟩ := by
  rw [writeUint16, bind_of_ok (writeByte_filling packet front first (second :: back) _),
    writeByte_filling]
  simp [uint16Bytes, precede]

theorem writeString_filling (packet : MqttPacket) (front : List UInt8) (first second : UInt8)
    {gap : List UInt8} (back : List UInt8) {text : GoString} (sized : gap.length = text.length) :
    (writeString text : PacketM Effect Unit) (packet.filling front (first :: second :: (gap ++ back))) =
      ⟨[], .ok (), packet.filling (front ++ uint16Bytes text.length.toUInt16 ++ text) back⟩ := by
  rw [writeString]
  rw [bind_of_ok (writeUint16_filling packet front first second (gap ++ back) _),
    writeBytes_filling _ _ _ sized]
  rfl

end MqttPacket

/-! ## Sending frames -/

theorem sendPacket_of_built {packet built : MqttPacket} {fill : PacketM Effect Unit}
    (assembled : (do ignore initializePacket; fill : PacketM Effect Unit) packet =
      ⟨[], .ok (), built⟩) (scene : Scene) :
    sendPacket packet fill scene = writePacket built scene := by
  have returned : (building packet
      (do ignore initializePacket; fill) : SessionM MqttPacket) scene =
      ⟨[], .ok built, scene⟩ := by
    rw [building, assembled]
  rw [sendPacket, bind_of_ok returned, precede_nil]

def Scene.answered (scene : Scene) (conn : Connection) : Scene :=
  { scene with session := { scene.session with conn := some conn.next.2 } }

theorem connWrite_eq {scene : Scene} {conn : Connection} (opened : scene.session.conn = some conn)
    (command : UInt8) (bytes : List UInt8) :
    connWrite command bytes scene =
      precede (if conn.next.1.accepts bytes = [] then []
          else [Effect.write command (conn.next.1.accepts bytes)])
        ((do failWith conn.next.1.failure; return (conn.next.1.accepts bytes).length :
          SessionM Nat) (scene.answered conn)) := by
  rw [connWrite, session_bind_apply, opened]
  change (when (conn.next.1.accepts bytes ≠ [])
    (emit (Effect.write command (conn.next.1.accepts bytes))) >>= _)
    (scene.answered conn) = _
  by_cases empty : conn.next.1.accepts bytes = []
  · rw [when_neg_bind_apply (not_not.mpr empty), if_pos empty, precede_nil]
  · rw [when_pos empty, if_neg empty, bind_of_ok (emit_apply _)]

section Writing

variable {packet : MqttPacket} {scene : Scene} {conn : Connection} (positive : 0 < packet.length)
  (sized : packet.length = packet.payload.elems.length) (opened : scene.session.conn = some conn)

include positive sized

theorem writePacket_eq :
    writePacket packet scene =
      (do
        let len ← connWrite packet.command packet.payload.elems
        if 0 < len then
          writeRounds (packet.length - 1) { packet with
            toprocess := packet.length - len
            pos := len }
        else
          let session ← session
          fail (ascii "Failed to send packet to '" ++ session.clientID ++ ascii "'") :
        SessionM Unit) scene := by
  rcases Nat.exists_eq_succ_of_ne_zero (Nat.ne_of_gt positive) with ⟨rounds, shape⟩
  have whole : packet.payload.subslice 0 packet.length = .ok packet.payload.elems := by
    have bound : 0 ≤ packet.length ∧ packet.length ≤ packet.payload.capacity := by
      rw [GoSlice.capacity]
      omega
    rw [GoSlice.subslice, if_pos bound, List.drop_zero, Nat.sub_zero, sized, List.take_left]
  have started : writePacket packet =
      writeRounds (rounds + 1) { packet with pos := 0, toprocess := packet.length } := by
    rw [writePacket]
    exact congrArg (fun rounds => writeRounds rounds
      { packet with pos := 0, toprocess := packet.length }) shape
  rw [started, writeRounds, if_pos positive]
  change (ofPanic (packet.payload.subslice 0 packet.length) >>= _) scene = _
  rw [whole, ofPanic_ok_bind_apply]
  have fewer : packet.length - 1 = rounds := by omega
  simp only [fewer, Nat.zero_add]

include opened

theorem writePacket_refused (closed : conn.next.1.limit = some 0) :
    exists reason, writePacket packet scene = ⟨[], .error reason, scene.answered conn⟩ := by
  have nothing : conn.next.1.accepts packet.payload.elems = [] := by
    rw [WriteAnswer.accepts, closed]
    rfl
  have written := connWrite_eq opened packet.command packet.payload.elems
  rw [nothing, if_pos rfl, precede_nil] at written
  rw [writePacket_eq positive sized]
  cases failure : conn.next.1.failure with
  | some reason =>
    rw [failure] at written
    have failed : (connWrite packet.command packet.payload.elems scene).outcome =
        .error reason := by
      rw [written]
      rfl
    refine ⟨reason, ?_⟩
    rw [bind_of_error failed, written]
    rfl
  | none =>
    rw [failure] at written
    have returned : connWrite packet.command packet.payload.elems scene =
        ⟨[], .ok 0, scene.answered conn⟩ := written
    rw [bind_of_ok returned]
    exact ⟨_, rfl⟩

theorem writePacket_sends (takes : conn.next.1.limit ≠ some 0) :
    exists bytes, Effect.write packet.command bytes ∈ (writePacket packet scene).effects := by
  have something : conn.next.1.accepts packet.payload.elems ≠ [] := by
    have nonempty : packet.payload.elems ≠ [] := by
      apply List.length_pos_iff.mp
      omega
    rw [WriteAnswer.accepts]
    cases limit : conn.next.1.limit with
    | none => exact nonempty
    | some count =>
      intro empty
      rcases List.take_eq_nil_iff.mp empty with zero | absent
      · exact takes (limit.trans (congrArg some zero))
      · exact nonempty absent
  have written := connWrite_eq opened packet.command packet.payload.elems
  rw [if_neg something] at written
  have member : Effect.write packet.command (conn.next.1.accepts packet.payload.elems) ∈
      (connWrite packet.command packet.payload.elems scene).effects := by
    rw [written]
    exact List.mem_cons_self
  rw [writePacket_eq positive sized]
  exact ⟨_, mem_bind_effects member⟩

end Writing

/-- A connection that accepts every byte. -/
def reliableConn : Connection := ⟨[], {}⟩

def quietHost : Host where
  auth := { flavors := ∅, deviceSecretKey := fun _ _ => .error [], hmac := fun _ _ =>
    ⟨List.replicate 20 0, List.length_replicate⟩ }
  messageSizeLimit := 125
  dial := .ok ()

theorem answered_reliable {scene : Scene} (opened : scene.session.conn = some reliableConn) :
    scene.answered reliableConn = scene := by
  change { scene with session := { scene.session with conn := some reliableConn } } = scene
  rw [← opened]

theorem writePacket_reliable {packet : MqttPacket} {scene : Scene} (positive : 0 < packet.length)
    (sized : packet.length = packet.payload.elems.length)
    (opened : scene.session.conn = some reliableConn) :
    writePacket packet scene =
      ⟨[.write packet.command packet.payload.elems], .ok (), scene⟩ := by
  have nonempty : ¬ packet.payload.elems = [] := by
    intro empty
    rw [sized, empty] at positive
    exact Nat.lt_irrefl 0 positive
  have written : connWrite packet.command packet.payload.elems scene =
      ⟨[.write packet.command packet.payload.elems], .ok packet.payload.elems.length, scene⟩ := by
    rw [connWrite_eq opened, answered_reliable opened]
    change precede (if packet.payload.elems = [] then [] else _) _ = _
    rw [if_neg nonempty]
    rfl
  have finished : forall rounds, writeRounds rounds { packet with
      toprocess := packet.length - packet.payload.elems.length
      pos := packet.payload.elems.length } scene = ⟨[], .ok (), scene⟩ := by
    intro rounds
    cases rounds with
    | zero => rfl
    | succ rounds =>
      have done : ¬ 0 < packet.length - packet.payload.elems.length := by omega
      rw [writeRounds, if_neg done]
      rfl
  have sent : 0 < packet.payload.elems.length := by omega
  rw [writePacket_eq positive sized, bind_of_ok written, if_pos sent, finished]
  rfl

theorem filling_length_pos (packet : MqttPacket) {front : List UInt8} (back : List UInt8)
    (nonempty : front ≠ []) : 0 < (packet.filling front back).length := by
  have size := List.length_pos_iff.mpr nonempty
  change 0 < front.length + back.length
  omega

theorem built_of_fill {packet started : MqttPacket} {fill : PacketM Effect Unit}
    {front back : List UInt8}
    (short : (remainingBytes 5 packet.remainingLength).length ≠ 5)
    (filled : fill (filling { packet with
          remainingCount := (remainingBytes 5 packet.remainingLength).length }
        (packet.headerByte :: remainingBytes 5 packet.remainingLength)
        (List.replicate packet.remainingLength 0)) = ⟨[], .ok (), started.filling front back⟩) :
    (do ignore initializePacket; fill : PacketM Effect Unit) packet =
      ⟨[], .ok (), started.filling front back⟩ := by
  rw [bind_of_ok (ignore_of_ok
    (initializePacket_filling packet short)), filled]
  rfl

theorem sendPacket_reliable {packet started : MqttPacket} {fill : PacketM Effect Unit}
    {front back : List UInt8} {scene : Scene}
    (short : (remainingBytes 5 packet.remainingLength).length ≠ 5)
    (filled : fill (filling { packet with
          remainingCount := (remainingBytes 5 packet.remainingLength).length }
        (packet.headerByte :: remainingBytes 5 packet.remainingLength)
        (List.replicate packet.remainingLength 0)) = ⟨[], .ok (), started.filling front back⟩)
    (nonempty : front ≠ []) (opened : scene.session.conn = some reliableConn) :
    sendPacket packet fill scene = ⟨[.write started.command (front ++ back)], .ok (), scene⟩ := by
  rw [sendPacket_of_built (built_of_fill short filled),
    writePacket_reliable (filling_length_pos started back nonempty) List.length_append.symm opened]
  rfl

def SendsFrame (command : UInt8) (send : SessionM Unit) : Prop :=
  exists packet : MqttPacket, packet.command = command ∧ 0 < packet.length ∧
    packet.length = packet.payload.elems.length ∧ forall scene, send scene = writePacket packet scene

namespace SendsFrame

variable {command : UInt8} {send : SessionM Unit} {scene : Scene} {conn : Connection}

theorem refused (frame : SendsFrame command send) (opened : scene.session.conn = some conn)
    (closed : conn.next.1.limit = some 0) :
    exists reason, send scene = ⟨[], .error reason, scene.answered conn⟩ := by
  rcases frame with ⟨packet, _, positive, sized, same⟩
  rw [same]
  exact writePacket_refused positive sized opened closed

theorem sends (frame : SendsFrame command send) (opened : scene.session.conn = some conn)
    (takes : conn.next.1.limit ≠ some 0) :
    exists bytes, Effect.write command bytes ∈ (send scene).effects := by
  rcases frame with ⟨packet, rfl, positive, sized, same⟩
  rw [same]
  exact writePacket_sends positive sized opened takes

theorem reliable (frame : SendsFrame command send)
    (opened : scene.session.conn = some reliableConn) :
    exists bytes, send scene = ⟨[.write command bytes], .ok (), scene⟩ := by
  rcases frame with ⟨packet, rfl, positive, sized, same⟩
  exact ⟨_, (same scene).trans (writePacket_reliable positive sized opened)⟩

theorem of_fill (packet : MqttPacket) {encoded : List UInt8}
    (encodes : remainingBytes 5 packet.remainingLength = encoded)
    (short : encoded.length ≠ 5) {fill : PacketM Effect Unit} {started : MqttPacket}
    {front back : List UInt8}
    (filled : fill (filling { packet with remainingCount := encoded.length }
        (packet.headerByte :: encoded) (List.replicate packet.remainingLength 0)) =
      ⟨[], .ok (), started.filling front back⟩) (nonempty : front ≠ []) :
    SendsFrame started.command (sendPacket packet fill) := by
  subst encodes
  exact ⟨started.filling front back, rfl, filling_length_pos started back nonempty,
    List.length_append.symm, sendPacket_of_built (built_of_fill short filled)⟩

end SendsFrame

theorem remainingBytes_one : remainingBytes 5 1 = [1] := by decide

theorem remainingBytes_two : remainingBytes 5 2 = [2] := by decide

theorem sendPingRsp_frame : SendsFrame PINGRESP sendPingRsp :=
  .of_fill { command := PINGRESP, remainingLength := 1 } remainingBytes_one (by decide)
    (pure_apply ()) (List.cons_ne_nil _ _)

theorem assignTwo_filling (started : MqttPacket) (front : List UInt8) (first second : UInt8) :
    (do
      assignAt 0 first
      assignAt 1 second : PacketM Effect Unit)
      (started.filling front (List.replicate 2 0)) =
      ⟨[], .ok (), started.filling front [first, second]⟩ := by
  rw [bind_of_ok (assignAt_filling started front (by decide) _),
    assignAt_filling started front (by simp) _]
  rfl

theorem sendTwoBytes_frame (command first second : UInt8) :
    SendsFrame command (sendPacket { command := command, remainingLength := 2 } (do
      assignAt 0 first
      assignAt 1 second)) :=
  .of_fill { command := command, remainingLength := 2 } remainingBytes_two (by decide)
    (assignTwo_filling { command := command, remainingLength := 2, remainingCount := 1 }
      [headerByte { command := command, remainingLength := 2 }, 2] first second)
    (List.cons_ne_nil _ _)

theorem sendConnAck_frame (ack result : UInt8) : SendsFrame CONNACK (sendConnAck ack result) :=
  sendTwoBytes_frame CONNACK ack result

theorem sendConnAck_reliable (ack result : UInt8) {scene : Scene}
    (opened : scene.session.conn = some reliableConn) :
    sendConnAck ack result scene =
      ⟨[.write CONNACK [CONNACK, 2, ack, result]], .ok (), scene⟩ := by
  have sent := @sendPacket_reliable { command := CONNACK, remainingLength := 2 } _ _ _ _ scene
    (by rw [remainingBytes_two]; decide) (assignTwo_filling _ _ ack result)
    (List.cons_ne_nil _ _) opened
  rw [remainingBytes_two] at sent
  exact sent

theorem sendCommandWithPacketID_frame (command : UInt8) (pid : UInt16) :
    SendsFrame command (sendCommandWithPacketID command pid false) :=
  sendTwoBytes_frame command _ _

theorem fillSubAck_filling (started : MqttPacket) (front : List UInt8) (pid : UInt16)
    (payload : List UInt8) :
    (do
      ignore (writeUint16 pid)
      when (payload ≠ []) (ignore (writeBytes payload)) :
        PacketM Effect Unit) (started.filling front (List.replicate (2 + payload.length) 0)) =
      ⟨[], .ok (), started.filling (front ++ uint16Bytes pid ++ payload) []⟩ := by
  have room : List.replicate (2 + payload.length) (0 : UInt8) =
      0 :: 0 :: (List.replicate payload.length 0 ++ []) := by
    rw [Nat.add_comm, List.replicate_succ, List.replicate_succ, List.append_nil]
  rw [room, bind_of_ok
    (ignore_of_ok (writeUint16_filling started front 0 0 _ pid))]
  by_cases empty : payload = []
  · subst empty
    rw [when_neg (not_not.mpr rfl), List.append_nil, List.append_nil]
    rfl
  · rw [when_pos empty, ignore_of_ok
      (writeBytes_filling started _ [] List.length_replicate)]
    rfl

theorem sendSubAck_frame (pid : UInt16) : SendsFrame SUBACK (sendSubAck pid []) :=
  .of_fill { command := SUBACK, remainingLength := 2 } remainingBytes_two (by decide)
    (fillSubAck_filling { command := SUBACK, remainingLength := 2, remainingCount := 1 }
      [headerByte { command := SUBACK, remainingLength := 2 }, 2] pid [])
    (List.cons_ne_nil _ _)

end Mqtt
end Sentel
