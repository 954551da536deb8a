import Mathlib.Data.List.Nodup
import Sentel.Mqtt.Publishing

namespace Sentel
namespace Mqtt

open Library Base SessionMgr SessionM

/-!
# Packet identifiers

A session numbers the messages that ask for an acknowledgement with a 16-bit
counter.  A call of `makePacketID` gives out the counter and moves it on.  At
the largest value it gives out zero instead and moves the counter to zero, so
the next call gives out zero once more.  The counter of a new session is zero
as well.  A client therefore sees the identifier zero, which the protocol
forbids, and sees it twice in succession at every wrap.
-/

/-- The identifiers of consecutive calls of `makePacketID`. -/
def packetIDs : Nat -> SessionM (List UInt16)
  | 0 => pure []
  | count + 1 => do
    let pid ← makePacketID
    let later ← packetIDs count
    return pid :: later

def givenOut (counter : UInt16) : UInt16 :=
  if counter < 65535 then counter else 0

theorem drawPacketID_eq (counter : UInt16) :
    drawPacketID counter = (givenOut counter, counter + 1) := by
  rw [drawPacketID, givenOut]
  by_cases below : counter < 65535
  · rw [if_pos below, if_pos below]
  · have largest : counter = 65535 := by
      have bound := counter.toNat_lt
      rw [UInt16.lt_iff_toNat_lt] at below
      apply UInt16.toNat_inj.mp
      change ¬ counter.toNat < 65535 at below
      change counter.toNat = 65535
      omega
    rw [if_neg below, if_neg below, largest]
    rfl

theorem makePacketID_counts (scene : Scene) :
    makePacketID scene =
      ⟨[], .ok (givenOut scene.session.nextPacketID),
        scene.counted (scene.session.nextPacketID + 1)⟩ := by
  rw [makePacketID_eq, drawPacketID_eq]

theorem packetIDs_eq (count : Nat) (scene : Scene) :
    packetIDs count scene =
      ⟨[], .ok ((List.range count).map (fun index =>
          givenOut (scene.session.nextPacketID + UInt16.ofNat index))),
        scene.counted (scene.session.nextPacketID + UInt16.ofNat count)⟩ := by
  induction count generalizing scene with
  | zero =>
    have same : scene.session.nextPacketID + UInt16.ofNat 0 = scene.session.nextPacketID :=
      UInt16.add_zero _
    rw [same]
    rfl
  | succ count ih =>
    have shifted : forall index, scene.session.nextPacketID + 1 + UInt16.ofNat index =
        scene.session.nextPacketID + UInt16.ofNat (index + 1) := by
      intro index
      rw [UInt16.add_assoc, UInt16.add_comm 1, UInt16.ofNat_add]
      rfl
    rw [packetIDs, Handler.bind_of_ok (makePacketID_counts scene), Handler.precede_nil,
      Handler.bind_of_ok (ih _), Handler.precede_nil, List.range_succ_eq_map, List.map_cons,
      List.map_map]
    change Run.mk [] (.ok (_ :: List.map (fun index =>
      givenOut (scene.session.nextPacketID + 1 + UInt16.ofNat index)) _))
        (scene.counted (scene.session.nextPacketID + 1 + UInt16.ofNat count)) = _
    rw [shifted count]
    simp only [shifted]
    have first : scene.session.nextPacketID + UInt16.ofNat 0 = scene.session.nextPacketID :=
      UInt16.add_zero _
    rw [first]
    rfl

theorem toNat_givenOut (index : Nat) :
    (givenOut (UInt16.ofNat index)).toNat =
      if index % 65536 = 65535 then 0 else index % 65536 := by
  have value : (UInt16.ofNat index).toNat = index % 65536 := UInt16.toNat_ofNat'
  have bound := Nat.mod_lt index (by decide : 0 < 65536)
  rw [givenOut]
  by_cases largest : index % 65536 = 65535
  · have reached : ¬ UInt16.ofNat index < 65535 := by
      rw [UInt16.lt_iff_toNat_lt, value, largest]
      decide
    rw [if_neg reached, if_pos largest]
    rfl
  · have below : UInt16.ofNat index < 65535 := by
      rw [UInt16.lt_iff_toNat_lt, value]
      change index % 65536 < 65535
      omega
    rw [if_pos below, if_neg largest, value]

theorem givenOut_eq_zero_iff (index : Nat) :
    givenOut (UInt16.ofNat index) = 0 ↔ index % 65536 = 0 ∨ index % 65536 = 65535 := by
  rw [← UInt16.toNat_inj, toNat_givenOut]
  change _ = 0 ↔ _
  split <;> omega

def segment (earlier count : Nat) : List UInt16 :=
  (List.range count).map (fun index => givenOut (UInt16.ofNat (earlier + index)))

theorem segment_nonzero_iff (earlier count : Nat) :
    (∀ pid ∈ segment earlier count, pid ≠ 0) ↔
      count = 0 ∨ 0 < earlier % 65536 ∧ earlier % 65536 + count ≤ 65535 := by
  have bound := Nat.mod_lt earlier (by decide : 0 < 65536)
  rw [segment, List.forall_mem_map]
  constructor
  · intro nonzero
    by_cases empty : count = 0
    · exact .inl empty
    · have first := nonzero 0 (List.mem_range.mpr (by omega))
      rw [Ne, givenOut_eq_zero_iff] at first
      refine .inr ⟨by omega, ?_⟩
      by_contra long
      -- the call that finds the largest value of the counter is in the segment
      have last := nonzero (65535 - earlier % 65536) (List.mem_range.mpr (by omega))
      rw [Ne, givenOut_eq_zero_iff] at last
      omega
  · intro between index member
    have inside := List.mem_range.mp member
    rw [Ne, givenOut_eq_zero_iff]
    omega

theorem segment_nodup_iff (earlier count : Nat) :
    (segment earlier count).Nodup ↔ count ≤ 65535 ∧ earlier % 65536 + count ≤ 65536 := by
  have bound := Nat.mod_lt earlier (by decide : 0 < 65536)
  rw [segment, List.nodup_map_iff_inj_on List.nodup_range]
  constructor
  · intro distinct
    by_contra long
    have twice := distinct (65535 - earlier % 65536) (List.mem_range.mpr (by omega))
      ((65536 - earlier % 65536) % 65536) (List.mem_range.mpr (by omega))
      (((givenOut_eq_zero_iff _).mpr (by omega)).trans
        ((givenOut_eq_zero_iff _).mpr (by omega)).symm)
    omega
  · rintro ⟨few, short⟩ first firstMember second secondMember same
    have inFirst := List.mem_range.mp firstMember
    have inSecond := List.mem_range.mp secondMember
    have value := congrArg UInt16.toNat same
    rw [toNat_givenOut, toNat_givenOut] at value
    split at value <;> split at value <;> omega

theorem drop_segment (earlier count : Nat) :
    (segment 0 (earlier + count)).drop earlier = segment earlier count := by
  rw [segment, List.range_add, List.map_append, List.map_map, segment]
  simp only [Nat.zero_add]
  exact List.drop_left' (by rw [List.length_map, List.length_range])

section NewSession

variable (id : ConnId) (conn : Connection) (authNeed : Bool) (packet : MqttPacket)
  (broker : Broker)

theorem packetIDs_new (count : Nat) :
    (packetIDs count ⟨newMqttSession id conn authNeed, packet, broker⟩).outcome =
      .ok (segment 0 count) := by
  have fresh : forall index, (0 : UInt16) + UInt16.ofNat index = UInt16.ofNat (0 + index) := by
    intro index
    rw [UInt16.zero_add, Nat.zero_add]
  rw [packetIDs_eq, segment]
  simp only [← fresh]
  rfl

/-- In the life of a session, the identifiers of consecutive calls are all
different from zero exactly when the calls lie between two wraps, and pairwise
distinct exactly when they do not include both calls of a wrap. -/
theorem makePacketID_distinct_iff (earlier count : Nat) :
    exists pids, (packetIDs (earlier + count)
        ⟨newMqttSession id conn authNeed, packet, broker⟩).outcome = .ok pids ∧
      pids.length = earlier + count ∧
      ((∀ pid ∈ pids.drop earlier, pid ≠ 0) ↔
        count = 0 ∨ 0 < earlier % 65536 ∧ earlier % 65536 + count ≤ 65535) ∧
      ((pids.drop earlier).Nodup ↔ count ≤ 65535 ∧ earlier % 65536 + count ≤ 65536) := by
  refine ⟨segment 0 (earlier + count), packetIDs_new id conn authNeed packet broker _, ?_, ?_⟩
  · rw [segment, List.length_map, List.length_range]
  · rw [drop_segment]
    exact ⟨segment_nonzero_iff earlier count, segment_nodup_iff earlier count⟩

end NewSession

/-- The first identifier is zero, and so are the two at the first wrap. -/
theorem zero_given_out_twice :
    (packetIDs 1 ⟨newMqttSession 0 ⟨[], {}⟩ false, newMqttPacket, newBroker []⟩).outcome =
        .ok [0] ∧
      exists pids, (packetIDs (65535 + 2)
          ⟨newMqttSession 0 ⟨[], {}⟩ false, newMqttPacket, newBroker []⟩).outcome = .ok pids ∧
        pids.drop 65535 = [0, 0] := by
  refine ⟨packetIDs_new 0 ⟨[], {}⟩ false _ _ 1, _, packetIDs_new 0 ⟨[], {}⟩ false _ _ _, ?_⟩
  rw [drop_segment]
  decide

end Mqtt
end Sentel
