import Mathlib.Logic.Function.Basic
import Sentel.Shiro.LocalAdaptor

namespace Sentel
namespace Shiro

open Library

/-!
# Roles that share an array

Two roles that were given slices of one array are not independent: when the
adaptor appends to the slice of one role and the slice has room, the new
identifiers are written into the array, and the other role shows them if its
slice reaches that far.  `AddRole` and `AddRolePermissions` append, and both
leave the other roles alone exactly if no cell that these show is overwritten
with something else.
-/

def Role.shown (memory : Memory GoString) (role : Role) : GoString × List GoString :=
  (role.name, memory.read role.permissionIds)

namespace LocalAdaptor

def shownRole (adaptor : LocalAdaptor) (roleName : GoString) : Option (GoString × List GoString) :=
  (adaptor.roles.lookup roleName).map (Role.shown adaptor.memory)

def RolesPlaced (adaptor : LocalAdaptor) : Prop :=
  forall roleName role, adaptor.roles.lookup roleName = some role ->
    role.name = roleName ∧ adaptor.memory.Holds role.permissionIds

def Spares (adaptor : LocalAdaptor) (roleName : GoString) (permIds : List GoString)
    (slice : Slice) : Prop :=
  forall role, adaptor.roles.lookup roleName = some role ->
    adaptor.memory.Spares role.permissionIds permIds slice

def SparesOthers (adaptor : LocalAdaptor) (roleName : GoString) (permIds : List GoString) : Prop :=
  forall name other, name ≠ roleName -> adaptor.roles.lookup name = some other ->
    adaptor.Spares roleName permIds other.permissionIds

inductive Appends (adaptor : LocalAdaptor) (roleName : GoString) (permIds : List GoString) :
    LocalAdaptor -> Prop
  | extended {after : LocalAdaptor} {role : Role} (found : adaptor.roles.lookup roleName = some role)
      (memory : after.memory = (adaptor.memory.append role.permissionIds permIds).2)
      (roles : after.roles = adaptor.roles.insert roleName
        ⟨roleName, (adaptor.memory.append role.permissionIds permIds).1⟩) :
      Appends adaptor roleName permIds after
  | missing {after : LocalAdaptor} (missing : adaptor.roles.lookup roleName = none)
      (memory : after.memory = adaptor.memory)
      (others : forall name, name ≠ roleName ->
        after.roles.lookup name = adaptor.roles.lookup name) :
      Appends adaptor roleName permIds after

variable {adaptor after : LocalAdaptor} {roleName : GoString} {permIds : List GoString}

theorem addRole_appends (adaptor : LocalAdaptor) (r : Role) :
    adaptor.Appends r.name (adaptor.memory.read r.permissionIds) (adaptor.addRole r) := by
  rw [addRole]
  cases found : adaptor.roles.lookup r.name with
  | some role => exact .extended found rfl rfl
  | none => exact .missing found rfl (fun _ different => AList.lookup_insert_ne different)

theorem addRolePermissions_appends (adaptor : LocalAdaptor) (roleName : GoString)
    (permissons : List GoString) :
    adaptor.Appends roleName (adaptor.getRolePermissions roleName)
      (adaptor.addRolePermissions roleName permissons) := by
  rw [addRolePermissions, getRolePermissions]
  cases found : adaptor.roles.lookup roleName with
  | some role => exact .extended found rfl rfl
  | none => exact .missing found rfl (fun _ _ => rfl)

namespace Appends

variable (appends : adaptor.Appends roleName permIds after)
include appends

theorem read_iff {slice : Slice} (holds : adaptor.memory.Holds slice) :
    after.memory.read slice = adaptor.memory.read slice ↔ adaptor.Spares roleName permIds slice := by
  cases appends with
  | extended found memory _ =>
    rw [memory]
    refine (Memory.read_append_other_iff holds).trans ⟨fun spares _ same => ?_, fun all => all _ found⟩
    cases found.symm.trans same
    exact spares
  | missing missing memory _ =>
    refine iff_of_true (by rw [memory]) (fun role found => ?_)
    rw [missing] at found
    cases found

theorem others {name : GoString} (different : name ≠ roleName) :
    after.roles.lookup name = adaptor.roles.lookup name := by
  cases appends with
  | extended _ _ roles => rw [roles, AList.lookup_insert_ne different]
  | missing _ _ others => exact others name different

theorem others_iff (placed : adaptor.RolesPlaced) :
    (forall name, name ≠ roleName -> after.shownRole name = adaptor.shownRole name) ↔
      adaptor.SparesOthers roleName permIds := by
  have each : forall name other, name ≠ roleName -> adaptor.roles.lookup name = some other ->
      (after.shownRole name = adaptor.shownRole name ↔
        adaptor.Spares roleName permIds other.permissionIds) := by
    intro name other different stored
    rw [← appends.read_iff (placed name other stored).2, shownRole, shownRole,
      appends.others different, stored, Option.map_some, Option.map_some, Option.some_inj,
      Role.shown, Role.shown, Prod.mk.injEq, and_iff_right rfl]
  constructor
  · exact fun kept name other different stored =>
      (each name other different stored).mp (kept name different)
  · intro spares name different
    cases stored : adaptor.roles.lookup name with
    | some other => exact (each name other different stored).mpr (spares name other different stored)
    | none => rw [shownRole, shownRole, appends.others different, stored, Option.map_none, Option.map_none]

theorem holds {slice : Slice} (holds : adaptor.memory.Holds slice) : after.memory.Holds slice := by
  cases appends with
  | extended _ memory _ =>
    rw [memory]
    exact holds.append _ _
  | missing _ memory _ =>
    rw [memory]
    exact holds

theorem rolesPlaced (placed : adaptor.RolesPlaced)
    (own : adaptor.roles.lookup roleName = none -> forall role,
      after.roles.lookup roleName = some role ->
        role.name = roleName ∧ adaptor.memory.Holds role.permissionIds) :
    after.RolesPlaced := by
  intro name other stored
  by_cases same : name = roleName
  · subst same
    cases appends with
    | @extended role found memory roles =>
      rw [roles, AList.lookup_insert] at stored
      cases stored
      rw [memory]
      exact ⟨rfl, Memory.holds_append (placed name role found).2 permIds⟩
    | missing missing memory _ =>
      rw [memory]
      exact own missing other stored
  · rw [appends.others same] at stored
    exact ⟨(placed name other stored).1, appends.holds (placed name other stored).2⟩

end Appends

theorem addRole_placed (placed : adaptor.RolesPlaced) {r : Role}
    (holds : adaptor.memory.Holds r.permissionIds) : (adaptor.addRole r).RolesPlaced := by
  refine (adaptor.addRole_appends r).rolesPlaced placed (fun missing other stored => ?_)
  rw [addRole, missing, AList.lookup_insert] at stored
  cases stored
  exact ⟨rfl, holds⟩

theorem addRolePermissions_missing (missing : adaptor.roles.lookup roleName = none)
    (permissons : List GoString) :
    (adaptor.addRolePermissions roleName permissons).roles.lookup roleName = none := by
  rw [addRolePermissions, missing]
  exact missing

theorem addRolePermissions_placed (placed : adaptor.RolesPlaced) (roleName : GoString)
    (permissons : List GoString) : (adaptor.addRolePermissions roleName permissons).RolesPlaced := by
  refine (adaptor.addRolePermissions_appends roleName permissons).rolesPlaced placed ?_
  intro missing other stored
  cases (addRolePermissions_missing missing permissons).symm.trans stored

/-! ## The roles after a call -/

theorem Appends.shownRole (appends : adaptor.Appends roleName permIds after) {role : Role}
    (found : adaptor.roles.lookup roleName = some role) :
    after.shownRole roleName = some (roleName, adaptor.memory.read role.permissionIds ++ permIds) := by
  cases appends with
  | extended same memory roles =>
    cases found.symm.trans same
    rw [LocalAdaptor.shownRole, roles, AList.lookup_insert, Option.map_some, Role.shown, memory,
      Memory.read_append]
  | missing missing _ _ => cases missing.symm.trans found

theorem addRole_shownRole_self (r : Role) :
    (adaptor.addRole r).shownRole r.name = some (r.name,
      adaptor.getRolePermissions r.name ++ adaptor.memory.read r.permissionIds) := by
  rw [getRolePermissions]
  cases found : adaptor.roles.lookup r.name with
  | some role => exact (adaptor.addRole_appends r).shownRole found
  | none =>
    rw [shownRole, addRole, found]
    dsimp only
    rw [AList.lookup_insert]
    rfl

theorem Appends.shownRole_self
    (appends : adaptor.Appends roleName (adaptor.getRolePermissions roleName) after)
    (missing : adaptor.roles.lookup roleName = none -> after.roles.lookup roleName = none) :
    after.shownRole roleName =
      (adaptor.shownRole roleName).map (fun shown => (roleName, shown.2 ++ shown.2)) := by
  change _ = ((adaptor.roles.lookup roleName).map (Role.shown adaptor.memory)).map _
  cases found : adaptor.roles.lookup roleName with
  | some role =>
    rw [appends.shownRole found, getRolePermissions, found]
    rfl
  | none =>
    rw [LocalAdaptor.shownRole, missing found]
    rfl

theorem removeRole_shownRole (roleName : GoString) :
    (adaptor.removeRole roleName).shownRole = Function.update adaptor.shownRole roleName none := by
  rw [Function.eq_update_iff, removeRole]
  cases found : adaptor.roles.lookup roleName with
  | none => exact ⟨congrArg (Option.map _) found, fun _ _ => rfl⟩
  | some role =>
    refine ⟨?_, fun name different => ?_⟩
    · rw [shownRole, AList.lookup_erase]
      rfl
    · rw [shownRole, AList.lookup_erase_ne different]
      rfl

theorem removeRole_memory (roleName : GoString) :
    (adaptor.removeRole roleName).memory = adaptor.memory := by
  rw [removeRole]
  split <;> rfl

theorem removeRole_placed (placed : adaptor.RolesPlaced) (roleName : GoString) :
    (adaptor.removeRole roleName).RolesPlaced := by
  rw [removeRole]
  split
  · intro name other stored
    by_cases same : name = roleName
    · rw [same, AList.lookup_erase] at stored
      cases stored
    · rw [AList.lookup_erase_ne same] at stored
      exact placed name other stored
  · exact placed

end LocalAdaptor

end Shiro
end Sentel
