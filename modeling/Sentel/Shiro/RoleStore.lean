import Mathlib.Data.Set.Basic
import Sentel.Shiro.CacheCoherence

namespace Sentel
namespace Shiro

open Library

/-!
# What the role store is told

A role store should hold, for every role, the identifiers that were given to
the role and not taken back.  This table is kept beside the security manager,
call by call.  The manager heeds two calls only: a role that is added and a role
that is removed.  The permissions that are created for a role are not attached
to it, since the adaptor appends the old identifiers instead of the new ones,
and nothing is ever taken from a role.  Besides, roles that share an array can
overwrite each other's identifiers.
-/

/-! ## The table -/

abbrev RoleTable := GoString -> Option (Set GoString)

namespace RoleTable

def empty : RoleTable := fun _ => none

def revise (table : RoleTable) (roleName : GoString) (change : Set GoString -> Set GoString) :
    RoleTable :=
  Function.update table roleName ((table roleName).map change)

def addRole (table : RoleTable) (roleName : GoString) (permIds : List GoString) : RoleTable :=
  Function.update table roleName
    (some ((table roleName).getD ∅ ∪ {permId | permId ∈ permIds}))

def tell (table : RoleTable) (manager : SecurityManager) : SecurityCall -> RoleTable
  | .addRole role =>
    table.addRole role.name (manager.adaptor.memory.read role.permissionIds)
  | .removeRole roleName => Function.update table roleName none
  | .addRolePermissions roleName permissions =>
    table.revise roleName (· ∪ {permId | permId ∈ (manager.addEach permissions).1})
  | .removeRolePermissions roleName permissions =>
    table.revise roleName (· \ {permId | permId ∈ permissions.map Permission.permissionId})
  | .removeRoleAllPermissions roleName => table.revise roleName (fun _ => ∅)
  | .forPrincipal _ => table
  | .getRole _ => table
  | .getRolePermissions _ => table
  | .expireRole _ => table
  | .expirePermission _ => table

def heed (table : RoleTable) (manager : SecurityManager) : SecurityCall -> RoleTable
  | .addRole role =>
    table.addRole role.name (manager.adaptor.memory.read role.permissionIds)
  | .removeRole roleName => Function.update table roleName none
  | _ => table

theorem eq_revise_iff {table : RoleTable} {roleName : GoString}
    {change : Set GoString -> Set GoString} :
    table = table.revise roleName change ↔
      forall permIds, table roleName = some permIds -> change permIds = permIds := by
  rw [revise, eq_comm, Function.update_eq_self_iff]
  cases table roleName with
  | none => exact iff_of_true rfl (fun _ none => nomatch none)
  | some held => simp [eq_comm]

end RoleTable

/-! ## The manager -/

namespace LocalAdaptor

structure SameRoles (adaptor after : LocalAdaptor) : Prop where
  roles : after.roles = adaptor.roles
  memory : after.memory = adaptor.memory

variable {adaptor after later : LocalAdaptor}

theorem SameRoles.trans (first : adaptor.SameRoles after) (second : after.SameRoles later) :
    adaptor.SameRoles later :=
  ⟨second.roles.trans first.roles, second.memory.trans first.memory⟩

theorem SameRoles.shownRole (same : adaptor.SameRoles after) :
    after.shownRole = adaptor.shownRole := by
  unfold LocalAdaptor.shownRole
  rw [same.roles, same.memory]

theorem SameRoles.appends (same : adaptor.SameRoles after) {roleName : GoString}
    (appends : after.Appends roleName (after.getRolePermissions roleName) later) :
    adaptor.Appends roleName (adaptor.getRolePermissions roleName) later := by
  have ids : after.getRolePermissions roleName = adaptor.getRolePermissions roleName := by
    rw [getRolePermissions, getRolePermissions, same.roles, same.memory]
  rw [ids] at appends
  cases appends with
  | extended found memory roles =>
    rw [same.roles] at found
    rw [same.memory] at memory
    rw [same.memory, same.roles] at roles
    exact .extended found memory roles
  | missing missing memory others =>
    rw [same.roles] at missing others
    exact .missing missing (memory.trans same.memory) others

theorem SameRoles.placed (same : adaptor.SameRoles after) (placed : adaptor.RolesPlaced) :
    after.RolesPlaced := by
  rwa [RolesPlaced, same.roles, same.memory]

theorem addPermissions_sameRoles (adaptor : LocalAdaptor) (permissions : List Permission) :
    adaptor.SameRoles (adaptor.addPermissions permissions).2 := by
  induction permissions generalizing adaptor with
  | nil => exact ⟨rfl, rfl⟩
  | cons permission rest ih =>
    have first : adaptor.SameRoles (adaptor.storePermission permission) := ⟨rfl, rfl⟩
    exact first.trans (ih _)

theorem setPrincipalPermissions_sameRoles (adaptor : LocalAdaptor) (principal : Principal)
    (permissions : List Permission) :
    adaptor.SameRoles (adaptor.setPrincipalPermissions principal permissions) := by
  have added := adaptor.addPermissions_sameRoles permissions
  rw [setPrincipalPermissions]
  split <;> exact ⟨added.roles, added.memory⟩

theorem addPrincipalPermissions_sameRoles (adaptor : LocalAdaptor) (principal : Principal)
    (permissions : List Permission) :
    adaptor.SameRoles (adaptor.addPrincipalPermissions principal permissions) := by
  have entered : adaptor.SameRoles (adaptor.enter principal) := by
    rw [enter]
    split <;> exact ⟨rfl, rfl⟩
  have added := entered.trans (addPermissions_sameRoles _ permissions)
  rw [addPrincipalPermissions]
  split <;> exact ⟨added.roles, added.memory⟩

theorem removePrincipalPermissions_sameRoles (adaptor : LocalAdaptor) (range : MapOrder GoString)
    (principal : Principal) (permissions : List Permission) :
    adaptor.SameRoles (adaptor.removePrincipalPermissions range principal permissions) := by
  rw [removePrincipalPermissions]
  split
  · exact ⟨rfl, rfl⟩
  · exact setPrincipalPermissions_sameRoles adaptor principal _

end LocalAdaptor

def SecurityCall.role : SecurityCall -> Option GoString
  | .addRole role => some role.name
  | .removeRole roleName => some roleName
  | .addRolePermissions roleName _ => some roleName
  | .removeRolePermissions roleName _ => some roleName
  | .removeRoleAllPermissions roleName => some roleName
  | _ => none

namespace SecurityManager

variable {manager : SecurityManager}

def stored (manager : SecurityManager) : RoleTable :=
  fun roleName => (manager.roleSource roleName).map (fun shown => {permId | permId ∈ shown.2})

/-- A call appends to a role without overwriting what another role shows. -/
def Apart (manager : SecurityManager) : SecurityCall -> Prop
  | .addRole role =>
    manager.adaptor.SparesOthers role.name (manager.adaptor.memory.read role.permissionIds)
  | .addRolePermissions roleName _ =>
    manager.adaptor.SparesOthers roleName (manager.adaptor.getRolePermissions roleName)
  | _ => True

/-- The slice that is handed over is part of the memory. -/
def Handed (manager : SecurityManager) : SecurityCall -> Prop
  | .addRole role => manager.adaptor.memory.Holds role.permissionIds
  | _ => True

variable {after : SecurityManager} {roleName : GoString}

theorem addEach_sameRoles (permissions : List Permission) :
    manager.adaptor.SameRoles (manager.addEach permissions).2.adaptor := by
  induction permissions generalizing manager with
  | nil => exact ⟨rfl, rfl⟩
  | cons permission rest ih =>
    exact (manager.adaptor.addPermissions_sameRoles [permission]).trans
      (@ih (PermissionManager.addPermission manager permission).2)

theorem addRolePermissions_appends (manager : SecurityManager) (roleName : GoString)
    (permissions : List Permission) :
    manager.adaptor.Appends roleName (manager.adaptor.getRolePermissions roleName)
      (manager.addRolePermissions roleName permissions).adaptor :=
  (addEach_sameRoles permissions).appends
    ((manager.addEach permissions).2.adaptor.addRolePermissions_appends roleName
      (manager.addEach permissions).1)

theorem addRolePermissions_missing {roleName : GoString}
    (missing : manager.adaptor.roles.lookup roleName = none) (permissions : List Permission) :
    (manager.addRolePermissions roleName permissions).adaptor.roles.lookup roleName = none := by
  refine LocalAdaptor.addRolePermissions_missing ?_ (manager.addEach permissions).1
  rw [(addEach_sameRoles permissions).roles, missing]

theorem apply_sameRoles_of_none {call : SecurityCall} (none : call.role = none) :
    manager.adaptor.SameRoles (manager.apply call).adaptor := by
  cases call with
  | forPrincipal call =>
    cases call with
    | addPrincipalPermissions principal permissions =>
      exact LocalAdaptor.addPrincipalPermissions_sameRoles _ principal permissions
    | removePrincipalPermissions range principal permissions =>
      exact LocalAdaptor.removePrincipalPermissions_sameRoles _ range principal permissions
    | removePrincipal principal => exact ⟨rfl, rfl⟩
  | getRole roleName =>
    rw [apply, getRole_adaptor]
    exact ⟨rfl, rfl⟩
  | getRolePermissions roleName =>
    rw [apply, getRolePermissions, getEach_adaptor]
    exact ⟨rfl, rfl⟩
  | expireRole roleName | expirePermission permId => exact ⟨rfl, rfl⟩
  | addRole role | removeRole roleName | addRolePermissions roleName permissions => cases none
  | removeRolePermissions roleName permissions | removeRoleAllPermissions roleName => cases none

theorem removeRoleAllPermissions_eq (manager : SecurityManager) (roleName : GoString) :
    manager.removeRoleAllPermissions roleName = manager := by
  rw [removeRoleAllPermissions, RoleManager.removeRolePermissions,
    LocalAdaptor.removeRolePermissions_eq]

theorem apply_placed (placed : manager.adaptor.RolesPlaced) {call : SecurityCall}
    (handed : manager.Handed call) : (manager.apply call).adaptor.RolesPlaced := by
  cases call with
  | addRole role => exact LocalAdaptor.addRole_placed placed handed
  | removeRole roleName => exact manager.adaptor.removeRole_placed placed roleName
  | addRolePermissions roleName permissions =>
    exact LocalAdaptor.addRolePermissions_placed ((addEach_sameRoles permissions).placed placed)
      roleName (manager.addEach permissions).1
  | removeRolePermissions roleName permissions => exact placed
  | removeRoleAllPermissions roleName =>
    rw [apply, removeRoleAllPermissions_eq]
    exact placed
  | forPrincipal call | getRole roleName | getRolePermissions roleName =>
    exact (apply_sameRoles_of_none rfl).placed placed
  | expireRole roleName | expirePermission permId => exact placed

theorem apply_others_iff (placed : manager.adaptor.RolesPlaced) (call : SecurityCall) :
    (forall roleName, call.role ≠ some roleName ->
      (manager.apply call).roleSource roleName = manager.roleSource roleName) ↔
      manager.Apart call := by
  have named (name : GoString) (after : SecurityManager) :
      (forall roleName, some name ≠ some roleName ->
        after.roleSource roleName = manager.roleSource roleName) ↔
      forall roleName, roleName ≠ name ->
        after.adaptor.shownRole roleName = manager.adaptor.shownRole roleName :=
    forall_congr' (fun roleName => imp_congr_left
      ⟨fun other same => other (congrArg some same.symm), fun other same => other (Option.some.inj same).symm⟩)
  cases call with
  | addRole role =>
    exact (named role.name _).trans ((manager.adaptor.addRole_appends role).others_iff placed)
  | addRolePermissions roleName permissions =>
    exact (named roleName _).trans
      ((manager.addRolePermissions_appends roleName permissions).others_iff placed)
  | removeRole roleName =>
    refine iff_of_true ((named roleName _).mpr (fun name different => ?_)) True.intro
    exact (congrFun (manager.adaptor.removeRole_shownRole roleName) name).trans
      (Function.update_of_ne different _ _)
  | removeRolePermissions roleName permissions => exact iff_of_true (fun _ _ => rfl) True.intro
  | removeRoleAllPermissions roleName =>
    rw [apply, removeRoleAllPermissions_eq]
    exact iff_of_true (fun _ _ => rfl) True.intro
  | forPrincipal call | getRole name | getRolePermissions name =>
    exact iff_of_true (fun roleName _ => congrFun (apply_sameRoles_of_none rfl).shownRole roleName)
      True.intro
  | expireRole name | expirePermission permId => exact iff_of_true (fun _ _ => rfl) True.intro

theorem stored_of_update {answer : Option (GoString × List GoString)}
    (source : after.roleSource = Function.update manager.roleSource roleName answer) :
    after.stored = Function.update manager.stored roleName
      (answer.map (fun shown => {permId | permId ∈ shown.2})) := by
  funext sought
  rw [stored, source]
  by_cases same : sought = roleName
  · rw [same, Function.update_self, Function.update_self]
  · rw [Function.update_of_ne same, Function.update_of_ne same]
    rfl

theorem stored_of_roleSource (source : after.roleSource = manager.roleSource) :
    after.stored = manager.stored := by
  unfold stored
  rw [source]

theorem apply_roleSource (placed : manager.adaptor.RolesPlaced) {call : SecurityCall}
    (apart : manager.Apart call) (named : call.role = some roleName) :
    (manager.apply call).roleSource =
      Function.update manager.roleSource roleName ((manager.apply call).roleSource roleName) := by
  refine Function.eq_update_iff.mpr ⟨rfl, fun name different => ?_⟩
  refine (apply_others_iff placed call).mpr apart name (fun same => different ?_)
  exact Option.some.inj (same.symm.trans named)

theorem stored_addRole (placed : manager.adaptor.RolesPlaced) {role : Role}
    (apart : manager.Apart (.addRole role)) :
    (RoleManager.addRole manager role).stored =
      manager.stored.addRole role.name (manager.adaptor.memory.read role.permissionIds) := by
  have own : (RoleManager.addRole manager role).roleSource role.name = _ :=
    manager.adaptor.addRole_shownRole_self role
  have source := apply_roleSource placed apart rfl
  rw [apply, own] at source
  rw [stored_of_update source, RoleTable.addRole, LocalAdaptor.getRolePermissions, stored,
    roleSource, LocalAdaptor.shownRole]
  congr 1
  cases manager.adaptor.roles.lookup role.name with
  | none => simp
  | some held =>
    apply congrArg some
    ext permId
    exact List.mem_append

theorem stored_addRolePermissions (placed : manager.adaptor.RolesPlaced)
    {permissions : List Permission} (apart : manager.Apart (.addRolePermissions roleName permissions)) :
    (manager.addRolePermissions roleName permissions).stored = manager.stored := by
  have own : (manager.addRolePermissions roleName permissions).roleSource roleName = _ :=
    (manager.addRolePermissions_appends roleName permissions).shownRole_self
      (fun missing => addRolePermissions_missing missing permissions)
  have source := apply_roleSource placed apart rfl
  rw [apply, own] at source
  rw [stored_of_update source]
  apply update_of_eq
  rw [stored, roleSource]
  cases manager.adaptor.shownRole roleName with
  | none => rfl
  | some shown =>
    apply congrArg some
    ext permId
    simp

theorem stored_apply (placed : manager.adaptor.RolesPlaced) {call : SecurityCall}
    (apart : manager.Apart call) :
    (manager.apply call).stored = manager.stored.heed manager call := by
  cases call with
  | addRole role => exact stored_addRole placed apart
  | removeRole roleName =>
    have source : (RoleManager.removeRole manager roleName).roleSource = _ :=
      manager.adaptor.removeRole_shownRole roleName
    exact stored_of_update source
  | addRolePermissions roleName permissions => exact stored_addRolePermissions placed apart
  | removeRolePermissions roleName permissions => rfl
  | removeRoleAllPermissions roleName =>
    rw [apply, removeRoleAllPermissions_eq]
    rfl
  | forPrincipal call | getRole roleName | getRolePermissions roleName =>
    exact stored_of_roleSource (apply_sameRoles_of_none rfl).shownRole
  | expireRole roleName | expirePermission permId => rfl

theorem getRolePermissions_of_empty (empty : manager.stored roleName = some ∅) :
    (manager.getRolePermissions roleName).1 = [] := by
  rcases Option.map_eq_some_iff.mp empty with ⟨shown, found, none⟩
  rcases Option.map_eq_some_iff.mp found with ⟨role, stored, rfl⟩
  have nothing : manager.adaptor.memory.read role.permissionIds = [] :=
    List.eq_nil_iff_forall_not_mem.mpr (Set.eq_empty_iff_forall_notMem.mp none)
  rw [getRolePermissions, RoleManager.getRolePermissions, LocalAdaptor.getRolePermissions, stored]
  dsimp only
  rw [nothing]
  rfl

/-- The calls that ask for nothing the manager would not do: permissions are
created for a role that holds their identifiers already, and taken from a role
that does not hold them. -/
def Harmless (manager : SecurityManager) : SecurityCall -> Prop
  | .addRolePermissions roleName permissions => forall role,
      manager.adaptor.roles.lookup roleName = some role ->
        forall permId, permId ∈ (manager.addEach permissions).1 ->
          permId ∈ manager.adaptor.memory.read role.permissionIds
  | .removeRolePermissions roleName permissions => forall role,
      manager.adaptor.roles.lookup roleName = some role ->
        forall permission, permission ∈ permissions ->
          permission.permissionId ∉ manager.adaptor.memory.read role.permissionIds
  | .removeRoleAllPermissions roleName => forall role,
      manager.adaptor.roles.lookup roleName = some role ->
        manager.adaptor.memory.read role.permissionIds = []
  | _ => True

theorem stored_eq_revise_iff {change : Set GoString -> Set GoString} :
    manager.stored = manager.stored.revise roleName change ↔
      forall role, manager.adaptor.roles.lookup roleName = some role ->
        change {permId | permId ∈ manager.adaptor.memory.read role.permissionIds} =
          {permId | permId ∈ manager.adaptor.memory.read role.permissionIds} := by
  rw [RoleTable.eq_revise_iff]
  constructor
  · intro kept role found
    refine kept _ ?_
    rw [stored, roleSource, LocalAdaptor.shownRole, found]
    rfl
  · intro kept permIds held
    rcases Option.map_eq_some_iff.mp held with ⟨shown, found, rfl⟩
    rcases Option.map_eq_some_iff.mp found with ⟨role, stored, rfl⟩
    exact kept role stored

theorem heed_eq_tell_iff (call : SecurityCall) :
    manager.stored.heed manager call = manager.stored.tell manager call ↔ manager.Harmless call := by
  cases call with
  | addRolePermissions roleName permissions =>
    refine stored_eq_revise_iff.trans (forall_congr' fun role => imp_congr_right fun _ => ?_)
    exact Set.union_eq_left
  | removeRolePermissions roleName permissions =>
    refine stored_eq_revise_iff.trans (forall_congr' fun role => imp_congr_right fun _ => ?_)
    constructor
    · intro same permission member held
      have kept := same.ge held
      exact kept.2 (List.mem_map_of_mem member)
    · intro apart
      refine Set.Subset.antisymm (fun _ both => both.1) (fun _ held => ⟨held, fun listed => ?_⟩)
      rcases List.mem_map.mp listed with ⟨permission, member, rfl⟩
      exact apart permission member held
  | removeRoleAllPermissions roleName =>
    refine stored_eq_revise_iff.trans (forall_congr' fun role => imp_congr_right fun _ => ?_)
    rw [eq_comm, Set.eq_empty_iff_forall_notMem, List.eq_nil_iff_forall_not_mem]
    rfl
  | addRole role | removeRole roleName | forPrincipal call => exact iff_of_true rfl True.intro
  | getRole roleName | getRolePermissions roleName => exact iff_of_true rfl True.intro
  | expireRole roleName | expirePermission permId => exact iff_of_true rfl True.intro

end SecurityManager

/-! ## Runs -/

structure ToldManager where
  manager : SecurityManager
  table : RoleTable

namespace ToldManager

def calls (memory : Memory GoString) : Machine ToldManager SecurityCall where
  initial := ⟨newSecurityManager memory, .empty⟩
  step := fun told call => some ⟨told.manager.apply call, told.table.tell told.manager call⟩

/-- The roles are those of the table and hold what the table says; a role that
should hold nothing has no permissions. -/
structure Kept (told : ToldManager) : Prop where
  stored : told.manager.stored = told.table
  emptied : forall roleName, told.table roleName = some ∅ ->
    (told.manager.getRolePermissions roleName).1 = []

/-- A call for one role does not change another. -/
def OthersKept (told : ToldManager) (call : SecurityCall) : Prop :=
  forall roleName, call.role ≠ some roleName ->
    (told.manager.apply call).roleSource roleName = told.manager.roleSource roleName

theorem kept_iff {told : ToldManager} : told.Kept ↔ told.manager.stored = told.table := by
  constructor
  · exact Kept.stored
  · intro same
    refine ⟨same, fun roleName nothing => ?_⟩
    rw [← same] at nothing
    exact SecurityManager.getRolePermissions_of_empty nothing

/-- Whatever slices are handed over, the store keeps what it is told and no call
changes another role exactly when no call overwrites what another role shows and
each call is harmless. -/
theorem kept_throughout_iff (memory : Memory GoString) (history : List SecurityCall)
    (handed : (calls memory).Allowed (fun told => told.manager.Handed) (calls memory).initial
      history) :
    (calls memory).Allowed OthersKept (calls memory).initial history ∧
        (calls memory).Throughout Kept (calls memory).initial history ↔
      (calls memory).Allowed (fun told call => told.manager.Apart call ∧ told.manager.Harmless call)
        (calls memory).initial history := by
  have start : (calls memory).initial.manager.adaptor.RolesPlaced :=
    fun _ _ stored => (nomatch stored)
  have keeps : forall {told : ToldManager} {call : SecurityCall} {next : ToldManager},
      told.manager.adaptor.RolesPlaced -> told.manager.Handed call ∧ told.manager.Apart call ->
        (calls memory).step told call = some next -> next.manager.adaptor.RolesPlaced := by
    intro told call next placed given taken
    cases taken
    exact SecurityManager.apply_placed placed given.1
  have others : (calls memory).Allowed OthersKept (calls memory).initial history ↔
      (calls memory).Allowed (fun told => told.manager.Apart) (calls memory).initial history := by
    have both : (calls memory).Allowed (fun told call => told.manager.Handed call ∧
        told.OthersKept call) (calls memory).initial history ↔ _ :=
      Machine.allowed_congr keeps (fun placed =>
        and_congr_right (fun _ => SecurityManager.apply_others_iff placed _)) start history
    rw [Machine.allowed_and, Machine.allowed_and, and_iff_right handed, and_iff_right handed] at both
    exact both
  rw [others, Machine.allowed_and]
  refine and_congr_right (fun apart => ?_)
  refine Machine.throughout_iff_allowed_given (fun placed given _ => keeps placed given) ?_
    (fun _ _ stuck => nomatch stuck) start (kept_iff.mpr rfl) (Machine.allowed_and.mpr ⟨handed, apart⟩)
  intro told call next placed kept given taken
  cases taken
  rw [kept_iff, ← kept.stored, SecurityManager.stored_apply placed given.2]
  exact SecurityManager.heed_eq_tell_iff call

def oneArray : Memory GoString := .ofList [ascii "x"]

def wholeArray : Slice := .full 0 1

def sharingRoles : List SecurityCall :=
  [.addRole ⟨ascii "r", wholeArray⟩, .addRole ⟨ascii "s", wholeArray⟩,
    .addRole ⟨ascii "r", wholeArray⟩]

/-- The array has no room, so that the first role gets a new one. -/
theorem sharing_roles_kept :
    (calls oneArray).Allowed OthersKept (calls oneArray).initial sharingRoles ∧
      (calls oneArray).Throughout Kept (calls oneArray).initial sharingRoles := by
  refine (kept_throughout_iff oneArray sharingRoles ?_).mpr ?_
  · exact ⟨Nat.le_refl 1, Nat.le_refl 1, Nat.le_refl 1, True.intro⟩
  · refine ⟨⟨?_, True.intro⟩, ⟨?_, True.intro⟩, ⟨?_, True.intro⟩, True.intro⟩
    · exact fun name other _ _ role found => nomatch found
    · exact fun name other _ _ role found => nomatch found
    · intro name other _ _ role found
      cases found
      exact fun room => absurd room (by decide)

/-- A role keeps its permission when all of its permissions are removed. -/
theorem removed_permission_kept :
    ¬ (calls oneArray).Throughout Kept (calls oneArray).initial
      [.addRole ⟨ascii "r", wholeArray⟩, .removeRoleAllPermissions (ascii "r")] := by
  rintro ⟨_, _, kept⟩
  have held : ascii "x" ∈ ({permId | permId ∈ [ascii "x"]} : Set GoString) := List.mem_cons_self
  have same : some {permId | permId ∈ [ascii "x"]} = some (∅ : Set GoString) :=
    congrFun kept.stored (ascii "r")
  rw [Option.some.inj same] at held
  exact held

end ToldManager

end Shiro
end Sentel
