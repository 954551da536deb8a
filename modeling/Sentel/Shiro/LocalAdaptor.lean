import Sentel.Library.GoMap
import Sentel.Library.GoString
import Sentel.Library.Handler
import Sentel.Library.SliceMemory

namespace Sentel
namespace Shiro

open Library

/-!
# The local adaptor

The adaptor keeps the policies of the security manager in memory.  All
permissions stand in one table under their identifiers.  A principal holds a
list of identifiers and a role holds another, so neither has permissions of its
own: a permission that is given without an identifier is numbered, and what is
stored under an identifier is what every holder of the identifier has.

The identifiers of a role stand in a slice that a caller has given.  The caller
may have given the same array to another role, so the slices are views of a
memory.  All other slices are made by the adaptor and are not shared; they are
lists here.
-/

def actionRead : GoString := ascii "read"
def actionWrite : GoString := ascii "write"

def writePermission : GoString := ascii "w"
def allPermission : GoString := ascii "rw"

structure Permission where
  permissionId : GoString := []
  resources : List GoString
  actions : GoString
  deriving DecidableEq

def newPermission (action : GoString) (resources : List GoString) : Permission where
  resources := resources
  actions := action

def comma : UInt8 := 0x2C

def Permission.implies (permission : Permission) (resource action : GoString) : Bool :=
  permission.resources.any (fun res =>
    resource == res && (split comma permission.actions).any (fun val => val == action))

structure Role where
  name : GoString
  permissionIds : Slice
  deriving DecidableEq

/-- `simplePrincipal`, by the name that the adaptor reads. -/
structure Principal where
  principalName : GoString
  deriving DecidableEq

def newPrincipal (name : GoString) : Principal := ⟨name⟩

structure LocalAdaptor where
  memory : Memory GoString
  roles : AList (fun _ : GoString => Role)
  permissions : AList (fun _ : GoString => Permission)
  principalPermissions : AList (fun _ : GoString => List GoString)
  permIndex : UInt64

def newLocalAdaptor (memory : Memory GoString) : LocalAdaptor where
  memory := memory
  roles := ∅
  permissions := ∅
  principalPermissions := ∅
  permIndex := 1

/-! ## Loops that remove from a slice -/

section Splicing

variable {Elem : Type}

/-- The expression `append(slice[:index], slice[index:]...)`.  The tail is
appended at the place it came from, so a holder of the same slice sees the
result. -/
def spliceExpr (slice : List Elem) (index : Nat) : Except Panic (List Elem) :=
  if index ≤ slice.length then .ok (slice.take index ++ slice.drop index)
  else .error .sliceOutOfRange

def spliceRound (test : Elem -> Bool) (slice : List Elem) (index : Nat) :
    Except Panic (List Elem) :=
  match slice[index]? with
  | none => .error .indexOutOfRange
  | some elem => if test elem then spliceExpr slice index else .ok slice

def spliceEach (test : Elem -> Bool) (slice : List Elem) : Except Panic (List Elem) :=
  (List.range slice.length).foldlM (spliceRound test) slice

theorem spliceExpr_of_lt {slice : List Elem} {index : Nat} (inside : index < slice.length) :
    spliceExpr slice index = .ok slice := by
  rw [spliceExpr, if_pos (Nat.le_of_lt inside), List.take_append_drop]

theorem foldlM_of_fixed {State : Type} {round : State -> Elem -> Except Panic State}
    {state : State} {elems : List Elem} (fixed : ∀ elem ∈ elems, round state elem = .ok state) :
    elems.foldlM round state = .ok state := by
  induction elems with
  | nil => rfl
  | cons elem rest ih =>
    rw [List.foldlM_cons, fixed elem List.mem_cons_self]
    exact ih (fun later member => fixed later (List.mem_cons_of_mem elem member))

theorem spliceEach_eq (test : Elem -> Bool) (slice : List Elem) :
    spliceEach test slice = .ok slice := by
  apply foldlM_of_fixed
  intro index member
  have inside := List.mem_range.mp member
  rw [spliceRound, List.getElem?_eq_getElem inside]
  dsimp only
  rw [spliceExpr_of_lt inside, ite_self]

theorem spliceEach_isSome (test : Elem -> Bool) (slice : List Elem) :
    (spliceEach test slice).toOption.isSome := by
  rw [spliceEach_eq]
  rfl

def spliceAt [DecidableEq Elem] (elem : Elem) (slice : List Elem) : List Elem :=
  (spliceEach (fun other => decide (other = elem)) slice).toOption.get (spliceEach_isSome _ slice)

theorem spliceAt_eq [DecidableEq Elem] (elem : Elem) (slice : List Elem) :
    spliceAt elem slice = slice := by
  simp only [spliceAt, spliceEach_eq]
  rfl

end Splicing

namespace LocalAdaptor

/-! ## Permissions -/

def numbered (adaptor : LocalAdaptor) (permission : Permission) : Permission :=
  if permission.permissionId = [] then
    { permission with permissionId := decimal adaptor.permIndex.toNat }
  else permission

def storePermission (adaptor : LocalAdaptor) (permission : Permission) : LocalAdaptor :=
  { adaptor with
    permissions := adaptor.permissions.insert (adaptor.numbered permission).permissionId
      (adaptor.numbered permission)
    permIndex := if permission.permissionId = [] then adaptor.permIndex + 1 else adaptor.permIndex }

def addPermissions (adaptor : LocalAdaptor) : List Permission -> List GoString × LocalAdaptor
  | [] => ([], adaptor)
  | permission :: rest =>
    let added := (adaptor.storePermission permission).addPermissions rest
    ((adaptor.numbered permission).permissionId :: added.1, added.2)

def removePermissions (adaptor : LocalAdaptor) (permIds : List GoString) : LocalAdaptor :=
  { adaptor with
    permissions := permIds.foldl (fun permissions permId => permissions.erase permId)
      adaptor.permissions }

def getPermissions (adaptor : LocalAdaptor) (permIds : List GoString) : List Permission :=
  permIds.filterMap (fun permId => adaptor.permissions.lookup permId)

/-! ## Principals -/

def removePrincipal (adaptor : LocalAdaptor) (principal : Principal) : LocalAdaptor :=
  { adaptor with
    principalPermissions := adaptor.principalPermissions.erase principal.principalName }

def getPrincipalPermissions (adaptor : LocalAdaptor) (principal : Principal) : List Permission :=
  match adaptor.principalPermissions.lookup principal.principalName with
  | some permIds => adaptor.getPermissions permIds
  | none => []

def assign (adaptor : LocalAdaptor) (principal : Principal) (permIds : List GoString) :
    LocalAdaptor :=
  { adaptor with
    principalPermissions := adaptor.principalPermissions.insert principal.principalName permIds }

def setPrincipalPermissions (adaptor : LocalAdaptor) (principal : Principal)
    (permissions : List Permission) : LocalAdaptor :=
  let added := adaptor.addPermissions permissions
  if 0 < added.1.length then added.2.assign principal added.1 else added.2

def permIdsOf (adaptor : LocalAdaptor) (principal : Principal) : List GoString :=
  (adaptor.principalPermissions.lookup principal.principalName).getD []

def enter (adaptor : LocalAdaptor) (principal : Principal) : LocalAdaptor :=
  match adaptor.principalPermissions.lookup principal.principalName with
  | some _ => adaptor
  | none => adaptor.assign principal []

def addPrincipalPermissions (adaptor : LocalAdaptor) (principal : Principal)
    (permissions : List Permission) : LocalAdaptor :=
  let added := (adaptor.enter principal).addPermissions permissions
  if 0 < added.1.length then
    added.2.assign principal (added.2.permIdsOf principal ++ added.1)
  else added.2

def resourcesOf (permissions : List Permission) : List GoString :=
  (permissions.flatMap Permission.resources).dedup

def removePrincipalPermissions (adaptor : LocalAdaptor) (range : MapOrder GoString)
    (principal : Principal) (permissions : List Permission) : LocalAdaptor :=
  match adaptor.principalPermissions.lookup principal.principalName with
  | none => adaptor
  | some permIds =>
    let remaining := (range.order (resourcesOf permissions)).foldl (fun held resource =>
      held.map (fun permission =>
        { permission with resources := spliceAt resource permission.resources }))
      (adaptor.getPermissions permIds)
    adaptor.setPrincipalPermissions principal remaining

/-! ## Roles -/

def extendRole (adaptor : LocalAdaptor) (roleName : GoString) (role : Role)
    (permIds : List GoString) : LocalAdaptor :=
  let appended := adaptor.memory.append role.permissionIds permIds
  { adaptor with
    memory := appended.2
    roles := adaptor.roles.insert roleName { name := roleName, permissionIds := appended.1 } }

def addRole (adaptor : LocalAdaptor) (r : Role) : LocalAdaptor :=
  match adaptor.roles.lookup r.name with
  | some role => adaptor.extendRole r.name role (adaptor.memory.read r.permissionIds)
  | none => { adaptor with roles := adaptor.roles.insert r.name r }

def removeRole (adaptor : LocalAdaptor) (roleName : GoString) : LocalAdaptor :=
  match adaptor.roles.lookup roleName with
  | some _ => { adaptor with roles := adaptor.roles.erase roleName }
  | none => adaptor

def getRole (adaptor : LocalAdaptor) (roleName : GoString) : Except GoString Role :=
  match adaptor.roles.lookup roleName with
  | some role => .ok role
  | none => .error (ascii "not implemented")

def addRolePermissions (adaptor : LocalAdaptor) (roleName : GoString)
    (_permissons : List GoString) : LocalAdaptor :=
  match adaptor.roles.lookup roleName with
  | some r => adaptor.extendRole roleName r (adaptor.memory.read r.permissionIds)
  | none => adaptor

def removeRolePermissions (adaptor : LocalAdaptor) (roleName : GoString)
    (permissions : List GoString) : LocalAdaptor :=
  match adaptor.roles.lookup roleName with
  | some role =>
    { adaptor with
      memory := adaptor.memory.write role.permissionIds.start
        (permissions.foldl (fun permissionIds permission => spliceAt permission permissionIds)
          (adaptor.memory.read role.permissionIds)) }
  | none => adaptor

def getRolePermissions (adaptor : LocalAdaptor) (roleName : GoString) : List GoString :=
  match adaptor.roles.lookup roleName with
  | some r => adaptor.memory.read r.permissionIds
  | none => []

theorem removeRolePermissions_eq (adaptor : LocalAdaptor) (roleName : GoString)
    (permissions : List GoString) : adaptor.removeRolePermissions roleName permissions = adaptor := by
  rw [removeRolePermissions]
  cases adaptor.roles.lookup roleName with
  | none => rfl
  | some role =>
    have same : permissions.foldl (fun permissionIds permission =>
        spliceAt permission permissionIds) (adaptor.memory.read role.permissionIds) =
          adaptor.memory.read role.permissionIds := by
      induction permissions with
      | nil => rfl
      | cons permission rest ih => rw [List.foldl_cons, spliceAt_eq, ih]
    dsimp only
    rw [same, Memory.write_read]

/-! ## What the operations leave alone -/

theorem getPermissions_congr {first second : LocalAdaptor}
    (same : forall permId, first.permissions.lookup permId = second.permissions.lookup permId)
    (permIds : List GoString) : first.getPermissions permIds = second.getPermissions permIds := by
  rw [getPermissions, getPermissions]
  congr 1
  funext permId
  exact same permId

variable {adaptor : LocalAdaptor}

theorem numbered_of_id {permission : Permission} (given : permission.permissionId ≠ []) :
    adaptor.numbered permission = permission :=
  if_neg given

theorem numbered_of_fresh {permission : Permission} (fresh : permission.permissionId = []) :
    adaptor.numbered permission =
      { permission with permissionId := decimal adaptor.permIndex.toNat } :=
  if_pos fresh

theorem numbered_ne_nil (adaptor : LocalAdaptor) (permission : Permission) :
    (adaptor.numbered permission).permissionId ≠ [] := by
  by_cases fresh : permission.permissionId = []
  · rw [numbered_of_fresh fresh]
    exact decimal_ne_nil _
  · rw [numbered_of_id fresh]
    exact fresh

@[simp] theorem addPermissions_principalPermissions (adaptor : LocalAdaptor)
    (permissions : List Permission) :
    (adaptor.addPermissions permissions).2.principalPermissions = adaptor.principalPermissions := by
  induction permissions generalizing adaptor with
  | nil => rfl
  | cons permission rest ih => exact ih (adaptor.storePermission permission)

theorem addPermissions_length (adaptor : LocalAdaptor) (permissions : List Permission) :
    (adaptor.addPermissions permissions).1.length = permissions.length := by
  induction permissions generalizing adaptor with
  | nil => rfl
  | cons permission rest ih => exact congrArg (· + 1) (ih (adaptor.storePermission permission))

theorem splice_resources (resources : List GoString) (permissions : List Permission) :
    resources.foldl (fun held resource =>
      held.map (fun permission =>
        { permission with resources := spliceAt resource permission.resources })) permissions =
      permissions := by
  induction resources with
  | nil => rfl
  | cons resource rest ih =>
    rw [List.foldl_cons]
    have same : permissions.map (fun permission =>
        { permission with resources := spliceAt resource permission.resources }) = permissions := by
      simp only [spliceAt_eq, List.map_id']
    rw [same]
    exact ih

theorem getPrincipalPermissions_eq (adaptor : LocalAdaptor) (principal : Principal) :
    adaptor.getPrincipalPermissions principal =
      adaptor.getPermissions (adaptor.permIdsOf principal) := by
  rw [getPrincipalPermissions, permIdsOf]
  cases adaptor.principalPermissions.lookup principal.principalName <;> rfl

theorem permIdsOf_assign (adaptor : LocalAdaptor) (principal other : Principal)
    (permIds : List GoString) :
    (adaptor.assign principal permIds).permIdsOf other =
      if other.principalName = principal.principalName then permIds
      else adaptor.permIdsOf other := by
  rw [permIdsOf, permIdsOf, assign]
  by_cases same : other.principalName = principal.principalName
  · rw [if_pos same, same, AList.lookup_insert]
    rfl
  · rw [if_neg same, AList.lookup_insert_ne same]

@[simp] theorem getPermissions_assign (adaptor : LocalAdaptor) (principal : Principal)
    (permIds sought : List GoString) :
    (adaptor.assign principal permIds).getPermissions sought = adaptor.getPermissions sought := rfl

@[simp] theorem enter_permissions (adaptor : LocalAdaptor) (principal : Principal) :
    (adaptor.enter principal).permissions = adaptor.permissions := by
  rw [enter]
  split <;> rfl

@[simp] theorem addRole_permissions (adaptor : LocalAdaptor) (r : Role) :
    (adaptor.addRole r).permissions = adaptor.permissions := by
  rw [addRole]
  split <;> rfl

@[simp] theorem removeRole_permissions (adaptor : LocalAdaptor) (roleName : GoString) :
    (adaptor.removeRole roleName).permissions = adaptor.permissions := by
  rw [removeRole]
  split <;> rfl

@[simp] theorem addRolePermissions_permissions (adaptor : LocalAdaptor) (roleName : GoString)
    (permissons : List GoString) :
    (adaptor.addRolePermissions roleName permissons).permissions = adaptor.permissions := by
  rw [addRolePermissions]
  split <;> rfl

/-! ## Permissions stand under their identifiers -/

def Keyed (adaptor : LocalAdaptor) : Prop :=
  forall permId permission, adaptor.permissions.lookup permId = some permission ->
    permission.permissionId = permId ∧ permId ≠ []

namespace Keyed

variable {adaptor : LocalAdaptor}

theorem initial (memory : Memory GoString) : (newLocalAdaptor memory).Keyed := by
  intro permId permission stored
  cases stored

theorem of_permissions {other : LocalAdaptor} (keyed : adaptor.Keyed)
    (same : other.permissions = adaptor.permissions) : other.Keyed := by
  intro permId permission stored
  rw [same] at stored
  exact keyed permId permission stored

theorem storePermission (keyed : adaptor.Keyed) (permission : Permission) :
    (adaptor.storePermission permission).Keyed := by
  intro permId found stored
  by_cases same : permId = (adaptor.numbered permission).permissionId
  · rw [same, LocalAdaptor.storePermission, AList.lookup_insert] at stored
    cases stored
    exact ⟨same.symm, same ▸ adaptor.numbered_ne_nil permission⟩
  · rw [LocalAdaptor.storePermission, AList.lookup_insert_ne same] at stored
    exact keyed permId found stored

theorem addPermissions (keyed : adaptor.Keyed) (permissions : List Permission) :
    (adaptor.addPermissions permissions).2.Keyed := by
  induction permissions generalizing adaptor with
  | nil => exact keyed
  | cons permission rest ih => exact ih (keyed.storePermission permission)

theorem assign (keyed : adaptor.Keyed) (principal : Principal) (permIds : List GoString) :
    (adaptor.assign principal permIds).Keyed :=
  keyed.of_permissions rfl

theorem setPrincipalPermissions (keyed : adaptor.Keyed) (principal : Principal)
    (permissions : List Permission) :
    (adaptor.setPrincipalPermissions principal permissions).Keyed := by
  rw [LocalAdaptor.setPrincipalPermissions]
  split
  · exact (keyed.addPermissions permissions).assign principal _
  · exact keyed.addPermissions permissions

theorem addPrincipalPermissions (keyed : adaptor.Keyed) (principal : Principal)
    (permissions : List Permission) :
    (adaptor.addPrincipalPermissions principal permissions).Keyed := by
  have entered := keyed.of_permissions (adaptor.enter_permissions principal)
  rw [LocalAdaptor.addPrincipalPermissions]
  split
  · exact (entered.addPermissions permissions).assign principal _
  · exact entered.addPermissions permissions

theorem removePrincipalPermissions (keyed : adaptor.Keyed) (range : MapOrder GoString)
    (principal : Principal) (permissions : List Permission) :
    (adaptor.removePrincipalPermissions range principal permissions).Keyed := by
  rw [LocalAdaptor.removePrincipalPermissions]
  split
  · exact keyed
  · exact keyed.setPrincipalPermissions principal _

theorem stored_of_mem (keyed : adaptor.Keyed) {permIds : List GoString} {permission : Permission}
    (member : permission ∈ adaptor.getPermissions permIds) :
    permission.permissionId ≠ [] ∧
      adaptor.permissions.lookup permission.permissionId = some permission := by
  rcases List.mem_filterMap.mp member with ⟨permId, _, stored⟩
  have own := keyed permId permission stored
  rw [own.1]
  exact ⟨own.2, stored⟩

end Keyed

theorem addPermissions_of_stored {adaptor : LocalAdaptor} {permissions : List Permission}
    (stored : forall permission, permission ∈ permissions -> permission.permissionId ≠ [] ∧
      adaptor.permissions.lookup permission.permissionId = some permission) :
    (adaptor.addPermissions permissions).1 = permissions.map Permission.permissionId ∧
      (forall permId, (adaptor.addPermissions permissions).2.permissions.lookup permId =
        adaptor.permissions.lookup permId) ∧
      (adaptor.addPermissions permissions).2.permIndex = adaptor.permIndex := by
  induction permissions generalizing adaptor with
  | nil => exact ⟨rfl, fun _ => rfl, rfl⟩
  | cons permission rest ih =>
    rcases stored permission List.mem_cons_self with ⟨given, here⟩
    have same : forall permId, (adaptor.storePermission permission).permissions.lookup permId =
        adaptor.permissions.lookup permId := by
      intro permId
      rw [storePermission, numbered_of_id given]
      exact lookup_insert_of_stored here permId
    have index : (adaptor.storePermission permission).permIndex = adaptor.permIndex :=
      if_neg given
    have later := @ih (adaptor.storePermission permission) (by
      intro other member
      rw [same]
      exact stored other (List.mem_cons_of_mem _ member))
    refine ⟨?_, fun permId => (later.2.1 permId).trans (same permId), later.2.2.trans index⟩
    rw [addPermissions, numbered_of_id given, later.1]
    rfl

theorem getPermissions_of_stored {permissions : List Permission}
    (stored : forall permission, permission ∈ permissions ->
      adaptor.permissions.lookup permission.permissionId = some permission) :
    adaptor.getPermissions (permissions.map Permission.permissionId) = permissions := by
  rw [getPermissions, List.filterMap_map]
  induction permissions with
  | nil => rfl
  | cons permission rest ih =>
    rw [List.filterMap_cons, Function.comp_apply, stored permission List.mem_cons_self]
    rw [ih (fun other member => stored other (List.mem_cons_of_mem _ member))]

structure Relisted (before after : LocalAdaptor) : Prop where
  table : forall permId, after.permissions.lookup permId = before.permissions.lookup permId
  index : after.permIndex = before.permIndex
  lists : forall principal, after.permIdsOf principal = before.permIdsOf principal ∨
    after.permIdsOf principal =
      (before.getPermissions (before.permIdsOf principal)).map Permission.permissionId

theorem Relisted.refl (adaptor : LocalAdaptor) : adaptor.Relisted adaptor :=
  ⟨fun _ => rfl, rfl, fun _ => .inl rfl⟩

theorem removePrincipalPermissions_relisted (keyed : adaptor.Keyed) (range : MapOrder GoString)
    (principal : Principal) (permissions : List Permission) :
    adaptor.Relisted (adaptor.removePrincipalPermissions range principal permissions) := by
  rw [removePrincipalPermissions]
  cases held : adaptor.principalPermissions.lookup principal.principalName with
  | none => exact .refl adaptor
  | some permIds =>
    dsimp only
    rw [splice_resources]
    have again := @addPermissions_of_stored adaptor (adaptor.getPermissions permIds)
      (fun _ member => keyed.stored_of_mem member)
    rw [setPrincipalPermissions, again.1]
    split
    · refine ⟨again.2.1, again.2.2, ?_⟩
      intro other
      rw [permIdsOf_assign]
      by_cases same : other.principalName = principal.principalName
      · rw [if_pos same]
        have ids : adaptor.permIdsOf other = permIds := by
          rw [permIdsOf, same, held]
          rfl
        exact .inr (by rw [ids])
      · rw [if_neg same, permIdsOf, addPermissions_principalPermissions]
        exact .inl rfl
    · refine ⟨again.2.1, again.2.2, fun other => .inl ?_⟩
      rw [permIdsOf, addPermissions_principalPermissions]
      rfl

theorem removePrincipalPermissions_keeps (keyed : adaptor.Keyed) (range : MapOrder GoString)
    (principal : Principal) (permissions : List Permission) (other : Principal) :
    (adaptor.removePrincipalPermissions range principal permissions).getPrincipalPermissions
      other = adaptor.getPrincipalPermissions other := by
  have relisted := removePrincipalPermissions_relisted keyed range principal permissions
  rw [getPrincipalPermissions_eq, getPrincipalPermissions_eq, getPermissions_congr relisted.table]
  rcases relisted.lists other with same | again
  · rw [same]
  · rw [again]
    exact getPermissions_of_stored (fun _ member => (keyed.stored_of_mem member).2)

/-! ## A property of all stored permissions -/

def Stores (adaptor : LocalAdaptor) (good : Permission -> Prop) : Prop :=
  forall permId permission, adaptor.permissions.lookup permId = some permission -> good permission

namespace Stores

variable {adaptor : LocalAdaptor} {good : Permission -> Prop}

theorem initial (memory : Memory GoString) (good : Permission -> Prop) :
    (newLocalAdaptor memory).Stores good :=
  fun _ _ stored => nomatch stored

theorem addPermissions (stores : adaptor.Stores good) {permissions : List Permission}
    (new : forall permission, permission ∈ permissions ->
      forall permId, good { permission with permissionId := permId }) :
    (adaptor.addPermissions permissions).2.Stores good := by
  induction permissions generalizing adaptor with
  | nil => exact stores
  | cons permission rest ih =>
    apply ih
    · intro permId found stored
      by_cases same : permId = (adaptor.numbered permission).permissionId
      · rw [same, storePermission, AList.lookup_insert] at stored
        cases stored
        rw [numbered]
        split
        · exact new permission List.mem_cons_self _
        · exact new permission List.mem_cons_self permission.permissionId
      · rw [storePermission, AList.lookup_insert_ne same] at stored
        exact stores permId found stored
    · exact fun other member => new other (List.mem_cons_of_mem _ member)

theorem addPrincipalPermissions (stores : adaptor.Stores good) (principal : Principal)
    {permissions : List Permission}
    (new : forall permission, permission ∈ permissions ->
      forall permId, good { permission with permissionId := permId }) :
    (adaptor.addPrincipalPermissions principal permissions).Stores good := by
  have entered : (adaptor.enter principal).Stores good := by
    intro permId permission stored
    rw [enter_permissions] at stored
    exact stores permId permission stored
  rw [LocalAdaptor.addPrincipalPermissions]
  split
  · exact entered.addPermissions new
  · exact entered.addPermissions new

theorem removePrincipalPermissions (stores : adaptor.Stores good) (keyed : adaptor.Keyed)
    (range : MapOrder GoString) (principal : Principal) (permissions : List Permission) :
    (adaptor.removePrincipalPermissions range principal permissions).Stores good := by
  intro permId permission stored
  rw [(removePrincipalPermissions_relisted keyed range principal permissions).table] at stored
  exact stores permId permission stored

theorem of_mem (stores : adaptor.Stores good) {principal : Principal} {permission : Permission}
    (member : permission ∈ adaptor.getPrincipalPermissions principal) : good permission := by
  rw [getPrincipalPermissions_eq] at member
  rcases List.mem_filterMap.mp member with ⟨permId, _, stored⟩
  exact stores permId permission stored

end Stores

end LocalAdaptor

end Shiro
end Sentel
