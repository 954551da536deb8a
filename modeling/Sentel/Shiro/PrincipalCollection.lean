import Sentel.Library.Machine
import Sentel.Shiro.LocalAdaptor

namespace Sentel
namespace Shiro

open Library

/-!
# Collections of principals

A collection keeps its principals twice: in a map from realms to principals, and
in one list of all of them.  Adding a principal writes to both.  The loops that
should remove a principal append the rest of a slice at the place it came from,
and therefore remove nothing.  A removed realm leaves the map, but its
principals stay in the list.

The arguments are values of interfaces and may be nil.  `Authorize` adds the
principal that it is given, and `AuthorizeWithToken` gives it nil when no realm
knows the token.
-/

structure PrincipalRef where
  address : Nat
  name : GoString
  realmName : GoString
  deriving DecidableEq

structure PrincipalCollection where
  principals : AList (fun _ : GoString => List PrincipalRef)
  principalList : List PrincipalRef
  index : Nat

def newPrincipalCollection : PrincipalCollection where
  principals := ∅
  principalList := []
  index := 0

namespace PrincipalCollection

/-! ## The methods -/

def append (p : PrincipalCollection) (principal : PrincipalRef) : PrincipalCollection :=
  { p with
    principals := p.principals.insert principal.realmName
      ((p.principals.lookup principal.realmName).getD [] ++ [principal])
    principalList := p.principalList ++ [principal] }

def add (p : PrincipalCollection) : Option PrincipalRef -> Except Panic PrincipalCollection
  | some principal => .ok (p.append principal)
  | none => .error .nilDereference

def getRealmPrincipals (p : PrincipalCollection) (realmName : GoString) : List PrincipalRef :=
  (p.principals.lookup realmName).getD []

def addAll (p : PrincipalCollection) (range : MapOrder GoString) :
    Option PrincipalCollection -> Except Panic PrincipalCollection
  | some r => (range.order r.principals.keys).foldlM (fun p realmName =>
      (r.getRealmPrincipals realmName).foldlM (fun p principal => p.add (some principal)) p) p
  | none => .error .nilDereference

def removeRound (principalName : GoString) (slices : List PrincipalRef × List PrincipalRef)
    (index : Nat) : Except Panic (List PrincipalRef × List PrincipalRef) :=
  match slices.1[index]? with
  | none => .error .indexOutOfRange
  | some principal =>
    if principal.name = principalName then do
      let principals ← spliceExpr slices.1 index
      let principalList ←
        spliceEach (fun principal => decide (principal.name = principalName)) slices.2
      return (principals, principalList)
    else .ok slices

/-- `Remove`.  The realm itself is not written back. -/
def remove (p : PrincipalCollection) (principalName realmName : GoString) :
    Except Panic PrincipalCollection := do
  let principals := p.getRealmPrincipals realmName
  let slices ← (List.range principals.length).foldlM (removeRound principalName)
    (principals, p.principalList)
  return { p with principalList := slices.2 }

def removeRealmPrincipals (p : PrincipalCollection) (realmName : GoString) :
    Except Panic PrincipalCollection :=
  match p.principals.lookup realmName with
  | none => .ok p
  | some principals => do
    let principalList ← principals.foldlM
      (fun list principal => spliceEach (fun pp => decide (principal = pp)) list) p.principalList
    return { p with principals := p.principals.erase realmName, principalList := principalList }

def clear (p : PrincipalCollection) (range : MapOrder GoString) : PrincipalCollection where
  principals := (range.order p.principals.keys).foldl (fun map realm => map.erase realm) p.principals
  principalList := []
  index := 0

def getPrimaryPrincipal (p : PrincipalCollection) : Option PrincipalRef × PrincipalCollection :=
  match p.principalList[p.index]? with
  | some principal => (some principal, { p with index := p.index + 1 })
  | none => (none, p)

def isEmpty (p : PrincipalCollection) : Bool :=
  p.principals.keys.length == 0

theorem remove_eq (p : PrincipalCollection) (principalName realmName : GoString) :
    p.remove principalName realmName = .ok p := by
  have rounds : (List.range (p.getRealmPrincipals realmName).length).foldlM
      (removeRound principalName) (p.getRealmPrincipals realmName, p.principalList) =
        .ok (p.getRealmPrincipals realmName, p.principalList) := by
    apply foldlM_of_fixed
    intro index member
    have inside := List.mem_range.mp member
    rw [removeRound, List.getElem?_eq_getElem inside]
    dsimp only
    rw [spliceExpr_of_lt inside, spliceEach_eq]
    exact ite_self _
  rw [remove, rounds]
  rfl

theorem removeRealmPrincipals_eq (p : PrincipalCollection) (realmName : GoString) :
    exists after, p.removeRealmPrincipals realmName = .ok after ∧
      after.principalList = p.principalList ∧
      forall sought, after.principals.lookup sought =
        if sought = realmName then none else p.principals.lookup sought := by
  rw [removeRealmPrincipals]
  cases found : p.principals.lookup realmName with
  | none =>
    refine ⟨p, rfl, rfl, fun sought => ?_⟩
    by_cases same : sought = realmName
    · rw [if_pos same, same, found]
    · rw [if_neg same]
  | some principals =>
    have rounds : principals.foldlM (fun list principal =>
        spliceEach (fun pp => decide (principal = pp)) list) p.principalList =
          .ok p.principalList :=
      foldlM_of_fixed (fun principal _ => spliceEach_eq _ _)
    dsimp only
    rw [rounds]
    refine ⟨_, rfl, rfl, fun sought => ?_⟩
    by_cases same : sought = realmName
    · rw [if_pos same, same]
      exact AList.lookup_erase _ _
    · rw [if_neg same]
      exact AList.lookup_erase_ne same

/-! ## The two containers -/

def listed (p : PrincipalCollection) (realmName : GoString) : List PrincipalRef :=
  p.principalList.filter (fun principal => principal.realmName == realmName)

structure Consistent (p : PrincipalCollection) : Prop where
  agree : forall realmName, (p.getRealmPrincipals realmName).Perm (p.listed realmName)
  empty : p.isEmpty = true ↔
    p.principalList = [] ∧ forall realmName, p.getRealmPrincipals realmName = []

structure Filed (p : PrincipalCollection) : Prop where
  agree : forall realmName, p.getRealmPrincipals realmName = p.listed realmName
  nonempty : forall realmName, p.principals.lookup realmName ≠ some []

variable {p : PrincipalCollection}

theorem isEmpty_iff :
    p.isEmpty = true ↔ forall realmName, p.principals.lookup realmName = none := by
  rw [isEmpty, beq_iff_eq, List.length_eq_zero_iff]
  constructor
  · intro none realmName
    rw [AList.lookup_eq_none]
    intro member
    rw [AList.mem_keys, none] at member
    cases member
  · intro missing
    rw [List.eq_nil_iff_forall_not_mem]
    intro realmName member
    exact AList.lookup_eq_none.mp (missing realmName) (AList.mem_keys.mpr member)

theorem Filed.consistent (filed : p.Filed) : p.Consistent := by
  refine ⟨fun realmName => .of_eq (filed.agree realmName), ?_⟩
  rw [isEmpty_iff]
  constructor
  · intro missing
    have none : forall realmName, p.getRealmPrincipals realmName = [] := by
      intro realmName
      rw [getRealmPrincipals, missing realmName]
      rfl
    refine ⟨?_, none⟩
    rw [List.eq_nil_iff_forall_not_mem]
    intro principal member
    have found : principal ∈ p.listed principal.realmName :=
      List.mem_filter.mpr ⟨member, beq_self_eq_true _⟩
    rw [← filed.agree, none] at found
    cases found
  · rintro ⟨_, none⟩ realmName
    cases found : p.principals.lookup realmName with
    | none => rfl
    | some principals =>
      have nothing := none realmName
      rw [getRealmPrincipals, found] at nothing
      cases nothing
      exact absurd found (filed.nonempty realmName)

theorem filed_initial : newPrincipalCollection.Filed :=
  ⟨fun _ => rfl, fun _ found => nomatch found⟩

theorem Filed.append (filed : p.Filed) (principal : PrincipalRef) : (p.append principal).Filed := by
  constructor
  · intro realmName
    rw [getRealmPrincipals, listed, PrincipalCollection.append, List.filter_append]
    by_cases own : principal.realmName = realmName
    · subst own
      have agree := filed.agree principal.realmName
      rw [getRealmPrincipals, listed] at agree
      rw [AList.lookup_insert, ← agree, List.filter_cons_of_pos (by simp)]
      rfl
    · rw [AList.lookup_insert_ne (Ne.symm own), List.filter_cons_of_neg (by simpa using own),
        List.filter_nil, List.append_nil]
      exact filed.agree realmName
  · intro realmName
    rw [PrincipalCollection.append]
    by_cases own : realmName = principal.realmName
    · rw [own, AList.lookup_insert]
      simp
    · rw [AList.lookup_insert_ne own]
      exact filed.nonempty realmName

theorem foldlM_keeps {Elem : Type} {inv : PrincipalCollection -> Prop}
    {round : PrincipalCollection -> Elem -> Except Panic PrincipalCollection}
    (keeps : forall {p : PrincipalCollection}, inv p -> forall elem,
      exists after, round p elem = .ok after ∧ inv after)
    (start : inv p) (elems : List Elem) :
    exists after, elems.foldlM round p = .ok after ∧ inv after := by
  induction elems generalizing p with
  | nil => exact ⟨p, rfl, start⟩
  | cons elem rest ih =>
    rcases keeps start elem with ⟨next, done, kept⟩
    rw [List.foldlM_cons, done]
    exact ih kept

theorem addAll_keeps {inv : PrincipalCollection -> Prop}
    (keeps : forall {p : PrincipalCollection}, inv p -> forall principal, inv (p.append principal))
    (start : inv p) (range : MapOrder GoString) (r : PrincipalCollection) :
    exists after, p.addAll range (some r) = .ok after ∧ inv after := by
  rw [addAll]
  refine foldlM_keeps (fun holds realmName => ?_) start _
  refine foldlM_keeps ?_ holds _
  exact fun holds principal => ⟨_, rfl, keeps holds principal⟩

theorem clear_lookup (p : PrincipalCollection) (range : MapOrder GoString) (realmName : GoString) :
    (p.clear range).principals.lookup realmName = none := by
  have erased : forall (realms : List GoString) (map : AList (fun _ : GoString => List PrincipalRef)),
      realmName ∈ realms ∨ map.lookup realmName = none ->
      (realms.foldl (fun map realm => map.erase realm) map).lookup realmName = none := by
    intro realms
    induction realms with
    | nil => exact fun map missing => missing.resolve_left List.not_mem_nil
    | cons realm rest ih =>
      intro map found
      apply ih
      by_cases same : realmName = realm
      · rw [same, AList.lookup_erase]
        exact .inr rfl
      · rw [AList.lookup_erase_ne same]
        exact found.imp_left (fun member => (List.mem_cons.mp member).resolve_left same)
  apply erased
  by_cases member : realmName ∈ p.principals
  · exact .inl (range.mem_order.mpr (AList.mem_keys.mp member))
  · exact .inr (AList.lookup_eq_none.mpr member)

theorem filed_clear (p : PrincipalCollection) (range : MapOrder GoString) :
    (p.clear range).Filed := by
  constructor
  · intro realmName
    rw [getRealmPrincipals, clear_lookup]
    rfl
  · intro realmName found
    rw [clear_lookup] at found
    cases found

/-! ## Calls -/

end PrincipalCollection

/-- The calls of a collection that may change it. -/
inductive CollectionCall
  | add (principal : Option PrincipalRef)
  | addAll (range : MapOrder GoString) (r : Option PrincipalCollection)
  | remove (principalName realmName : GoString)
  | removeRealmPrincipals (realmName : GoString)
  | clear (range : MapOrder GoString)
  | getPrimaryPrincipal

/-- What is added is not nil. -/
def CollectionCall.Given : CollectionCall -> Prop
  | .add principal => principal ≠ none
  | .addAll _ r => r ≠ none
  | _ => True

namespace PrincipalCollection

def perform (p : PrincipalCollection) : CollectionCall -> Except Panic PrincipalCollection
  | .add principal => p.add principal
  | .addAll range r => p.addAll range r
  | .remove principalName realmName => p.remove principalName realmName
  | .removeRealmPrincipals realmName => p.removeRealmPrincipals realmName
  | .clear range => .ok (p.clear range)
  | .getPrimaryPrincipal => .ok p.getPrimaryPrincipal.2

def collections : Machine PrincipalCollection CollectionCall where
  initial := newPrincipalCollection
  step := fun p call => (p.perform call).toOption

def Without (p : PrincipalCollection) (realmName : GoString) (kind : PrincipalRef -> Prop) : Prop :=
  (∀ principal ∈ p.getRealmPrincipals realmName, ¬ kind principal) ∧
    ∀ principal ∈ p.listed realmName, ¬ kind principal

/-- What a removal should leave behind. -/
def Removes (before after : PrincipalCollection) : CollectionCall -> Prop
  | .remove principalName realmName =>
    after.Without realmName (fun principal => principal.name = principalName) ∧
      forall other, other ≠ realmName ->
        after.getRealmPrincipals other = before.getRealmPrincipals other ∧
          after.listed other = before.listed other
  | .removeRealmPrincipals realmName => after.Without realmName (fun _ => True)
  | _ => True

/-- A call does not panic, leaves the containers consistent, and removes what
it should. -/
def Sound (p : PrincipalCollection) (call : CollectionCall) : Prop :=
  exists after, p.perform call = .ok after ∧ after.Consistent ∧ p.Removes after call

def NothingToRemove (p : PrincipalCollection) : CollectionCall -> Prop
  | .remove principalName realmName =>
    ∀ principal ∈ p.principalList, principal.realmName = realmName ->
      principal.name ≠ principalName
  | .removeRealmPrincipals realmName =>
    ∀ principal ∈ p.principalList, principal.realmName ≠ realmName
  | _ => True

theorem perform_ok_iff (p : PrincipalCollection) (call : CollectionCall) :
    (exists after, p.perform call = .ok after) ↔ call.Given := by
  cases call with
  | remove principalName realmName =>
    exact iff_of_true ⟨p, p.remove_eq principalName realmName⟩ True.intro
  | removeRealmPrincipals realmName =>
    rcases p.removeRealmPrincipals_eq realmName with ⟨after, done, _⟩
    exact iff_of_true ⟨after, done⟩ True.intro
  | add principal =>
    cases principal with
    | some principal => exact iff_of_true ⟨_, rfl⟩ nofun
    | none => exact iff_of_false (fun ⟨_, done⟩ => nomatch done) (fun given => given rfl)
  | addAll range r =>
    cases r with
    | some r =>
      rcases @addAll_keeps p (fun _ => True) (fun _ _ => True.intro) True.intro range r
        with ⟨after, done, _⟩
      exact iff_of_true ⟨after, done⟩ nofun
    | none => exact iff_of_false (fun ⟨_, done⟩ => nomatch done) (fun given => given rfl)
  | clear range | getPrimaryPrincipal => exact iff_of_true ⟨_, rfl⟩ True.intro

variable {p : PrincipalCollection} {realmName : GoString}

theorem mem_listed {principal : PrincipalRef} :
    principal ∈ p.listed realmName ↔
      principal ∈ p.principalList ∧ principal.realmName = realmName := by
  rw [listed, List.mem_filter, beq_iff_eq]

theorem Filed.without_iff (filed : p.Filed) {kind : PrincipalRef -> Prop} :
    p.Without realmName kind ↔
      ∀ principal ∈ p.principalList, principal.realmName = realmName -> ¬ kind principal := by
  rw [Without, filed.agree, and_self]
  simp only [mem_listed, and_imp]

theorem Filed.getPrimaryPrincipal (filed : p.Filed) : p.getPrimaryPrincipal.2.Filed := by
  rw [PrincipalCollection.getPrimaryPrincipal]
  split
  · exact ⟨filed.agree, filed.nonempty⟩
  · exact filed

theorem Filed.removeRealmPrincipals {after : PrincipalCollection} (filed : p.Filed)
    (nothing : ∀ principal ∈ p.principalList,
      principal.realmName ≠ realmName)
    (list : after.principalList = p.principalList)
    (map : forall sought, after.principals.lookup sought =
      if sought = realmName then none else p.principals.lookup sought) : after.Filed := by
  have missing : p.principals.lookup realmName = none := by
    cases found : p.principals.lookup realmName with
    | none => rfl
    | some principals =>
      have agree := filed.agree realmName
      have none : p.listed realmName = [] := by
        rw [List.eq_nil_iff_forall_not_mem]
        intro principal member
        exact nothing principal (mem_listed.mp member).1 (mem_listed.mp member).2
      rw [none, getRealmPrincipals, found] at agree
      cases agree
      exact absurd found (filed.nonempty realmName)
  have same : forall sought, after.principals.lookup sought = p.principals.lookup sought := by
    intro sought
    rw [map]
    by_cases removed : sought = realmName
    · rw [if_pos removed, removed, missing]
    · rw [if_neg removed]
  constructor
  · intro sought
    rw [getRealmPrincipals, same, listed, list]
    exact filed.agree sought
  · intro sought
    rw [same]
    exact filed.nonempty sought

theorem Filed.perform {after : PrincipalCollection} (filed : p.Filed) {call : CollectionCall}
    (nothing : p.NothingToRemove call) (done : p.perform call = .ok after) : after.Filed := by
  cases call with
  | add principal =>
    cases principal with
    | some principal =>
      cases done
      exact filed.append principal
    | none => cases done
  | addAll range r =>
    cases r with
    | some r =>
      rcases addAll_keeps Filed.append filed range r with ⟨_, again, kept⟩
      cases again.symm.trans done
      exact kept
    | none => cases done
  | remove principalName realmName =>
    cases (p.remove_eq principalName realmName).symm.trans done
    exact filed
  | removeRealmPrincipals realmName =>
    rcases p.removeRealmPrincipals_eq realmName with ⟨_, again, list, map⟩
    cases again.symm.trans done
    exact filed.removeRealmPrincipals nothing list map
  | clear range =>
    cases done
    exact filed_clear p range
  | getPrimaryPrincipal =>
    cases done
    exact filed.getPrimaryPrincipal

theorem Filed.sound_iff (filed : p.Filed) (call : CollectionCall) :
    p.Sound call ↔ call.Given ∧ p.NothingToRemove call := by
  have given : p.Sound call -> call.Given :=
    fun ⟨after, done, _⟩ => (p.perform_ok_iff call).mp ⟨after, done⟩
  have sound (none : p.NothingToRemove call) (removes : forall after, p.Removes after call) :
      p.Sound call ↔ call.Given ∧ p.NothingToRemove call := by
    refine ⟨fun sound => ⟨given sound, none⟩, fun both => ?_⟩
    rcases (p.perform_ok_iff call).mpr both.1 with ⟨after, done⟩
    exact ⟨after, done, (filed.perform none done).consistent, removes after⟩
  cases call with
  | remove principalName realmName =>
    have unchanged := p.remove_eq principalName realmName
    constructor
    · rintro ⟨after, done, _, without, _⟩
      cases unchanged.symm.trans done
      exact ⟨True.intro, filed.without_iff.mp without⟩
    · rintro ⟨_, nothing⟩
      exact ⟨p, unchanged, filed.consistent, filed.without_iff.mpr nothing, fun _ _ => ⟨rfl, rfl⟩⟩
  | removeRealmPrincipals realmName =>
    rcases p.removeRealmPrincipals_eq realmName with ⟨after, done, list, map⟩
    constructor
    · rintro ⟨_, again, _, without⟩
      refine ⟨True.intro, fun principal member own => ?_⟩
      cases done.symm.trans again
      rw [← list] at member
      exact without.2 principal (mem_listed.mpr ⟨member, own⟩) True.intro
    · rintro ⟨_, nothing⟩
      have filedAfter := filed.removeRealmPrincipals nothing list map
      refine ⟨after, done, filedAfter.consistent, filedAfter.without_iff.mpr ?_⟩
      intro principal member own
      rw [list] at member
      exact absurd own (nothing principal member)
  | add principal | addAll range r => exact sound True.intro (fun _ => True.intro)
  | clear range | getPrimaryPrincipal => exact sound True.intro (fun _ => True.intro)

/-- A call panics exactly if it is to add nil.  All calls of a sequence are sound
exactly when none of them adds nil and no removal finds a principal to remove. -/
theorem sound_calls_iff (calls : List CollectionCall) :
    (forall (p : PrincipalCollection) (call : CollectionCall),
      (exists after, p.perform call = .ok after) ↔ call.Given) ∧
    (collections.Allowed Sound collections.initial calls ↔
      collections.Allowed (fun p call => call.Given ∧ p.NothingToRemove call) collections.initial
        calls) := by
  refine ⟨perform_ok_iff, ?_⟩
  refine Machine.allowed_congr ?_ (fun filed => filed.sound_iff _) filed_initial calls
  intro p call next filed allowed taken
  rcases (p.perform_ok_iff call).mpr allowed.1 with ⟨after, done⟩
  have same : (p.perform call).toOption = some next := taken
  rw [done] at same
  cases same
  exact filed.perform allowed.2 done

/-- A principal is still in its realm after it was removed. -/
theorem removed_principal_kept :
    ¬ collections.Allowed Sound collections.initial
      [.add (some ⟨0, ascii "n", ascii "r"⟩), .remove (ascii "n") (ascii "r")] := by
  rintro ⟨_, ⟨after, done, _, without, _⟩, _⟩
  have unchanged := (newPrincipalCollection.append ⟨0, ascii "n", ascii "r"⟩).remove_eq
    (ascii "n") (ascii "r")
  cases unchanged.symm.trans done
  exact without.2 ⟨0, ascii "n", ascii "r"⟩ List.mem_cons_self rfl

end PrincipalCollection

end Shiro
end Sentel
