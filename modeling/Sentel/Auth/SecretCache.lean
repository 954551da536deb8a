import Mathlib.Data.List.Induction
import Sentel.Auth.Auth
import Sentel.Library.Cache
import Sentel.Registry.Devices

namespace Sentel
namespace Auth

open Library Registry

/-!
# The cache of device secrets

The secret of a device is read from the registry once and kept in Redis under
the product and the name of the device, joined by a slash.  Nothing else writes
to the cache, and an entry does not expire.  After that the cache answers for
every product and name with the same text, and whatever happens to the device
in the registry is not seen.

What the cache holds after a history is decided by the calls that found a
device: under each text the first of them.
-/

def secretKey (ctx : Context) : GoString :=
  ctx.productID ++ ascii "/" ++ ctx.deviceName

/-- What `getDeviceSecretKey` works on: the registry and the Redis client, if
the service has one. -/
structure SecretSource where
  store : DeviceStore
  redis : Option (Cache GoString GoString)

namespace SecretSource

def entry (source : SecretSource) (key : GoString) : Option GoString :=
  source.redis.bind (fun redis => redis.value key)

def registered (source : SecretSource) (ctx : Context) : Except GoString GoString :=
  (source.store.getDeviceByName ctx.productID ctx.deviceName).map Device.deviceSecret

def getDeviceSecretKey (source : SecretSource) (ctx : Context) :
    Except GoString GoString × SecretSource :=
  match source.entry (secretKey ctx) with
  | some val => (.ok val, source)
  | none =>
    match source.store.getDeviceByName ctx.productID ctx.deviceName with
    | .error err => (.error err, source)
    | .ok device =>
      (.ok device.deviceSecret, { source with
        redis := source.redis.map (fun redis =>
          redis.add (secretKey ctx) device.deviceSecret) })

end SecretSource

/-- The calls that change the devices of the registry or read a secret. -/
inductive SecretOp
  | register (dev : Device)
  | delete (productId deviceId : GoString)
  | update (dev : Device)
  | authenticate (ctx : Context)

/-- The devices after a call.  A call that fails changes nothing. -/
def SecretOp.stored (store : DeviceStore) : SecretOp -> DeviceStore
  | .register dev => (store.registerDevice dev).toOption.getD store
  | .delete productId deviceId => (store.deleteDevice productId deviceId).toOption.getD store
  | .update dev => (store.updateDevice dev).toOption.getD store
  | .authenticate _ => store

namespace SecretSource

def perform (source : SecretSource) : SecretOp -> SecretSource
  | .authenticate ctx => (source.getDeviceSecretKey ctx).2
  | op => { source with store := op.stored source.store }

def after (source : SecretSource) (ops : List SecretOp) : SecretSource :=
  ops.foldl perform source

/-- A service that has just been started, with or without Redis. -/
def started (store : DeviceStore) (cached : Bool) : SecretSource where
  store := store
  redis := if cached then some Cache.empty else none

end SecretSource

/-! ## The calls that found a device -/

/-- A call that found a device in the registry. -/
structure Fill where
  ctx : Context
  secret : GoString

def SecretOp.found (store : DeviceStore) : SecretOp -> List Fill
  | .authenticate ctx =>
    match store.getDeviceByName ctx.productID ctx.deviceName with
    | .error _ => []
    | .ok device => [⟨ctx, device.deviceSecret⟩]
  | _ => []

def fills : DeviceStore -> List SecretOp -> List Fill
  | _, [] => []
  | store, op :: rest => op.found store ++ fills (op.stored store) rest

/-- The first call that finds a device under a key. -/
def firstFill (store : DeviceStore) (ops : List SecretOp) (key : GoString) : Option Fill :=
  (fills store ops).find? (fun fill => secretKey fill.ctx == key)

def storedAfter (store : DeviceStore) (ops : List SecretOp) : DeviceStore :=
  ops.foldl SecretOp.stored store

theorem fills_append (store : DeviceStore) (first second : List SecretOp) :
    fills store (first ++ second) = fills store first ++ fills (storedAfter store first) second := by
  induction first generalizing store with
  | nil => rfl
  | cons op rest ih =>
    rw [List.cons_append, fills, fills, ih, List.append_assoc]
    rfl

/-! ## What the cache holds -/

namespace SecretSource

theorem getDeviceSecretKey_cases (source : SecretSource) (ctx : Context) :
    (exists val, source.entry (secretKey ctx) = some val ∧
      source.getDeviceSecretKey ctx = (.ok val, source)) ∨
    (source.entry (secretKey ctx) = none ∧
      exists err, source.store.getDeviceByName ctx.productID ctx.deviceName = .error err ∧
        source.getDeviceSecretKey ctx = (.error err, source)) ∨
    (source.entry (secretKey ctx) = none ∧
      exists device, source.store.getDeviceByName ctx.productID ctx.deviceName = .ok device ∧
        source.getDeviceSecretKey ctx = (.ok device.deviceSecret, { source with
          redis := source.redis.map (fun redis =>
            redis.add (secretKey ctx) device.deviceSecret) })) := by
  unfold getDeviceSecretKey
  cases held : source.entry (secretKey ctx) with
  | some val => exact .inl ⟨val, rfl, rfl⟩
  | none =>
    cases found : source.store.getDeviceByName ctx.productID ctx.deviceName with
    | error err => exact .inr (.inl ⟨rfl, err, rfl, rfl⟩)
    | ok device => exact .inr (.inr ⟨rfl, device, rfl, rfl⟩)

theorem perform_store (source : SecretSource) (op : SecretOp) :
    (source.perform op).store = op.stored source.store := by
  cases op with
  | authenticate ctx =>
    rcases source.getDeviceSecretKey_cases ctx with
      ⟨val, _, call⟩ | ⟨_, err, _, call⟩ | ⟨_, device, _, call⟩
    · rw [perform, call]; rfl
    · rw [perform, call]; rfl
    · rw [perform, call]; rfl
  | register dev | delete productId deviceId | update dev => rfl

theorem after_store (source : SecretSource) (ops : List SecretOp) :
    (source.after ops).store = storedAfter source.store ops := by
  induction ops generalizing source with
  | nil => rfl
  | cons op rest ih =>
    change ((source.perform op).after rest).store = storedAfter (op.stored source.store) rest
    rw [ih, perform_store]

def left (found : List Fill) (key : GoString) : Option GoString :=
  (found.find? (fun fill => secretKey fill.ctx == key)).map Fill.secret

theorem left_append (first second : List Fill) (key : GoString) :
    left (first ++ second) key = (left first key).or (left second key) := by
  unfold left
  rw [List.find?_append]
  cases first.find? (fun fill => secretKey fill.ctx == key) with
  | none | some fill => rfl

theorem after_uncached {source : SecretSource} (uncached : source.redis = none)
    (ops : List SecretOp) : (source.after ops).redis = none := by
  induction ops generalizing source with
  | nil => exact uncached
  | cons op rest ih =>
    change ((source.perform op).after rest).redis = none
    apply ih
    cases op with
    | authenticate ctx =>
      rcases source.getDeviceSecretKey_cases ctx with
        ⟨val, _, call⟩ | ⟨_, err, _, call⟩ | ⟨_, device, _, call⟩
      · rw [perform, call]
        exact uncached
      · rw [perform, call]
        exact uncached
      · rw [perform, call, uncached]
        rfl
    | register dev | delete productId deviceId | update dev => exact uncached

theorem perform_entry {source : SecretSource} {redis : Cache GoString GoString}
    (cached : source.redis = some redis) (op : SecretOp) :
    (exists next, (source.perform op).redis = some next) ∧
    forall key, (source.perform op).entry key =
      (source.entry key).or (left (op.found source.store) key) := by
  have kept : forall other : SecretSource, other.redis = source.redis ->
      (exists next, other.redis = some next) ∧
      forall key, other.entry key = (source.entry key).or (left [] key) := by
    intro other same
    refine ⟨⟨redis, same.trans cached⟩, fun key => ?_⟩
    rw [entry, same, left, List.find?_nil, Option.map_none, Option.or_none]
    rfl
  cases op with
  | register dev | delete productId deviceId | update dev => exact kept _ rfl
  | authenticate ctx =>
    rw [SecretOp.found, perform]
    rcases source.getDeviceSecretKey_cases ctx with
      ⟨val, held, call⟩ | ⟨missed, err, found, call⟩ | ⟨missed, device, found, call⟩
    · rw [call]
      refine ⟨⟨redis, cached⟩, fun key => ?_⟩
      cases found : source.store.getDeviceByName ctx.productID ctx.deviceName with
      | error err => exact (kept source rfl).2 key
      | ok device =>
        by_cases same : secretKey ctx = key
        · rw [← same, held]
          rfl
        · simp [left, same]
    · rw [call, found]
      exact kept source rfl
    · rw [call, found]
      refine ⟨⟨_, by rw [cached]; rfl⟩, fun key => ?_⟩
      have added : entry { source with redis := source.redis.map (fun redis =>
          redis.add (secretKey ctx) device.deviceSecret) } key =
          Function.update (fun key => source.entry key) (secretKey ctx)
            (some device.deviceSecret) key := by
        simp only [entry, cached, Option.map_some, Option.bind_some, Cache.value_add]
      rw [added]
      by_cases same : key = secretKey ctx
      · rw [same, Function.update_self, missed]
        simp [left]
      · rw [Function.update_of_ne same]
        simp [left, Ne.symm same]

theorem after_entry {source : SecretSource} {redis : Cache GoString GoString}
    (cached : source.redis = some redis) (ops : List SecretOp) (key : GoString) :
    (source.after ops).entry key =
      (source.entry key).or (left (fills source.store ops) key) := by
  induction ops generalizing source redis with
  | nil => exact (Option.or_none).symm
  | cons op rest ih =>
    rcases perform_entry cached op with ⟨⟨next, stillCached⟩, filled⟩
    change ((source.perform op).after rest).entry key = _
    rw [ih stillCached, filled, perform_store, fills, left_append, Option.or_assoc]

theorem started_entry (store : DeviceStore) (cached : Bool) (ops : List SecretOp)
    (key : GoString) :
    ((started store cached).after ops).entry key =
      if cached then (firstFill store ops key).map Fill.secret else none := by
  cases cached with
  | false =>
    rw [entry, after_uncached rfl]
    rfl
  | true =>
    rw [@after_entry (started store true) Cache.empty rfl]
    simp [entry, started, left, firstFill]

def Fills (source : SecretSource) (ctx : Context) : Prop :=
  source.entry (secretKey ctx) = none ∧
    (source.getDeviceSecretKey ctx).2.entry (secretKey ctx) ≠ none

end SecretSource

/-! ## Who filled an entry -/

theorem firstFill_append (store : DeviceStore) (first second : List SecretOp) (key : GoString) :
    firstFill store (first ++ second) key =
      (firstFill store first key).or (firstFill (storedAfter store first) second key) := by
  unfold firstFill
  rw [fills_append, List.find?_append]

theorem firstFill_key {store : DeviceStore} {ops : List SecretOp} {key : GoString} {fill : Fill}
    (first : firstFill store ops key = some fill) : secretKey fill.ctx = key := by
  have passes := List.find?_some first
  exact beq_iff_eq.mp passes

section Filling

variable {store : DeviceStore}

theorem firstFill_call {ctx : Context} {device : Device}
    (found : store.getDeviceByName ctx.productID ctx.deviceName = .ok device)
    (later : List SecretOp) :
    firstFill store (.authenticate ctx :: later) (secretKey ctx) =
      some ⟨ctx, device.deviceSecret⟩ := by
  simp [firstFill, fills, SecretOp.found, found]

theorem firstFill_of_fills {before : List SecretOp} {ctx : Context}
    (filling : ((SecretSource.started store true).after before).Fills ctx)
    (later : List SecretOp) :
    exists secret, firstFill store (before ++ .authenticate ctx :: later) (secretKey ctx) =
      some ⟨ctx, secret⟩ := by
  rcases filling with ⟨missed, filled⟩
  have unfilled : firstFill store before (secretKey ctx) = none := by
    rw [SecretSource.started_entry, if_pos rfl] at missed
    exact Option.map_eq_none_iff.mp missed
  rcases SecretSource.getDeviceSecretKey_cases _ ctx with
    ⟨val, held, _⟩ | ⟨_, err, _, call⟩ | ⟨_, device, found, _⟩
  · rw [held] at missed
    cases missed
  · rw [call] at filled
    exact absurd missed filled
  · rw [SecretSource.after_store] at found
    refine ⟨device.deviceSecret, ?_⟩
    rw [firstFill_append, unfilled, Option.none_or]
    exact firstFill_call found later

theorem fills_of_firstFill {ops : List SecretOp} {key : GoString} {fill : Fill}
    (first : firstFill store ops key = some fill) :
    exists before later, ops = before ++ .authenticate fill.ctx :: later ∧
      ((SecretSource.started store true).after before).Fills fill.ctx := by
  induction ops using List.reverseRecOn with
  | nil => cases first
  | append_singleton ops op ih =>
    rw [firstFill_append] at first
    cases earlier : firstFill store ops key with
    | some other =>
      rw [earlier, Option.some_or] at first
      rcases ih (earlier.trans first) with ⟨before, later, split, filling⟩
      refine ⟨before, later ++ [op], ?_, filling⟩
      rw [split, List.append_assoc, List.cons_append]
    | none =>
      rw [earlier, Option.none_or] at first
      have named := firstFill_key first
      cases op with
      | register dev | delete productId deviceId | update dev => cases first
      | authenticate ctx =>
        cases found : (storedAfter store ops).getDeviceByName ctx.productID
            ctx.deviceName with
        | error err =>
          simp [firstFill, fills, SecretOp.found, found] at first
        | ok device =>
          -- the call found a device, so it is the fill
          have same : ctx = fill.ctx := by
            simp only [firstFill, fills, SecretOp.found, found, List.append_nil] at first
            rcases List.mem_singleton.mp (List.mem_of_find?_eq_some first) with rfl
            rfl
          subst same
          rw [← named] at earlier
          have missed : ((SecretSource.started store true).after ops).entry
              (secretKey fill.ctx) = none := by
            rw [SecretSource.started_entry, earlier]
            rfl
          refine ⟨ops, [], rfl, missed, ?_⟩
          have after := SecretSource.started_entry store true
            (ops ++ [.authenticate fill.ctx]) (secretKey fill.ctx)
          rw [firstFill_append, earlier, Option.none_or, firstFill_call found,
            SecretSource.after, List.foldl_append] at after
          change ((_ : SecretSource).getDeviceSecretKey fill.ctx).2.entry _ = _ at after
          rw [SecretSource.after, after]
          exact Option.some_ne_none _

end Filling

/-! ## Keys -/

def SameDevice (first second : Context) : Prop :=
  first.productID = second.productID ∧ first.deviceName = second.deviceName

def SlashFree (ctx : Context) : Prop :=
  (0x2F : UInt8) ∉ ctx.productID ∧ (0x2F : UInt8) ∉ ctx.deviceName

instance (ctx : Context) : Decidable (SlashFree ctx) :=
  inferInstanceAs (Decidable (_ ∧ _))

theorem secretKey_eq (ctx : Context) :
    secretKey ctx = ctx.productID ++ (0x2F : UInt8) :: ctx.deviceName :=
  List.append_assoc ctx.productID [0x2F] ctx.deviceName

theorem count_secretKey (ctx : Context) :
    (secretKey ctx).count 0x2F = ctx.productID.count 0x2F + ctx.deviceName.count 0x2F + 1 := by
  rw [secretKey_eq, List.count_append, List.count_cons_self]
  omega

theorem secretKey_separate_iff (ctx : Context) :
    (forall other : Context, ¬ SameDevice other ctx -> secretKey other ≠ secretKey ctx) ↔
      SlashFree ctx := by
  constructor
  · intro separate
    constructor
    · intro member
      rcases List.append_of_mem member with ⟨front, back, split⟩
      let other : Context :=
        { productID := front, deviceName := back ++ (0x2F : UInt8) :: ctx.deviceName }
      refine separate other ?_ ?_
      · rintro ⟨same, _⟩
        have lengths := congrArg List.length same
        rw [split, List.length_append, List.length_cons] at lengths
        change front.length = _ at lengths
        omega
      · rw [secretKey_eq, secretKey_eq, split, List.append_assoc, List.cons_append]
    · intro member
      rcases List.append_of_mem member with ⟨front, back, split⟩
      let other : Context :=
        { productID := ctx.productID ++ (0x2F : UInt8) :: front, deviceName := back }
      refine separate other ?_ ?_
      · rintro ⟨same, _⟩
        have lengths := congrArg List.length same
        change (ctx.productID ++ (0x2F : UInt8) :: front).length = _ at lengths
        rw [List.length_append, List.length_cons] at lengths
        omega
      · rw [secretKey_eq, secretKey_eq, split]
        change (ctx.productID ++ (0x2F : UInt8) :: front) ++ _ = _
        rw [List.append_assoc, List.cons_append]
  · rintro ⟨plainProduct, plainName⟩ other different same
    have slashes := congrArg (List.count (0x2F : UInt8)) same
    rw [count_secretKey, count_secretKey, List.count_eq_zero.mpr plainProduct,
      List.count_eq_zero.mpr plainName] at slashes
    have plainOther : (0x2F : UInt8) ∉ other.productID := by
      apply List.count_eq_zero.mp
      omega
    rw [secretKey_eq, secretKey_eq] at same
    exact different (cut_unique plainOther plainProduct same)

/-! ## Transparency -/

/-- After a history every request is answered with the secret that is now
registered for its product and name, or with the error of the registry, and no
call has added an entry that another device would read. -/
structure CacheTransparent (start : SecretSource) (ops : List SecretOp) : Prop where
  answers : forall ctx, ((start.after ops).getDeviceSecretKey ctx).1 =
    (start.after ops).registered ctx
  separate : forall before ctx later, ops = before ++ .authenticate ctx :: later ->
    (start.after before).Fills ctx ->
      forall other : Context, ¬ SameDevice other ctx -> secretKey other ≠ secretKey ctx

theorem getDeviceSecretKey_missed {source : SecretSource} {ctx : Context}
    (missed : source.entry (secretKey ctx) = none) :
    (source.getDeviceSecretKey ctx).1 = source.registered ctx := by
  rcases source.getDeviceSecretKey_cases ctx with
    ⟨val, held, _⟩ | ⟨_, err, found, call⟩ | ⟨_, device, found, call⟩
  · rw [held] at missed
    cases missed
  · rw [call, SecretSource.registered, found]
    rfl
  · rw [call, SecretSource.registered, found]
    rfl

theorem getDeviceSecretKey_held {source : SecretSource} {ctx : Context} {val : GoString}
    (held : source.entry (secretKey ctx) = some val) :
    (source.getDeviceSecretKey ctx).1 = .ok val := by
  rw [SecretSource.getDeviceSecretKey, held]

theorem registered_congr (source : SecretSource) {first second : Context}
    (same : SameDevice first second) : source.registered first = source.registered second := by
  rw [SecretSource.registered, SecretSource.registered, same.1, same.2]

theorem cacheTransparent_uncached (store : DeviceStore) (ops : List SecretOp) :
    CacheTransparent (SecretSource.started store false) ops := by
  have nothing : forall ops key,
      ((SecretSource.started store false).after ops).entry key = none := by
    intro ops key
    rw [SecretSource.started_entry]
    rfl
  refine ⟨fun ctx => getDeviceSecretKey_missed (nothing ops _), ?_⟩
  intro before ctx later _ filling
  have still := nothing (before ++ [.authenticate ctx]) (secretKey ctx)
  rw [SecretSource.after, List.foldl_append] at still
  exact absurd still filling.2

section Current

variable {store : DeviceStore} {ops : List SecretOp}

theorem CacheTransparent.current
    (transparent : CacheTransparent (SecretSource.started store true) ops) {key : GoString}
    {fill : Fill} (first : firstFill store ops key = some fill) :
    SlashFree fill.ctx ∧
      ((SecretSource.started store true).after ops).registered fill.ctx = .ok fill.secret := by
  rcases fills_of_firstFill first with ⟨before, later, split, filling⟩
  refine ⟨(secretKey_separate_iff fill.ctx).mp
    (transparent.separate before fill.ctx later split filling), ?_⟩
  have held : ((SecretSource.started store true).after ops).entry (secretKey fill.ctx) =
      some fill.secret := by
    rw [SecretSource.started_entry, if_pos rfl, firstFill_key first, first]
    rfl
  rw [← transparent.answers, getDeviceSecretKey_held held]

theorem cacheTransparent_of_current (current : forall key fill, firstFill store ops key = some fill ->
      SlashFree fill.ctx ∧
        ((SecretSource.started store true).after ops).registered fill.ctx = .ok fill.secret) :
    CacheTransparent (SecretSource.started store true) ops where
  answers := by
    intro ctx
    have entry := SecretSource.started_entry store true ops (secretKey ctx)
    rw [if_pos rfl] at entry
    cases first : firstFill store ops (secretKey ctx) with
    | none =>
      rw [first] at entry
      exact getDeviceSecretKey_missed entry
    | some fill =>
      rw [first] at entry
      rcases current _ fill first with ⟨plain, registered⟩
      have same : SameDevice ctx fill.ctx := by
        by_contra different
        exact (secretKey_separate_iff fill.ctx).mpr plain ctx different
          (firstFill_key first).symm
      rw [getDeviceSecretKey_held entry, registered_congr _ same, registered]
  separate := by
    intro before ctx later split filling
    rcases firstFill_of_fills filling later with ⟨secret, first⟩
    rw [← split] at first
    exact (secretKey_separate_iff ctx).mpr (current _ _ first).1

end Current

/-- The cache is transparent after a history exactly when, for every call that
was the first to find a device under its key, the product and the name have no
slash and the secret that it found is the one that is registered now.  Without
Redis it always is. -/
theorem cacheTransparent_iff (store : DeviceStore) (cached : Bool) (ops : List SecretOp) :
    CacheTransparent (SecretSource.started store cached) ops ↔
      (cached = true -> forall key fill, firstFill store ops key = some fill ->
        SlashFree fill.ctx ∧
          ((SecretSource.started store cached).after ops).registered fill.ctx =
            .ok fill.secret) := by
  cases cached with
  | false => exact iff_of_true (cacheTransparent_uncached store ops) nofun
  | true =>
    rw [forall_prop_of_true rfl]
    constructor
    · intro transparent key fill first
      exact transparent.current first
    · exact cacheTransparent_of_current

def deviceWithSecret (secret : GoString) : Device where
  productId := ascii "p"
  deviceId := ascii "d"
  deviceName := ascii "n"
  deviceSecret := secret

def changedSecret : List SecretOp :=
  [.register (deviceWithSecret (ascii "old")),
   .authenticate { productID := ascii "p", deviceName := ascii "n" },
   .update (deviceWithSecret (ascii "new"))]

/-- The old secret is still returned. -/
theorem old_secret_returned :
    ¬ CacheTransparent (SecretSource.started DeviceStore.empty true) changedSecret := by
  intro transparent
  have answer := transparent.answers { productID := ascii "p", deviceName := ascii "n" }
  revert answer
  decide

end Auth
end Sentel
