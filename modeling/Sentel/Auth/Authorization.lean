import Sentel.Auth.Auth

namespace Sentel
namespace Auth

open Library Registry AuthService

/-!
# Who may publish

A publication is authorized with `AclWrite`, which contains the read bit, and
`authorize` accepts any common bit.  A right to read is therefore enough to
publish.  The decision depends on the flavors of the product only.

The flavors come from the registry.  `Initialize` asks for the products of the
tenant in the startup record, where no tenant was ever stored, and looks for
the flavor of a product under the identifier of the product.  A flavor that a
tenant has stored for its products is therefore not loaded.
-/

def AuthService.productFlavors (service : AuthService) (productID : GoString) : List TopicFlavor :=
  (service.flavors.lookup productID).getD []

def Grants (service : AuthService) (productID topic : GoString) (bits : UInt8) : Prop :=
  ∃ flavor ∈ service.productFlavors productID, exists right,
    flavor.topics.lookup topic = some right ∧ right &&& bits ≠ 0

/-- The write bit of `AclWrite`. -/
def writeBit : UInt8 := 0x02

/-! ## The decision -/

section Decision

variable {service : AuthService} {ctx : Context} {clientid topic : GoString} {access : UInt8}

theorem any_topics_iff {flavor : TopicFlavor} :
    (flavor.topics.entries.any (fun entry => entry.1 == topic && entry.2 &&& access != 0)) = true ↔
      exists right, flavor.topics.lookup topic = some right ∧ right &&& access ≠ 0 := by
  rw [List.any_eq_true]
  constructor
  · rintro ⟨⟨name, right⟩, member, matched⟩
    rw [Bool.and_eq_true, beq_iff_eq, bne_iff_ne] at matched
    rcases matched with ⟨rfl, common⟩
    exact ⟨right, AList.mem_lookup_iff.mpr member, common⟩
  · rintro ⟨right, found, common⟩
    refine ⟨⟨topic, right⟩, AList.mem_lookup_iff.mp found, ?_⟩
    rw [Bool.and_eq_true, beq_iff_eq, bne_iff_ne]
    exact ⟨rfl, common⟩

theorem authorize_of_unknown (unknown : service.flavors.lookup ctx.productID = none) :
    service.authorize ctx clientid topic access = .ok () := by
  rw [authorize, unknown]

theorem authorize_of_known {flavors : List TopicFlavor}
    (known : service.flavors.lookup ctx.productID = some flavors) :
    service.authorize ctx clientid topic access = .ok () ↔
      Grants service ctx.productID topic access := by
  rw [authorize, Grants, productFlavors, known, Option.getD_some]
  simp only [ite_eq_left_iff, reduceCtorEq, imp_false, not_not]
  rw [List.any_eq_true]
  exact exists_congr (fun _ => and_congr_right (fun _ => any_topics_iff))

theorem authorize_iff :
    service.authorize ctx clientid topic access = .ok () ↔
      service.flavors.lookup ctx.productID = none ∨
        Grants service ctx.productID topic access := by
  cases known : service.flavors.lookup ctx.productID with
  | none => exact iff_of_true (authorize_of_unknown known) (.inl rfl)
  | some flavors =>
    rw [authorize_of_known known]
    exact ⟨.inr, fun granted => granted.resolve_left (Option.some_ne_none _)⟩

theorem authorize_error_of_not_ok
    (refused : service.authorize ctx clientid topic access ≠ .ok ()) :
    service.authorize ctx clientid topic access = .error .unauthorized := by
  rw [authorize] at refused ⊢
  cases known : service.flavors.lookup ctx.productID with
  | none =>
    rw [known] at refused
    exact absurd rfl refused
  | some flavors =>
    rw [known] at refused
    exact if_neg (fun granted => refused (if_pos granted))

theorem grants_or {first second : UInt8} :
    Grants service ctx.productID topic (first ||| second) ↔
      Grants service ctx.productID topic first ∨ Grants service ctx.productID topic second := by
  have split : forall right : UInt8,
      right &&& (first ||| second) ≠ 0 ↔ right &&& first ≠ 0 ∨ right &&& second ≠ 0 := by
    intro right
    have distributes : right &&& (first ||| second) = right &&& first ||| right &&& second := by
      apply UInt8.toBitVec_inj.mp
      ext i
      simp [Bool.and_or_distrib_left]
    rw [distributes, ne_eq, UInt8.or_eq_zero_iff, not_and_or]
  constructor
  · rintro ⟨flavor, member, right, found, common⟩
    exact ((split right).mp common).imp
      (fun common => ⟨flavor, member, right, found, common⟩)
      (fun common => ⟨flavor, member, right, found, common⟩)
  · rintro (⟨flavor, member, right, found, common⟩ | ⟨flavor, member, right, found, common⟩)
    · exact ⟨flavor, member, right, found, (split right).mpr (.inl common)⟩
    · exact ⟨flavor, member, right, found, (split right).mpr (.inr common)⟩

end Decision

/-! ## Publishing needs a right to write -/

def WriteNeedsRight (service : AuthService) (ctx : Context) (clientid topic : GoString) : Prop :=
  (service.authorize ctx clientid topic AclWrite = .ok () ->
    service.productFlavors ctx.productID = [] ∨
      Grants service ctx.productID topic writeBit) ∧
  forall other : AuthService,
    other.flavors.lookup ctx.productID = service.flavors.lookup ctx.productID ->
    other.authorize ctx clientid topic AclWrite = service.authorize ctx clientid topic AclWrite

theorem authorize_congr {service other : AuthService} {ctx : Context}
    (same : other.flavors.lookup ctx.productID = service.flavors.lookup ctx.productID)
    (clientid topic : GoString) (access : UInt8) :
    other.authorize ctx clientid topic access = service.authorize ctx clientid topic access := by
  rw [authorize, authorize, same]

/-- The rule holds exactly where no right to read stands alone. -/
theorem writeNeedsRight_iff (service : AuthService) (ctx : Context) (clientid topic : GoString) :
    WriteNeedsRight service ctx clientid topic ↔
      (Grants service ctx.productID topic AclRead ->
        Grants service ctx.productID topic writeBit) := by
  have unrestricted : forall bits, Grants service ctx.productID topic bits ->
      service.productFlavors ctx.productID ≠ [] := by
    rintro bits ⟨flavor, member, _⟩ empty
    rw [empty] at member
    exact List.not_mem_nil member
  have decision : service.authorize ctx clientid topic AclWrite = .ok () ↔
      service.flavors.lookup ctx.productID = none ∨
        (Grants service ctx.productID topic writeBit ∨
          Grants service ctx.productID topic AclRead) :=
    authorize_iff.trans (or_congr_right grants_or)
  constructor
  · rintro ⟨needsRight, _⟩ readable
    exact (needsRight (decision.mpr (.inr (.inr readable)))).resolve_left
      (unrestricted AclRead readable)
  · intro together
    refine ⟨fun authorized => ?_, fun other same => authorize_congr same clientid topic AclWrite⟩
    rcases decision.mp authorized with unknown | writable | readable
    · refine .inl ?_
      rw [productFlavors, unknown]
      rfl
    · exact .inr writable
    · exact .inr (together readable)

def readOnlyService : AuthService where
  flavors := AList.singleton (ascii "p") [{
    flavorName := ascii "f"
    tenantId := ascii "T"
    topics := AList.singleton (ascii "t") AclRead }]
  deviceSecretKey := fun _ _ => .error []
  hmac := fun _ _ => ⟨List.replicate 20 0, rfl⟩

/-- A device that may only read a topic is authorized to publish on it. -/
theorem reader_may_publish :
    ¬ WriteNeedsRight readOnlyService { productID := ascii "p" } (ascii "c") (ascii "t") := by
  rintro ⟨needsRight, _⟩
  rcases needsRight rfl with empty | ⟨flavor, member, right, found, common⟩
  · cases empty
  · have only : flavor = _ := List.mem_singleton.mp member
    subst only
    obtain rfl : AclRead = right := Option.some.inj found
    exact common rfl

/-! ## Loading the flavors -/

/-- Every product of the tenant that names a flavor of the tenant is restricted
to that flavor. -/
def EnforcesFlavors (registry : Registry) (tenant : GoString) (service : AuthService) : Prop :=
  forall product, product ∈ registry.products -> product.tenantId = tenant ->
    forall flavor, registry.getTenantTopicFlavor tenant product.topicFlavor = some flavor ->
      service.flavors.lookup product.productId = some [flavor] ∧
      forall (ctx : Context) (clientid topic : GoString), ctx.productID = product.productId ->
        topic ∉ flavor.topics ->
        service.authorize ctx clientid topic AclWrite = .error .unauthorized

/-- The service that `ServiceFactory.New` returns. -/
def newAuthService (deviceSecretKey : GoString -> GoString -> Except GoString GoString)
    (hmac : GoString -> GoString -> Mac) : AuthService where
  flavors := ∅
  deviceSecretKey := deviceSecretKey
  hmac := hmac

section Loading

variable {registry : Registry}

theorem loadProduct_lookup_self (service : AuthService) (product : Product)
    (found : registry.getProductTopicFlavors product.productId ≠ []) :
    (service.loadProduct registry product).flavors.lookup product.productId =
      some (registry.getProductTopicFlavors product.productId) := by
  rw [loadProduct, if_pos (List.length_pos_iff.mpr found)]
  exact AList.lookup_insert _

theorem loadProduct_lookup_of_ne (service : AuthService) {product : Product} {productId : GoString}
    (different : productId ≠ product.productId) :
    (service.loadProduct registry product).flavors.lookup productId =
      service.flavors.lookup productId := by
  rw [loadProduct]
  split
  · exact AList.lookup_insert_ne different
  · rfl

theorem loadProduct_of_nil (service : AuthService) {product : Product}
    (missing : registry.getProductTopicFlavors product.productId = []) :
    service.loadProduct registry product = service := by
  rw [loadProduct, missing]
  rfl

theorem foldl_loadProduct_lookup (products : List Product) (service : AuthService)
    (productId : GoString) :
    (products.foldl (loadProduct registry) service).flavors.lookup productId =
      if (∃ product ∈ products, product.productId = productId) ∧
          registry.getProductTopicFlavors productId ≠ [] then
        some (registry.getProductTopicFlavors productId)
      else service.flavors.lookup productId := by
  induction products generalizing service with
  | nil => simp
  | cons product later ih =>
    rw [List.foldl_cons, ih]
    by_cases same : product.productId = productId
    · subst same
      by_cases missing : registry.getProductTopicFlavors product.productId = []
      · rw [loadProduct_of_nil service missing, if_neg (fun both => both.2 missing),
          if_neg (fun both => both.2 missing)]
      · rw [loadProduct_lookup_self service product missing, ite_self,
          if_pos ⟨⟨product, List.mem_cons_self, rfl⟩, missing⟩]
    · rw [loadProduct_lookup_of_ne service (Ne.symm same)]
      simp only [List.mem_cons, exists_eq_or_imp, same, false_or]

/-- The part of the registry that the loader reads gives every restricted
product its flavor: the product has an entry without a tenant, and the flavor
is stored under the identifier of the product. -/
def LoaderFinds (registry : Registry) (product : Product) (flavor : TopicFlavor) : Prop :=
  (∃ listed ∈ registry.products, listed.tenantId = [] ∧ listed.productId = product.productId) ∧
  exists first, registry.products.find?
      (fun candidate => candidate.productId == product.productId) = some first ∧
    registry.findTopicFlavor product.productId first.topicFlavor = some flavor

theorem initializeAuth_lookup_iff (id tenant : GoString) {service : AuthService}
    (fresh : service.flavors = ∅) (product : Product) (flavor : TopicFlavor) :
    (service.initializeAuth registry (runBrokerDaemon id tenant)).flavors.lookup
        product.productId = some [flavor] ↔
      LoaderFinds registry product flavor := by
  have listed : (∃ listed ∈ registry.getProducts [], listed.productId = product.productId) ↔
      ∃ listed ∈ registry.products,
        listed.tenantId = [] ∧ listed.productId = product.productId := by
    simp only [mem_getProducts, and_assoc]
  change ((registry.getProducts []).foldl (loadProduct registry)
    service).flavors.lookup _ = _ ↔ _
  rw [foldl_loadProduct_lookup, LoaderFinds, ← listed, ← getProductTopicFlavors_eq_singleton_iff,
    fresh]
  split
  case isTrue both =>
    rw [Option.some_inj]
    exact ⟨fun found => ⟨both.1, found⟩, fun found => found.2⟩
  case isFalse notBoth =>
    refine iff_of_false (fun found => by cases found) (fun found => notBoth ⟨found.1, ?_⟩)
    rw [found.2]
    exact List.cons_ne_nil _ _

end Loading

theorem authorize_unlisted {service : AuthService} {ctx : Context} {flavor : TopicFlavor}
    (known : service.flavors.lookup ctx.productID = some [flavor]) {topic : GoString}
    (absent : topic ∉ flavor.topics) (clientid : GoString) (access : UInt8) :
    service.authorize ctx clientid topic access = .error .unauthorized := by
  apply authorize_error_of_not_ok
  rw [ne_eq, authorize_of_known known]
  rintro ⟨other, among, right, found, _⟩
  rw [productFlavors, known] at among
  rcases List.mem_singleton.mp among with rfl
  exact absent (AList.lookup_isSome.mp (Option.isSome_of_eq_some found))

/-- A started broker enforces the flavors of its tenant exactly when the loader
finds each of them in the wrong place as well. -/
theorem enforcesFlavors_iff (registry : Registry) (id tenant : GoString)
    (deviceSecretKey : GoString -> GoString -> Except GoString GoString)
    (hmac : GoString -> GoString -> Mac) :
    EnforcesFlavors registry tenant
        ((newAuthService deviceSecretKey hmac).initializeAuth registry
          (runBrokerDaemon id tenant)) ↔
      forall product, product ∈ registry.products -> product.tenantId = tenant ->
        forall flavor, registry.getTenantTopicFlavor tenant product.topicFlavor = some flavor ->
          LoaderFinds registry product flavor := by
  have loaded := @initializeAuth_lookup_iff registry id tenant
    (newAuthService deviceSecretKey hmac) rfl
  constructor
  · intro enforced product member owned flavor named
    exact (loaded product flavor).mp (enforced product member owned flavor named).1
  · intro finds product member owned flavor named
    have known := (loaded product flavor).mpr (finds product member owned flavor named)
    refine ⟨known, fun ctx clientid topic same absent => ?_⟩
    rw [← same] at known
    exact authorize_unlisted known absent clientid AclWrite

def restrictingRegistry : Registry where
  products := [{ tenantId := ascii "T", productId := ascii "p", topicFlavor := ascii "f" }]
  topicFlavors := [{
    flavorName := ascii "f"
    tenantId := ascii "T"
    topics := AList.singleton (ascii "t") AclWrite }]

/-- The broker of the tenant does not restrict the product at all. -/
theorem flavor_not_enforced :
    ¬ EnforcesFlavors restrictingRegistry (ascii "T")
      ((newAuthService (fun _ _ => .error []) (fun _ _ => ⟨List.replicate 20 0, rfl⟩)).initializeAuth
        restrictingRegistry (runBrokerDaemon (ascii "broker") (ascii "T"))) := by
  intro enforced
  have restricted := (enforced _ List.mem_cons_self rfl _ rfl).1
  cases restricted

end Auth
end Sentel
