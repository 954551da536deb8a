import Sentel.Auth.Authorization

namespace Sentel
namespace Auth

open Library Registry

/-!
# Changes of topic flavors

A broker that runs is told about a changed flavor by an event.  The handler
appends the new version to the flavors of the product and keeps the old ones,
and `authorize` accepts a topic that any entry of the list grants.  A change
that adds rights is therefore seen at once, while a change that withdraws a
right has no effect.

The versions that ought to decide are those in force: the last one that was
sent for each name, and of the flavors that the broker started with those whose
name was never sent.
-/

/-- The fields of `event.AuthChangeEvent` that the handler reads. -/
structure AuthChangeEvent where
  productID : GoString
  topicFlavor : TopicFlavor

namespace AuthService

def updateTopicFlavor (service : AuthService) (productId : GoString) (flavor : TopicFlavor) :
    AuthService :=
  match service.flavors.lookup productId with
  | none => { service with flavors := service.flavors.insert productId [flavor] }
  | some flavors =>
    { service with flavors := service.flavors.insert productId (flavors ++ [flavor]) }

def handleEvent (service : AuthService) (e : AuthChangeEvent) : AuthService :=
  service.updateTopicFlavor e.productID e.topicFlavor

def afterEvents (service : AuthService) (events : List AuthChangeEvent) : AuthService :=
  events.foldl handleEvent service

end AuthService

/-- The versions that a sequence of events sends for a product, oldest first. -/
def sentTo (productID : GoString) (events : List AuthChangeEvent) : List TopicFlavor :=
  (events.filter (fun e => e.productID == productID)).map AuthChangeEvent.topicFlavor

/-! ## What the handler stores -/

section Storing

variable {service : AuthService} {productID : GoString}

theorem handleEvent_lookup_self (service : AuthService) (e : AuthChangeEvent) :
    (service.handleEvent e).flavors.lookup e.productID =
      some (service.productFlavors e.productID ++ [e.topicFlavor]) := by
  unfold AuthService.handleEvent AuthService.updateTopicFlavor AuthService.productFlavors
  cases known : service.flavors.lookup e.productID with
  | none | some flavors => exact AList.lookup_insert _

theorem handleEvent_lookup_of_ne (service : AuthService) {e : AuthChangeEvent}
    (different : productID ≠ e.productID) :
    (service.handleEvent e).flavors.lookup productID = service.flavors.lookup productID := by
  unfold AuthService.handleEvent AuthService.updateTopicFlavor
  cases known : service.flavors.lookup e.productID with
  | none | some flavors => exact AList.lookup_insert_ne different

theorem sentTo_cons_self (e : AuthChangeEvent) (later : List AuthChangeEvent) :
    sentTo e.productID (e :: later) = e.topicFlavor :: sentTo e.productID later := by
  simp [sentTo]

theorem sentTo_cons_of_ne {e : AuthChangeEvent} (different : productID ≠ e.productID)
    (later : List AuthChangeEvent) : sentTo productID (e :: later) = sentTo productID later := by
  simp [sentTo, different.symm]

theorem productFlavors_afterEvents (service : AuthService) (events : List AuthChangeEvent)
    (productID : GoString) :
    (service.afterEvents events).productFlavors productID =
      service.productFlavors productID ++ sentTo productID events := by
  induction events generalizing service with
  | nil => exact (List.append_nil _).symm
  | cons e later ih =>
    change ((service.handleEvent e).afterEvents later).productFlavors productID = _
    rw [ih]
    by_cases same : productID = e.productID
    · subst same
      rw [sentTo_cons_self, AuthService.productFlavors, handleEvent_lookup_self,
        Option.getD_some, List.append_assoc]
      rfl
    · rw [sentTo_cons_of_ne same, AuthService.productFlavors,
        handleEvent_lookup_of_ne service same]
      rfl

theorem unknown_afterEvents_iff (service : AuthService) (events : List AuthChangeEvent)
    (productID : GoString) :
    (service.afterEvents events).flavors.lookup productID = none ↔
      service.flavors.lookup productID = none ∧ sentTo productID events = [] := by
  induction events generalizing service with
  | nil => exact (and_iff_left rfl).symm
  | cons e later ih =>
    refine (ih (service.handleEvent e)).trans ?_
    by_cases same : productID = e.productID
    · subst same
      simp [handleEvent_lookup_self, sentTo_cons_self]
    · rw [sentTo_cons_of_ne same, handleEvent_lookup_of_ne service same]

end Storing

/-! ## The versions in force -/

def ReplacedBy (flavor : TopicFlavor) (later : List TopicFlavor) : Prop :=
  ∃ newer ∈ later, newer.flavorName = flavor.flavorName

instance (flavor : TopicFlavor) (later : List TopicFlavor) : Decidable (ReplacedBy flavor later) :=
  inferInstanceAs (Decidable (∃ newer ∈ later, newer.flavorName = flavor.flavorName))

/-- The last version of each name. -/
def latestVersions : List TopicFlavor -> List TopicFlavor
  | [] => []
  | flavor :: later =>
    if ReplacedBy flavor later then latestVersions later else flavor :: latestVersions later

/-- The versions that ought to decide for a product. -/
def inForce (service : AuthService) (events : List AuthChangeEvent) (productID : GoString) :
    List TopicFlavor :=
  (service.productFlavors productID).filter
      (fun flavor => ¬ ReplacedBy flavor (sentTo productID events)) ++
    latestVersions (sentTo productID events)

/-- A version that the service knew or was sent, and that a later event
replaced. -/
def Superseded (service : AuthService) (events : List AuthChangeEvent) (productID : GoString)
    (flavor : TopicFlavor) : Prop :=
  (flavor ∈ service.productFlavors productID ∧ ReplacedBy flavor (sentTo productID events)) ∨
  exists before later, sentTo productID events = before ++ flavor :: later ∧
    ReplacedBy flavor later

def Gives (flavor : TopicFlavor) (topic : GoString) (bits : UInt8) : Prop :=
  exists right, flavor.topics.lookup topic = some right ∧ right &&& bits ≠ 0

theorem mem_latestVersions {flavor : TopicFlavor} {versions : List TopicFlavor} :
    flavor ∈ latestVersions versions ↔
      exists before later, versions = before ++ flavor :: later ∧ ¬ ReplacedBy flavor later := by
  induction versions with
  | nil => simp [latestVersions]
  | cons first rest ih =>
    have inRest : (exists before later, first :: rest = before ++ flavor :: later ∧
          ¬ ReplacedBy flavor later) ↔
        (first = flavor ∧ ¬ ReplacedBy flavor rest) ∨ flavor ∈ latestVersions rest := by
      rw [ih]
      constructor
      · rintro ⟨before, later, split, kept⟩
        cases before with
        | nil =>
          cases split
          exact .inl ⟨rfl, kept⟩
        | cons head before =>
          cases split
          exact .inr ⟨before, later, rfl, kept⟩
      · rintro (⟨rfl, kept⟩ | ⟨before, later, rfl, kept⟩)
        · exact ⟨[], rest, rfl, kept⟩
        · exact ⟨first :: before, later, rfl, kept⟩
    rw [inRest, latestVersions]
    by_cases replaced : ReplacedBy first rest
    · rw [if_pos replaced]
      refine ⟨.inr, fun either => either.resolve_left ?_⟩
      rintro ⟨rfl, kept⟩
      exact kept replaced
    · rw [if_neg replaced, List.mem_cons]
      refine or_congr_left ⟨?_, fun both => both.1.symm⟩
      rintro rfl
      exact ⟨rfl, replaced⟩

theorem stored_iff (service : AuthService) (events : List AuthChangeEvent)
    (productID : GoString) (flavor : TopicFlavor) :
    flavor ∈ (service.afterEvents events).productFlavors productID ↔
      flavor ∈ inForce service events productID ∨
        Superseded service events productID flavor := by
  rw [productFlavors_afterEvents, List.mem_append, inForce, List.mem_append, List.mem_filter,
    mem_latestVersions, Superseded]
  constructor
  · rintro (known | sent)
    · by_cases replaced : ReplacedBy flavor (sentTo productID events)
      · exact .inr (.inl ⟨known, replaced⟩)
      · exact .inl (.inl ⟨known, decide_eq_true replaced⟩)
    · rcases List.append_of_mem sent with ⟨before, later, split⟩
      by_cases replaced : ReplacedBy flavor later
      · exact .inr (.inr ⟨before, later, split, replaced⟩)
      · exact .inl (.inr ⟨before, later, split, replaced⟩)
  · have sentOf : forall before later, sentTo productID events = before ++ flavor :: later ->
        flavor ∈ sentTo productID events := by
      intro before later split
      rw [split]
      exact List.mem_append_right _ List.mem_cons_self
    rintro ((⟨known, _⟩ | ⟨before, later, split, _⟩) | ⟨known, _⟩ | ⟨before, later, split, _⟩)
    · exact .inl known
    · exact .inr (sentOf before later split)
    · exact .inl known
    · exact .inr (sentOf before later split)

/-! ## Deciding by the latest versions -/

/-- After the events, a request is accepted exactly when the product was never
restricted or a version in force gives the right. -/
def DecidesByLatest (service : AuthService) (events : List AuthChangeEvent) : Prop :=
  forall (ctx : Context) (clientid topic : GoString) (access : UInt8),
    (service.afterEvents events).authorize ctx clientid topic access = .ok () ↔
      (service.flavors.lookup ctx.productID = none ∧ sentTo ctx.productID events = []) ∨
        ∃ flavor ∈ inForce service events ctx.productID, Gives flavor topic access

/-- The latest versions decide exactly when no right was ever withdrawn: what a
superseded version gives, a version in force still gives. -/
theorem decidesByLatest_iff (service : AuthService) (events : List AuthChangeEvent) :
    DecidesByLatest service events ↔
      forall productID flavor, Superseded service events productID flavor ->
        forall topic bits, Gives flavor topic bits ->
          ∃ kept ∈ inForce service events productID, Gives kept topic bits := by
  have decision : forall (ctx : Context) (clientid topic : GoString) (access : UInt8),
      (service.afterEvents events).authorize ctx clientid topic access = .ok () ↔
        (service.flavors.lookup ctx.productID = none ∧ sentTo ctx.productID events = []) ∨
          ∃ flavor ∈ (service.afterEvents events).productFlavors ctx.productID,
            Gives flavor topic access := by
    intro ctx clientid topic access
    rw [authorize_iff, unknown_afterEvents_iff]
    rfl
  constructor
  · intro latest productID flavor superseded topic bits gives
    have stored := (stored_iff service events productID flavor).mpr (.inr superseded)
    have accepted := (decision { productID := productID } [] topic bits).mpr
      (.inr ⟨flavor, stored, gives⟩)
    -- a product with a stored version is restricted
    refine ((latest _ _ _ _).mp accepted).resolve_left ?_
    intro unrestricted
    have missing := (unknown_afterEvents_iff service events productID).mpr unrestricted
    rw [AuthService.productFlavors, missing] at stored
    exact List.not_mem_nil stored
  · intro kept ctx clientid topic access
    rw [decision]
    refine or_congr_right ⟨?_, ?_⟩
    · rintro ⟨flavor, stored, gives⟩
      rcases (stored_iff service events _ flavor).mp stored with current | superseded
      · exact ⟨flavor, current, gives⟩
      · exact kept _ flavor superseded topic access gives
    · rintro ⟨flavor, current, gives⟩
      exact ⟨flavor, (stored_iff service events _ flavor).mpr (.inl current), gives⟩

def narrowingEvents : List AuthChangeEvent := [
  { productID := ascii "p"
    topicFlavor := {
      flavorName := ascii "f"
      tenantId := ascii "T"
      topics := AList.singleton (ascii "t") AclWrite } },
  { productID := ascii "p"
    topicFlavor := {
      flavorName := ascii "f"
      tenantId := ascii "T"
      topics := ∅ } }]

def flavorlessService : AuthService :=
  newAuthService (fun _ _ => .error []) readOnlyService.hmac

/-- A topic that the last version no longer lists is still authorized. -/
theorem withdrawn_right_kept : ¬ DecidesByLatest flavorlessService narrowingEvents := by
  intro latest
  have decided := (latest { productID := ascii "p" } (ascii "c") (ascii "t") AclWrite).mp rfl
  have last : inForce flavorlessService narrowingEvents (ascii "p") =
      [{ flavorName := ascii "f", tenantId := ascii "T", topics := ∅ }] := rfl
  rcases decided with ⟨_, nothing⟩ | ⟨flavor, current, right, found, _⟩
  · cases nothing
  · rw [last] at current
    rcases List.mem_singleton.mp current with rfl
    cases found

end Auth
end Sentel
