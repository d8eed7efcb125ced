import AffinidiMessaging.Didcomm.Onion

/-! # The services of a document

Which service of a document `find_did_comm_service` returns, and which one is for DIDComm.
-/

namespace AffinidiMessaging.Didcomm

open Fallible Serde

namespace Service

variable (service : Service)

/-- The service has the type, and an endpoint for DIDComm v2 that decodes. -/
def IsDidComm (found : DidCommMessagingService) : Prop :=
  "DIDCommMessaging" ∈ service.type_ ∧ ∃ endpoints value, service.serviceEndpoint = some endpoints ∧
    Endpoint.map value ∈ endpoints ∧ (Endpoint.map value).accepts = true ∧
    DidCommMessagingService.ofJson value = some found

/-- The service has any type, and its first endpoint for DIDComm v2 decodes. -/
def Offers (found : DidCommMessagingService) : Prop :=
  service.type_ ≠ [] ∧ ∃ endpoints value, service.serviceEndpoint = some endpoints ∧
    endpoints.find? Endpoint.accepts = some (.map value) ∧ DidCommMessagingService.ofJson value = some found

variable {service} {found : DidCommMessagingService}

theorem check_ok_iff {id : String} : service.check = .ok (id, found) ↔ id = service.id ∧ service.Offers found := by
  simp only [check, checkType, except_bind_ok_iff, ensure_ok_iff, okOr_ok_iff]
  constructor
  · rintro ⟨_, hType, endpoints, hEndpoints, endpoint, hFirst, h⟩
    cases endpoint with
    | uri uri => cases h
    | map value =>
      obtain ⟨_, ⟨⟩, h⟩ := (except_bind_ok_iff _ _ _).mp h
      obtain ⟨_, hFound, h⟩ := (except_bind_ok_iff _ _ _).mp h
      cases h
      rw [okOr_ok_iff] at hFound
      exact ⟨rfl, by simpa using hType, endpoints, value, hEndpoints, hFirst, hFound⟩
  · rintro ⟨rfl, hType, endpoints, value, hEndpoints, hFirst, hFound⟩
    refine ⟨(), by simpa using hType, endpoints, hEndpoints, .map value, hFirst, ?_⟩
    exact (except_bind_ok_iff _ _ _).mpr ⟨value, rfl,
      (except_bind_ok_iff _ _ _).mpr ⟨found, (okOr_ok_iff _ _ _).mpr hFound, rfl⟩⟩

/-- Of the right type, it is the first endpoint that counts. -/
theorem Offers.isDidComm (h : service.Offers found) (hType : "DIDCommMessaging" ∈ service.type_) :
    service.IsDidComm found := by
  obtain ⟨-, endpoints, value, hEndpoints, hFirst, hFound⟩ := h
  exact ⟨hType, endpoints, value, hEndpoints, List.mem_of_find?_eq_some hFirst, List.find?_some hFirst, hFound⟩

end Service

section
variable (crates : Crates) (doc : Document)

/-- A service that is looked up is one of the document's. -/
def FindsServices : Prop :=
  ∀ (doc : Document) (id : String) (service : Service), crates.findService doc id = some service → service ∈ doc.service

/-- What is returned is a service for DIDComm: without an id the first one of the document, or none if there is
none. -/
structure SelectsDidComm (serviceId : Option String) : Prop where
  isDidComm : ∀ id found, findDidCommService crates doc serviceId = .ok (some (id, found)) →
    ∃ service ∈ doc.service, service.id = id ∧ service.IsDidComm found
  first : serviceId = none → ∀ id found, findDidCommService crates doc serviceId = .ok (some (id, found)) →
    ∃ before service after, doc.service = before ++ service :: after ∧ service.id = id ∧ service.IsDidComm found ∧
      ∀ earlier ∈ before, ∀ other, ¬ earlier.IsDidComm other
  none_iff : serviceId = none → (findDidCommService crates doc serviceId = .ok none ↔
    ∀ service ∈ doc.service, ∀ found, ¬ service.IsDidComm found)

/-- The service with the id is of the type, if it offers anything. Without an id, the first service that is for
DIDComm or offers anything does both. -/
def TypedServices : Option String → Prop
  | some id => ∀ service, crates.findService doc id = some service → (∃ found, service.Offers found) →
    "DIDCommMessaging" ∈ service.type_
  | none => ∀ before service after, doc.service = before ++ service :: after →
    (∀ earlier ∈ before, (¬ ∃ found, earlier.Offers found) ∧ ¬ ∃ found, earlier.IsDidComm found) →
      ((∃ found, service.Offers found) ↔ ∃ found, service.IsDidComm found)

variable {crates doc}

theorem findDidCommService_id_iff {serviceId id : String} {found : DidCommMessagingService} :
    findDidCommService crates doc (some serviceId) = .ok (some (id, found)) ↔
      ∃ service, crates.findService doc serviceId = some service ∧ id = service.id ∧ service.Offers found := by
  simp only [findDidCommService, except_bind_ok_iff, okOr_ok_iff, except_pure_eq, Except.ok.injEq, Option.some.injEq]
  constructor
  · rintro ⟨service, hService, _, hCheck, rfl⟩
    exact ⟨service, hService, Service.check_ok_iff.mp hCheck⟩
  · rintro ⟨service, hService, hCheck⟩
    exact ⟨service, hService, _, Service.check_ok_iff.mpr hCheck, rfl⟩

/-- The search turns a service that does not check into one that is passed over. -/
theorem check_eq_none_iff {service : Service} : (match service.check with
    | .ok found => some found
    | .error _ => none) = none ↔ ¬ ∃ found, service.Offers found := by
  cases hCheck : service.check with
  | ok r =>
    have hOffers := (@Service.check_ok_iff _ r.2 r.1).mp hCheck
    simpa using ⟨_, hOffers.2⟩
  | error e =>
    simp only [true_iff]
    rintro ⟨found, hOffers⟩
    cases hCheck.symm.trans (Service.check_ok_iff.mpr ⟨rfl, hOffers⟩)

theorem findDidCommService_first_iff {id : String} {found : DidCommMessagingService} :
    findDidCommService crates doc none = .ok (some (id, found)) ↔
      ∃ before service after, doc.service = before ++ service :: after ∧ id = service.id ∧ service.Offers found ∧
        ∀ earlier ∈ before, ¬ ∃ other, earlier.Offers other := by
  rw [findDidCommService, Except.ok.injEq, List.findSome?_eq_some_iff]
  constructor
  · rintro ⟨before, service, after, hDoc, hFound, hBefore⟩
    split at hFound
    · rename_i r hCheck
      cases hFound
      obtain ⟨rfl, hOffers⟩ := Service.check_ok_iff.mp hCheck
      exact ⟨before, service, after, hDoc, rfl, hOffers, fun earlier h => check_eq_none_iff.mp (hBefore earlier h)⟩
    · cases hFound
  · rintro ⟨before, service, after, hDoc, rfl, hOffers, hBefore⟩
    refine ⟨before, service, after, hDoc, ?_, fun earlier h => check_eq_none_iff.mpr (hBefore earlier h)⟩
    rw [Service.check_ok_iff.mpr ⟨rfl, hOffers⟩]

theorem findDidCommService_none_iff :
    findDidCommService crates doc none = .ok none ↔ ∀ service ∈ doc.service, ¬ ∃ found, service.Offers found := by
  rw [findDidCommService, Except.ok.injEq, List.findSome?_eq_none_iff]
  exact forall₂_congr fun service _ => check_eq_none_iff

theorem TypedServices.selects_id (hFind : FindsServices crates) {serviceId : String}
    (h : TypedServices crates doc (some serviceId)) : SelectsDidComm crates doc (some serviceId) where
  isDidComm id found hReturned := by
    obtain ⟨service, hService, rfl, hOffers⟩ := findDidCommService_id_iff.mp hReturned
    exact ⟨service, hFind doc serviceId service hService, rfl, hOffers.isDidComm (h service hService ⟨found, hOffers⟩)⟩
  first hNone := by cases hNone
  none_iff hNone := by cases hNone

/-- Up to the first service that offers anything, none is for DIDComm. -/
theorem TypedServices.before (h : TypedServices crates doc none) {before after : List Service}
    (hDoc : doc.service = before ++ after) (hBefore : ∀ earlier ∈ before, ¬ ∃ found, earlier.Offers found) :
    ∀ earlier ∈ before, ¬ ∃ found, earlier.IsDidComm found := by
  induction before using List.reverseRecOn generalizing after with
  | nil => simp
  | append_singleton before service ih =>
    have hDoc' : doc.service = before ++ service :: after := by rw [hDoc, List.append_assoc, List.singleton_append]
    have hRest := ih hDoc' fun earlier hMem => hBefore earlier (List.mem_append_left _ hMem)
    intro earlier hMem
    rcases List.mem_append.mp hMem with hMem | hMem
    · exact hRest earlier hMem
    · rw [List.mem_singleton.mp hMem, ← h before service after hDoc' fun e he =>
        ⟨hBefore e (List.mem_append_left _ he), hRest e he⟩]
      exact hBefore service (by simp)

theorem TypedServices.selects_first (h : TypedServices crates doc none) : SelectsDidComm crates doc none := by
  have hFirst : ∀ id found, findDidCommService crates doc none = .ok (some (id, found)) →
      ∃ before service after, doc.service = before ++ service :: after ∧ service.id = id ∧ service.IsDidComm found ∧
        ∀ earlier ∈ before, ∀ other, ¬ earlier.IsDidComm other := by
    intro id found hReturned
    obtain ⟨before, service, after, hDoc, rfl, hOffers, hBefore⟩ := findDidCommService_first_iff.mp hReturned
    have hOther := h.before hDoc hBefore
    obtain ⟨_, hType, -⟩ := (h before service after hDoc fun e he => ⟨hBefore e he, hOther e he⟩).mp ⟨found, hOffers⟩
    exact ⟨before, service, after, hDoc, rfl, hOffers.isDidComm hType, fun e he other hE => hOther e he ⟨other, hE⟩⟩
  refine ⟨fun id found hReturned => ?_, fun _ => hFirst, fun _ => ?_⟩
  · obtain ⟨before, service, after, hDoc, hId, hIs, -⟩ := hFirst id found hReturned
    exact ⟨service, by simp [hDoc], hId, hIs⟩
  · rw [findDidCommService_none_iff]
    constructor
    · intro hNone service hMem found hIs
      exact h.before (List.append_nil _).symm hNone service hMem ⟨found, hIs⟩
    · intro hNone service hMem hOffers
      -- the first service that offers anything would be one for DIDComm
      cases hReturned : findDidCommService crates doc none with
      | ok r =>
        cases r with
        | some r =>
          obtain ⟨before, service, after, hDoc, -, hIs, -⟩ := hFirst r.1 r.2 hReturned
          exact hNone service (by simp [hDoc]) r.2 hIs
        | none => exact findDidCommService_none_iff.mp hReturned service hMem hOffers
      | error e => cases hReturned

section
variable (hIds : (doc.service.map Service.id).Nodup)
include hIds

theorem eq_of_service_id {service other : Service} (hService : service ∈ doc.service) (hOther : other ∈ doc.service)
    (hId : service.id = other.id) : service = other :=
  List.inj_on_of_nodup_map hIds hService hOther hId

theorem SelectsDidComm.typed_id (hFind : FindsServices crates) {serviceId : String}
    (h : SelectsDidComm crates doc (some serviceId)) : TypedServices crates doc (some serviceId) := by
  rintro service hService ⟨found, hOffers⟩
  obtain ⟨other, hOther, hId, hType, -⟩ :=
    h.isDidComm _ _ (findDidCommService_id_iff.mpr ⟨service, hService, rfl, hOffers⟩)
  exact eq_of_service_id hIds hOther (hFind doc serviceId service hService) hId ▸ hType

theorem SelectsDidComm.typed_first (h : SelectsDidComm crates doc none) : TypedServices crates doc none := by
  intro before service after hDoc hBefore
  have hMem : service ∈ doc.service := by simp [hDoc]
  constructor
  · rintro ⟨found, hOffers⟩
    obtain ⟨other, hOther, hId, hIs⟩ := h.isDidComm _ _ (findDidCommService_first_iff.mpr
      ⟨before, service, after, hDoc, rfl, hOffers, fun e he => (hBefore e he).1⟩)
    exact ⟨found, eq_of_service_id hIds hOther hMem hId ▸ hIs⟩
  · rintro ⟨found, hIs⟩
    by_contra hOffers
    cases hReturned : findDidCommService crates doc none with
    | error e => cases hReturned
    | ok r =>
      cases r with
      | none => exact (h.none_iff rfl).mp hReturned service hMem found hIs
      | some r =>
        obtain ⟨before', other, after', hDoc', hId, hOther, hFirst⟩ := h.first rfl r.1 r.2 hReturned
        obtain ⟨_, offering, _, hDoc'', hId', hOffering, -⟩ := findDidCommService_first_iff.mp hReturned
        obtain rfl : other = offering :=
          eq_of_service_id hIds (by simp [hDoc']) (by simp [hDoc'']) (hId.trans hId')
        -- the first service for DIDComm offers something, so it comes after the one that does not
        rcases List.append_eq_append_iff.mp (hDoc.symm.trans hDoc') with ⟨between, rfl, hRest⟩ | ⟨between, rfl, hRest⟩
        · cases between with
          | nil => exact hOffers ⟨r.2, (List.cons.inj hRest).1 ▸ hOffering⟩
          | cons next between =>
            exact hFirst service (by simp [(List.cons.inj hRest).1]) found hIs
        · cases between with
          | nil => exact hOffers ⟨r.2, (List.cons.inj hRest).1 ▸ hOffering⟩
          | cons next between =>
            exact (hBefore next (by simp)).1 ⟨r.2, (List.cons.inj hRest).1 ▸ hOffering⟩

end

/-- Only services for DIDComm are selected if what offers an endpoint has the type; no other documents of
services with different ids have their services selected so. -/
theorem selects_didComm_iff (hFind : FindsServices crates) (serviceId : Option String) :
    (TypedServices crates doc serviceId → SelectsDidComm crates doc serviceId) ∧
      ((doc.service.map Service.id).Nodup → SelectsDidComm crates doc serviceId →
        TypedServices crates doc serviceId) := by
  cases serviceId with
  | some id => exact ⟨fun h => h.selects_id hFind, fun hIds h => h.typed_id hIds hFind⟩
  | none => exact ⟨fun h => h.selects_first, fun hIds h => h.typed_first hIds⟩

end

/-! ## Examples -/

def serviceOf (id type_ uri : String) (routingKeys : List Json) : Service where
  id := id
  type_ := [type_]
  serviceEndpoint := some [.map (.obj [("uri", .str uri), ("routingKeys", .arr routingKeys)])]

def domainService : Service where
  id := "did:example:bob#domain"
  type_ := ["LinkedDomains"]
  serviceEndpoint := some [.uri "https://bob.example.com"]

/-- A linked domain without an endpoint map, and two services for DIDComm. -/
def didCommDocument : Document :=
  documentOf [domainService, serviceOf "did:example:bob#messaging" "DIDCommMessaging" "https://example.com" [],
    serviceOf "did:example:bob#backup" "DIDCommMessaging" "https://example.org" []] "did:example:bob"

theorem ideal_findsServices (sha256 : ByteArray → ByteArray) : FindsServices (ideal sha256) :=
  fun _ _ _ h => List.mem_of_find?_eq_some h

theorem typedServices_bob : TypedServices (ideal id) didCommDocument none := by
  have hOffers : (serviceOf "did:example:bob#messaging" "DIDCommMessaging" "https://example.com" []).Offers
      ⟨"https://example.com", none, []⟩ := ⟨by decide, _, _, rfl, rfl, rfl⟩
  intro before service after hDoc hEarlier
  cases before with
  | nil =>
    obtain rfl : domainService = service := (List.cons.inj hDoc).1
    refine iff_of_false ?_ ?_
    · rintro ⟨found, -, endpoints, value, hEndpoints, hFirst, -⟩
      cases hEndpoints
      cases hFirst
    · rintro ⟨found, hType, -⟩
      exact absurd hType (by decide)
  | cons first before =>
    have hRest := (List.cons.inj hDoc).2
    cases before with
    | nil =>
      obtain rfl := (List.cons.inj hRest).1
      exact iff_of_true ⟨_, hOffers⟩ ⟨_, hOffers.isDidComm (by decide)⟩
    | cons second before =>
      obtain rfl := (List.cons.inj hRest).1
      exact absurd ⟨_, hOffers⟩ (hEarlier _ (by simp)).1

/-- The first service for DIDComm is found behind the linked domain. -/
theorem selects_didComm_bob : SelectsDidComm (ideal id) didCommDocument none ∧
    findDidCommService (ideal id) didCommDocument none =
      .ok (some ("did:example:bob#messaging", ⟨"https://example.com", none, []⟩)) :=
  ⟨(selects_didComm_iff (ideal_findsServices id) none).1 typedServices_bob, rfl⟩

/-- A linked domain comes before the service for DIDComm. -/
def linkedDomainDocument : Document :=
  documentOf [serviceOf "did:example:bob#domain" "LinkedDomains" "https://bob.example.com" [],
    serviceOf "did:example:bob#messaging" "DIDCommMessaging" "https://example.com" []] "did:example:bob"

theorem linked_domain_selected :
    findDidCommService (ideal id) linkedDomainDocument none =
        .ok (some ("did:example:bob#domain", ⟨"https://bob.example.com", none, []⟩)) ∧
      ¬ SelectsDidComm (ideal id) linkedDomainDocument none := by
  refine ⟨rfl, fun h => ?_⟩
  obtain ⟨service, hMem, hId, hType, -⟩ := h.isDidComm _ _ rfl
  rcases List.mem_cons.mp hMem with rfl | hMem
  · exact absurd hType (by decide)
  · rw [List.mem_singleton.mp hMem] at hId
    exact absurd hId (by decide)

end AffinidiMessaging.Didcomm
