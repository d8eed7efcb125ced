import AffinidiMessaging.Didcomm.Services

/-! # The route of a forwarded message

The loop of `resolve_did_comm_services_chain` resolves at most twice, whatever the documents refer to. The
chain it ends with decides where a message is forwarded along, and what is reported of it.
-/

namespace AffinidiMessaging.Didcomm

open Fallible Serde

abbrev ServicesChain := List (String × DidCommMessagingService)

section
variable (crates : Crates) (dids : DidResolver) (to_ : String)

def unresolved (e : String) : Fault :=
  errMsg .didNotResolved ("Couldn't resolve DID(" ++ to_ ++ "). Reason: " ++ e)

/-- The document that a DID is resolved to and the service it selects; one resolution is counted. -/
def resolveService (did : String) (serviceId : Option String) (resolutions : Nat) :
    Nat × Result (Option (String × DidCommMessagingService)) :=
  (resolutions + 1, do
    let doc ← dids.resolved (unresolved to_) did
    findDidCommService crates doc serviceId)

/-- The loop: while the endpoint of the service in front is a DID, the service of that DID is put in front of
it. `fuel` bounds the rounds; `none` is a run that needs more. -/
def chainLoop (service : String × DidCommMessagingService) :
    Nat → Nat → ServicesChain → Option (Nat × Result ServicesChain)
  | 0, _, _ => none
  | fuel + 1, resolutions, services =>
    if isDid service.2.uri then
      if 1 < services.length then
        some (resolutions, .error (errMsg .invalidState "DID doc defines alternative endpoints recursively"))
      else
        match resolveService crates dids to_ service.2.uri none resolutions with
        | (resolutions, .error e) => some (resolutions, .error e)
        | (resolutions, .ok none) => some (resolutions, .error (errMsg .invalidState
            "Referenced mediator does not provide any DIDCommMessaging services"))
        | (resolutions, .ok (some mediator)) => chainLoop mediator fuel resolutions (mediator :: services)
    else some (resolutions, .ok services)

/-- `resolve_did_comm_services_chain` as it loops, with the number of resolutions. -/
def servicesChainLoop (serviceId : Option String) (fuel : Nat) : Option (Nat × Result ServicesChain) :=
  match resolveService crates dids to_ to_ serviceId 0 with
  | (resolutions, .error e) => some (resolutions, .error e)
  | (resolutions, .ok none) => some (resolutions, .ok [])
  | (resolutions, .ok (some service)) => chainLoop crates dids to_ service fuel resolutions [service]

end

section
variable {crates : Crates} {dids : DidResolver} {to_ : String}

theorem chainLoop_not_did {service : String × DidCommMessagingService} (h : isDid service.2.uri = false)
    (fuel resolutions : Nat) (services : ServicesChain) :
    chainLoop crates dids to_ service (fuel + 1) resolutions services = some (resolutions, .ok services) := by
  rw [chainLoop, h]
  rfl

/-- With a service of another DID in front, the loop goes no further. -/
theorem chainLoop_long {service : String × DidCommMessagingService} {services : ServicesChain}
    (h : 1 < services.length) (fuel resolutions : Nat) :
    chainLoop crates dids to_ service (fuel + 1) resolutions services = some (resolutions,
      if isDid service.2.uri then .error (errMsg .invalidState "DID doc defines alternative endpoints recursively")
      else .ok services) := by
  rw [chainLoop, if_pos h]
  split <;> rfl

/-- What the loop makes of the recipient's service: that alone, or that of the DID it names in front. -/
theorem chainLoop_service (service : String × DidCommMessagingService) (fuel : Nat) : ∃ resolutions ≤ 2,
    chainLoop crates dids to_ service (fuel + 2) 1 [service] = some (resolutions,
      if isDid service.2.uri then do
        let doc ← dids.resolved (unresolved to_) service.2.uri
        let found ← findDidCommService crates doc none
        let mediator ← okOr found (errMsg .invalidState
          "Referenced mediator does not provide any DIDCommMessaging services")
        ensure (!isDid mediator.2.uri) (errMsg .invalidState "DID doc defines alternative endpoints recursively")
        return [mediator, service]
      else return [service]) := by
  cases hDid : isDid service.2.uri with
  | false => exact ⟨1, by decide, chainLoop_not_did hDid (fuel + 1) 1 [service]⟩
  | true =>
    refine ⟨2, by decide, ?_⟩
    rw [chainLoop, hDid]
    simp only [if_true, List.length_singleton, Nat.lt_irrefl, if_false, resolveService]
    cases hDoc : dids.resolved (unresolved to_) service.2.uri with
    | error e => rfl
    | ok doc =>
      simp only [bind, Except.bind]
      cases hFound : findDidCommService crates doc none with
      | error e => rfl
      | ok found =>
        cases found with
        | none => rfl
        | some mediator =>
          change chainLoop crates dids to_ mediator (fuel + 1) 2 [mediator, service] = _
          rw [chainLoop_long (by simp)]
          simp only [okOr]
          cases isDid mediator.2.uri <;> rfl

/-- After two rounds the loop has ended, with what the chain is and after two resolutions at most. -/
theorem servicesChainLoop_ends (serviceId : Option String) (fuel : Nat) : ∃ resolutions ≤ 2,
    servicesChainLoop crates dids to_ serviceId (fuel + 2) =
      some (resolutions, resolveDidCommServicesChain crates dids to_ serviceId) := by
  unfold servicesChainLoop resolveDidCommServicesChain resolveService
  change ∃ resolutions ≤ 2, _ = some (resolutions, dids.resolved (unresolved to_) to_ >>= _)
  cases hDoc : dids.resolved (unresolved to_) to_ with
  | error e => exact ⟨1, by decide, rfl⟩
  | ok doc =>
    simp only [bind, Except.bind]
    cases hService : findDidCommService crates doc serviceId with
    | error e => exact ⟨1, by decide, rfl⟩
    | ok found =>
      cases found with
      | none => exact ⟨1, by decide, rfl⟩
      | some service => exact chainLoop_service service fuel

variable (crates dids to_) in
/-- What a chain is that services are resolved to. -/
structure IsChain (serviceId : Option String) (chain : ServicesChain) : Prop where
  length : chain.length ≤ 2
  selected : ∀ service, chain.getLast? = some service → ∃ doc, dids.resolve to_ = .ok doc ∧
    findDidCommService crates doc serviceId = .ok (some service)
  first : ∀ service, chain.head? = some service → isDid service.2.uri = false

/-- The routing keys for a recipient's service: its mediator, where it names one, and its own ones. -/
def routeTo (service : String × DidCommMessagingService) : List String :=
  (if isDid service.2.uri then [service.2.uri] else []) ++ service.2.routingKeys

/-- A chain is of the recipient's service alone, or has that of the DID it names in front. -/
theorem resolveDidCommServicesChain_ok_iff {serviceId : Option String} {chain : ServicesChain} :
    resolveDidCommServicesChain crates dids to_ serviceId = .ok chain ↔
      ∃ doc, dids.resolve to_ = .ok doc ∧
        (findDidCommService crates doc serviceId = .ok none ∧ chain = [] ∨
        ∃ service, findDidCommService crates doc serviceId = .ok (some service) ∧
          (isDid service.2.uri = false ∧ chain = [service] ∨
          ∃ doc' mediator, isDid service.2.uri = true ∧ dids.resolve service.2.uri = .ok doc' ∧
            findDidCommService crates doc' none = .ok (some mediator) ∧ isDid mediator.2.uri = false ∧
            chain = [mediator, service])) := by
  simp only [resolveDidCommServicesChain, except_bind_ok_iff, resolved_ok_iff]
  refine exists_congr fun doc => and_congr_right fun _ => ?_
  constructor
  · rintro ⟨found, hFound, h⟩
    cases found with
    | none =>
      cases h
      exact .inl ⟨hFound, rfl⟩
    | some service =>
      refine .inr ⟨service, hFound, ?_⟩
      cases hDid : isDid service.2.uri with
      | false =>
        simp only [hDid, Bool.false_eq_true, if_false] at h
        cases h
        exact .inl ⟨rfl, rfl⟩
      | true =>
        simp only [hDid, if_true, except_bind_ok_iff, resolved_ok_iff, okOr_ok_iff, ensure_ok_iff,
          Bool.not_eq_true'] at h
        obtain ⟨doc', hDoc, found, hMediator, mediator, rfl, _, hNotDid, h⟩ := h
        cases h
        exact .inr ⟨doc', mediator, rfl, hDoc, hMediator, hNotDid, rfl⟩
  · rintro (⟨hFound, rfl⟩ | ⟨service, hFound, ⟨hDid, rfl⟩ | ⟨doc', mediator, hDid, hDoc, hMediator, hNotDid, rfl⟩⟩)
    · exact ⟨none, hFound, rfl⟩
    · refine ⟨some service, hFound, ?_⟩
      simp only [hDid, Bool.false_eq_true, if_false]
      rfl
    · refine ⟨some service, hFound, ?_⟩
      simp only [hDid, if_true, except_bind_ok_iff, resolved_ok_iff, okOr_ok_iff, ensure_ok_iff, Bool.not_eq_true']
      exact ⟨doc', hDoc, some mediator, hMediator, mediator, rfl, (), hNotDid, rfl⟩

section
variable {serviceId : Option String} {chain : ServicesChain}
  (h : resolveDidCommServicesChain crates dids to_ serviceId = .ok chain)
include h

theorem isChain_of_resolved : IsChain crates dids to_ serviceId chain := by
  obtain ⟨doc, hDoc, ⟨-, rfl⟩ | ⟨service, hFound, ⟨hDid, rfl⟩ | ⟨doc', mediator, -, -, -, hNotDid, rfl⟩⟩⟩ :=
    resolveDidCommServicesChain_ok_iff.mp h
  · exact ⟨by simp, by simp, by simp⟩
  · refine ⟨by simp, ?_, ?_⟩
    · rintro _ ⟨⟩
      exact ⟨doc, hDoc, hFound⟩
    · rintro _ ⟨⟩
      exact hDid
  · refine ⟨by simp, ?_, ?_⟩
    · rintro _ ⟨⟩
      exact ⟨doc, hDoc, hFound⟩
    · rintro _ ⟨⟩
      exact hNotDid

/-- The keys that the chain is read for are those of the route. -/
theorem routingKeysOf_resolved {service : String × DidCommMessagingService} (hLast : chain.getLast? = some service) :
    routingKeysOf chain = routeTo service := by
  obtain ⟨doc, -, ⟨-, rfl⟩ | ⟨service', -, ⟨hDid, rfl⟩ | ⟨doc', mediator, hDid, -, -, -, rfl⟩⟩⟩ :=
    resolveDidCommServicesChain_ok_iff.mp h
  · cases hLast
  · obtain rfl : service' = service := Option.some.inj hLast
    rw [routeTo, hDid]
    rfl
  · obtain rfl : service' = service := Option.some.inj hLast
    rw [routeTo, hDid]
    rfl

/-- Where there is a route the message is wrapped along it, and only there. -/
theorem wrapInForwardIfNeeded_resolved {opts : PackEncryptedOptions} (hId : opts.messagingService = serviceId)
    (draws : Nat → ForwardDraws crates) (msg : String) :
    wrapInForwardIfNeeded crates dids draws msg to_ opts =
      match chain.head?, chain.getLast? with
      | some first, some service =>
        if opts.forward = false ∨ routeTo service = [] then .ok none
        else (wrapInForward crates dids draws msg (opts.forwardHeaders.getD []) to_ (routeTo service) opts.encAlgAnon
          opts.toKidsLimit).map fun wrapped => some (wrapped, ⟨service.1, first.2.uri⟩)
      | _, _ => .ok none := by
  subst hId
  unfold wrapInForwardIfNeeded
  cases hForward : opts.forward with
  | false =>
    cases chain with
    | nil => rfl
    | cons first rest =>
      simp only [List.head?_cons, List.getLast?_cons, true_or, if_true]
      rfl
  | true =>
    cases chain with
    | nil =>
      rw [h]
      rfl
    | cons first rest =>
      have hKeys := routingKeysOf_resolved h List.getLast?_cons
      rw [h]
      simp only [Bool.not_true, Bool.false_eq_true, if_false, List.head?_cons, List.getLast?_cons, bind, Except.bind,
        hKeys, List.isEmpty_iff, Bool.true_eq_false, false_or]
      split
      · rfl
      · cases wrapInForward crates dids draws msg
          (opts.forwardHeaders.getD []) to_ _ opts.encAlgAnon opts.toKidsLimit <;> rfl

end

variable (crates dids to_) in
/-- Two resolutions make a chain of two services at most; the route is that of the recipient's service, and the
endpoint that is reported the one in front. -/
theorem route_matches_endpoint (serviceId : Option String) :
    (∀ fuel, ∃ resolutions ≤ 2, servicesChainLoop crates dids to_ serviceId (fuel + 2) =
      some (resolutions, resolveDidCommServicesChain crates dids to_ serviceId)) ∧
    ∀ chain, resolveDidCommServicesChain crates dids to_ serviceId = .ok chain →
      IsChain crates dids to_ serviceId chain ∧
      ∀ (opts : PackEncryptedOptions) (draws : Nat → ForwardDraws crates) (msg : String),
        opts.messagingService = serviceId →
        (∀ wrapped metadata, wrapInForwardIfNeeded crates dids draws msg to_ opts = .ok (some (wrapped, metadata)) →
          ∃ first service, chain.head? = some first ∧ chain.getLast? = some service ∧
            wrapInForward crates dids draws msg (opts.forwardHeaders.getD []) to_ (routeTo service) opts.encAlgAnon
              opts.toKidsLimit = .ok wrapped ∧
            metadata = { id := service.1, serviceEndpoint := first.2.uri }) ∧
        (wrapInForwardIfNeeded crates dids draws msg to_ opts = .ok none ↔
          opts.forward = false ∨ chain = [] ∨ ∃ service, chain.getLast? = some service ∧ routeTo service = []) := by
  refine ⟨servicesChainLoop_ends serviceId, fun chain hChain => ⟨isChain_of_resolved hChain, ?_⟩⟩
  intro opts draws msg hId
  rw [wrapInForwardIfNeeded_resolved hChain hId]
  cases chain with
  | nil => simp
  | cons first rest =>
    obtain ⟨service, hLast⟩ : ∃ service, (first :: rest).getLast? = some service := ⟨_, List.getLast?_cons⟩
    simp only [List.head?_cons, hLast, Option.some.injEq, reduceCtorEq, false_or, exists_eq_left']
    split
    · rename_i hNone
      exact ⟨fun wrapped metadata hWrapped => (by cases hWrapped), iff_of_true rfl hNone⟩
    · rename_i hSome
      cases hWrap : wrapInForward crates dids draws msg (opts.forwardHeaders.getD []) to_ (routeTo service)
        opts.encAlgAnon opts.toKidsLimit with
      | error e =>
        exact ⟨fun wrapped metadata hWrapped => (by cases hWrapped), iff_of_false (by simp [Except.map]) hSome⟩
      | ok text =>
        refine ⟨fun wrapped metadata hWrapped => ?_, iff_of_false (by simp [Except.map]) hSome⟩
        cases hWrapped
        exact ⟨first, service, rfl, rfl, hWrap, rfl⟩

end

/-- Bob is served by a mediator, which serves itself under an address. -/
def mediatedServices (did : String) : List Service :=
  if did = "did:example:mediator" then
    [serviceOf "did:example:mediator#messaging" "DIDCommMessaging" "https://example.com" []]
  else [serviceOf "did:example:bob#messaging" "DIDCommMessaging" "did:example:mediator" [.str "did:example:relay"]]

theorem mediated_chain : resolveDidCommServicesChain (ideal id) (everyDid mediatedServices) "did:example:bob" none =
    .ok [("did:example:mediator#messaging", ⟨"https://example.com", none, []⟩),
      ("did:example:bob#messaging", ⟨"did:example:mediator", none, ["did:example:relay"]⟩)] := by
  have hBob := resolve_everyDid mediatedServices (by decide : '#' ∉ "did:example:bob".toList)
  have hMediator := resolve_everyDid mediatedServices (by decide : '#' ∉ "did:example:mediator".toList)
  exact resolveDidCommServicesChain_ok_iff.mpr ⟨_, hBob, .inr ⟨_, rfl, .inr ⟨_, _, rfl, hMediator, rfl, rfl, rfl⟩⟩⟩

/-- A message for Bob goes to the address of the mediator, along its DID and Bob's key. -/
theorem route_matches_endpoint_bob : ∃ wrapped,
    wrapInForwardIfNeeded (ideal id) (everyDid mediatedServices) (anyDraws id) (JsonText.write (.obj []))
        "did:example:bob" {} =
      .ok (some (wrapped, ⟨"did:example:bob#messaging", "https://example.com"⟩)) ∧
    wrapInForward (ideal id) (everyDid mediatedServices) (anyDraws id) (JsonText.write (.obj [])) [] "did:example:bob"
      ["did:example:mediator", "did:example:relay"] .xc20pEcdhEsA256kw 100 = .ok wrapped := by
  obtain ⟨-, hChain⟩ := route_matches_endpoint (ideal id) (everyDid mediatedServices) "did:example:bob" none
  obtain ⟨-, hWrapping⟩ := hChain _ mediated_chain
  obtain ⟨hSome, -⟩ := hWrapping {} (anyDraws id) (JsonText.write (.obj [])) rfl
  have hMsg : ((ideal id).jsonFromStr (JsonText.write (.obj []))).bind value = some (.obj []) := by
    rw [ideal_jsonFromStr]
    rfl
  obtain ⟨text, hWrap⟩ := ideal_wrapInForward id mediatedServices (List.cons_ne_nil _ _)
    (by decide : ∀ key ∈ ["did:example:mediator", "did:example:relay"], '#' ∉ key.toList) (anyDraws id) []
    "did:example:bob" .xc20pEcdhEsA256kw hMsg
  have hRoute : routeTo ("did:example:bob#messaging", ⟨"did:example:mediator", none, ["did:example:relay"]⟩) =
      ["did:example:mediator", "did:example:relay"] := by decide
  have hId : ({} : PackEncryptedOptions).messagingService = none := rfl
  have hNeeded := wrapInForwardIfNeeded_resolved mediated_chain hId (anyDraws id) (JsonText.write (.obj []))
  simp only [List.head?_cons, List.getLast?_cons_cons, List.getLast?_singleton, hRoute] at hNeeded
  rw [if_neg (by decide)] at hNeeded
  replace hNeeded := hNeeded.trans (congrArg (Except.map _) hWrap)
  obtain ⟨first, service, -, hService, hText, -⟩ := hSome _ _ hNeeded
  rw [List.getLast?_cons_cons, List.getLast?_singleton, Option.some.injEq] at hService
  rw [← hService, hRoute] at hText
  exact ⟨text, hNeeded, hText⟩

end AffinidiMessaging.Didcomm
