import AffinidiMessaging.Didcomm.Metadata

/-! # Who a message is from

`from` is what the plaintext says; whose key encrypted or signed it is what the layers say. Unpacking
compares the two nowhere.
-/

namespace AffinidiMessaging.Didcomm

open Fallible

/-- Two DIDs or key ids of one DID. -/
def SameDid (a b : String) : Prop := (didOrUrl a).1 = (didOrUrl b).1

instance (a b : String) : Decidable (SameDid a b) := inferInstanceAs (Decidable (_ = _))

/-- The keys that the metadata name belong to the DID the message is from, if it says so. -/
structure SenderConsistent (m : Message) (metadata : UnpackMetadata) : Prop where
  encrypted : ∀ sender kid, m.from_ = some sender → metadata.encryptedFromKid = some kid → SameDid kid sender
  signed : ∀ sender kid, m.from_ = some sender → metadata.signFrom = some kid → SameDid kid sender

/-- Every key that encrypted or signed belongs to the DID the message is from, if it says so. -/
def Vouched {crates : Crates} (layers : List (Layer crates)) (m : Message) : Prop :=
  ∀ layer ∈ layers, ∀ kid, layer.senderKid = some kid → ∀ sender, m.from_ = some sender → SameDid kid sender

/-- The key that vouches for the sender, where an operation has one. -/
def CryptoOp.senderKid {crates : Crates} : CryptoOp crates → Option String
  | .decrypted _ sender _ => sender.map Prod.fst
  | .verified _ kid _ => some kid

section
variable {crates : Crates} {dids : DidResolver} {secrets : SecretsResolver} {opts : UnpackOptions}

/-- The metadata name the keys that the layers name, and no others. -/
theorem OpensEnvelope.senderKid_iff {outer : ParsedEnvelope} {layers : List (Layer crates)} {m : Message}
    {prior : Option (FromPrior × String)} (h : OpensEnvelope crates dids secrets opts outer layers m prior)
    (kid : String) :
    (metadataOf layers prior).encryptedFromKid = some kid ∨ (metadataOf layers prior).signFrom = some kid ↔
      ∃ layer ∈ layers, layer.senderKid = some kid := by
  obtain ⟨peeled, opened, outside, sender, signature, rounds, hPeels, -, hSender, hSignature, -, -, rfl⟩ := h
  have hAnonymous := hPeels.anonymous
  obtain ⟨-, -, hFrom, -, hSign⟩ := describeAll_senders hAnonymous {}
  have hOutside : ¬ ∃ layer ∈ outside, layer.senderKid = some kid := by
    rintro ⟨layer, hMem, hKid⟩
    cases (hAnonymous layer hMem).symm.trans hKid
  simp only [metadataOf, describeAll_append, List.mem_append, or_and_right, exists_or, hOutside, false_or]
  generalize describeAll outside {} = before at hFrom hSign ⊢
  rcases hSender.layers_eq with rfl | ⟨jwe, sender, alg, kids, rfl⟩
  all_goals rcases hSignature.layers_eq with rfl | ⟨jws, signer, key, alg, rfl⟩
  all_goals simp [describeAll, Layer.describe, Layer.senderKid, hFrom, hSign]

/-- The keys of the operations are those of the layers. -/
theorem OpensEnvelope.exists_op_iff {outer : ParsedEnvelope} {layers : List (Layer crates)} {m : Message}
    {prior : Option (FromPrior × String)} (h : OpensEnvelope crates dids secrets opts outer layers m prior)
    (kid : String) :
    (∃ op ∈ layers.flatMap Layer.ops, op.senderKid = some kid) ↔ ∃ layer ∈ layers, layer.senderKid = some kid := by
  have hTruthful := h.truthful.metadataOf prior
  rw [← h.senderKid_iff kid, hTruthful.sender, hTruthful.signer]
  constructor
  · rintro ⟨op, hOp, hKid⟩
    cases op with
    | decrypted jwe sender toKid =>
      obtain ⟨⟨kid', key⟩, rfl, rfl⟩ := Option.map_eq_some_iff.mp hKid
      exact .inl ⟨jwe, key, toKid, hOp⟩
    | verified jws kid' key =>
      cases hKid
      exact .inr ⟨jws, key, hOp⟩
  · rintro (⟨jwe, key, toKid, hOp⟩ | ⟨jws, key, hOp⟩)
    · exact ⟨_, hOp, rfl⟩
    · exact ⟨_, hOp, rfl⟩

end

variable (crates : Crates) (dids : DidResolver) (secrets : SecretsResolver) (opts : UnpackOptions)

/-- What unpacking says about the sender is consistent exactly for the texts whose layers are all by the DID
that the plaintext names. -/
theorem sender_consistent_iff (text : String) :
    (∀ m metadata s,
      Message.unpackString crates dids secrets opts text (.fresh crates) = .ok (m, metadata) s →
        SenderConsistent m metadata) ↔
      ∀ layers m prior, Opens crates dids secrets opts text layers m prior → Vouched layers m := by
  constructor
  · rintro hConsistent layers m prior hOpens layer hLayer kid hKid sender hSender
    obtain ⟨s, hRun, -⟩ := (unpackString_ok_iff crates dids secrets opts text m _ _).mpr
      ⟨layers, prior, hOpens, rfl, rfl⟩
    have hSame := hConsistent m _ s hRun
    obtain ⟨outer, -, hEnvelope⟩ := hOpens
    rcases (hEnvelope.senderKid_iff kid).mpr ⟨layer, hLayer, hKid⟩ with hEncrypted | hSigned
    · exact hSame.encrypted sender kid hSender hEncrypted
    · exact hSame.signed sender kid hSender hSigned
  · intro hVouched m metadata s hRun
    obtain ⟨layers, prior, hOpens, rfl, -⟩ :=
      (unpackString_ok_iff crates dids secrets opts text m metadata s.ops).mp ⟨s, hRun, rfl⟩
    have hLayers := hVouched layers m prior hOpens
    obtain ⟨outer, -, hEnvelope⟩ := hOpens
    constructor
    · intro sender kid hSender hKid
      obtain ⟨layer, hLayer, hNamed⟩ := (hEnvelope.senderKid_iff kid).mp (.inl hKid)
      exact hLayers layer hLayer kid hNamed sender hSender
    · intro sender kid hSender hKid
      obtain ⟨layer, hLayer, hNamed⟩ := (hEnvelope.senderKid_iff kid).mp (.inr hKid)
      exact hLayers layer hLayer kid hNamed sender hSender

/-- A ping that says it is from Alice and that Mallory encrypted for Bob. -/
theorem not_sender_consistent : ∃ text m metadata s,
    Message.unpackString (ideal id) (everyDid fun _ => []) (secretsOf "did:example:bob") {} text (.fresh _) =
      .ok (m, metadata) s ∧ metadata.authenticated = true ∧
      metadata.encryptedFromKid = some "did:example:mallory#agree" ∧ m.from_ = some "did:example:alice" ∧
      ¬ SenderConsistent m metadata := by
  obtain ⟨text, jwe, -, -, hOpens⟩ := opens_authcrypted id (fun _ => []) {} rfl (by decide)
    "did:example:mallory" "did:example:bob" (by decide) (by decide) (some "did:example:alice")
  obtain ⟨s, hRun, -⟩ := (unpackString_ok_iff _ _ _ _ text _ _ _).mpr ⟨_, _, hOpens, rfl, rfl⟩
  refine ⟨text, _, _, s, hRun, rfl, rfl, rfl, fun hConsistent => ?_⟩
  have hSame := hConsistent.encrypted _ _ rfl rfl
  exact absurd hSame (by decide)

end AffinidiMessaging.Didcomm
