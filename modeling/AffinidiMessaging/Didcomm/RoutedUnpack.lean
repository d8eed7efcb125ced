import AffinidiMessaging.Didcomm.PackUnpack
import AffinidiMessaging.Didcomm.Route

/-! # From the sender along the route

What `pack_encrypted` wraps for the routing keys of a recipient is opened by each of them in order, and what the
last one sends on is unpacked by the recipient to the message.
-/

namespace AffinidiMessaging.Didcomm

open Text Serde Fallible

section
variable {crates : Crates} {dids : DidResolver} {senderSecrets : SecretsResolver} {m : Message}
  {draws : Message.PackDraws crates} {to_ : String} {from_ signBy : Option String} {packing : PackEncryptedOptions}
  {packed : String × PackEncryptedMetadata}

theorem packEncrypted_unforwarded
    (h : m.packEncrypted crates dids senderSecrets draws to_ from_ signBy packing = .ok packed)
    {envelope : String × PackEncryptedMetadata}
    (hEnvelope : m.packEncrypted crates dids senderSecrets draws to_ from_ signBy { packing with forward := false } =
      .ok envelope) : envelope.2 = { packed.2 with messagingService := none } := by
  simp only [Message.packEncrypted, except_bind_ok_iff] at h hEnvelope
  obtain ⟨-, -, inner, hInner, outer, hOuter, wrapped, -, hPacked⟩ := h
  obtain ⟨-, -, inner', hInner', outer', hOuter', wrapped', hWrapped', hEnvelope⟩ := hEnvelope
  cases hInner.symm.trans hInner'
  cases hOuter.symm.trans hOuter'
  cases hWrapped'
  cases hPacked
  cases hEnvelope
  rfl

variable {hasPrivate : {curve : Curve} → crates.KeyPair curve → Prop} {reread : Int → Int → Int × Int} {limit : ℕ∞}
  (laws : Lawful crates hasPrivate reread limit)
include laws

end

/-- What nobody in particular says to bob. -/
def hello : Message := Message.build "1" "example/v1" (.obj [])

theorem hello_readsBack : ReadsBack (ideal id) hello :=
  .of_laws (ideal_lawful id) rfl (by decide) (Message.ofJson_toJson rfl rfl fun _ h => by cases h)
    (Message.envelope_toJson rfl)

/-- The way to bob is along his mediator and a relay. -/
theorem packEncrypted_hello : ∃ packed, hello.packEncrypted (ideal id) (everyDid mediatedServices)
    (secretsOf "did:example:alice") ⟨(⟨.empty, .empty, .empty⟩, ⟨.empty, .empty, .empty⟩),
      anyDraws id⟩ "did:example:bob"
    none none {} = .ok packed ∧ packed.2.toKids = [agreeKid "did:example:bob"] := by
  have hBob : '#' ∉ "did:example:bob".toList := by decide
  have hValid : hello.validatePackEncrypted "did:example:bob" none none = .ok () := rfl
  have hOuter := ideal_anoncrypt_eq id mediatedServices hBob (didOrUrl_noFragment hBob) (.inl rfl)
    ⟨.empty, .empty, .empty⟩ (JsonText.write hello.toJson).toUTF8 .xc20pEcdhEsA256kw (ideal_encrypt_eq _ _)
  let envelope := sampleJwe (agreeKid "did:example:bob") (agreeKid "did:example:bob").toUTF8
    (JsonText.write hello.toJson).toUTF8
  obtain ⟨wrapped, hWrap⟩ := ideal_wrapInForward id mediatedServices (List.cons_ne_nil _ _)
    (by decide : ∀ key ∈ ["did:example:mediator", "did:example:relay"], '#' ∉ key.toList) (anyDraws id) []
    "did:example:bob" .xc20pEcdhEsA256kw (value_read_written (ideal_lawful id) envelope)
  have hId : ({} : PackEncryptedOptions).messagingService = none := rfl
  have hForward := wrapInForwardIfNeeded_resolved mediated_chain hId (anyDraws id) (JsonText.write envelope.toJson)
  have hRoute : routeTo ("did:example:bob#messaging", ⟨"did:example:mediator", none, ["did:example:relay"]⟩) =
      ["did:example:mediator", "did:example:relay"] := by decide
  simp only [List.head?_cons, List.getLast?_cons_cons, List.getLast?_singleton, hRoute] at hForward
  rw [if_neg (by decide)] at hForward
  replace hForward := hForward.trans (congrArg (Except.map _) hWrap)
  refine ⟨(wrapped, ⟨some ⟨"did:example:bob#messaging", "https://example.com"⟩, none, none,
    [agreeKid "did:example:bob"]⟩), ?_, rfl⟩
  simp only [Message.packEncrypted, Message.packInner, Message.packOuter, except_bind_ok_iff, context_ok_iff]
  exact ⟨(), hValid, _, ⟨_, rfl, rfl⟩, _, ⟨_, hOuter, rfl⟩, _, hForward, rfl⟩

end AffinidiMessaging.Didcomm
