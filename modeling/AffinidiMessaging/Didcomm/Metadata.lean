import AffinidiMessaging.Didcomm.IdealKeys

/-! # The metadata are true

The flags are written before anything is decrypted, and on one record for all layers. After
a run that succeeds they say what was decrypted and verified in it, no more and no less.
-/

namespace AffinidiMessaging.Didcomm

open Fallible

variable {crates : Crates} {dids : DidResolver} {secrets : SecretsResolver} {opts : UnpackOptions}

variable (crates dids secrets) in
/-- What it means that an operation of a run that yields `m` went through. -/
def CryptoOp.Performed (m : Message) : CryptoOp crates → Prop
  | .decrypted jwe none toKid =>
    jwe.protected_.alg = .ecdhEsA256kw ∧
      ∃ alg payload, OpensAnon crates secrets jwe alg toKid payload
  | .decrypted jwe (some sender) toKid =>
    jwe.protected_.alg = .ecdh1puA256kw ∧ SenderKey crates dids sender.1 sender.2 ∧
      ∃ alg payload, OpensAuth crates secrets jwe sender alg toKid payload
  | .verified jws kid key =>
    SignerKey crates dids kid key ∧ jws.verify crates kid key.key = .ok true ∧
      ∃ bytes payload, crates.base64Decode jws.jws.payload = .ok bytes ∧
        String.fromUTF8? bytes = some payload ∧ parseEnvelope crates payload = .ok (.message m)

/-- The metadata say what the operations were. -/
structure Truthful (metadata : UnpackMetadata) (ops : List (CryptoOp crates)) : Prop where
  encrypted : metadata.encrypted = true ↔ ∃ jwe sender toKid, .decrypted jwe sender toKid ∈ ops
  sender : ∀ kid, metadata.encryptedFromKid = some kid ↔
    ∃ jwe key toKid, .decrypted jwe (some (kid, key)) toKid ∈ ops
  senderAlg : metadata.encryptedFromKid.isSome → metadata.encAlgAuth.isSome
  signer : ∀ kid, metadata.signFrom = some kid ↔ ∃ jws key, .verified jws kid key ∈ ops
  nonRepudiation : metadata.nonRepudiation = true ↔ ∃ jws kid key, .verified jws kid key ∈ ops
  authenticated : metadata.authenticated = true ↔
    (∃ jwe sender toKid, .decrypted jwe (some sender) toKid ∈ ops) ∨
      ∃ jws kid key, .verified jws kid key ∈ ops

theorem Tried.opens_of_mem {opens : String → ByteArray → Prop} {all : Bool}
    {found kids : List String} {payload : ByteArray} (h : Tried opens all found kids payload)
    {kid : String} (hKid : kid ∈ kids) : ∃ payload, opens kid payload := by
  induction h with
  | first h =>
    cases List.mem_singleton.mp hKid
    exact ⟨_, h⟩
  | last h =>
    cases List.mem_singleton.mp hKid
    exact ⟨_, h⟩
  | next h _ ih =>
    rcases List.mem_cons.mp hKid with rfl | hRest
    · exact ⟨_, h⟩
    · exact ih hRest

theorem Tried.kids_ne_nil {opens : String → ByteArray → Prop} {all : Bool}
    {found kids : List String} {payload : ByteArray} (h : Tried opens all found kids payload) :
    kids ≠ [] := by
  cases h <;> exact List.cons_ne_nil _ _

namespace Truthful

variable {m : UnpackMetadata} {ops : List (CryptoOp crates)}

theorem start : Truthful ({} : UnpackMetadata) ([] : List (CryptoOp crates)) where
  encrypted := by simp
  sender := by simp
  senderAlg := by simp
  signer := by simp
  nonRepudiation := by simp
  authenticated := by simp

theorem forwarded (h : Truthful m ops) :
    Truthful ((Layer.forwarded : Layer crates).describe m)
      (ops ++ (Layer.forwarded : Layer crates).ops) := by
  rw [Layer.ops, List.append_nil]
  exact ⟨h.encrypted, h.sender, h.senderAlg, h.signer, h.nonRepudiation, h.authenticated⟩

theorem anoncrypted (h : Truthful m ops) (jwe : ParsedJWE) (alg : AnonCryptAlg) {kids : List String}
    (hKids : kids ≠ []) :
    Truthful ((Layer.anoncrypted jwe alg kids : Layer crates).describe m)
      (ops ++ Layer.ops (.anoncrypted jwe alg kids)) := by
  obtain ⟨toKid, hKid⟩ := List.exists_mem_of_ne_nil _ hKids
  constructor
  case encrypted =>
    exact iff_of_true rfl
      ⟨jwe, none, toKid, List.mem_append_right _ (List.mem_map_of_mem hKid)⟩
  case sender => simpa [Layer.describe, Layer.ops] using h.sender
  case senderAlg => exact h.senderAlg
  case signer => simpa [Layer.describe, Layer.ops] using h.signer
  case nonRepudiation => simpa [Layer.describe, Layer.ops] using h.nonRepudiation
  case authenticated => simpa [Layer.describe, Layer.ops] using h.authenticated

theorem authcrypted (h : Truthful m ops) (hNone : m.encryptedFromKid = none) (jwe : ParsedJWE)
    (sender : String × KnownKeyPair crates) (alg : AuthCryptAlg) {kids : List String}
    (hKids : kids ≠ []) :
    Truthful (Layer.describe (.authcrypted jwe sender alg kids) m)
      (ops ++ Layer.ops (.authcrypted jwe sender alg kids)) := by
  obtain ⟨toKid, hKid⟩ := List.exists_mem_of_ne_nil _ hKids
  have hMem : .decrypted jwe (some sender) toKid ∈
      ops ++ Layer.ops (.authcrypted jwe sender alg kids) :=
    List.mem_append_right _ (List.mem_map_of_mem hKid)
  have hUnsent (jwe : ParsedJWE) (kid : String) (key : KnownKeyPair crates) (toKid : String) :
      .decrypted jwe (some (kid, key)) toKid ∉ ops := fun hOp => by
    simpa [hNone] using (h.sender kid).mpr ⟨jwe, key, toKid, hOp⟩
  constructor
  case encrypted => exact iff_of_true rfl ⟨jwe, some sender, toKid, hMem⟩
  case sender =>
    intro kid
    constructor
    · intro hSame
      cases hSame
      exact ⟨jwe, sender.2, toKid, hMem⟩
    · rintro ⟨jwe', key, toKid', hOp⟩
      rcases List.mem_append.mp hOp with hBefore | hNow
      · exact absurd hBefore (hUnsent _ _ _ _)
      · obtain ⟨_, -, hEq⟩ := List.mem_map.mp hNow
        cases hEq
        rfl
  case senderAlg => exact fun _ => rfl
  case signer => simpa [Layer.describe, Layer.ops] using h.signer
  case nonRepudiation => simpa [Layer.describe, Layer.ops] using h.nonRepudiation
  case authenticated => exact iff_of_true rfl (.inl ⟨jwe, sender, toKid, hMem⟩)

theorem signed (h : Truthful m ops) (hNone : m.signFrom = none) (jws : ParsedJWS) (kid : String)
    (key : KnownKeyPair crates) (alg : SignAlg) :
    Truthful (Layer.describe (.signed jws kid key alg) m)
      (ops ++ Layer.ops (.signed jws kid key alg)) := by
  have hMem : .verified jws kid key ∈ ops ++ Layer.ops (.signed jws kid key alg) :=
    List.mem_append_right _ (List.mem_singleton_self _)
  constructor
  case encrypted => simpa [Layer.describe, Layer.ops] using h.encrypted
  case sender => simpa [Layer.describe, Layer.ops] using h.sender
  case senderAlg => exact h.senderAlg
  case signer =>
    intro kid'
    constructor
    · intro hSame
      cases hSame
      exact ⟨jws, key, hMem⟩
    · rintro ⟨jws', key', hOp⟩
      rcases List.mem_append.mp hOp with hBefore | hNow
      · simpa [hNone] using (h.signer kid').mpr ⟨jws', key', hBefore⟩
      · cases List.mem_singleton.mp hNow
        rfl
  case nonRepudiation => exact iff_of_true rfl ⟨jws, kid, key, hMem⟩
  case authenticated => exact iff_of_true rfl (.inr ⟨jws, kid, key, hMem⟩)

end Truthful

theorem OpensLayer.performed {outer : ParsedEnvelope} {layer : Layer crates} {m : Message}
    {inner : ParsedEnvelope} (h : OpensLayer crates dids secrets opts outer layer inner)
    (hJws : outer.isJws → inner = .message m) :
    ∀ op ∈ layer.ops, op.Performed crates dids secrets m := by
  intro op hOp
  cases h with
  | anoncrypted hAlg _ hTried _ =>
    obtain ⟨kid, hKid, rfl⟩ := List.mem_map.mp hOp
    obtain ⟨payload, hOpens⟩ := hTried.opens_of_mem hKid
    exact ⟨hAlg, _, payload, hOpens⟩
  | authcrypted hAlg _ _ hSender _ hTried _ =>
    obtain ⟨kid, hKid, rfl⟩ := List.mem_map.mp hOp
    obtain ⟨payload, hOpens⟩ := hTried.opens_of_mem hKid
    exact ⟨hAlg, hSender, _, payload, hOpens⟩
  | signed hSigned hBytes hPayload hInner =>
    cases List.mem_singleton.mp hOp
    obtain ⟨header, signature, -, -, -, hSigner, -, hValid⟩ := hSigned
    rw [hJws trivial] at hInner
    exact ⟨hSigner, hValid, _, _, hBytes, hPayload, hInner⟩

/-- What is true of every layer that can be opened is true of these, where it is of a forward. -/
theorem Peels.forall_layers {parsed last : ParsedEnvelope} {layers : List (Layer crates)}
    {rounds : Nat} (h : Peels crates dids secrets opts parsed layers last rounds)
    {P : Layer crates → Prop} (hForward : P .forwarded)
    (hLayer : ∀ parsed layer inner, parsed.hasAlg .ecdhEsA256kw →
      OpensLayer crates dids secrets opts parsed layer inner → P layer) :
    ∀ layer ∈ layers, P layer := by
  induction h with
  | stop _ => simp
  | anoncrypted hAlg hOpens _ => simpa using hLayer _ _ _ hAlg hOpens
  | forwarded hAlg hOpens _ _ _ ih => simpa using ⟨hLayer _ _ _ hAlg hOpens, hForward, ih⟩

/-- The layers outside the authenticated one name nobody. -/
theorem Peels.anonymous {parsed last : ParsedEnvelope} {layers : List (Layer crates)} {rounds : Nat}
    (h : Peels crates dids secrets opts parsed layers last rounds) :
    ∀ layer ∈ layers, layer.senderKid = none := by
  refine h.forall_layers rfl fun parsed layer inner hAlg hOpens => ?_
  cases hOpens with
  | anoncrypted => rfl
  | authcrypted hAuth => cases hAuth.symm.trans hAlg
  | signed => cases hAlg

theorem Attests.layers_eq {outer inner : ParsedEnvelope} {layers : List (Layer crates)}
    (h : Attests crates dids secrets opts outer layers inner) :
    layers = [] ∨ ∃ jws kid key alg, layers = [.signed jws kid key alg] := by
  cases h with
  | none => exact .inl rfl
  | signed hJws hOpens =>
    cases hOpens with
    | signed => exact .inr ⟨_, _, _, _, rfl⟩
    | _ => cases hJws

theorem Authenticates.layers_eq {count : Nat} {outer inner : ParsedEnvelope} {layers : List (Layer crates)}
    (h : Authenticates crates dids secrets opts count outer layers inner) :
    layers = [] ∨ ∃ jwe sender alg kids, layers = [.authcrypted jwe sender alg kids] := by
  cases h with
  | none => exact .inl rfl
  | authcrypted => exact .inr ⟨_, _, _, _, rfl⟩

/-- Without a sender among the layers, what is said about senders stays. -/
theorem describeAll_senders {layers : List (Layer crates)}
    (h : ∀ layer ∈ layers, layer.senderKid = none) (m : UnpackMetadata) :
    (describeAll layers m).authenticated = m.authenticated ∧
      (describeAll layers m).nonRepudiation = m.nonRepudiation ∧
      (describeAll layers m).encryptedFromKid = m.encryptedFromKid ∧
      (describeAll layers m).encAlgAuth = m.encAlgAuth ∧
      (describeAll layers m).signFrom = m.signFrom := by
  induction layers generalizing m with
  | nil => exact ⟨rfl, rfl, rfl, rfl, rfl⟩
  | cons layer rest ih =>
    rw [List.forall_mem_cons] at h
    have hRest := ih h.2 (layer.describe m)
    cases layer with
    | anoncrypted => exact hRest
    | forwarded => exact hRest
    | authcrypted => cases h.1
    | signed => cases h.1

/-- The layer was opened with some key. -/
def Layer.Opened : Layer crates → Prop
  | .anoncrypted _ _ kids | .authcrypted _ _ _ kids => kids ≠ []
  | .forwarded | .signed .. => True

theorem OpensLayer.opened {outer inner : ParsedEnvelope} {layer : Layer crates}
    (h : OpensLayer crates dids secrets opts outer layer inner) : layer.Opened := by
  cases h with
  | anoncrypted _ _ hTried _ => exact hTried.kids_ne_nil
  | authcrypted _ _ _ _ _ hTried _ => exact hTried.kids_ne_nil
  | signed => trivial

theorem Truthful.outside {m : UnpackMetadata} {ops : List (CryptoOp crates)} (h : Truthful m ops)
    {layers : List (Layer crates)} (hAnonymous : ∀ layer ∈ layers, layer.senderKid = none)
    (hOpened : ∀ layer ∈ layers, layer.Opened) :
    Truthful (describeAll layers m) (ops ++ layers.flatMap Layer.ops) := by
  induction layers generalizing m ops with
  | nil => simpa [describeAll] using h
  | cons layer rest ih =>
    rw [List.forall_mem_cons] at hAnonymous hOpened
    rw [List.flatMap_cons, ← List.append_assoc]
    refine ih ?_ hAnonymous.2 hOpened.2
    cases layer with
    | anoncrypted jwe alg kids => exact h.anoncrypted jwe alg hOpened.1
    | forwarded => exact h.forwarded
    | authcrypted => cases hAnonymous.1
    | signed => cases hAnonymous.1

theorem OpensEnvelope.truthful {outer : ParsedEnvelope} {layers : List (Layer crates)} {m : Message}
    {prior : Option (FromPrior × String)}
    (h : OpensEnvelope crates dids secrets opts outer layers m prior) :
    Truthful (describeAll layers {}) (layers.flatMap Layer.ops) := by
  obtain ⟨peeled, opened, outside, sender, inside, rounds, hPeels, -, hAuthenticates, hAttests, -, -,
    rfl⟩ := h
  have hOutside := Truthful.start.outside hPeels.anonymous
    (hPeels.forall_layers trivial fun _ _ _ _ hOpens => hOpens.opened)
  obtain ⟨-, -, hFrom, -, hSign⟩ := describeAll_senders hPeels.anonymous {}
  have hSender : Truthful (describeAll sender (describeAll outside {}))
        (outside.flatMap Layer.ops ++ sender.flatMap Layer.ops) ∧
      (describeAll sender (describeAll outside ({} : UnpackMetadata))).signFrom = none := by
    cases hAuthenticates with
    | none _ => exact ⟨by simpa [describeAll] using hOutside, hSign⟩
    | authcrypted hOpens _ =>
      exact ⟨by simpa [describeAll] using hOutside.authcrypted hFrom _ _ _ hOpens.opened, hSign⟩
  rw [describeAll_append, describeAll_append, List.flatMap_append, List.flatMap_append]
  cases hAttests with
  | none _ => simpa [describeAll] using hSender.1
  | signed hJws hOpens =>
    cases hOpens with
    | signed => simpa [describeAll] using hSender.1.signed hSender.2 _ _ _ _
    | anoncrypted => cases hJws
    | authcrypted => cases hJws

theorem OpensEnvelope.performed {outer : ParsedEnvelope} {layers : List (Layer crates)} {m : Message}
    {prior : Option (FromPrior × String)}
    (h : OpensEnvelope crates dids secrets opts outer layers m prior) :
    ∀ op ∈ layers.flatMap Layer.ops, op.Performed crates dids secrets m := by
  obtain ⟨peeled, opened, outside, sender, inside, rounds, hPeels, -, hAuthenticates, hAttests, -, -,
    rfl⟩ := h
  have hOutside : ∀ layer ∈ outside, ∀ op ∈ layer.ops, op.Performed crates dids secrets m :=
    hPeels.forall_layers (by simp [Layer.ops]) fun parsed layer inner hAlg hOpens =>
      hOpens.performed fun hJws => by
        cases parsed with
        | jws jws => cases hAlg
        | jwe jwe => cases hJws
        | message m => cases hJws
  have hSender : ∀ layer ∈ sender, ∀ op ∈ layer.ops, op.Performed crates dids secrets m := by
    cases hAuthenticates with
    | none _ => simp
    | authcrypted hOpens _ =>
      refine List.forall_mem_singleton.mpr (hOpens.performed fun hJws => ?_)
      cases hOpens
      cases hJws
  have hInside : ∀ layer ∈ inside, ∀ op ∈ layer.ops, op.Performed crates dids secrets m := by
    cases hAttests with
    | none _ => simp
    | signed _ hOpens => exact List.forall_mem_singleton.mpr (hOpens.performed fun _ => rfl)
  intro op hOp
  obtain ⟨layer, hLayer, hMem⟩ := List.mem_flatMap.mp hOp
  rw [List.mem_append, List.mem_append] at hLayer
  rcases hLayer with (hLayer | hLayer) | hLayer
  · exact hOutside layer hLayer op hMem
  · exact hSender layer hLayer op hMem
  · exact hInside layer hLayer op hMem

/-- What `from_prior` says is beside what the operations say. -/
theorem Truthful.metadataOf {layers : List (Layer crates)} {ops : List (CryptoOp crates)}
    (h : Truthful (describeAll layers {}) ops) (prior : Option (FromPrior × String)) :
    Truthful (metadataOf layers prior) ops :=
  ⟨h.encrypted, h.sender, h.senderAlg, h.signer, h.nonRepudiation, h.authenticated⟩

variable (crates dids secrets opts) in
/-- After a successful run the metadata say what was decrypted and verified in it, and with keys
of the documents that the DIDs resolve to. -/
theorem metadata_truthful (text : String) (m : Message) (metadata : UnpackMetadata)
    (s : UnpackState crates)
    (h : Message.unpackString crates dids secrets opts text (.fresh crates) = .ok (m, metadata) s) :
    Truthful metadata s.ops ∧ ∀ op ∈ s.ops, op.Performed crates dids secrets m := by
  obtain ⟨layers, prior, ⟨outer, -, hOpens⟩, rfl, hOps⟩ :=
    (unpackString_ok_iff crates dids secrets opts text m metadata s.ops).mp ⟨s, h, rfl⟩
  rw [hOps]
  exact ⟨hOpens.truthful.metadataOf prior, hOpens.performed⟩

/-- Of an authenticated message. -/
theorem metadata_truthful_authcrypted : ∃ text m metadata s,
    Message.unpackString (ideal id) (everyDid fun _ => []) (secretsOf "did:example:bob") {} text (.fresh _) =
      .ok (m, metadata) s ∧ metadata.authenticated = true ∧ Truthful metadata s.ops ∧
      ∀ op ∈ s.ops, op.Performed (ideal id) (everyDid fun _ => []) (secretsOf "did:example:bob") m := by
  obtain ⟨text, jwe, -, -, hOpens⟩ := opens_authcrypted id (fun _ => []) {} rfl (by decide)
    "did:example:alice" "did:example:bob" (by decide) (by decide) (some "did:example:alice")
  obtain ⟨s, hRun, -⟩ := (unpackString_ok_iff _ _ _ _ text _ _ _).mpr ⟨_, _, hOpens, rfl, rfl⟩
  exact ⟨text, _, _, s, hRun, rfl, metadata_truthful _ _ _ _ text _ _ s hRun⟩

end AffinidiMessaging.Didcomm
