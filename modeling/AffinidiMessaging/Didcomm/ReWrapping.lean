import AffinidiMessaging.Didcomm.Metadata

/-! # Forwards around forwards

With `unwrap_re_wrapping_forward` a forward to one of the own keys is opened and followed in the same run.
Compared here with unpacking the forward, and then what it carries, in two runs.
-/

namespace AffinidiMessaging.Didcomm

open Fallible Serde

/-- The result of a run, without what a failed one says. -/
def outcome {ε σ α : Type} : EStateM.Result ε σ α → Option α
  | .ok a _ => some a
  | .error .. => none

theorem outcome_eq_some_iff {ε σ α : Type} (r : EStateM.Result ε σ α) (a : α) :
    outcome r = some a ↔ ∃ s, r = .ok a s := by
  cases r <;> simp [outcome]

namespace UnpackOptions

def unwrapping (opts : UnpackOptions) (b : Bool) : UnpackOptions :=
  { opts with unwrapReWrappingForward := b }

def limited (opts : UnpackOptions) (limit : Nat) : UnpackOptions :=
  { opts with cryptoOperationsLimitPerMessage := limit }

/-- Options that differ in the limit of operations alone. -/
structure Alike (opts opts' : UnpackOptions) : Prop where
  expect : opts.expectDecryptByAllKeys = opts'.expectDecryptByAllKeys
  unwrap : opts.unwrapReWrappingForward = opts'.unwrapReWrappingForward

end UnpackOptions

variable (crates : Crates) (dids : DidResolver) (secrets : SecretsResolver)

def Message.unpacked (opts : UnpackOptions) (text : String) : Option (Message × UnpackMetadata) :=
  outcome (Message.unpackString crates dids secrets opts text (.fresh crates))

/-- A plaintext that came out of an anonymous layer. -/
def FromAnoncrypt (opts : UnpackOptions) (text : String) (f : Message) : Prop :=
  ∃ outer layer, parseEnvelope crates text = .ok outer ∧ outer.hasAlg .ecdhEsA256kw ∧
    OpensLayer crates dids secrets opts outer layer (.message f)

/-- A forward to a key whose secret is there, and the text of what it carries. -/
def OwnForward (opts : UnpackOptions) (text : String) (f : Message) (forwarded : String) : Prop :=
  FromAnoncrypt crates dids secrets opts text f ∧
    tryUnwrapForwardedMessage crates dids secrets (.message f) = .ok (some forwarded)

/-- Unwrapping in one run is unwrapping by hand. -/
structure UnwrapsAsByHand (opts : UnpackOptions) (text : String) : Prop where
  followed : ∀ f metadata forwarded,
    Message.unpacked crates dids secrets (opts.unwrapping false) text = some (f, metadata) →
      OwnForward crates dids secrets opts text f forwarded →
      Message.unpacked crates dids secrets (opts.unwrapping true) text =
        (Message.unpacked crates dids secrets (opts.unwrapping true) forwarded).map fun r =>
          (r.1, { r.2 with reWrappedInForward := true })
  otherwise : (∀ f metadata forwarded,
      Message.unpacked crates dids secrets (opts.unwrapping false) text = some (f, metadata) →
        ¬ OwnForward crates dids secrets opts text f forwarded) →
    Message.unpacked crates dids secrets (opts.unwrapping true) text =
      Message.unpacked crates dids secrets (opts.unwrapping false) text

/-- What is accepted as a plaintext. -/
def Message.Acceptable (m : Message) : Prop :=
  m.typ = plaintextTyp ∧ ∃ prior, m.fromPrior.mapM (FromPrior.unpack crates dids) = .ok prior

/-- Within some limit of operations the text opens to a message. -/
def Readable (opts : UnpackOptions) (text : String) : Prop :=
  ∃ limit layers m prior, Opens crates dids secrets (opts.limited limit) text layers m prior

def IsAnoncrypt (text : String) : Prop :=
  ∃ outer, parseEnvelope crates text = .ok outer ∧ outer.hasAlg .ecdhEsA256kw

/-- A forward whose `next` cannot be looked up is no plaintext; one to an own key is a plaintext around an
anonymous message, or what it carries does not open at all. -/
def Unwrappable (opts : UnpackOptions) (text : String) : Prop :=
  ∀ f, FromAnoncrypt crates dids secrets opts text f →
    match tryUnwrapForwardedMessage crates dids secrets (.message f) with
    | .ok none => True
    | .ok (some forwarded) => f.Acceptable crates dids ∧ IsAnoncrypt crates forwarded ∨
        ¬ Readable crates dids secrets (opts.unwrapping true) forwarded
    | .error _ => ¬ f.Acceptable crates dids

section
variable {crates dids secrets}

theorem OpensLayer.congr {opts opts' : UnpackOptions}
    (hAlike : opts.expectDecryptByAllKeys = opts'.expectDecryptByAllKeys)
    {outer inner : ParsedEnvelope} {layer : Layer crates}
    (h : OpensLayer crates dids secrets opts outer layer inner) :
    OpensLayer crates dids secrets opts' outer layer inner := by
  cases h with
  | anoncrypted hAlg hRecipients hTried hInner => exact .anoncrypted hAlg hRecipients (hAlike ▸ hTried) hInner
  | authcrypted hAlg hApu hKid hSender hRecipients hTried hInner =>
    exact .authcrypted hAlg hApu hKid hSender hRecipients (hAlike ▸ hTried) hInner
  | signed hSigned hBytes hPayload hInner => exact .signed hSigned hBytes hPayload hInner

theorem unwrapForwarded_congr {opts opts' : UnpackOptions} (hAlike : opts.Alike opts') (e : Option ParsedEnvelope) :
    unwrapForwarded crates dids secrets opts e = unwrapForwarded crates dids secrets opts' e := by
  unfold unwrapForwarded
  rw [hAlike.unwrap]

theorem Peels.congr {opts opts' : UnpackOptions} (hAlike : opts.Alike opts') {outer last : ParsedEnvelope}
    {layers : List (Layer crates)} {rounds : Nat}
    (h : Peels crates dids secrets opts outer layers last rounds) :
    Peels crates dids secrets opts' outer layers last rounds := by
  induction h with
  | stop hAlg => exact .stop hAlg
  | anoncrypted hAlg hOpens hForward =>
    exact .anoncrypted hAlg (hOpens.congr hAlike.expect) (unwrapForwarded_congr hAlike _ ▸ hForward)
  | forwarded hAlg hOpens hForward hNext _ ih =>
    exact .forwarded hAlg (hOpens.congr hAlike.expect) (unwrapForwarded_congr hAlike _ ▸ hForward) hNext ih

theorem Attests.congr {opts opts' : UnpackOptions}
    (hAlike : opts.expectDecryptByAllKeys = opts'.expectDecryptByAllKeys) {outer inner : ParsedEnvelope}
    {layers : List (Layer crates)} (h : Attests crates dids secrets opts outer layers inner) :
    Attests crates dids secrets opts' outer layers inner := by
  cases h with
  | none hJws => exact .none hJws
  | signed hJws hOpens => exact .signed hJws (hOpens.congr hAlike)

/-- With a higher limit an authenticated layer opens after more operations. -/
theorem Authenticates.congr {opts opts' : UnpackOptions}
    (hAlike : opts.expectDecryptByAllKeys = opts'.expectDecryptByAllKeys) {count count' : Nat}
    (hLimit : count' + opts.cryptoOperationsLimitPerMessage ≤ count + opts'.cryptoOperationsLimitPerMessage)
    {outer inner : ParsedEnvelope} {layers : List (Layer crates)}
    (h : Authenticates crates dids secrets opts count outer layers inner) :
    Authenticates crates dids secrets opts' count' outer layers inner := by
  cases h with
  | none hAlg => exact .none hAlg
  | authcrypted hOpens hCount => exact .authcrypted (hOpens.congr hAlike) (by omega)

theorem OpensEnvelope.mono {opts opts' : UnpackOptions} (hAlike : opts.Alike opts')
    (hLimit : opts.cryptoOperationsLimitPerMessage ≤ opts'.cryptoOperationsLimitPerMessage)
    {outer : ParsedEnvelope} {layers : List (Layer crates)} {m : Message} {prior : Option (FromPrior × String)}
    (h : OpensEnvelope crates dids secrets opts outer layers m prior) :
    OpensEnvelope crates dids secrets opts' outer layers m prior := by
  obtain ⟨peeled, opened, outside, sender, signature, rounds, hPeels, hRounds, hSender, hSignature, hRest⟩ := h
  exact ⟨peeled, opened, outside, sender, signature, rounds, hPeels.congr hAlike, by omega,
    hSender.congr hAlike.expect (by omega), hSignature.congr hAlike.expect, hRest⟩

theorem unpacked_eq_some_iff (opts : UnpackOptions) (text : String) (m : Message) (metadata : UnpackMetadata) :
    Message.unpacked crates dids secrets opts text = some (m, metadata) ↔
      ∃ layers prior, Opens crates dids secrets opts text layers m prior ∧
        metadata = metadataOf layers prior := by
  rw [Message.unpacked, outcome_eq_some_iff]
  constructor
  · rintro ⟨s, hRun⟩
    obtain ⟨layers, prior, hOpens, hMetadata, -⟩ :=
      (unpackString_ok_iff crates dids secrets opts text m metadata s.ops).mp ⟨s, hRun, rfl⟩
    exact ⟨layers, prior, hOpens, hMetadata⟩
  · rintro ⟨layers, prior, hOpens, rfl⟩
    obtain ⟨s, hRun, -⟩ := (unpackString_ok_iff crates dids secrets opts text m _ _).mpr
      ⟨layers, prior, hOpens, rfl, rfl⟩
    exact ⟨s, hRun⟩

theorem OpensLayer.inner_unique {opts : UnpackOptions} {outer inner inner' : ParsedEnvelope}
    {layer layer' : Layer crates} (hAlg : outer.hasAlg .ecdhEsA256kw)
    (h : OpensLayer crates dids secrets opts outer layer inner)
    (h' : OpensLayer crates dids secrets opts outer layer' inner') : inner = inner' := by
  have hRun := (tryUnpackAnoncrypt_ok_iff dids opts outer _ (.fresh crates) _).mpr
    (.inr ⟨hAlg, layer, inner, h, rfl, rfl⟩)
  have hRun' := (tryUnpackAnoncrypt_ok_iff dids opts outer _ (.fresh crates) _).mpr
    (.inr ⟨hAlg, layer', inner', h', rfl, rfl⟩)
  have hSame := hRun.symm.trans hRun'
  injection hSame with hInner
  exact Option.some.inj hInner

variable {opts : UnpackOptions}

theorem OpensLayer.unwrapping_iff (b : Bool) {outer inner : ParsedEnvelope} {layer : Layer crates} :
    OpensLayer crates dids secrets (opts.unwrapping b) outer layer inner ↔
      OpensLayer crates dids secrets opts outer layer inner :=
  ⟨fun h => h.congr (by rfl), fun h => h.congr (by rfl)⟩

/-- Where the first layer has no forward to follow, both ways peel off the same. -/
theorem Peels.unwrapping_iff {outer : ParsedEnvelope} (h : outer.hasAlg .ecdhEsA256kw → ∀ layer inner,
      OpensLayer crates dids secrets opts outer layer inner →
        unwrapForwarded crates dids secrets (opts.unwrapping true) (some inner) = .ok none)
    (layers : List (Layer crates)) (last : ParsedEnvelope) (rounds : Nat) :
    Peels crates dids secrets (opts.unwrapping true) outer layers last rounds ↔
      Peels crates dids secrets (opts.unwrapping false) outer layers last rounds := by
  have hOpens (b : Bool) := @OpensLayer.unwrapping_iff crates dids secrets opts b
  constructor
  · intro hPeels
    cases hPeels with
    | stop hAlg => exact .stop hAlg
    | anoncrypted hAlg hLayer _ => exact .anoncrypted hAlg ((hOpens false).mpr ((hOpens true).mp hLayer)) rfl
    | forwarded hAlg hLayer hForward _ _ => cases (h hAlg _ _ ((hOpens true).mp hLayer)).symm.trans hForward
  · intro hPeels
    cases hPeels with
    | stop hAlg => exact .stop hAlg
    | anoncrypted hAlg hLayer _ =>
      exact .anoncrypted hAlg ((hOpens true).mpr ((hOpens false).mp hLayer)) (h hAlg _ _ ((hOpens false).mp hLayer))
    | forwarded _ _ hForward _ _ => cases hForward

theorem OpensEnvelope.unwrapping_iff {outer : ParsedEnvelope} (h : outer.hasAlg .ecdhEsA256kw → ∀ layer inner,
      OpensLayer crates dids secrets opts outer layer inner →
        unwrapForwarded crates dids secrets (opts.unwrapping true) (some inner) = .ok none)
    (layers : List (Layer crates)) (m : Message) (prior : Option (FromPrior × String)) :
    OpensEnvelope crates dids secrets (opts.unwrapping true) outer layers m prior ↔
      OpensEnvelope crates dids secrets (opts.unwrapping false) outer layers m prior := by
  constructor
  · rintro ⟨peeled, opened, outside, sender, signature, rounds, hPeels, hRounds, hSender, hSignature, hRest⟩
    exact ⟨peeled, opened, outside, sender, signature, rounds, (Peels.unwrapping_iff h _ _ _).mp hPeels, hRounds,
      hSender.congr (by rfl) (by exact le_rfl), hSignature.congr (by rfl), hRest⟩
  · rintro ⟨peeled, opened, outside, sender, signature, rounds, hPeels, hRounds, hSender, hSignature, hRest⟩
    exact ⟨peeled, opened, outside, sender, signature, rounds, (Peels.unwrapping_iff h _ _ _).mpr hPeels, hRounds,
      hSender.congr (by rfl) (by exact le_rfl), hSignature.congr (by rfl), hRest⟩

theorem unpacked_unwrapping {text : String} (h : ∀ outer, parseEnvelope crates text = .ok outer →
      outer.hasAlg .ecdhEsA256kw → ∀ layer inner, OpensLayer crates dids secrets opts outer layer inner →
        unwrapForwarded crates dids secrets (opts.unwrapping true) (some inner) = .ok none) :
    Message.unpacked crates dids secrets (opts.unwrapping true) text =
      Message.unpacked crates dids secrets (opts.unwrapping false) text := by
  have hOpens (layers : List (Layer crates)) (m : Message) (prior : Option (FromPrior × String)) :
      Opens crates dids secrets (opts.unwrapping true) text layers m prior ↔
        Opens crates dids secrets (opts.unwrapping false) text layers m prior :=
    exists_congr fun outer => and_congr_right fun hParse => OpensEnvelope.unwrapping_iff (h outer hParse) layers m prior
  ext r
  obtain ⟨m, metadata⟩ := r
  rw [unpacked_eq_some_iff, unpacked_eq_some_iff]
  simp only [hOpens]

/-- A forward that is followed costs one round more. -/
theorem OpensEnvelope.followed {outer next : ParsedEnvelope} {layer : Layer crates} {f : Message} {text : String}
    {layers : List (Layer crates)} {m : Message} {prior : Option (FromPrior × String)} {limit : Nat}
    (hAlg : outer.hasAlg .ecdhEsA256kw) (hLayer : OpensLayer crates dids secrets opts outer layer (.message f))
    (hOwn : tryUnwrapForwardedMessage crates dids secrets (.message f) = .ok (some text))
    (hNext : parseEnvelope crates text = .ok next)
    (h : OpensEnvelope crates dids secrets ((opts.unwrapping true).limited limit) next layers m prior) :
    OpensEnvelope crates dids secrets ((opts.unwrapping true).limited (limit + 1)) outer
      (layer :: .forwarded :: layers) m prior := by
  obtain ⟨peeled, opened, outside, sender, signature, rounds, hPeels, hRounds, hSender, hSignature, hTyp, hPrior,
    rfl⟩ := h
  refine ⟨peeled, opened, layer :: .forwarded :: outside, sender, signature, rounds + 1, ?_, Nat.succ_lt_succ hRounds,
    hSender.congr (by rfl) ?_, hSignature.congr (by rfl), hTyp, hPrior, rfl⟩
  · exact .forwarded hAlg (hLayer.congr (by rfl)) hOwn hNext (hPeels.congr ⟨by rfl, by rfl⟩)
  · change rounds + 1 + limit ≤ rounds + (limit + 1)
    omega

theorem OpensEnvelope.forwards {outer : ParsedEnvelope} {layer : Layer crates} {f : Message} {text : String}
    {layers : List (Layer crates)} {m : Message} {prior : Option (FromPrior × String)}
    (hAlg : outer.hasAlg .ecdhEsA256kw) (hLayer : OpensLayer crates dids secrets opts outer layer (.message f))
    (hOwn : tryUnwrapForwardedMessage crates dids secrets (.message f) = .ok (some text))
    (h : OpensEnvelope crates dids secrets (opts.unwrapping true) outer layers m prior) :
    Readable crates dids secrets (opts.unwrapping true) text := by
  obtain ⟨peeled, opened, outside, sender, signature, rounds, hPeels, hRounds, hSender, hSignature, hTyp, hPrior,
    rfl⟩ := h
  cases hPeels with
  | stop hOther => exact absurd hAlg hOther
  | anoncrypted _ hOpens hForward =>
    cases hLayer.inner_unique hAlg ((OpensLayer.unwrapping_iff true).mp hOpens)
    cases hForward.symm.trans hOwn
  | forwarded _ hOpens hForward hNext hRest =>
    cases hLayer.inner_unique hAlg ((OpensLayer.unwrapping_iff true).mp hOpens)
    cases hForward.symm.trans hOwn
    refine ⟨opts.cryptoOperationsLimitPerMessage, _, m, prior, _, hNext, peeled, opened, _, sender, signature, _,
      hRest.congr ⟨by rfl, by rfl⟩, ?_, hSender.congr (by rfl) ?_, hSignature.congr (by rfl), hTyp, hPrior, rfl⟩
    · exact Nat.lt_of_succ_lt hRounds
    · change _ + opts.cryptoOperationsLimitPerMessage ≤ _ + 1 + opts.cryptoOperationsLimitPerMessage
      omega

omit dids secrets in
theorem describeAll_reWrapped (layers : List (Layer crates)) (m : UnpackMetadata) :
    describeAll layers { m with reWrappedInForward := true } =
      { describeAll layers m with reWrappedInForward := true } := by
  induction layers generalizing m with
  | nil => rfl
  | cons layer rest ih =>
    have hLayer : layer.describe { m with reWrappedInForward := true } =
        { layer.describe m with reWrappedInForward := true } := by
      cases layer <;> rfl
    exact (congrArg (describeAll rest) hLayer).trans (ih (layer.describe m))

/-- What is said about the wrapper is overwritten exactly by another anonymous layer. -/
theorem OpensEnvelope.metadata_followed {outer : ParsedEnvelope} {jwe : ParsedJWE} {alg : AnonCryptAlg}
    {kids : List String} {layers : List (Layer crates)} {m : Message} {prior : Option (FromPrior × String)}
    (h : OpensEnvelope crates dids secrets opts outer layers m prior) :
    metadataOf (.anoncrypted jwe alg kids :: .forwarded :: layers) prior =
        { metadataOf layers prior with reWrappedInForward := true } ↔ outer.hasAlg .ecdhEsA256kw := by
  constructor
  · intro hSame
    obtain ⟨peeled, opened, outside, sender, signature, rounds, hPeels, -, hSender, hSignature, -, -, rfl⟩ := h
    cases hPeels with
    | anoncrypted hAlg => exact hAlg
    | forwarded hAlg => exact hAlg
    | stop =>
      -- nothing after the wrapper names the algorithm of an anonymous layer
      have hAnon := congrArg UnpackMetadata.encAlgAnon hSame
      rcases hSender.layers_eq with rfl | ⟨_, _, _, _, rfl⟩
      all_goals rcases hSignature.layers_eq with rfl | ⟨_, _, _, _, rfl⟩
      all_goals cases hAnon
  · intro hAlg
    cases outer with
    | jws => cases hAlg
    | message => cases hAlg
    | jwe jwe' =>
      obtain ⟨layer, rest, inner, rfl, hOpens⟩ := h.first_layer
      cases hOpens with
      | authcrypted hAuth => cases hAuth.symm.trans hAlg
      | @anoncrypted _ _ kids' alg' =>
        have hRest := describeAll_reWrapped rest ((Layer.anoncrypted jwe' alg' kids' : Layer crates).describe {})
        exact congrArg (fun said : UnpackMetadata =>
          { said with fromPrior := prior.map Prod.fst, fromPriorIssuerKid := prior.map Prod.snd }) hRest

end

section
variable {crates dids secrets} {opts : UnpackOptions} {text : String} {f : Message}

theorem FromAnoncrypt.congr {opts' : UnpackOptions}
    (hAlike : opts.expectDecryptByAllKeys = opts'.expectDecryptByAllKeys)
    (h : FromAnoncrypt crates dids secrets opts text f) : FromAnoncrypt crates dids secrets opts' text f := by
  obtain ⟨outer, layer, hParse, hAlg, hLayer⟩ := h
  exact ⟨outer, layer, hParse, hAlg, hLayer.congr hAlike⟩

theorem FromAnoncrypt.unique {f' : Message} (h : FromAnoncrypt crates dids secrets opts text f)
    (h' : FromAnoncrypt crates dids secrets opts text f') : f = f' := by
  obtain ⟨outer, layer, hParse, hAlg, hLayer⟩ := h
  obtain ⟨outer', layer', hParse', -, hLayer'⟩ := h'
  cases hParse.symm.trans hParse'
  cases hLayer.inner_unique hAlg hLayer'
  rfl

/-- Where no plaintext that comes out of an anonymous layer is followed, both ways are one. -/
theorem unpacked_unfollowed (h : ∀ f, FromAnoncrypt crates dids secrets opts text f →
      tryUnwrapForwardedMessage crates dids secrets (.message f) = .ok none) :
    Message.unpacked crates dids secrets (opts.unwrapping true) text =
      Message.unpacked crates dids secrets (opts.unwrapping false) text := by
  refine unpacked_unwrapping fun outer hParse hAlg layer inner hLayer => ?_
  cases inner with
  | message f => exact h f ⟨outer, layer, hParse, hAlg, hLayer⟩
  | jwe => rfl
  | jws => rfl

/-- By hand, what comes out of an anonymous layer is the message, if it is acceptable. -/
theorem FromAnoncrypt.unpacked_by_hand (h : FromAnoncrypt crates dids secrets opts text f)
    (hLimit : 2 ≤ opts.cryptoOperationsLimitPerMessage) :
    (∀ r, Message.unpacked crates dids secrets (opts.unwrapping false) text = some r →
        r.1 = f ∧ f.Acceptable crates dids) ∧
      (f.Acceptable crates dids →
        ∃ metadata, Message.unpacked crates dids secrets (opts.unwrapping false) text = some (f, metadata)) := by
  constructor
  · rintro ⟨m, metadata⟩ hUnpacked
    obtain ⟨layers, prior, ⟨outer, hParse, hOpens⟩, -⟩ := (unpacked_eq_some_iff _ _ _ _).mp hUnpacked
    obtain ⟨peeled, opened, outside, sender, signature, rounds, hPeels, -, hSender, hSignature, hTyp, hPrior, -⟩ :=
      hOpens
    obtain ⟨outer', layer, hParse', hAlg, hLayer⟩ := h
    cases hParse'.symm.trans hParse
    have hPeeled : peeled = .message f := by
      cases hPeels with
      | stop hOther => exact absurd hAlg hOther
      | anoncrypted _ hFirst _ => exact ((OpensLayer.unwrapping_iff false).mp hFirst).inner_unique hAlg hLayer
      | forwarded _ _ hForward => cases hForward
    subst hPeeled
    have hOpened : ParsedEnvelope.message m = .message f := by
      cases hSender with
      | none _ =>
        cases hSignature with
        | none _ => rfl
        | signed hJws => cases hJws
      | authcrypted hFirst => cases hFirst
    cases hOpened
    exact ⟨rfl, hTyp, prior, hPrior⟩
  · rintro ⟨hTyp, prior, hPrior⟩
    obtain ⟨outer, layer, hParse, hAlg, hLayer⟩ := h
    refine ⟨_, (unpacked_eq_some_iff _ _ _ _).mpr ⟨[layer], prior, ⟨outer, hParse, .message f, .message f, [layer], [],
      [], 1, .anoncrypted hAlg ((OpensLayer.unwrapping_iff false).mpr hLayer) rfl, hLimit, .none id, .none id, hTyp,
      hPrior, rfl⟩, rfl⟩⟩

theorem FromAnoncrypt.unpacked_error (h : FromAnoncrypt crates dids secrets opts text f) {e : Fault}
    (hError : tryUnwrapForwardedMessage crates dids secrets (.message f) = .error e) :
    Message.unpacked crates dids secrets (opts.unwrapping true) text = none := by
  obtain ⟨outer, layer, hParse, hAlg, hLayer⟩ := h
  rw [Option.eq_none_iff_forall_ne_some]
  rintro ⟨m, metadata⟩ hUnpacked
  obtain ⟨layers, prior, ⟨outer', hParse', hOpens⟩, -⟩ := (unpacked_eq_some_iff _ _ _ _).mp hUnpacked
  cases hParse.symm.trans hParse'
  obtain ⟨_, _, _, _, _, _, hPeels, -⟩ := hOpens
  cases hPeels with
  | stop hOther => exact hOther hAlg
  | anoncrypted _ hFirst hForward =>
    cases ((OpensLayer.unwrapping_iff true).mp hFirst).inner_unique hAlg hLayer
    cases hForward.symm.trans hError
  | forwarded _ hFirst hForward =>
    cases ((OpensLayer.unwrapping_iff true).mp hFirst).inner_unique hAlg hLayer
    cases hForward.symm.trans hError

theorem OwnForward.unpacked_unreadable {forwarded : String} (h : OwnForward crates dids secrets opts text f forwarded)
    (hUnreadable : ¬ Readable crates dids secrets (opts.unwrapping true) forwarded) :
    Message.unpacked crates dids secrets (opts.unwrapping true) text = none ∧
      Message.unpacked crates dids secrets (opts.unwrapping true) forwarded = none := by
  obtain ⟨⟨outer, layer, hParse, hAlg, hLayer⟩, hOwn⟩ := h
  constructor
  · rw [Option.eq_none_iff_forall_ne_some]
    rintro ⟨m, metadata⟩ hUnpacked
    obtain ⟨layers, prior, ⟨outer', hParse', hOpens⟩, -⟩ := (unpacked_eq_some_iff _ _ _ _).mp hUnpacked
    cases hParse.symm.trans hParse'
    exact hUnreadable (hOpens.forwards hAlg hLayer hOwn)
  · rw [Option.eq_none_iff_forall_ne_some]
    rintro ⟨m, metadata⟩ hUnpacked
    obtain ⟨layers, prior, hOpens, -⟩ := (unpacked_eq_some_iff _ _ _ _).mp hUnpacked
    exact hUnreadable ⟨opts.cryptoOperationsLimitPerMessage, layers, m, prior, hOpens⟩

/-- What a forward to an own key carries is unpacked as it would be on its own, but for what is said about the
wrapper. -/
theorem OwnForward.unpacked_readable {forwarded : String} (h : OwnForward crates dids secrets opts text f forwarded)
    {limit : Nat} {layers : List (Layer crates)} {m : Message} {prior : Option (FromPrior × String)}
    (hOpens : Opens crates dids secrets ((opts.unwrapping true).limited limit) forwarded layers m prior)
    (hLimit : limit < opts.cryptoOperationsLimitPerMessage) :
    Message.unpacked crates dids secrets (opts.unwrapping true) text ≠ none ∧
      (Message.unpacked crates dids secrets (opts.unwrapping true) text =
        (Message.unpacked crates dids secrets (opts.unwrapping true) forwarded).map (fun r =>
          (r.1, { r.2 with reWrappedInForward := true })) ↔ IsAnoncrypt crates forwarded) := by
  obtain ⟨⟨outer, layer, hParse, hAlg, hLayer⟩, hOwn⟩ := h
  obtain ⟨next, hNext, hEnvelope⟩ := hOpens
  have hDirect : Message.unpacked crates dids secrets (opts.unwrapping true) forwarded =
      some (m, metadataOf layers prior) :=
    (unpacked_eq_some_iff _ _ _ _).mpr ⟨layers, prior, ⟨next, hNext, hEnvelope.mono ⟨by rfl, by rfl⟩ (by
      exact Nat.le_of_lt hLimit)⟩, rfl⟩
  have hFollowed : Message.unpacked crates dids secrets (opts.unwrapping true) text =
      some (m, metadataOf (layer :: .forwarded :: layers) prior) :=
    (unpacked_eq_some_iff _ _ _ _).mpr ⟨_, prior, ⟨outer, hParse, (hEnvelope.followed hAlg hLayer hOwn hNext).mono
      ⟨by rfl, by rfl⟩ (by exact hLimit)⟩, rfl⟩
  rw [hFollowed, hDirect]
  refine ⟨Option.some_ne_none _, ?_⟩
  cases hLayer with
  | anoncrypted =>
    simp only [Option.map_some, Option.some.injEq, Prod.mk.injEq, true_and, hEnvelope.metadata_followed, IsAnoncrypt,
      hNext, Except.ok.injEq, exists_eq_left']
  | authcrypted hAuth => cases hAuth.symm.trans hAlg
  | signed => cases hAlg

end

section
variable {crates dids secrets} {opts : UnpackOptions} {text : String} {f : Message}

/-- Where the ownership of `next` is unclear, only a forward that is no plaintext fails both ways. -/
theorem unwrapsAsByHand_error_iff (h : FromAnoncrypt crates dids secrets opts text f) {e : Fault}
    (hError : tryUnwrapForwardedMessage crates dids secrets (.message f) = .error e)
    (hLimit : 2 ≤ opts.cryptoOperationsLimitPerMessage) :
    UnwrapsAsByHand crates dids secrets opts text ↔ ¬ f.Acceptable crates dids := by
  have hOn := h.unpacked_error hError
  obtain ⟨hSound, hAccepted⟩ := h.unpacked_by_hand hLimit
  have hUnowned (f' : Message) (forwarded : String) : ¬ OwnForward crates dids secrets opts text f' forwarded := by
    rintro ⟨h', hOwn⟩
    cases h.unique h'
    cases hOwn.symm.trans hError
  constructor
  · intro hSame hAcceptable
    obtain ⟨metadata, hOff⟩ := hAccepted hAcceptable
    have hEq := hSame.otherwise fun f' _ forwarded _ => hUnowned f' forwarded
    rw [hOn, hOff] at hEq
    cases hEq
  · intro hRejected
    refine ⟨fun f' _ forwarded _ hOwn => absurd hOwn (hUnowned f' forwarded), fun _ => ?_⟩
    rw [hOn, eq_comm, Option.eq_none_iff_forall_ne_some]
    exact fun r hOff => hRejected (hSound r hOff).2

/-- A forward to an own key is followed as by hand when it is a plaintext around an anonymous message, or when
there is nothing to read in it. -/
theorem OwnForward.unwrapsAsByHand_iff {forwarded : String}
    (h : OwnForward crates dids secrets opts text f forwarded) (hLimit : 2 ≤ opts.cryptoOperationsLimitPerMessage)
    (hEnough : Readable crates dids secrets (opts.unwrapping true) forwarded → ∃ limit layers m prior,
      Opens crates dids secrets ((opts.unwrapping true).limited limit) forwarded layers m prior ∧
        limit < opts.cryptoOperationsLimitPerMessage) :
    UnwrapsAsByHand crates dids secrets opts text ↔
      f.Acceptable crates dids ∧ IsAnoncrypt crates forwarded ∨
        ¬ Readable crates dids secrets (opts.unwrapping true) forwarded := by
  obtain ⟨hSound, hAccepted⟩ := h.1.unpacked_by_hand hLimit
  have hOnly (f' : Message) (forwarded' : String) (h' : OwnForward crates dids secrets opts text f' forwarded') :
      forwarded' = forwarded := by
    cases h.1.unique h'.1
    cases h'.2.symm.trans h.2
    rfl
  by_cases hReadable : Readable crates dids secrets (opts.unwrapping true) forwarded
  · obtain ⟨limit, layers, m, prior, hOpens, hLess⟩ := hEnough hReadable
    obtain ⟨hSome, hSame⟩ := h.unpacked_readable hOpens hLess
    rw [or_iff_left (not_not_intro hReadable)]
    constructor
    · intro hByHand
      by_cases hAcceptable : f.Acceptable crates dids
      · obtain ⟨metadata, hOff⟩ := hAccepted hAcceptable
        exact ⟨hAcceptable, hSame.mp (hByHand.followed f metadata forwarded hOff h)⟩
      · have hEq := hByHand.otherwise fun f' metadata _ hOff _ => hAcceptable (hSound (f', metadata) hOff).2
        rw [hEq] at hSome
        obtain ⟨r, hOff⟩ := Option.ne_none_iff_exists'.mp hSome
        exact absurd (hSound r hOff).2 hAcceptable
    · rintro ⟨hAcceptable, hAnon⟩
      refine ⟨fun f' _ forwarded' _ h' => ?_, fun hNever => ?_⟩
      · rw [hOnly f' forwarded' h']
        exact hSame.mpr hAnon
      · obtain ⟨metadata, hOff⟩ := hAccepted hAcceptable
        exact absurd h (hNever f metadata forwarded hOff)
  · obtain ⟨hOn, hDirect⟩ := h.unpacked_unreadable hReadable
    refine iff_of_true ⟨fun f' _ forwarded' _ h' => ?_, fun hNever => ?_⟩ (.inr hReadable)
    · rw [hOnly f' forwarded' h', hOn, hDirect]
      rfl
    · rw [hOn, eq_comm, Option.eq_none_iff_forall_ne_some]
      rintro ⟨f', metadata⟩ hOff
      obtain rfl : f' = f := (hSound _ hOff).1
      exact hNever f' metadata forwarded hOff h

theorem unwrapsAsByHand_unfollowed (h : ∀ f, FromAnoncrypt crates dids secrets opts text f →
      tryUnwrapForwardedMessage crates dids secrets (.message f) = .ok none) :
    UnwrapsAsByHand crates dids secrets opts text :=
  ⟨fun f _ _ _ hOwn => (by cases (h f hOwn.1).symm.trans hOwn.2), fun _ => unpacked_unfollowed h⟩

theorem FromAnoncrypt.unwrappable_iff (h : FromAnoncrypt crates dids secrets opts text f) :
    Unwrappable crates dids secrets opts text ↔
      match tryUnwrapForwardedMessage crates dids secrets (.message f) with
      | .ok none => True
      | .ok (some forwarded) => f.Acceptable crates dids ∧ IsAnoncrypt crates forwarded ∨
          ¬ Readable crates dids secrets (opts.unwrapping true) forwarded
      | .error _ => ¬ f.Acceptable crates dids :=
  ⟨fun hAll => hAll f h, fun hOne _ h' => h.unique h' ▸ hOne⟩

end

/-- With a limit that is not reached, unwrapping in one run is unwrapping by hand exactly for these texts. -/
theorem unwraps_as_by_hand_iff (opts : UnpackOptions) (text : String) : ∃ enough, ∀ limit, enough ≤ limit →
    (UnwrapsAsByHand crates dids secrets (opts.limited limit) text ↔ Unwrappable crates dids secrets opts text) := by
  by_cases hAnon : ∃ f, FromAnoncrypt crates dids secrets opts text f
  · obtain ⟨f, h⟩ := hAnon
    have hLimited (limit : Nat) : FromAnoncrypt crates dids secrets (opts.limited limit) text f := h.congr (by rfl)
    rw [h.unwrappable_iff]
    cases hOwn : tryUnwrapForwardedMessage crates dids secrets (.message f) with
    | error e => exact ⟨2, fun limit hLimit => unwrapsAsByHand_error_iff (hLimited limit) hOwn hLimit⟩
    | ok next =>
      cases next with
      | none =>
        refine ⟨0, fun limit _ => iff_of_true (unwrapsAsByHand_unfollowed fun f' h' => ?_) trivial⟩
        rw [← (hLimited limit).unique h', hOwn]
      | some forwarded =>
        by_cases hReadable : Readable crates dids secrets (opts.unwrapping true) forwarded
        · obtain ⟨enough, layers, m, prior, hOpens⟩ := hReadable
          refine ⟨enough + 2, fun limit hLimit => OwnForward.unwrapsAsByHand_iff ⟨hLimited limit, hOwn⟩ ?_ fun _ =>
            ⟨enough, layers, m, prior, hOpens, ?_⟩⟩
          · exact le_trans (Nat.le_add_left 2 enough) hLimit
          · exact lt_of_lt_of_le (Nat.lt_add_of_pos_right (by decide)) hLimit
        · exact ⟨2, fun limit hLimit => OwnForward.unwrapsAsByHand_iff ⟨hLimited limit, hOwn⟩ hLimit fun hSome =>
            absurd hSome hReadable⟩
  · refine ⟨0, fun limit _ => iff_of_true (unwrapsAsByHand_unfollowed fun f h => ?_) fun f h => ?_⟩
    · exact absurd ⟨f, h.congr (by rfl)⟩ hAnon
    · exact absurd ⟨f, h⟩ hAnon

/-- Alice encrypts a ping for Bob in her name, and it comes in a forward: after unwrapping in one run its sender
counts as anonymous. -/
theorem not_unwraps_as_by_hand : ∃ text f forwarded m metadata metadata',
    OwnForward (ideal id) (everyDid fun _ => []) (secretsOf "did:example:bob") {} text f forwarded ∧
      Message.unpacked (ideal id) (everyDid fun _ => []) (secretsOf "did:example:bob") {} text = some (m, metadata) ∧
      Message.unpacked (ideal id) (everyDid fun _ => []) (secretsOf "did:example:bob") {} forwarded =
        some (m, metadata') ∧
      metadata.anonymousSender = true ∧ metadata'.anonymousSender = false ∧
      ¬ UnwrapsAsByHand (ideal id) (everyDid fun _ => []) (secretsOf "did:example:bob") {} text := by
  have hBob : '#' ∉ "did:example:bob".toList := by decide
  obtain ⟨packed, jwe, hPacked, -, next, hNext, hEnvelope⟩ := opens_authcrypted id (fun _ => [])
    (UnpackOptions.limited (UnpackOptions.unwrapping {} true) 999) rfl (by decide) "did:example:alice"
    "did:example:bob" (by decide) hBob (some "did:example:alice")
  let json := jwe.jwe.toJson.toValue
  have hValue : value json = some json := jwe.jwe.value_toValue
  have hFloatless : json.floatless = true := floatless_toValue _ jwe.jwe.floatless_toJson
  have hDepth : json.depth ≤ 4 := depth_toValue_le _ jwe.jwe.depth_toJson
  have hParse := parseEnvelope_forwardTo id "did:example:bob" hValue hFloatless hDepth
  obtain ⟨text, wrapper, -, hText, -, hWrapper⟩ :=
    ideal_anoncrypts id (everyDid fun _ => []) {} rfl hParse hBob
  have hOwn := tryUnwrap_forwardTo id (fun _ => []) hBob json
  have hForwarded : parseEnvelope (ideal id) ((ideal id).jsonToString json) = .ok next := by
    rw [parseEnvelope_toValue (ideal_lawful id), ← hPacked, hNext]
  have hAlg : (ParsedEnvelope.jwe wrapper).hasAlg .ecdhEsA256kw := by
    cases hWrapper with
    | anoncrypted hAlg => exact hAlg
  have hDirect := (unpacked_eq_some_iff {} _ _ _).mpr
    ⟨_, none, ⟨next, hForwarded, hEnvelope.mono ⟨by rfl, by rfl⟩ (by decide)⟩, rfl⟩
  have hFollowed := (unpacked_eq_some_iff {} text _ _).mpr
    ⟨_, none, ⟨.jwe wrapper, hText, hEnvelope.followed hAlg hWrapper hOwn hForwarded⟩, rfl⟩
  have hForward : OwnForward (ideal id) (everyDid fun _ => []) (secretsOf "did:example:bob") {} text
      (forwardTo "did:example:bob" json) ((ideal id).jsonToString json) :=
    ⟨⟨.jwe wrapper, _, hText, hAlg, hWrapper⟩, hOwn⟩
  obtain ⟨-, hAccepted⟩ := hForward.1.unpacked_by_hand (by decide)
  obtain ⟨metadata, hOff⟩ := hAccepted ⟨rfl, none, rfl⟩
  refine ⟨text, _, _, _, _, _, hForward, hFollowed, hDirect, rfl, rfl, fun hByHand => ?_⟩
  have hSame := hByHand.followed _ metadata _ hOff hForward
  rw [show UnpackOptions.unwrapping {} true = {} from rfl, hFollowed, hDirect] at hSame
  exact Bool.noConfusion (congrArg (fun r => r.2.anonymousSender) (Option.some.inj hSame))

end AffinidiMessaging.Didcomm
