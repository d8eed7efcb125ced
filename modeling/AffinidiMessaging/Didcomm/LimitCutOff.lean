import AffinidiMessaging.Library.CutOff
import AffinidiMessaging.Didcomm.ReWrapping

/-! # The limit of crypto operations is a cut-off

The limit decides whether `unpack` gives up, and nothing else: what it ends with otherwise, results, errors and
panics alike, is the same under every limit.
-/

namespace AffinidiMessaging.Didcomm

open Fallible

/-- What `unpack` gives up with under the limit. -/
def limitReached (limit : Nat) : Fault := tooManyCryptoOperations limit (max 1 limit)

variable (crates : Crates) (dids : DidResolver) (secrets : SecretsResolver)

section
variable {opts opts' : UnpackOptions}

theorem anonPayload_congr (hExpect : opts.expectDecryptByAllKeys = opts'.expectDecryptByAllKeys) (jwe : ParsedJWE)
    (payload : Option ByteArray) (kids : List String) :
    anonPayload crates secrets opts jwe payload kids = anonPayload crates secrets opts' jwe payload kids := by
  induction kids generalizing payload with
  | nil => rfl
  | cons toKid rest ih =>
    rw [anonPayload, anonPayload, hExpect]
    exact congrArg (anonDecrypt crates secrets jwe toKid >>= ·) (funext fun payload => by rw [ih (some payload)])

theorem tryUnpackAnoncrypt_congr (hExpect : opts.expectDecryptByAllKeys = opts'.expectDecryptByAllKeys)
    (parsed : ParsedEnvelope) :
    tryUnpackAnoncrypt crates secrets opts parsed = tryUnpackAnoncrypt crates secrets opts' parsed := by
  cases parsed with
  | jwe jwe =>
    have hPayload (kids : List String) := anonPayload_congr crates secrets hExpect jwe none kids
    simp only [tryUnpackAnoncrypt, unpackAnoncrypt, hPayload]
  | jws jws => rfl
  | message m => rfl

variable (hAlike : opts.Alike opts')
  (hLimit : opts.cryptoOperationsLimitPerMessage ≤ opts'.cryptoOperationsLimitPerMessage)
include hAlike hLimit

theorem authPayload_upTo (jwe : ParsedJWE) {count : Nat} (hCount : count < opts.cryptoOperationsLimitPerMessage)
    (payload : Option ByteArray) (kids : List String) :
    UpTo (limitReached opts.cryptoOperationsLimitPerMessage) (authPayload crates secrets opts jwe count payload kids)
      (authPayload crates secrets opts' jwe count payload kids) := by
  induction kids generalizing count payload with
  | nil => exact .refl _
  | cons toKid rest ih =>
    rw [authPayload, authPayload, ← hAlike.expect]
    by_cases hNext : count + 1 < opts.cryptoOperationsLimitPerMessage
    · have hNext' : count + 1 < opts'.cryptoOperationsLimitPerMessage := Nat.lt_of_lt_of_le hNext hLimit
      simp only [hNext, hNext', decide_true]
      refine (UpTo.refl _).bind fun _ _ _ _ => (UpTo.refl _).bind fun payload _ _ _ => ?_
      split
      · exact ih hNext (some payload)
      · exact .refl _
    · -- the count reaches the limit here
      have hReached : count + 1 = max 1 opts.cryptoOperationsLimitPerMessage := by omega
      simp only [hNext, decide_false]
      intro s
      refine .inr ⟨s, bind_of_error ?_⟩
      rw [limitReached, hReached]
      rfl

theorem tryUnpackAuthcrypt_upTo {count : Nat} (hCount : count < opts.cryptoOperationsLimitPerMessage)
    (parsed : ParsedEnvelope) :
    UpTo (limitReached opts.cryptoOperationsLimitPerMessage) (tryUnpackAuthcrypt crates dids secrets opts count parsed)
      (tryUnpackAuthcrypt crates dids secrets opts' count parsed) := by
  cases parsed with
  | jwe jwe =>
    rw [tryUnpackAuthcrypt, tryUnpackAuthcrypt]
    split
    · exact .refl _
    · refine UpTo.map _ ((UpTo.refl _).bind fun _ _ _ _ => (UpTo.refl _).bind fun s _ _ _ => ?_)
      exact (authPayload_upTo crates secrets hAlike hLimit jwe hCount none _).bind fun _ _ _ _ => .refl _
  | jws jws => exact .refl _
  | message m => exact .refl _

omit hLimit in
theorem unpackLoop_upTo {left left' count : Nat} (hLeft : left ≤ left')
    (hCount : count + left = opts.cryptoOperationsLimitPerMessage - 1) (parsed : ParsedEnvelope) :
    UpTo (limitReached opts.cryptoOperationsLimitPerMessage) (unpackLoop crates dids secrets opts left count parsed)
      (unpackLoop crates dids secrets opts' left' count parsed) := by
  induction left generalizing left' count parsed with
  | zero =>
    have hReached : count + 1 = max 1 opts.cryptoOperationsLimitPerMessage := by omega
    rw [unpackLoop, hReached]
    exact .throw _
  | succ left ih =>
    obtain ⟨left', rfl⟩ := Nat.exists_eq_add_of_lt (Nat.lt_of_lt_of_le left.succ_pos hLeft)
    rw [Nat.zero_add, unpackLoop_succ, unpackLoop_succ, tryUnpackAnoncrypt_congr crates secrets hAlike.expect]
    refine (UpTo.refl _).bind fun anoncrypted _ _ _ => ?_
    rw [unwrapForwarded_congr hAlike]
    refine (UpTo.refl _).bind fun forwarded _ _ _ => ?_
    cases forwarded with
    | none => exact .refl _
    | some forwardedMsg =>
      refine (UpTo.refl _).bind fun _ _ _ _ => (UpTo.refl _).bind fun parsed _ _ _ => ih ?_ ?_ parsed
      · omega
      · omega

/-- With a higher limit `unpack` ends as before, unless it was the limit that ended it. -/
theorem unpackString_upTo (text : String) : UpTo (limitReached opts.cryptoOperationsLimitPerMessage)
    (Message.unpackString crates dids secrets opts text) (Message.unpackString crates dids secrets opts' text) := by
  refine (UpTo.refl _).bind fun _ _ _ _ => (UpTo.refl _).bind fun s _ _ _ => (UpTo.refl _).bind fun parsed _ _ _ => ?_
  refine (unpackLoop_upTo crates dids secrets hAlike (Nat.sub_le_sub_right hLimit 1) (Nat.zero_add _) parsed).bind ?_
  rintro ⟨last, total⟩ s₁ s₂ hRun
  obtain ⟨layers, rounds, hPeels, hRounds, rfl, -⟩ := (unpackLoop_ok_iff _ _ _ _ _ _ _ _).mp hRun
  have hCount : 0 + rounds < opts.cryptoOperationsLimitPerMessage := by
    cases hPeels <;> omega
  exact (tryUnpackAuthcrypt_upTo crates dids secrets hAlike hLimit hCount last).bind fun _ _ _ _ => .refl _

end

/-- For every text there is a number of operations, infinite where it never stops asking for more, from which on every
limit gives the same end, be it a message, an error or a panic; under a lower limit `unpack` gives up, with the limit
in its error. -/
theorem unpack_limit_threshold (opts : UnpackOptions) (text : String) (s : UnpackState crates) :
    ∃ (n : ℕ∞) (r : EStateM.Result Fault (UnpackState crates) (Message × UnpackMetadata)),
      (∀ limit : Nat, n ≤ limit → Message.unpackString crates dids secrets (opts.limited limit) text s = r) ∧
      ∀ limit : Nat, (limit : ℕ∞) < n → ∃ s',
        Message.unpackString crates dids secrets (opts.limited limit) text s =
          .error (tooManyCryptoOperations limit (max 1 limit)) s' :=
  exists_threshold (fun limit limit' hLimit => by
    have hAlike : (opts.limited limit).Alike (opts.limited limit') := ⟨rfl, rfl⟩
    exact unpackString_upTo crates dids secrets hAlike hLimit text) s

end AffinidiMessaging.Didcomm
