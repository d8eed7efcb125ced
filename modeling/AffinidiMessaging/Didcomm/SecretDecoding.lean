import AffinidiMessaging.Library.Leb128
import AffinidiMessaging.Didcomm.IdealCrates
import AffinidiMessaging.Didcomm.Panics

/-! # Keys from the texts of secrets

Key bytes are split off at fixed places: the public half of an Ed25519 key after 32 bytes, the codec where its
shortest encoding would end.
-/

namespace AffinidiMessaging.Didcomm

open Fallible Serde

variable (crates : Crates)

/-- The varint crate reads LEB128, numbers of 32 bits in up to five bytes as they are, and writes the shortest
encoding. -/
structure Varints : Prop where
  read : ∀ bytes n, crates.readUnsignedVarint32 bytes = .ok n → ∃ m rest,
    Leb128.read bytes.data.toList = some (m, rest) ∧ (m < 2 ^ 32 → bytes.size ≤ rest.length + 5 → n.toNat = m)
  write : ∀ n, crates.writeUnsignedVarint32 n = .ok ⟨(Leb128.encode n.toNat).toArray⟩

/-- The bytes after the number that is read. -/
def afterVarint (value : ByteArray) : Option ByteArray :=
  (Leb128.read value.data.toList).map fun p => ⟨p.2.toArray⟩

/-- The bytes that are used for the key are the ones after the prefix that was read. -/
def ReadsAfterPrefix (value : ByteArray) : Prop :=
  ∀ codec bytes, fromMulticodec crates value = .ok (codec, bytes) → afterVarint value = some bytes

/-- A prefix of a codec is in the shortest encoding. -/
def ShortestPrefix (value : ByteArray) : Prop :=
  ∀ n codec, crates.readUnsignedVarint32 value = .ok n → Codec.codecByPrefix n = .ok codec →
    Leb128.encode n.toNat <+: value.data.toList

/-- Ed25519 material has the 32 bytes that are split off, after two bytes of a codec in a multibase text. -/
def Secret.LongEnough (secret : Secret) : Prop :=
  match secret.type_, secret.secretMaterial with
  | .ed25519VerificationKey2018, .base58 value => ∀ bytes, crates.bs58Decode value = .ok bytes → 32 ≤ bytes.size
  | .ed25519VerificationKey2020, .multibase value => ∀ bytes, value.toList.head? = some 'z' →
    crates.bs58Decode (String.ofList value.toList.tail) = .ok bytes →
    crates.readUnsignedVarint32 bytes = .ok 0x1300 → 34 ≤ bytes.size
  | _, _ => True

variable {crates}

theorem codecByPrefix_ok_iff {n : UInt32} {codec : Codec} : Codec.codecByPrefix n = .ok codec ↔
    (n, codec) ∈ [(0xEC, Codec.x25519Pub), (0xED, .ed25519Pub), (0x1302, .x25519Priv), (0x1300, .ed25519Priv)] := by
  unfold Codec.codecByPrefix
  split <;> cases codec <;> simp_all [errMsg]

theorem length_encode_of_codec {n : UInt32} {codec : Codec} (h : Codec.codecByPrefix n = .ok codec) :
    (Leb128.encode n.toNat).length = 2 := by
  rw [codecByPrefix_ok_iff] at h
  simp only [List.mem_cons, Prod.mk.injEq, List.not_mem_nil, or_false] at h
  rcases h with ⟨rfl, -⟩ | ⟨rfl, -⟩ | ⟨rfl, -⟩ | ⟨rfl, -⟩ <;> simp [Leb128.encode]

@[simp] theorem safe_codecByPrefix (n : UInt32) : (Codec.codecByPrefix n).Safe := by
  unfold Codec.codecByPrefix
  split <;> simp

theorem data_extract_size (value : ByteArray) (n : Nat) :
    (value.extract n value.size).data.toList = value.data.toList.drop n := by
  simp [ByteArray.data_extract]

section
variable (h : Varints crates) {value : ByteArray}
include h

/-- A prefix in two bytes or less is read as it is, and a longer one that is not has five bytes at least. -/
theorem Varints.read_codec {n : UInt32} (hRead : crates.readUnsignedVarint32 value = .ok n) :
    ∃ m rest k, Leb128.read value.data.toList = some (m, rest) ∧ value.data.toList.length = rest.length + k ∧
      (n.toNat = m ∨ 5 ≤ k) := by
  obtain ⟨m, rest, hRest, hSame⟩ := h.read value n hRead
  obtain ⟨k, -, hLength, hLt⟩ := Leb128.read_lt hRest
  refine ⟨m, rest, k, hRest, hLength, ?_⟩
  rcases Nat.lt_or_ge k 5 with hShort | hLong
  · have hPow : 128 ^ k ≤ 128 ^ 4 := Nat.pow_le_pow_right (by decide) (by omega)
    refine .inl (hSame (by omega) ?_)
    change value.data.size ≤ _
    rw [← Array.length_toList]
    omega
  · exact .inr hLong

theorem fromMulticodec_eq (value : ByteArray) : fromMulticodec crates value = do
    let n ← Result.ofKind .invalidState "Cannot read varint" (crates.readUnsignedVarint32 value)
    let codec ← Codec.codecByPrefix n
    return (codec, value.extract (Leb128.encode n.toNat).length value.size) := by
  unfold fromMulticodec
  cases hRead : crates.readUnsignedVarint32 value with
  | error e => rfl
  | ok n =>
    change (Codec.codecByPrefix n >>= fun codec =>
      Result.ofKind .invalidState "Cannot write varint" (crates.writeUnsignedVarint32 n) >>= fun written =>
        splitAt value written.size >>= fun p => .ok (codec, p.2)) = (Codec.codecByPrefix n >>= fun codec => .ok
          (codec, value.extract (Leb128.encode n.toNat).length value.size))
    cases hCodec : Codec.codecByPrefix n with
    | error e => rfl
    | ok codec =>
      have hFits : (Leb128.encode n.toNat).length ≤ value.size := by
        obtain ⟨m, rest, k, hRest, hLength, hSame⟩ := h.read_codec hRead
        rw [show value.size = value.data.toList.length from Array.length_toList.symm]
        rcases hSame with rfl | hLong
        · exact le_trans (Nat.le_add_right _ _) (Leb128.read_shortest hRest).1
        · rw [length_encode_of_codec hCodec]
          omega
      have hSplit : splitAt value (⟨(Leb128.encode n.toNat).toArray⟩ : ByteArray).size =
          .ok (value.extract 0 (Leb128.encode n.toNat).length,
            value.extract (Leb128.encode n.toNat).length value.size) := by
        have hSize : (⟨(Leb128.encode n.toNat).toArray⟩ : ByteArray).size = (Leb128.encode n.toNat).length :=
          List.size_toArray
        rw [hSize, splitAt, if_pos hFits]
      rw [h.write]
      change (splitAt value _ >>= fun p => .ok (codec, p.2)) = _
      rw [hSplit]
      rfl

theorem fromMulticodec_ok_iff {codec : Codec} {bytes : ByteArray} :
    fromMulticodec crates value = .ok (codec, bytes) ↔ ∃ n, crates.readUnsignedVarint32 value = .ok n ∧
      Codec.codecByPrefix n = .ok codec ∧ bytes = value.extract (Leb128.encode n.toNat).length value.size := by
  rw [fromMulticodec_eq h, except_bind_ok_iff]
  constructor
  · rintro ⟨n, hRead, hCodec⟩
    obtain ⟨codec', hCodec', hSame⟩ := (except_bind_ok_iff _ _ _).mp hCodec
    cases hSame
    cases hRead' : crates.readUnsignedVarint32 value with
    | error e =>
      rw [hRead'] at hRead
      cases hRead
    | ok n' =>
      rw [hRead'] at hRead
      cases hRead
      exact ⟨n, rfl, hCodec', rfl⟩
  · rintro ⟨n, hRead, hCodec, rfl⟩
    refine ⟨n, by rw [hRead]; rfl, ?_⟩
    rw [hCodec]
    rfl

theorem safe_fromMulticodec (value : ByteArray) : (fromMulticodec crates value).Safe := by
  rw [fromMulticodec_eq h, Result.safe_bind_iff]
  refine ⟨by simp, fun n _ => Result.safe_bind_iff.mpr ⟨by simp, fun codec _ => Result.safe_ok _⟩⟩

/-- What is split off is the prefix that was read exactly when that is as short as the one that is written. -/
theorem readsAfterPrefix_iff (value : ByteArray) : ReadsAfterPrefix crates value ↔ ShortestPrefix crates value := by
  have hAfter {n : UInt32} {codec : Codec} (hRead : crates.readUnsignedVarint32 value = .ok n)
      (hCodec : Codec.codecByPrefix n = .ok codec) : afterVarint value =
          some (value.extract (Leb128.encode n.toNat).length value.size) ↔
        Leb128.encode n.toNat <+: value.data.toList := by
    obtain ⟨m, rest, k, hRest, hLength, hSame⟩ := h.read_codec hRead
    have hDrop : value.data.toList.drop (Leb128.encode n.toNat).length = rest ↔
        Leb128.encode n.toNat <+: value.data.toList := by
      rcases hSame with rfl | hLong
      · exact Leb128.drop_encode_iff hRest
      have hTwo := length_encode_of_codec hCodec
      -- the bytes after a long prefix are not those after two
      refine iff_of_false (fun hDrop => ?_) ?_
      · have hRestLength := congrArg List.length hDrop
        rw [List.length_drop] at hRestLength
        omega
      · rintro ⟨after, hPrefix⟩
        have hReadBack := Leb128.read_encode n.toNat after
        rw [hPrefix, hRest] at hReadBack
        cases hReadBack
        rw [← hPrefix, List.length_append] at hLength
        omega
    rw [← hDrop, afterVarint, hRest, ← data_extract_size]
    simp only [Option.map_some, Option.some.injEq]
    generalize value.extract (Leb128.encode n.toNat).length value.size = bytes
    constructor
    · rintro rfl
      rfl
    · rintro rfl
      rfl
  constructor
  · intro hReads n codec hRead hCodec
    exact (hAfter hRead hCodec).mp (hReads codec _ ((fromMulticodec_ok_iff h).mpr ⟨n, hRead, hCodec, rfl⟩))
  · intro hShortest codec bytes hFrom
    obtain ⟨n, hRead, hCodec, rfl⟩ := (fromMulticodec_ok_iff h).mp hFrom
    exact (hAfter hRead hCodec).mpr (hShortest n codec hRead hCodec)

end

@[simp] theorem safe_keyPairFromJwk (msg : String) (curve : Curve) (jwk : Json) :
    (keyPairFromJwk crates msg curve jwk).Safe := by
  rw [keyPairFromJwk, Result.safe_bind_iff]
  exact ⟨by simp [fromJwkValue], fun key _ => Result.safe_ok _⟩

@[simp] theorem safe_bs58Bytes (msg text : String) : (bs58Bytes crates msg text).Safe := by
  unfold bs58Bytes
  split <;> simp

theorem bs58Bytes_ok_iff {msg text : String} {bytes : ByteArray} :
    bs58Bytes crates msg text = .ok bytes ↔ crates.bs58Decode text = .ok bytes := by
  unfold bs58Bytes
  split <;> simp [*]

@[simp] theorem safe_x25519Pair (msg : String) (bytes : ByteArray) : (x25519Pair crates msg bytes).Safe := by
  rw [x25519Pair, Result.safe_bind_iff]
  exact ⟨Result.safe_messageOf _ _ _, fun key _ => safe_keyPairFromJwk _ _ _⟩

theorem safe_ed25519Pair_iff {msg : String} {bytes : ByteArray} :
    (ed25519Pair crates msg bytes).Safe ↔ 32 ≤ bytes.size := by
  rw [ed25519Pair, Result.safe_bind_iff, Result.safe_splitAt_iff]
  exact and_iff_left fun parts _ => safe_keyPairFromJwk _ _ _

theorem multibaseBytes_ok_iff {codec : Codec} {text : String} {bytes : ByteArray} :
    multibaseBytes crates codec text = .ok bytes ↔ text.toList.head? = some 'z' ∧ ∃ decoded,
      crates.bs58Decode (String.ofList text.toList.tail) = .ok decoded ∧
      fromMulticodec crates decoded = .ok (codec, bytes) := by
  simp only [multibaseBytes, except_bind_ok_iff, ensure_ok_iff, bs58Bytes_ok_iff, beq_iff_eq]
  constructor
  · rintro ⟨_, hStart, decoded, hDecoded, ⟨found, rest⟩, hFrom, _, hCodec, hSame⟩
    cases hSame
    cases hCodec
    exact ⟨hStart, decoded, hDecoded, hFrom⟩
  · rintro ⟨hStart, decoded, hDecoded, hFrom⟩
    exact ⟨(), hStart, decoded, hDecoded, (codec, bytes), hFrom, (), rfl, rfl⟩

section
variable (h : Varints crates)
include h

theorem safe_multibaseBytes (codec : Codec) (text : String) : (multibaseBytes crates codec text).Safe := by
  refine Result.safe_bind_iff.mpr ⟨by simp, fun _ _ => ?_⟩
  refine Result.safe_bind_iff.mpr ⟨by simp, fun decoded _ => ?_⟩
  refine Result.safe_bind_iff.mpr ⟨safe_fromMulticodec h decoded, fun found _ => ?_⟩
  exact Result.safe_bind_iff.mpr ⟨by simp, fun _ _ => Result.safe_ok _⟩

/-- Two bytes of a text for Ed25519 are its codec. -/
theorem ed25519Bytes_ok_iff {decoded bytes : ByteArray} :
    fromMulticodec crates decoded = .ok (.ed25519Priv, bytes) ↔
      crates.readUnsignedVarint32 decoded = .ok 0x1300 ∧ bytes = decoded.extract 2 decoded.size := by
  rw [fromMulticodec_ok_iff h]
  constructor
  · rintro ⟨n, hRead, hCodec, rfl⟩
    obtain rfl : n = 0x1300 := by simpa [codecByPrefix_ok_iff] using hCodec
    rw [length_encode_of_codec hCodec]
    exact ⟨hRead, rfl⟩
  · rintro ⟨hRead, rfl⟩
    have hCodec : Codec.codecByPrefix 0x1300 = .ok .ed25519Priv := rfl
    exact ⟨0x1300, hRead, hCodec, by rw [length_encode_of_codec hCodec]⟩

theorem safe_asKeyPair_iff (secret : Secret) : (secret.asKeyPair crates).Safe ↔ secret.LongEnough crates := by
  unfold Secret.asKeyPair
  split
  · rename_i value hType hMaterial
    rw [Secret.LongEnough, hType, hMaterial]
    refine iff_of_true ?_ trivial
    split <;> simp
  · rename_i value hType hMaterial
    rw [Secret.LongEnough, hType, hMaterial]
    exact iff_of_true (Result.safe_bind_iff.mpr ⟨by simp, fun bytes _ => by simp⟩) trivial
  · rename_i value hType hMaterial
    rw [Secret.LongEnough, hType, hMaterial, Result.safe_bind_iff]
    simp only [safe_bs58Bytes, true_and, bs58Bytes_ok_iff, safe_ed25519Pair_iff]
  · rename_i value hType hMaterial
    rw [Secret.LongEnough, hType, hMaterial]
    exact iff_of_true (Result.safe_bind_iff.mpr ⟨safe_multibaseBytes h _ _, fun bytes _ => by simp⟩) trivial
  · rename_i value hType hMaterial
    rw [Secret.LongEnough, hType, hMaterial, Result.safe_bind_iff]
    simp only [safe_multibaseBytes h, true_and, multibaseBytes_ok_iff, safe_ed25519Pair_iff, ed25519Bytes_ok_iff h]
    constructor
    · intro hFits bytes hStart hDecoded hRead
      have hRest := hFits _ ⟨hStart, bytes, hDecoded, hRead, rfl⟩
      rw [ByteArray.size_extract] at hRest
      omega
    · rintro hFits bytes ⟨hStart, decoded, hDecoded, hRead, rfl⟩
      have hDecodedSize := hFits decoded hStart hDecoded hRead
      rw [ByteArray.size_extract]
      omega
  · rename_i hJwk hX2019 hEd2018 hX2020 hEd2020
    refine iff_of_true (by simp) ?_
    unfold Secret.LongEnough
    split
    · rename_i value hType hMaterial
      exact absurd hMaterial (hEd2018 value hType)
    · rename_i value hType hMaterial
      exact absurd hMaterial (hEd2020 value hType)
    · trivial

end

/-- A secret is decoded without a panic exactly if its material is long enough; the key bytes are the ones after
the prefix exactly if that is in the shortest encoding. -/
theorem secret_decoding_iff (h : Varints crates) :
    (∀ secret : Secret, (secret.asKeyPair crates).Safe ↔ secret.LongEnough crates) ∧
    ∀ value, ReadsAfterPrefix crates value ↔ ShortestPrefix crates value :=
  ⟨safe_asKeyPair_iff h, readsAfterPrefix_iff h⟩

/-- LEB128 as it is, and the base58 texts without a digit other than zero. -/
def leb128Crates : Crates :=
  { ideal id with
    bs58Decode := fun text =>
      if text.toList.all (· == '1') then .ok ⟨(text.toList.map fun _ => 0).toArray⟩
      else .error (.other "provided string contained invalid character")
    readUnsignedVarint32 := fun bytes =>
      match Leb128.read bytes.data.toList with
      | some (n, _) => if n < 2 ^ 32 then .ok n.toUInt32 else .error "varint too large"
      | none => .error "failed to fill whole buffer"
    writeUnsignedVarint32 := fun n => .ok ⟨(Leb128.encode n.toNat).toArray⟩ }

theorem varints_leb128Crates : Varints leb128Crates where
  read bytes n hRead := by
    simp only [leb128Crates] at hRead
    split at hRead
    · rename_i m rest hBytes
      split at hRead
      · rename_i hSmall
        cases hRead
        exact ⟨m, rest, hBytes, fun _ _ => by simpa using Nat.mod_eq_of_lt hSmall⟩
      · cases hRead
    · cases hRead
  write n := rfl

theorem leb128Crates_read {bytes : ByteArray} {n : Nat} {rest : List UInt8}
    (h : Leb128.read bytes.data.toList = some (n, rest)) (hSmall : n < 2 ^ 32) :
    leb128Crates.readUnsignedVarint32 bytes = .ok n.toUInt32 := by
  simp only [leb128Crates, h, if_pos hSmall]

/-- An X25519 secret, an Ed25519 secret of 64 bytes, and the prefixes of both codecs. -/
theorem secret_decoding_x25519 :
    ((⟨"did:example:alice#key-1", .x25519KeyAgreementKey2019, .base58 "1"⟩ : Secret).asKeyPair leb128Crates).Safe ∧
    ((⟨"did:example:alice#key-2", .ed25519VerificationKey2018, .base58 (String.ofList (List.replicate 64 '1'))⟩ :
      Secret).asKeyPair leb128Crates).Safe ∧
    ReadsAfterPrefix leb128Crates ⟨#[0x82, 0x26, 7]⟩ ∧ ReadsAfterPrefix leb128Crates ⟨#[0x80, 0x26, 7]⟩ := by
  obtain ⟨hSafe, hReads⟩ := secret_decoding_iff varints_leb128Crates
  refine ⟨(hSafe _).mpr trivial, (hSafe _).mpr fun bytes hBytes => ?_, (hReads _).mpr fun n codec hRead _ => ?_,
    (hReads _).mpr fun n codec hRead _ => ?_⟩
  · have hZeros (n : Nat) : leb128Crates.bs58Decode (String.ofList (List.replicate n '1')) =
        .ok ⟨(List.replicate n 0).toArray⟩ := by
      simp [leb128Crates]
    cases hBytes.symm.trans (hZeros 64)
    change 32 ≤ (List.replicate 64 (0 : UInt8)).toArray.size
    rw [List.size_toArray, List.length_replicate]
    decide
  · have hPrefix : leb128Crates.readUnsignedVarint32 ⟨#[0x82, 0x26, 7]⟩ = .ok (0x1302 : Nat).toUInt32 :=
      leb128Crates_read rfl (by decide)
    cases hRead.symm.trans hPrefix
    simp [Leb128.encode]
  · have hPrefix : leb128Crates.readUnsignedVarint32 ⟨#[0x80, 0x26, 7]⟩ = .ok (0x1300 : Nat).toUInt32 :=
      leb128Crates_read rfl (by decide)
    cases hRead.symm.trans hPrefix
    simp [Leb128.encode]

/-- A text of one digit is split after 32 bytes; a prefix of three bytes is taken for one of two. -/
theorem secret_decoding_fails :
    (⟨"did:example:alice#key-1", .ed25519VerificationKey2018, .base58 "1"⟩ : Secret).asKeyPair leb128Crates =
        .error (.panic .splitOutOfRange) ∧
      fromMulticodec leb128Crates ⟨#[0x80, 0xA6, 0x00, 7]⟩ = .ok (.ed25519Priv, ⟨#[0x00, 7]⟩) ∧
      afterVarint ⟨#[0x80, 0xA6, 0x00, 7]⟩ = some ⟨#[7]⟩ := by
  have hPrefix : leb128Crates.readUnsignedVarint32 ⟨#[0x80, 0xA6, 0x00, 7]⟩ = .ok (0x1300 : Nat).toUInt32 :=
    leb128Crates_read rfl (by decide)
  exact ⟨rfl, (ed25519Bytes_ok_iff varints_leb128Crates).mpr ⟨hPrefix, rfl⟩, rfl⟩

end AffinidiMessaging.Didcomm
