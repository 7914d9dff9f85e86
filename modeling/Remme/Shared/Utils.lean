import Remme.Protos
import Remme.Lib.StoreM
import Mathlib.Tactic.SplitIfs
/-!
# Hashing, signatures and exceptions

What the processors call outside the repository is collected in `Platform`: the
generated protobuf classes, the hash functions, and the signature schemes of the
crypto libraries.  Every result holds for every platform.  The laws of
`hashlib` that the code relies on are fields, so that a platform without them
cannot be built.
-/

namespace Remme.Shared

open Remme.Lib Remme.Protos

/-- The exceptions that a processor can raise. -/
inductive PyError where
  | invalidTransaction (message : String)
  | internalError (message : String)
  | valueError
  /-- The `ValueError` of an assignment out of a protobuf field's range. -/
  | valueOutOfRange (field : String)
  | typeError
  | overflowError
  | attributeError
  | keyError
  | indexError
  | stopIteration
  /-- `google.protobuf.message.DecodeError` -/
  | decodeError
  /-- `sawtooth_signing.ParseError` -/
  | parseError
  /-- `cryptography.exceptions.UnsupportedAlgorithm` -/
  | unsupportedAlgorithm
  deriving DecidableEq

/-- What `load_der_public_key` does with a key's bytes. -/
inductive DerOutcome where
  | loaded | valueError | unsupportedAlgorithm
  deriving DecidableEq

structure Platform (B : Type) where
  pb : Protobuf B
  /-- `hashlib.sha512(data).hexdigest()` -/
  sha512 : Bytes → Str
  /-- `hashlib.sha256(data).hexdigest()` -/
  sha256 : Bytes → Str
  /-- `sha3.keccak_256(data).hexdigest()` -/
  keccak256 : Bytes → Str
  /-- `c.isprintable()` of a character outside ASCII. -/
  isPrintable : Char → Bool
  loadDerPublicKey : Bytes → DerOutcome
  /-- `verifier.verify` of a loaded RSA key; `false` is any exception it raises. -/
  rsaVerify : (key signature data : Bytes) → Padding → HashingAlgorithm → Bool
  ecdsaVerify : (key signature data : Bytes) → HashingAlgorithm → Bool
  ed25519Verify : (key signature data : Bytes) → HashingAlgorithm → Bool
  /-- Whether `Secp256k1PublicKey.from_hex` accepts the text. -/
  secp256k1FromHex : Str → Bool
  /-- `Secp256k1Context().verify(signature, message, public_key)` -/
  secp256k1Verify : (signature : Str) → (message : B) → (publicKey : Str) → Bool
  sha512_length : ∀ d, (sha512 d).length = 128
  sha512_hex : ∀ d, ∀ c ∈ sha512 d, Text.isLowerHex c
  sha512_account : (sha512 (Text.encodeUtf8 "account".toList)).take 6 = "112007".toList
  sha512_atomicSwap : (sha512 (Text.encodeUtf8 "AtomicSwap".toList)).take 6 = "78173b".toList
  sha512_pubKey : (sha512 (Text.encodeUtf8 "pub_key".toList)).take 6 = "a23be1".toList

variable {B : Type} (π : Platform B)

/-- `hash512` -/
def hash512 (data : Bytes) : Str := π.sha512 data

def remove0xPrefix (value : Str) : Str :=
  if "0x".toList <+: value then value.drop 2 else value

def web3Hash (data : Str) : Except PyError Str :=
  let data := if data.length % 2 = 1 then "0x0".toList ++ remove0xPrefix data else data
  match Text.unhexlify (remove0xPrefix data) with
  | some decoded => .ok (π.keccak256 decoded)
  | none => .error .valueError

/-! ## Assignments to unsigned fields -/

/-- `message.field = n` for a `uint64` field. -/
def uint64Field (field : String) (n : ℤ) : Except PyError UInt64 :=
  if 0 ≤ n ∧ n < 2 ^ 64 then .ok (UInt64.ofNat n.toNat) else .error (.valueOutOfRange field)

def uint32Field (field : String) (n : ℤ) : Except PyError UInt32 :=
  if 0 ≤ n ∧ n < 2 ^ 32 then .ok (UInt32.ofNat n.toNat) else .error (.valueOutOfRange field)

theorem uint64Field_eq_ok {field : String} {n : ℤ} {u : UInt64} :
    uint64Field field n = .ok u ↔ (u.toNat : ℤ) = n := by
  have hu : u.toNat < 2 ^ 64 := u.toNat_lt
  unfold uint64Field
  split_ifs with h
  · have hlt : n.toNat < 2 ^ 64 := by omega
    have hval : (UInt64.ofNat n.toNat).toNat = n.toNat := UInt64.toNat_ofNat_of_lt' hlt
    rw [Except.ok.injEq, ← UInt64.toNat_inj, hval]
    omega
  · simp only [false_iff]
    omega

theorem uint64Field_eq_error {field : String} {n : ℤ} {err : PyError} :
    uint64Field field n = .error err ↔ err = .valueOutOfRange field ∧ ¬(0 ≤ n ∧ n < 2 ^ 64) := by
  unfold uint64Field
  split_ifs with h
  · constructor
    · intro hok
      cases hok
    · rintro ⟨-, hrange⟩
      exact absurd h hrange
  · rw [Except.error.injEq]
    exact ⟨fun heq => ⟨heq.symm, h⟩, fun heq => heq.1.symm⟩

theorem exists_uint64 {n : ℕ} (h : n < 2 ^ 64) : ∃ u : UInt64, u.toNat = n :=
  ⟨UInt64.ofNat n, UInt64.toNat_ofNat_of_lt' h⟩

theorem uint64_ne_zero_iff {u : UInt64} : u ≠ 0 ↔ 0 < u.toNat := by
  rw [ne_eq, ← UInt64.toNat_inj, UInt64.toNat_zero]
  omega

theorem uint32Field_eq_ok {field : String} {n : ℤ} {u : UInt32} :
    uint32Field field n = .ok u ↔ (u.toNat : ℤ) = n := by
  have hu : u.toNat < 2 ^ 32 := u.toNat_lt
  unfold uint32Field
  split_ifs with h
  · have hlt : n.toNat < 2 ^ 32 := by omega
    have hval : (UInt32.ofNat n.toNat).toNat = n.toNat := UInt32.toNat_ofNat_of_lt' hlt
    rw [Except.ok.injEq, ← UInt32.toNat_inj, hval]
    omega
  · simp only [false_iff]
    omega

theorem uint32Field_eq_error {field : String} {n : ℤ} {err : PyError} :
    uint32Field field n = .error err ↔ err = .valueOutOfRange field ∧ ¬(0 ≤ n ∧ n < 2 ^ 32) := by
  unfold uint32Field
  split_ifs with h
  · constructor
    · intro hok
      cases hok
    · rintro ⟨-, hrange⟩
      exact absurd h hrange
  · rw [Except.error.injEq]
    exact ⟨fun heq => ⟨heq.symm, h⟩, fun heq => heq.1.symm⟩

/-! ## Local time -/

/-- A node's time-zone rule: the UTC offset, in seconds, at a Unix timestamp. -/
abbrev TimeZone := ℕ → ℤ

/-- Seconds from the epoch to the first and last second of a naive `datetime`. -/
def minLocal : ℤ := -62135596800

def maxLocal : ℤ := 253402300799

/-- A naive `datetime`, as local seconds; a year outside 1..9999 raises. -/
def checkedLocal (outOfRange : PyError) (x : ℤ) : Except PyError ℤ :=
  if minLocal ≤ x ∧ x ≤ maxLocal then .ok x else .error outOfRange

/-- `datetime.fromtimestamp(t)` -/
def fromtimestamp (tz : TimeZone) (t : ℕ) : Except PyError ℤ :=
  checkedLocal .valueError (t + tz t)

/-- `moment + timedelta(seconds=delta)` -/
def addTimedelta (moment delta : ℤ) : Except PyError ℤ :=
  checkedLocal .overflowError (moment + delta)

theorem checkedLocal_eq_ok {outOfRange : PyError} {x y : ℤ} :
    checkedLocal outOfRange x = .ok y ↔ y = x ∧ minLocal ≤ x ∧ x ≤ maxLocal := by
  unfold checkedLocal
  split_ifs with h
  · rw [Except.ok.injEq]
    exact ⟨fun heq => ⟨heq.symm, h⟩, fun heq => heq.1.symm⟩
  · simp only [false_iff]
    exact fun heq => h heq.2

end Remme.Shared
