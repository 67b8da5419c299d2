import FairMarket.Evm.Types

/-! The placeholder encoding of bid handles, and the adapter that compares them. A
handle's top byte names its kind and the other 248 bits are the amount. -/

namespace FairMarket

namespace CofheCiphertextEncoding

inductive CiphertextKind where
  | unknown
  | euint32
  | ebool
  | euint96
  deriving DecidableEq

inductive Error where
  | invalidCiphertextKind (expected actual : CiphertextKind)
  | invalidNumericCiphertextKind (actual : CiphertextKind)

def kindShift : ℕ := 248

/-- The amount bits of a handle. -/
def payloadMask : Bytes32 := .ofNat 256 (2 ^ 248 - 1)

/-- The byte a kind is written as. -/
def CiphertextKind.toNat : CiphertextKind → ℕ
  | .unknown => 0
  | .euint32 => 1
  | .ebool => 2
  | .euint96 => 3

def encode (kind : CiphertextKind) (value : ℕ) : Bytes32 :=
  (BitVec.ofNat 256 kind.toNat <<< kindShift) ||| .ofNat 256 value

def encodeEuint32 (value : BitVec 32) : Bytes32 := encode .euint32 value.toNat

def encodeEuint96 (value : BitVec 96) : Bytes32 := encode .euint96 value.toNat

def encodeEbool (value : Bool) : Bytes32 := encode .ebool value.toNat

/-- Bytes past the last kind are read as `unknown`. -/
def kindOf (ciphertext : Bytes32) : CiphertextKind :=
  match (ciphertext >>> kindShift).toNat with
  | 1 => .euint32
  | 2 => .ebool
  | 3 => .euint96
  | _ => .unknown

def payloadOf (ciphertext : Bytes32) : ℕ := (ciphertext &&& payloadMask).toNat

def requireKind (ciphertext : Bytes32) (expectedKind : CiphertextKind) : Except Error Unit :=
  revertIf (kindOf ciphertext ≠ expectedKind) (.invalidCiphertextKind expectedKind (kindOf ciphertext))

def decodeEuint32 (ciphertext : Bytes32) : Except Error (BitVec 32) := do
  requireKind ciphertext .euint32
  return .ofNat 32 (payloadOf ciphertext)

def decodeEbool (ciphertext : Bytes32) : Except Error Bool := do
  requireKind ciphertext .ebool
  return payloadOf ciphertext ≠ 0

def decodeEuint96 (ciphertext : Bytes32) : Except Error (BitVec 96) := do
  requireKind ciphertext .euint96
  return .ofNat 96 (payloadOf ciphertext)

def decodeNumeric (ciphertext : Bytes32) : Except Error ℕ :=
  match kindOf ciphertext with
  | .euint32 | .euint96 => .ok (payloadOf ciphertext)
  | kind => .error (.invalidNumericCiphertextKind kind)

/-- The handle stands for a number. -/
def Numeric (ciphertext : Bytes32) : Prop :=
  kindOf ciphertext = .euint32 ∨ kindOf ciphertext = .euint96

instance : DecidablePred Numeric := fun ciphertext =>
  inferInstanceAs (Decidable (kindOf ciphertext = .euint32 ∨ kindOf ciphertext = .euint96))

theorem payloadOf_eq (ciphertext : Bytes32) : payloadOf ciphertext = ciphertext.toNat % 2 ^ 248 := by
  rw [payloadOf, payloadMask, BitVec.toNat_and, BitVec.toNat_ofNat]
  have mask : (2 ^ 248 - 1) % 2 ^ 256 = 2 ^ 248 - 1 := by norm_num
  rw [mask]
  exact Nat.and_two_pow_sub_one_eq_mod ciphertext.toNat 248

theorem decodeNumeric_ok {ciphertext : Bytes32} {amount : ℕ} :
    decodeNumeric ciphertext = .ok amount ↔ Numeric ciphertext ∧ payloadOf ciphertext = amount := by
  unfold decodeNumeric Numeric
  cases kindOf ciphertext <;> simp

theorem numeric_iff {ciphertext : Bytes32} :
    Numeric ciphertext ↔
      (ciphertext >>> kindShift).toNat = 1 ∨ (ciphertext >>> kindShift).toNat = 3 := by
  unfold Numeric kindOf
  split <;> simp_all

theorem toNat_encode (kind : CiphertextKind) {value : ℕ} (small : value < 2 ^ 248) :
    (encode kind value).toNat = kind.toNat <<< kindShift + value := by
  have top : kind.toNat <<< kindShift < 2 ^ 256 := by cases kind <;> decide
  have low : kind.toNat < 2 ^ 256 := by cases kind <;> decide
  have fits : value < 2 ^ 256 := small.trans (by norm_num)
  rw [encode, BitVec.toNat_or, BitVec.toNat_shiftLeft, BitVec.toNat_ofNat, BitVec.toNat_ofNat,
    Nat.mod_eq_of_lt low, Nat.mod_eq_of_lt top, Nat.mod_eq_of_lt fits]
  exact (Nat.shiftLeft_add_eq_or_of_lt small _).symm

theorem kindOf_encode (kind : CiphertextKind) {value : ℕ} (small : value < 2 ^ 248) :
    kindOf (encode kind value) = kind := by
  have shifted : (encode kind value >>> kindShift).toNat = kind.toNat := by
    rw [BitVec.toNat_ushiftRight, toNat_encode kind small, kindShift, Nat.shiftLeft_eq,
      Nat.shiftRight_eq_div_pow]
    omega
  unfold kindOf
  rw [shifted]
  cases kind <;> rfl

theorem payloadOf_encode (kind : CiphertextKind) {value : ℕ} (small : value < 2 ^ 248) :
    payloadOf (encode kind value) = value := by
  rw [payloadOf_eq, toNat_encode kind small, kindShift, Nat.shiftLeft_eq, Nat.mul_add_mod_self_right,
    Nat.mod_eq_of_lt small]

/-- A handle tells its kind and its value. -/
theorem encode_inj {first second : CiphertextKind} {left right : ℕ} (small : left < 2 ^ 248)
    (fits : right < 2 ^ 248) (same : encode first left = encode second right) :
    first = second ∧ left = right := by
  constructor
  · rw [← kindOf_encode first small, same, kindOf_encode second fits]
  · rw [← payloadOf_encode first small, same, payloadOf_encode second fits]

/-- A handle passes for the kind it was written with, and for no other. -/
theorem requireKind_encode {kind expected : CiphertextKind} {value : ℕ} (small : value < 2 ^ 248) :
    requireKind (encode kind value) expected = .ok () ↔ kind = expected := by
  rw [requireKind, revertIf_eq_ok, ne_eq, not_not, kindOf_encode kind small]

theorem decodeEuint32_encodeEuint32 (value : BitVec 32) : decodeEuint32 (encodeEuint32 value) = .ok value := by
  have small : value.toNat < 2 ^ 248 := value.isLt.trans (by norm_num)
  simp only [decodeEuint32, bind_eq_ok, pure_eq_ok, Except.ok.injEq]
  refine ⟨(), (requireKind_encode small).mpr rfl, ?_⟩
  rw [encodeEuint32, payloadOf_encode _ small, BitVec.ofNat_toNat, BitVec.setWidth_eq]

theorem decodeEuint96_encodeEuint96 (value : BitVec 96) : decodeEuint96 (encodeEuint96 value) = .ok value := by
  have small : value.toNat < 2 ^ 248 := value.isLt.trans (by norm_num)
  simp only [decodeEuint96, bind_eq_ok, pure_eq_ok, Except.ok.injEq]
  refine ⟨(), (requireKind_encode small).mpr rfl, ?_⟩
  rw [encodeEuint96, payloadOf_encode _ small, BitVec.ofNat_toNat, BitVec.setWidth_eq]

theorem decodeEbool_encodeEbool (value : Bool) : decodeEbool (encodeEbool value) = .ok value := by
  have small : value.toNat < 2 ^ 248 := (Bool.toNat_lt value).trans (by norm_num)
  simp only [decodeEbool, bind_eq_ok, pure_eq_ok, Except.ok.injEq]
  refine ⟨(), (requireKind_encode small).mpr rfl, ?_⟩
  rw [encodeEbool, payloadOf_encode _ small]
  cases value <;> rfl

/-- The zero handle stands for nothing. -/
theorem Numeric.ne_zero {ciphertext : Bytes32} (numeric : Numeric ciphertext) : ciphertext ≠ 0 := by
  rintro rfl
  exact absurd numeric (by decide)

end CofheCiphertextEncoding

namespace CofheAdapter

open CofheCiphertextEncoding

def lte (ciphertext : Bytes32) (plaintext : ℕ) : Except Error Bool := do
  let amount ← decodeNumeric ciphertext
  return amount ≤ plaintext

def gt (ciphertext : Bytes32) (plaintext : ℕ) : Except Error Bool := do
  let amount ← decodeNumeric ciphertext
  return amount > plaintext

theorem lte_ok {ciphertext : Bytes32} {plaintext : ℕ} :
    lte ciphertext plaintext = .ok true ↔ Numeric ciphertext ∧ payloadOf ciphertext ≤ plaintext := by
  simp only [lte, bind_eq_ok, decodeNumeric_ok, pure_eq_ok, Except.ok.injEq, decide_eq_true_eq]
  constructor
  · rintro ⟨amount, ⟨numeric, rfl⟩, small⟩
    exact ⟨numeric, small⟩
  · rintro ⟨numeric, small⟩
    exact ⟨_, ⟨numeric, rfl⟩, small⟩

theorem gt_ok {ciphertext : Bytes32} {plaintext : ℕ} :
    gt ciphertext plaintext = .ok true ↔ Numeric ciphertext ∧ plaintext < payloadOf ciphertext := by
  simp only [gt, bind_eq_ok, decodeNumeric_ok, pure_eq_ok, Except.ok.injEq, decide_eq_true_eq]
  constructor
  · rintro ⟨amount, ⟨numeric, rfl⟩, large⟩
    exact ⟨numeric, large⟩
  · rintro ⟨numeric, large⟩
    exact ⟨_, ⟨numeric, rfl⟩, large⟩

end CofheAdapter

end FairMarket
