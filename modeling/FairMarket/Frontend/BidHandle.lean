import FairMarket.Keeper.Json
import FairMarket.Lib.Digits

/-! The bid handles the frontend makes, the market compares and the keeper reads. -/

namespace FairMarket

/-- `String.prototype.padStart`. -/
def padStart (text : String) (targetLength : ℕ) (padding : Char) : String :=
  .ofList (text.toList.leftpad targetLength padding)

/-- A handle as it is written: two digits for each of its bytes. -/
def hexString (bytes : Bytes32) : String := "0x" ++ .ofList (paddedDigits 16 64 bytes.toNat)

theorem toList_hexString (bytes : Bytes32) :
    (hexString bytes).toList = '0' :: 'x' :: paddedDigits 16 64 bytes.toNat := by
  unfold hexString
  generalize paddedDigits 16 64 bytes.toNat = written
  rw [String.toList_append, String.toList_ofList, String.toList_ofList]
  rfl

namespace Frontend

def ciphertextKindShift : ℕ := 248

def euint96Kind : ℕ := 3

def maxEuint96Value : ℤ := 2 ^ 96 - 1

def encodeLocalPrototypeEuint96 (value : ℤ) : Except String String :=
  if value < 0 ∨ value > maxEuint96Value then
    .error "Bid amount is outside the current prototype bid-handle range."
  else
    let encoded := euint96Kind <<< ciphertextKindShift ||| value.toNat
    .ok ("0x" ++ padStart (.ofList (Nat.toDigits 16 encoded)) 64 '0')

end Frontend

namespace CofheAdapter

def asEuint32 (value : BitVec 32) : Bytes32 := CofheCiphertextEncoding.encodeEuint32 value

def asEuint96 (value : BitVec 96) : Bytes32 := CofheCiphertextEncoding.encodeEuint96 value

def asEbool (value : Bool) : Bytes32 := CofheCiphertextEncoding.encodeEbool value

end CofheAdapter

namespace Keeper

theorem digit_digitChar {value : ℕ} (small : value < 16) : digit (Nat.digitChar value) = some value := by
  have known : ∀ value : Fin 16, digit (Nat.digitChar value) = some value.val := by decide
  exact known ⟨value, small⟩

/-- The digits of a number are read for the number. -/
theorem digits_paddedDigits (count number : ℕ) :
    digits 16 (paddedDigits 16 (count + 1) number) = some (number % 16 ^ (count + 1)) := by
  have loop : ∀ count number, (paddedDigits 16 count number).foldlM (fun number char => do
      let value ← digit char
      if value < 16 then some (number * 16 + value) else none) 0 = some (number % 16 ^ count) := by
    intro count
    induction count with
    | zero =>
      intro number
      rw [Nat.pow_zero, Nat.mod_one]
      rfl
    | succ count ih =>
      intro number
      have low : number % 16 < 16 := Nat.mod_lt _ (by decide)
      rw [paddedDigits, List.foldlM_append, ih, Option.bind_eq_bind, Option.bind_some, List.foldlM_cons,
        digit_digitChar low, Option.bind_eq_bind, Option.bind_some, if_pos low, Option.bind_some, List.foldlM_nil]
      apply congrArg some
      rw [Nat.pow_succ', Nat.mod_mul]
      omega
  have written : paddedDigits 16 (count + 1) number ≠ [] := by
    intro empty
    have length := congrArg List.length empty
    rw [length_paddedDigits] at length
    cases length
  unfold digits
  split
  · rename_i empty
    exact absurd empty written
  · exact loop (count + 1) number

theorem isWhiteSpace_digitChar {value : ℕ} (small : value < 16) : isWhiteSpace (Nat.digitChar value) = false := by
  have known : ∀ value : Fin 16, isWhiteSpace (Nat.digitChar value) = false := by decide
  exact known ⟨value, small⟩

theorem bigInt_hexString (bytes : Bytes32) : bigInt (hexString bytes) = some (bytes.toNat : ℤ) := by
  have solid : trim ('0' :: 'x' :: paddedDigits 16 64 bytes.toNat) =
      '0' :: 'x' :: paddedDigits 16 64 bytes.toNat := by
    apply trim_eq_self
    intro char member
    rcases List.mem_cons.mp member with rfl | member
    · rfl
    rcases List.mem_cons.mp member with rfl | member
    · rfl
    obtain ⟨value, small, rfl⟩ := mem_paddedDigits (by decide) member
    exact isWhiteSpace_digitChar small
  have read := digits_paddedDigits 63 bytes.toNat
  rw [Nat.mod_eq_of_lt (bytes.isLt.trans_le (by norm_num))] at read
  unfold bigInt
  rw [toList_hexString, solid]
  exact congrArg (Option.map Int.ofNat) read

/-- The keeper reads a handle as it is written. -/
theorem decode_hexString (bytes : Bytes32) :
    decodeLocalPrototypeEncryptedNumeric (.literal (hexString bytes)) =
      decodeLocalPrototypeEncryptedNumeric (.hash bytes) := by
  have same : (Text.literal (hexString bytes)).toBigInt = (Text.hash bytes).toBigInt := bigInt_hexString bytes
  unfold decodeLocalPrototypeEncryptedNumeric
  rw [same]

end Keeper

open CofheCiphertextEncoding

/-- The frontend writes the handles that the contracts encode. -/
theorem Frontend.encodeLocalPrototypeEuint96_eq {value : ℕ} (small : value < 2 ^ 96) :
    encodeLocalPrototypeEuint96 value = .ok (hexString (encodeEuint96 (.ofNat 96 value))) := by
  have payload : value < 2 ^ 248 := small.trans (by norm_num)
  have inside : ¬ ((value : ℤ) < 0 ∨ (value : ℤ) > maxEuint96Value) := by
    unfold maxEuint96Value
    omega
  have own : (BitVec.ofNat 96 value).toNat = value := Nat.mod_eq_of_lt small
  have written : (encodeEuint96 (.ofNat 96 value)).toNat = euint96Kind <<< ciphertextKindShift ||| value := by
    rw [encodeEuint96, own, toNat_encode _ payload]
    exact Nat.shiftLeft_add_eq_or_of_lt payload _
  have padded : padStart (.ofList (Nat.toDigits 16 (encodeEuint96 (.ofNat 96 value)).toNat)) 64 '0' =
      .ofList (paddedDigits 16 64 (encodeEuint96 (.ofNat 96 value)).toNat) := by
    rw [padStart, String.toList_ofList,
      leftpad_toDigits (by decide) 63 ((encodeEuint96 (.ofNat 96 value)).isLt.trans_le (by norm_num))]
  rw [encodeLocalPrototypeEuint96, if_neg inside, hexString, ← padded, written, Int.toNat_natCast]

theorem encode_injective {width : ℕ} (kind : CiphertextKind) (narrow : width ≤ 248) :
    Function.Injective fun value : BitVec width => encode kind value.toNat := by
  have wide : 2 ^ width ≤ 2 ^ 248 := Nat.pow_le_pow_right (by decide) narrow
  intro first second same
  exact BitVec.eq_of_toNat_eq (encode_inj (first.isLt.trans_le wide) (second.isLt.trans_le wide) same).2

theorem encode_disjoint {first second : CiphertextKind} (different : first ≠ second) {left right : ℕ}
    (small : left < 2 ^ 248) (fits : right < 2 ^ 248) : encode first left ≠ encode second right :=
  fun same => different (encode_inj small fits same).1

/-- The three codecs of handles are one. What the contracts and the keeper make of any handle
is the same; for an amount of 96 bits the frontend writes the 32 bytes that the contracts
encode, both read the amount back, and the kind is the one of 96 bits. The encoders of the
contracts are injective and never meet. And the two comparisons that the market asks for
hold a number between the starting price and the escrow. -/
theorem handle_codecs_agree :
    (∀ ciphertext amount, decodeNumeric ciphertext = .ok amount ↔
      Keeper.decodeLocalPrototypeEncryptedNumeric (.literal (hexString ciphertext)) = .ok amount) ∧
    (∀ value < 2 ^ 96,
      let handle := encodeEuint96 (.ofNat 96 value)
      Frontend.encodeLocalPrototypeEuint96 value = .ok (hexString handle) ∧
        (hexString handle).length = 2 + 2 * 32 ∧ decodeNumeric handle = .ok value ∧
        Keeper.decodeLocalPrototypeEncryptedNumeric (.literal (hexString handle)) = .ok value ∧
        kindOf handle = .euint96) ∧
    (Function.Injective CofheAdapter.asEuint32 ∧ Function.Injective CofheAdapter.asEuint96 ∧
      Function.Injective CofheAdapter.asEbool) ∧
    (∀ narrow wide bool, CofheAdapter.asEuint32 narrow ≠ CofheAdapter.asEuint96 wide ∧
      CofheAdapter.asEuint32 narrow ≠ CofheAdapter.asEbool bool ∧
      CofheAdapter.asEuint96 wide ≠ CofheAdapter.asEbool bool) ∧
    ∀ ciphertext amount, decodeNumeric ciphertext = .ok amount → ∀ startingPrice escrow, 0 < startingPrice →
      (CofheAdapter.gt ciphertext (startingPrice - 1) = .ok true ∧ CofheAdapter.lte ciphertext escrow = .ok true ↔
        startingPrice ≤ amount ∧ amount ≤ escrow) := by
  have reads : ∀ ciphertext amount, decodeNumeric ciphertext = .ok amount ↔
      Keeper.decodeLocalPrototypeEncryptedNumeric (.literal (hexString ciphertext)) = .ok amount := by
    intro ciphertext amount
    rw [Keeper.decode_hexString, Keeper.decode_hash_ok, decodeNumeric_ok]
  have fits : ∀ {width : ℕ} (value : BitVec width), width ≤ 248 → value.toNat < 2 ^ 248 :=
    fun value narrow => value.isLt.trans_le (Nat.pow_le_pow_right (by decide) narrow)
  have single : ∀ bool : Bool, bool.toNat < 2 ^ 248 := fun bool => bool.toNat_lt.trans (by norm_num)
  refine ⟨reads, ?_, ⟨?_, ?_, ?_⟩, ?_, ?_⟩
  · intro value small handle
    have own : (BitVec.ofNat 96 value).toNat = value := Nat.mod_eq_of_lt small
    have payload : value < 2 ^ 248 := small.trans (by norm_num)
    have same : handle = encode .euint96 value := congrArg (encode .euint96) own
    have kind : kindOf handle = .euint96 := by
      rw [same]
      exact kindOf_encode _ payload
    have decoded : decodeNumeric handle = .ok value := by
      rw [decodeNumeric_ok]
      refine ⟨.inr kind, ?_⟩
      rw [same]
      exact payloadOf_encode _ payload
    refine ⟨Frontend.encodeLocalPrototypeEuint96_eq small, ?_, decoded, (reads handle value).mp decoded, kind⟩
    rw [← String.length_toList, toList_hexString, List.length_cons, List.length_cons, length_paddedDigits]
  · exact encode_injective .euint32 (by decide)
  · exact encode_injective .euint96 (by decide)
  · intro first second same
    have equal := (encode_inj (single first) (single second) same).2
    cases first <;> cases second <;> first | rfl | cases equal
  · intro narrow wide bool
    refine ⟨encode_disjoint CiphertextKind.noConfusion (fits narrow (by decide)) (fits wide (by decide)), ?_, ?_⟩
    · exact encode_disjoint CiphertextKind.noConfusion (fits narrow (by decide)) (single bool)
    · exact encode_disjoint CiphertextKind.noConfusion (fits wide (by decide)) (single bool)
  · intro ciphertext amount decoded startingPrice escrow positive
    obtain ⟨numeric, rfl⟩ := decodeNumeric_ok.mp decoded
    rw [CofheAdapter.gt_ok, CofheAdapter.lte_ok]
    constructor
    · rintro ⟨⟨-, above⟩, -, covered⟩
      exact ⟨by omega, covered⟩
    · rintro ⟨floor, covered⟩
      exact ⟨⟨numeric, by omega⟩, numeric, covered⟩

end FairMarket
