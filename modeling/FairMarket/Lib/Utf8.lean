import Mathlib.Data.Nat.Notation
import Mathlib.Tactic.Common

/-! Texts as bytes of UTF-8, and back. Bytes that are no UTF-8 are read as well: the
replacement character stands for the start of a character that does not go on. -/

namespace FairMarket

def utf8 (chars : List Char) : List UInt8 := chars.flatMap String.utf8EncodeChar

/-- The first two bytes start a character of more than two. -/
def startsLong (lead second : UInt8) : Bool :=
  if lead = 0xE0 then 0xA0 ≤ second ∧ second ≤ 0xBF
  else if lead = 0xED then 0x80 ≤ second ∧ second ≤ 0x9F
  else if lead = 0xF0 then 0x90 ≤ second ∧ second ≤ 0xBF
  else if lead = 0xF4 then 0x80 ≤ second ∧ second ≤ 0x8F
  else 0xE1 ≤ lead ∧ lead ≤ 0xF3 ∧ 0x80 ≤ second ∧ second ≤ 0xBF

/-- How many of the bytes one replacement character stands for. -/
def brokenLength : List UInt8 → ℕ
  | lead :: second :: rest =>
    if startsLong lead second then
      match rest with
      | third :: _ => if 0xF0 ≤ lead ∧ 0x80 ≤ third ∧ third ≤ 0xBF then 3 else 2
      | [] => 2
    else 1
  | _ => 1

/-- The text from behind some bytes on. -/
def textFrom : ℕ → List UInt8 → List Char
  | _, [] => []
  | skip + 1, _ :: rest => textFrom skip rest
  | 0, byte :: rest =>
    match (byte :: rest).toByteArray.utf8DecodeChar? 0 with
    | some char => char :: textFrom (char.utf8Size - 1) rest
    | none => '\uFFFD' :: textFrom (brokenLength (byte :: rest) - 1) rest

def utf8Text (bytes : List UInt8) : List Char := textFrom 0 bytes

theorem textFrom_eq (skip : ℕ) (bytes : List UInt8) : textFrom skip bytes = utf8Text (bytes.drop skip) := by
  induction skip generalizing bytes with
  | zero => rfl
  | succ skip ih =>
    cases bytes with
    | nil => rfl
    | cons byte rest => exact ih rest

theorem utf8_append (first second : List Char) : utf8 (first ++ second) = utf8 first ++ utf8 second :=
  List.flatMap_append

theorem utf8_cons (char : Char) (chars : List Char) :
    utf8 (char :: chars) = String.utf8EncodeChar char ++ utf8 chars := rfl

theorem utf8Text_encoded_append (char : Char) (rest : List UInt8) :
    utf8Text (String.utf8EncodeChar char ++ rest) = char :: utf8Text rest := by
  have size := String.length_utf8EncodeChar char
  have decodes : (String.utf8EncodeChar char ++ rest).toByteArray.utf8DecodeChar? 0 = some char := by
    rw [List.toByteArray_append]
    exact ByteArray.utf8DecodeChar?_utf8EncodeChar_append
  generalize String.utf8EncodeChar char = encoded at size decodes
  cases encoded with
  | nil => exact absurd size (Nat.ne_of_lt char.utf8Size_pos)
  | cons byte more =>
    have taken : char.utf8Size - 1 = more.length := by
      rw [← size, List.length_cons, Nat.add_sub_cancel]
    rw [utf8Text, List.cons_append, textFrom]
    rw [List.cons_append] at decodes
    rw [decodes]
    dsimp only
    rw [textFrom_eq, taken, List.drop_left]

/-- A text is read for what it is, whatever comes after it. -/
theorem utf8Text_utf8_append (chars : List Char) (rest : List UInt8) :
    utf8Text (utf8 chars ++ rest) = chars ++ utf8Text rest := by
  induction chars with
  | nil => rfl
  | cons char chars ih => rw [utf8_cons, List.append_assoc, utf8Text_encoded_append, ih, List.cons_append]

@[simp] theorem utf8Text_utf8 (chars : List Char) : utf8Text (utf8 chars) = chars := by
  have whole := utf8Text_utf8_append chars []
  rwa [List.append_nil, show utf8Text [] = [] from rfl, List.append_nil] at whole

theorem encoded_ascii {char : Char} (ascii : char.toNat < 128) :
    String.utf8EncodeChar char = [UInt8.ofNat char.toNat] := by
  unfold String.utf8EncodeChar
  exact if_pos (Nat.le_of_lt_succ ascii)

/-- A byte of ASCII stands for itself. -/
theorem ascii_of_mem {char : Char} {byte : UInt8} (member : byte ∈ String.utf8EncodeChar char)
    (ascii : byte.toNat < 128) : char.toNat = byte.toNat := by
  by_cases small : char.toNat < 128
  · rw [encoded_ascii small, List.mem_singleton] at member
    rw [member, UInt8.toNat_ofNat']
    omega
  · -- every byte of a longer encoding is 128 or more
    have long : ¬ char.val.toNat ≤ 0x7f := by
      change ¬ char.toNat ≤ 127
      omega
    unfold String.utf8EncodeChar at member
    dsimp only at member
    rw [if_neg long] at member
    split at member
    · simp only [List.mem_cons, List.not_mem_nil, or_false] at member
      rcases member with rfl | rfl
      all_goals
        rw [UInt8.toNat_ofNat'] at ascii
        omega
    split at member
    · simp only [List.mem_cons, List.not_mem_nil, or_false] at member
      rcases member with rfl | rfl | rfl
      all_goals
        rw [UInt8.toNat_ofNat'] at ascii
        omega
    · simp only [List.mem_cons, List.not_mem_nil, or_false] at member
      rcases member with rfl | rfl | rfl | rfl
      all_goals
        rw [UInt8.toNat_ofNat'] at ascii
        omega

theorem toNat_toUInt8 {char : Char} (ascii : char.toNat < 128) : char.toUInt8.toNat = char.toNat :=
  Nat.mod_eq_of_lt (Nat.lt_trans ascii (by decide))

theorem utf8_cons_ascii {char : Char} (ascii : char.toNat < 128) (chars : List Char) :
    utf8 (char :: chars) = char.toUInt8 :: utf8 chars := by
  rw [utf8_cons, encoded_ascii ascii]
  rfl

theorem not_mem_utf8 {chars : List Char} {char : Char} (ascii : char.toNat < 128) (absent : char ∉ chars) :
    char.toUInt8 ∉ utf8 chars := by
  intro member
  have value := toNat_toUInt8 ascii
  obtain ⟨other, present, within⟩ := List.mem_flatMap.mp member
  have same : other.toNat = char.toNat := (ascii_of_mem within (value.symm ▸ ascii)).trans value
  exact absent (Char.toNat_inj.mp same ▸ present)

end FairMarket
