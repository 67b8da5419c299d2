import Mathlib.Algebra.Group.Nat.Defs
import Mathlib.Data.Nat.Notation
import Mathlib.Tactic.Common

/-! Numbers written with a fixed count of digits. -/

namespace FairMarket

/-- The lowest digits of a number, as many as asked for, the highest of them first. -/
def paddedDigits (base : ℕ) : ℕ → ℕ → List Char
  | 0, _ => []
  | count + 1, number => paddedDigits base count (number / base) ++ [Nat.digitChar (number % base)]

variable {base : ℕ}

@[simp] theorem length_paddedDigits (count number : ℕ) : (paddedDigits base count number).length = count := by
  induction count generalizing number with
  | zero => rfl
  | succ count ih => rw [paddedDigits, List.length_append, ih, List.length_singleton]

theorem paddedDigits_zero (count : ℕ) :
    paddedDigits base count 0 = List.replicate count '0' := by
  induction count with
  | zero => rfl
  | succ count ih =>
    rw [paddedDigits, Nat.zero_div, ih, Nat.zero_mod, List.replicate_succ']
    rfl

theorem mem_paddedDigits (positive : 0 < base) {count number : ℕ} {char : Char}
    (member : char ∈ paddedDigits base count number) : ∃ value < base, char = Nat.digitChar value := by
  induction count generalizing number with
  | zero => exact absurd member List.not_mem_nil
  | succ count ih =>
    rcases List.mem_append.mp member with before | last
    · exact ih before
    · exact ⟨number % base, Nat.mod_lt number positive, List.mem_singleton.mp last⟩

/-- The digits of a number are filled up with zeros. -/
theorem leftpad_toDigits (large : 1 < base) (count : ℕ) {number : ℕ} (small : number < base ^ (count + 1)) :
    (Nat.toDigits base number).leftpad (count + 1) '0' = paddedDigits base (count + 1) number := by
  induction count generalizing number with
  | zero =>
    rw [Nat.zero_add, Nat.pow_one] at small
    rw [Nat.toDigits_of_lt_base small, paddedDigits, Nat.mod_eq_of_lt small]
    rfl
  | succ count ih =>
    by_cases last : number < base
    · rw [Nat.toDigits_of_lt_base last, paddedDigits, Nat.div_eq_of_lt last, Nat.mod_eq_of_lt last,
        paddedDigits_zero]
      rfl
    · have rest : number / base < base ^ (count + 1) := by
        apply Nat.div_lt_of_lt_mul
        rwa [← Nat.pow_succ']
      have fits := (Nat.length_toDigits_le_iff large (Nat.succ_pos count)).mpr rest
      rw [Nat.toDigits_of_base_le large (Nat.not_lt.mp last), paddedDigits, ← ih rest]
      unfold List.leftpad
      rw [List.length_append, List.length_singleton, Nat.add_sub_add_right, List.append_assoc]

end FairMarket
