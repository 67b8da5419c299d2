import FairMarket.Keeper.Json
import Mathlib.Data.List.TakeWhile

/-! What `Number` makes of a string. -/

namespace FairMarket

namespace Keeper

/-- A number with a fraction and a power of ten, either of which may be missing. -/
def unsignedDecimal (chars : List Char) : Option ℚ := do
  let (mantissa, power) := chars.span fun char => char ≠ 'e' ∧ char ≠ 'E'
  let exponent : ℤ ← match power with
    | [] => some 0
    | _ :: '-' :: rest => (digits 10 rest).map fun number => -Int.ofNat number
    | _ :: '+' :: rest => (digits 10 rest).map Int.ofNat
    | _ :: rest => (digits 10 rest).map Int.ofNat
  let (whole, point) := mantissa.span (· ≠ '.')
  let fraction := point.tail
  let number ← digits 10 (whole ++ fraction)
  return number * 10 ^ (exponent - fraction.length)

/-- The sign a number is written with. -/
inductive NumberSign where
  | unsigned
  | plus
  | minus

def NumberSign.chars : NumberSign → List Char
  | .unsigned => []
  | .plus => ['+']
  | .minus => ['-']

def NumberSign.factor : NumberSign → ℤ
  | .unsigned | .plus => 1
  | .minus => -1

def Number.orNan : Option ℚ → Number
  | none => .nan
  | some value => .nearest value

def Number.ofSigned (sign : NumberSign) (chars : List Char) : Number :=
  if chars = "Infinity".toList then
    match sign with
    | .unsigned | .plus => .infinity
    | .minus => .negativeInfinity
  else .orNan ((unsignedDecimal chars).map fun value => sign.factor * value)

def Number.ofText (chars : List Char) : Number :=
  match trim chars with
  | [] => 0
  | '0' :: 'x' :: rest | '0' :: 'X' :: rest => .orNan ((digits 16 rest).map Nat.cast)
  | '0' :: 'o' :: rest | '0' :: 'O' :: rest => .orNan ((digits 8 rest).map Nat.cast)
  | '0' :: 'b' :: rest | '0' :: 'B' :: rest => .orNan ((digits 2 rest).map Nat.cast)
  | '-' :: rest => .ofSigned .minus rest
  | '+' :: rest => .ofSigned .plus rest
  | chars => .ofSigned .unsigned chars

/-- Digits and nothing else, at least one. -/
structure Decimal (chars : List Char) : Prop where
  nonempty : chars ≠ []
  isDigit : ∀ char ∈ chars, char.isDigit = true

variable {chars : List Char}

theorem Decimal.singleton {char : Char} (isDigit : char.isDigit = true) : Decimal [char] where
  nonempty := List.cons_ne_nil char []
  isDigit := List.forall_mem_singleton.mpr isDigit

theorem Decimal.digits_eq (decimal : Decimal chars) : digits 10 chars = some (Nat.ofDigitChars 10 chars 0) := by
  unfold digits
  split
  · rename_i empty
    exact absurd rfl decimal.nonempty
  · exact digits_loop decimal.isDigit 0

theorem Decimal.not_mem (decimal : Decimal chars) {char : Char} (other : char.isDigit = false) : char ∉ chars := by
  intro member
  rw [decimal.isDigit char member] at other
  cases other

theorem span_eq_self {stop : Char → Bool} (all : ∀ char ∈ chars, stop char = true) :
    chars.span stop = (chars, []) := by
  rw [List.span_eq_takeWhile_dropWhile, List.takeWhile_eq_self_iff.mpr all, List.dropWhile_eq_nil_iff.mpr all]

theorem Decimal.unsignedDecimal_eq (decimal : Decimal chars) :
    unsignedDecimal chars = some (Nat.ofDigitChars 10 chars 0 : ℚ) := by
  have mantissa : chars.span (fun char => char ≠ 'e' ∧ char ≠ 'E') = (chars, []) := by
    apply span_eq_self
    intro char member
    have small : char ≠ 'e' := fun same => decimal.not_mem (by decide) (same ▸ member)
    have capital : char ≠ 'E' := fun same => decimal.not_mem (by decide) (same ▸ member)
    exact decide_eq_true ⟨small, capital⟩
  have whole : chars.span (· ≠ '.') = (chars, []) := by
    apply span_eq_self
    intro char member
    exact decide_eq_true fun same => decimal.not_mem (by decide) (same ▸ member)
  unfold unsignedDecimal
  rw [mantissa]
  dsimp only
  rw [Option.bind_eq_bind, Option.bind_some, whole]
  dsimp only
  rw [List.tail_nil, List.append_nil, decimal.digits_eq]
  simp

theorem Decimal.ofSigned_eq (decimal : Decimal chars) (sign : NumberSign) :
    Number.ofSigned sign chars = .nearest (sign.factor * Nat.ofDigitChars 10 chars 0 : ℤ) := by
  have finite : chars ≠ "Infinity".toList := by
    intro same
    exact decimal.not_mem (by decide : 'I'.isDigit = false) (by rw [same]; decide)
  unfold Number.ofSigned
  rw [if_neg finite, decimal.unsignedDecimal_eq, Option.map_some, Number.orNan]
  push_cast
  rfl

/-- Decimal digits behind a sign are read for the number they are. -/
theorem Decimal.ofText_eq (decimal : Decimal chars) (sign : NumberSign) :
    Number.ofText (sign.chars ++ chars) = .nearest (sign.factor * Nat.ofDigitChars 10 chars 0 : ℤ) := by
  have solid : trim (sign.chars ++ chars) = sign.chars ++ chars := by
    apply trim_eq_self
    intro char member
    rcases List.mem_append.mp member with before | after
    · cases sign with
      | unsigned => exact absurd before List.not_mem_nil
      | plus | minus =>
        rw [List.mem_singleton.mp before]
        decide
    · exact isWhiteSpace_of_isDigit (decimal.isDigit char after)
  unfold Number.ofText
  rw [solid]
  cases sign with
  | plus => exact decimal.ofSigned_eq .plus
  | minus => exact decimal.ofSigned_eq .minus
  | unsigned =>
    have signed := decimal.ofSigned_eq .unsigned
    have isDigit := decimal.isDigit
    have nonempty := decimal.nonempty
    rw [NumberSign.chars, List.nil_append]
    split
    · exact absurd rfl nonempty
    · exact absurd (isDigit 'x' (by simp)) (by decide)
    · exact absurd (isDigit 'X' (by simp)) (by decide)
    · exact absurd (isDigit 'o' (by simp)) (by decide)
    · exact absurd (isDigit 'O' (by simp)) (by decide)
    · exact absurd (isDigit 'b' (by simp)) (by decide)
    · exact absurd (isDigit 'B' (by simp)) (by decide)
    · exact absurd (isDigit '-' (by simp)) (by decide)
    · exact absurd (isDigit '+' (by simp)) (by decide)
    · exact signed

/-- An integer below `2 ^ 53` is a number. -/
theorem Number.nearest_intCast {value : ℤ} (small : |value| < 2 ^ 53) : Number.nearest value = .finite value := by
  have bound : |(value : ℚ)| < 2 ^ 53 := by exact_mod_cast small
  -- the spacing is a unit or a part of one
  have exponent : 0 ≤ -(max (Int.log 2 |(value : ℚ)|) (-1022) - 52) := by
    have log : Int.log 2 |(value : ℚ)| < 53 := by
      rcases eq_or_lt_of_le (abs_nonneg (value : ℚ)) with zero | positive
      · rw [← zero, Int.log_zero_right]
        decide
      · rw [← Int.lt_zpow_iff_log_lt Nat.one_lt_two positive]
        exact_mod_cast bound
    omega
  obtain ⟨parts, same⟩ := Int.eq_ofNat_of_zero_le exponent
  have whole : (value : ℚ) / 2 ^ (max (Int.log 2 |(value : ℚ)|) (-1022) - 52) = ((value * 2 ^ parts : ℤ) : ℚ) := by
    rw [← neg_neg (max _ _ - 52), same, zpow_neg, div_inv_eq_mul, zpow_natCast]
    push_cast
    rfl
  have rounded : (value * 2 ^ parts : ℤ) * (2 : ℚ) ^ (max (Int.log 2 |(value : ℚ)|) (-1022) - 52) = value := by
    rw [← whole, div_mul_cancel₀ _ (zpow_ne_zero _ two_ne_zero)]
  have below : (0 : ℚ) < 1 / 2 ∨ (0 : ℚ) = 1 / 2 ∧ 2 ∣ value * 2 ^ parts := .inl (by norm_num)
  obtain ⟨low, high⟩ := abs_lt.mp bound
  have large : (2 : ℚ) ^ 53 ≤ 2 ^ 1024 := pow_le_pow_right₀ one_le_two (by decide)
  have above : ¬ (2 : ℚ) ^ 1024 ≤ value := not_le.mpr (high.trans_le large)
  have under : ¬ (value : ℚ) ≤ -2 ^ 1024 := not_le.mpr ((neg_le_neg large).trans_lt low)
  unfold Number.nearest
  dsimp only
  rw [whole, Int.floor_intCast, sub_self, if_pos below, rounded, if_neg above, if_neg under]

theorem Number.plus_natCast {left right : ℕ} (small : left + right < 2 ^ 53) :
    (Number.finite left).plus (.finite right) = .finite (left + right : ℕ) := by
  have exact_ : |((left + right : ℕ) : ℤ)| < 2 ^ 53 := by
    rw [Nat.abs_cast]
    exact_mod_cast small
  have sum := Number.nearest_intCast exact_
  rw [Number.plus, ← Nat.cast_add]
  exact_mod_cast sum

theorem Decimal.ofText_exact (decimal : Decimal chars) (sign : NumberSign)
    (small : Nat.ofDigitChars 10 chars 0 < 2 ^ 53) :
    Number.ofText (sign.chars ++ chars) = .finite (sign.factor * Nat.ofDigitChars 10 chars 0 : ℤ) := by
  rw [decimal.ofText_eq]
  apply Number.nearest_intCast
  have unit : |sign.factor| = 1 := by
    cases sign with
    | unsigned | plus | minus => rfl
  rw [abs_mul, unit, one_mul, Nat.abs_cast]
  exact_mod_cast small

end Keeper

end FairMarket
