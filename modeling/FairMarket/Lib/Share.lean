import FairMarket.Lib.Ledger
import Mathlib.Algebra.BigOperators.Ring.Finset
import Mathlib.Tactic.Linarith
import Mathlib.Tactic.Ring

/-! Pro-rata shares of a pot, rounded down. What rounding leaves in the pot is
less than one unit for each holder. -/

namespace FairMarket.Share

variable {Key : Type*} [Fintype Key]

/-- The shares of all holders, each rounded down. -/
def paidOut (holdings : Key → ℕ) (pot total : ℕ) : ℕ := ∑ k, holdings k * pot / total

/-- Those who hold something. -/
def holders (holdings : Key → ℕ) : Finset Key := Finset.univ.filter fun k => holdings k ≠ 0

variable {holdings : Key → ℕ} {pot total : ℕ}

theorem paidOut_eq_holders :
    paidOut holdings pot total = ∑ k ∈ holders holdings, holdings k * pot / total := by
  refine (Finset.sum_subset (Finset.filter_subset ..) fun k _ outside => ?_).symm
  have nothing : holdings k = 0 := by simpa [holders] using outside
  rw [nothing, Nat.zero_mul, Nat.zero_div]

/-- The holders together draw no more than the pot. -/
theorem paidOut_le (whole : ∑ k, holdings k = total) : paidOut holdings pot total ≤ pot := by
  rcases Nat.eq_zero_or_pos total with none | positive
  · simp [paidOut, none]
  · apply Nat.le_of_mul_le_mul_left _ positive
    calc total * paidOut holdings pot total
        = ∑ k, total * (holdings k * pot / total) := Finset.mul_sum ..
      _ ≤ ∑ k, holdings k * pot := Finset.sum_le_sum fun k _ => Nat.mul_div_le ..
      _ = total * pot := by rw [← Finset.sum_mul, whole]

/-- Rounding costs less than one unit for each holder. -/
theorem pot_lt_paidOut_add (whole : ∑ k, holdings k = total) (positive : 0 < total) :
    pot < paidOut holdings pot total + (holders holdings).card := by
  have held : ∑ k ∈ holders holdings, holdings k = total := by
    rw [← whole]
    exact Finset.sum_filter_ne_zero ..
  have some : (holders holdings).Nonempty := by
    rw [Finset.nonempty_iff_ne_empty]
    intro empty
    rw [empty, Finset.sum_empty] at held
    omega
  apply Nat.lt_of_mul_lt_mul_left (a := total)
  calc total * pot
      = ∑ k ∈ holders holdings, holdings k * pot := by rw [← Finset.sum_mul, held]
    _ < ∑ k ∈ holders holdings, total * (holdings k * pot / total + 1) :=
        Finset.sum_lt_sum_of_nonempty some fun k _ => Nat.lt_mul_div_succ _ positive
    _ = total * (paidOut holdings pot total + (holders holdings).card) := by
        rw [← Finset.mul_sum, Finset.sum_add_distrib, ← paidOut_eq_holders, Finset.card_eq_sum_ones]

/-- Clearing one holding takes exactly its share off what is still to be paid. -/
theorem paidOut_clear [DecidableEq Key] (k : Key) :
    paidOut (Function.update holdings k 0) pot total + holdings k * pot / total =
      paidOut holdings pot total := by
  have moved := Ledger.sum_agree_off (fun other => holdings other * pot / total)
    (fun other => Function.update holdings k 0 other * pot / total) k
    fun other different => by rw [Function.update_of_ne different]
  simp only [Function.update_self, Nat.zero_mul, Nat.zero_div, Nat.add_zero] at moved
  exact moved

section Lanes

variable {holding pot left right : ℕ}

/-- In the lane whose part is rounded down a holder loses less than two units. -/
theorem share_le_first (held : holding ≤ left) :
    holding * pot / (left + right) ≤ holding * (pot * left / (left + right)) / left + 1 := by
  rcases Nat.eq_zero_or_pos left with none | positive
  · have nothing : holding = 0 := by omega
    rw [nothing, Nat.zero_mul, Nat.zero_div]
    exact Nat.zero_le _
  have whole : 0 < left + right := Nat.add_pos_left positive right
  have direct : holding * pot / (left + right) * (left + right) ≤ holding * pot := Nat.div_mul_le_self ..
  have split : pot * left < (left + right) * (pot * left / (left + right) + 1) :=
    Nat.lt_mul_div_succ _ whole
  have shared : holding * (pot * left / (left + right)) <
      left * (holding * (pot * left / (left + right)) / left + 1) := Nat.lt_mul_div_succ _ positive
  generalize pot * left / (left + right) = part at *
  generalize holding * part / left = indirect at *
  generalize holding * pot / (left + right) = share at *
  have first : share * left ≤ holding * (part + 1) := by
    apply Nat.le_of_mul_le_mul_left _ whole
    calc (left + right) * (share * left)
        = share * (left + right) * left := by ring
      _ ≤ holding * pot * left := Nat.mul_le_mul_right _ direct
      _ = holding * (pot * left) := by ring
      _ ≤ holding * ((left + right) * (part + 1)) := Nat.mul_le_mul_left _ split.le
      _ = (left + right) * (holding * (part + 1)) := by ring
  have second : share * left < left * (indirect + 2) := by
    calc share * left
        ≤ holding * part + holding := first
      _ < left * (indirect + 1) + left := Nat.add_lt_add_of_lt_of_le shared held
      _ = left * (indirect + 2) := by ring
  have close : share < indirect + 2 := by
    rw [Nat.mul_comm] at second
    exact Nat.lt_of_mul_lt_mul_left second
  omega

/-- In the lane that gets the rest a holder loses nothing by the split. -/
theorem share_le_second (held : holding ≤ right) :
    holding * pot / (left + right) ≤ holding * (pot - pot * left / (left + right)) / right := by
  rcases Nat.eq_zero_or_pos right with none | positive
  · have nothing : holding = 0 := by omega
    rw [nothing, Nat.zero_mul, Nat.zero_div]
    exact Nat.zero_le _
  have whole : 0 < left + right := Nat.add_pos_right left positive
  have direct : holding * pot / (left + right) * (left + right) ≤ holding * pot := Nat.div_mul_le_self ..
  have split : pot * left / (left + right) * (left + right) ≤ pot * left := Nat.div_mul_le_self ..
  have part : pot * left / (left + right) ≤ pot := by
    apply Nat.div_le_of_le_mul
    rw [Nat.mul_comm]
    exact Nat.mul_le_mul_right _ (Nat.le_add_right ..)
  obtain ⟨rest, same⟩ := Nat.exists_eq_add_of_le part
  have rested : pot - pot * left / (left + right) = rest := by omega
  rw [rested, Nat.le_div_iff_mul_le positive]
  have enough : pot * right ≤ rest * (left + right) := by
    have total : pot * (left + right) = (pot * left / (left + right) + rest) * (left + right) := by
      rw [← same]
    linarith
  apply Nat.le_of_mul_le_mul_left _ whole
  calc (left + right) * (holding * pot / (left + right) * right)
      = holding * pot / (left + right) * (left + right) * right := by ring
    _ ≤ holding * pot * right := Nat.mul_le_mul_right _ direct
    _ = holding * (pot * right) := by ring
    _ ≤ holding * (rest * (left + right)) := Nat.mul_le_mul_left _ enough
    _ = (left + right) * (holding * rest) := by ring

end Lanes

end FairMarket.Share
