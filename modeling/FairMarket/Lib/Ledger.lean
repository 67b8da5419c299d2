import Mathlib.Algebra.Order.BigOperators.Group.Finset
import Mathlib.Algebra.BigOperators.Pi
import Mathlib.Tactic.Common

/-! Totals over a table of amounts with finitely many keys. A write to one key
moves the total by exactly the change at that key. -/

namespace FairMarket.Ledger

variable {Key : Type*} [Fintype Key] [DecidableEq Key]

/-- Two tables that agree off one key differ in total only by that key. -/
theorem sum_agree_off (before after : Key → ℕ) (key : Key)
    (agree : ∀ other, other ≠ key → after other = before other) :
    ∑ k, after k + before key = ∑ k, before k + after key := by
  have rest : ∑ k ∈ Finset.univ.erase key, after k = ∑ k ∈ Finset.univ.erase key, before k :=
    Finset.sum_congr rfl fun k member => agree k (Finset.ne_of_mem_erase member)
  have left := Finset.add_sum_erase Finset.univ after (Finset.mem_univ key)
  have right := Finset.add_sum_erase Finset.univ before (Finset.mem_univ key)
  omega

theorem sum_update (table : Key → ℕ) (key : Key) (amount : ℕ) :
    ∑ k, Function.update table key amount k + table key = ∑ k, table k + amount := by
  have moved := sum_agree_off table (Function.update table key amount) key
    fun other different => Function.update_of_ne different ..
  simpa using moved

omit [DecidableEq Key] in
theorem le_sum (table : Key → ℕ) (key : Key) : table key ≤ ∑ k, table k :=
  Finset.single_le_sum (fun _ _ => Nat.zero_le _) (Finset.mem_univ key)

end FairMarket.Ledger
