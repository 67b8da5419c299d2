import FairMarket.Lib.Ledger
import Mathlib.Tactic.Linarith
import Mathlib.Tactic.Ring

/-! Holders who draw from a fund one after the other, each its share of what is left,
rounded down. What rounding leaves behind goes to those who come later. -/

namespace FairMarket

structure Fund (Key : Type*) where
  reserve : ℕ
  holdings : Key → ℕ

/-- What one holder drew, and on what. -/
structure Receipt (Key : Type*) where
  holder : Key
  holding : ℕ
  share : ℕ

namespace Fund

variable {Key : Type*} [Fintype Key]

def total (fund : Fund Key) : ℕ := ∑ k, fund.holdings k

def share (fund : Fund Key) (k : Key) : ℕ := fund.holdings k * fund.reserve / fund.total

variable [DecidableEq Key]

def draw (fund : Fund Key) (k : Key) : Fund Key where
  reserve := fund.reserve - fund.share k
  holdings := Function.update fund.holdings k 0

/-- The fund after some have drawn, in order. -/
def after (fund : Fund Key) (order : List Key) : Fund Key := order.foldl draw fund

def receipts (fund : Fund Key) : List Key → List (Receipt Key)
  | [] => []
  | k :: order => ⟨k, fund.holdings k, fund.share k⟩ :: (fund.draw k).receipts order

/-- Each of them holds something when its turn comes. -/
def Draws (fund : Fund Key) : List Key → Prop
  | [] => True
  | k :: order => fund.holdings k ≠ 0 ∧ (fund.draw k).Draws order

variable {fund start : Fund Key} {k : Key} {order : List Key}

omit [DecidableEq Key] in
theorem holding_le_total (fund : Fund Key) (k : Key) : fund.holdings k ≤ fund.total :=
  Ledger.le_sum fund.holdings k

omit [DecidableEq Key] in
theorem share_le_reserve (fund : Fund Key) (k : Key) : fund.share k ≤ fund.reserve :=
  Nat.div_le_of_le_mul (Nat.mul_le_mul_right _ (fund.holding_le_total k))

theorem total_draw (fund : Fund Key) (k : Key) : (fund.draw k).total + fund.holdings k = fund.total := by
  have moved := Ledger.sum_update fund.holdings k 0
  unfold total draw
  omega

theorem draw_holdings_of_ne {other : Key} (different : other ≠ k) :
    (fund.draw k).holdings other = fund.holdings other := Function.update_of_ne different ..

/-- Nobody draws twice. -/
theorem Draws.held (draws : fund.Draws order) : order.Nodup ∧ ∀ k ∈ order, fund.holdings k ≠ 0 := by
  induction order generalizing fund with
  | nil => exact ⟨List.nodup_nil, nofun⟩
  | cons first order ih =>
    obtain ⟨held, draws⟩ := draws
    obtain ⟨nodup, later⟩ := ih draws
    have fresh : first ∉ order := fun member => later first member (Function.update_self ..)
    refine ⟨List.nodup_cons.mpr ⟨fresh, nodup⟩, ?_⟩
    intro k member
    rcases List.mem_cons.mp member with rfl | behind
    · exact held
    · have different : k ≠ first := by
        rintro rfl
        exact fresh behind
      rw [← draw_holdings_of_ne different]
      exact later k behind

/-- What was drawn and what is left are what there was. -/
theorem receipts_sum (fund : Fund Key) (order : List Key) :
    ((fund.receipts order).map Receipt.share).sum + (fund.after order).reserve = fund.reserve ∧
      ((fund.receipts order).map Receipt.holding).sum + (fund.after order).total = fund.total := by
  induction order generalizing fund with
  | nil => exact ⟨Nat.zero_add _, Nat.zero_add _⟩
  | cons k order ih =>
    obtain ⟨shares, holdings⟩ := ih (fund.draw k)
    have total := fund.total_draw k
    have covered := fund.share_le_reserve k
    have left : (fund.draw k).reserve = fund.reserve - fund.share k := rfl
    change _ + ((fund.draw k).after order).reserve = _ ∧ _ + ((fund.draw k).after order).total = _
    simp only [receipts, List.map_cons, List.sum_cons]
    omega

theorem receipts_holders (fund : Fund Key) (order : List Key) :
    (fund.receipts order).map Receipt.holder = order := by
  induction order generalizing fund with
  | nil => rfl
  | cons k order ih =>
    rw [receipts, List.map_cons, ih]

/-- The last to draw takes all that is left. -/
theorem draw_exhausts (held : fund.holdings k ≠ 0) (drained : (fund.draw k).total = 0) :
    (fund.draw k).reserve = 0 := by
  have total := fund.total_draw k
  have last : fund.total = fund.holdings k := by omega
  have positive : 0 < fund.holdings k := Nat.pos_of_ne_zero held
  have share : fund.share k = fund.reserve := by
    unfold Fund.share
    rw [last]
    exact Nat.mul_div_cancel_left _ positive
  change fund.reserve - fund.share k = 0
  omega

theorem Draws.exhausted (draws : fund.Draws order) (initial : fund.total = 0 → fund.reserve = 0)
    (drained : (fund.after order).total = 0) : (fund.after order).reserve = 0 := by
  induction order generalizing fund with
  | nil => exact initial drained
  | cons k order ih => exact ih draws.2 (draw_exhausts draws.1) drained

omit [DecidableEq Key] in
theorem total_eq_zero (empty : ∀ k, fund.holdings k = 0) : fund.total = 0 :=
  Finset.sum_eq_zero fun k _ => empty k

/-- Who has drawn holds nothing. -/
theorem after_holdings (fund : Fund Key) (order : List Key) (k : Key) :
    (fund.after order).holdings k = if k ∈ order then 0 else fund.holdings k := by
  induction order generalizing fund with
  | nil => rfl
  | cons first order ih =>
    change ((fund.draw first).after order).holdings k = _
    rw [ih]
    by_cases same : k = first
    · have emptied : (fund.draw first).holdings k = 0 := by
        rw [same]
        exact Function.update_self ..
      rw [emptied, ite_self, if_pos (by simp [same])]
    · rw [draw_holdings_of_ne same]
      simp [same]

/-- After some draws the fund is worth no less for each unit held than at the start,
and more by less than one unit of reserve for each draw. -/
structure Near (start fund : Fund Key) (draws : ℕ) : Prop where
  least : start.reserve * fund.total ≤ fund.reserve * start.total
  most : fund.reserve * start.total ≤ start.reserve * fund.total + draws * start.total

omit [DecidableEq Key] in
theorem Near.refl (fund : Fund Key) : Near fund fund 0 :=
  ⟨Nat.le_refl _, Nat.le_add_right ..⟩

theorem Near.draw {draws : ℕ} (near : Near start fund draws) (held : fund.holdings k ≠ 0) :
    Near start (fund.draw k) (draws + 1) := by
  have whole := fund.total_draw k
  have positive : 0 < fund.total := by omega
  have left : (fund.draw k).reserve + fund.share k = fund.reserve :=
    Nat.sub_add_cancel (fund.share_le_reserve k)
  have floor : fund.total * fund.share k ≤ fund.holdings k * fund.reserve := Nat.mul_div_le ..
  have ceiling : fund.holdings k * fund.reserve < fund.total * (fund.share k + 1) :=
    Nat.lt_mul_div_succ _ positive
  -- what is left for each unit left, against what there was for each unit
  have low : (fund.draw k).total * fund.reserve ≤ fund.total * (fund.draw k).reserve := by
    rw [← left, ← whole] at *
    linarith
  have high : fund.total * (fund.draw k).reserve ≤ (fund.draw k).total * fund.reserve + fund.total := by
    rw [← left, ← whole] at *
    linarith
  constructor
  · apply Nat.le_of_mul_le_mul_left _ positive
    calc fund.total * (start.reserve * (fund.draw k).total)
        = (fund.draw k).total * (start.reserve * fund.total) := by ring
      _ ≤ (fund.draw k).total * (fund.reserve * start.total) := Nat.mul_le_mul_left _ near.least
      _ = (fund.draw k).total * fund.reserve * start.total := by ring
      _ ≤ fund.total * (fund.draw k).reserve * start.total := Nat.mul_le_mul_right _ low
      _ = fund.total * ((fund.draw k).reserve * start.total) := by ring
  · apply Nat.le_of_mul_le_mul_left _ positive
    calc fund.total * ((fund.draw k).reserve * start.total)
        = fund.total * (fund.draw k).reserve * start.total := by ring
      _ ≤ ((fund.draw k).total * fund.reserve + fund.total) * start.total := Nat.mul_le_mul_right _ high
      _ = (fund.draw k).total * (fund.reserve * start.total) + fund.total * start.total := by ring
      _ ≤ (fund.draw k).total * (start.reserve * fund.total + draws * start.total) +
          fund.total * start.total := Nat.add_le_add_right (Nat.mul_le_mul_left _ near.most) _
      _ ≤ fund.total * (start.reserve * (fund.draw k).total) + fund.total * (draws * start.total) +
          fund.total * start.total := by
        have fewer : (fund.draw k).total * (draws * start.total) ≤ fund.total * (draws * start.total) :=
          Nat.mul_le_mul_right _ (by omega)
        linarith
      _ = fund.total * (start.reserve * (fund.draw k).total + (draws + 1) * start.total) := by ring

omit [DecidableEq Key] in
/-- A holder's share is at least what it would have been at the start, and at most one
more for each draw before it. -/
theorem Near.share_bounds {draws : ℕ} (near : Near start fund draws) (held : fund.holdings k ≠ 0)
    (same : fund.holdings k = start.holdings k) :
    start.share k ≤ fund.share k ∧ fund.share k ≤ start.share k + draws := by
  have whole := fund.holding_le_total k
  have begun := start.holding_le_total k
  have positive : 0 < fund.total := by omega
  have nonempty : 0 < start.total := by omega
  obtain ⟨least, most⟩ := near
  unfold share
  rw [same] at *
  generalize start.holdings k = holding at *
  constructor
  · rw [Nat.le_div_iff_mul_le positive]
    apply Nat.le_of_mul_le_mul_left _ nonempty
    calc start.total * (holding * start.reserve / start.total * fund.total)
        = start.total * (holding * start.reserve / start.total) * fund.total := by ring
      _ ≤ holding * start.reserve * fund.total := Nat.mul_le_mul_right _ (Nat.mul_div_le ..)
      _ = holding * (start.reserve * fund.total) := by ring
      _ ≤ holding * (fund.reserve * start.total) := Nat.mul_le_mul_left _ least
      _ = start.total * (holding * fund.reserve) := by ring
  · rw [← Nat.add_mul_div_right _ _ nonempty, Nat.le_div_iff_mul_le nonempty]
    apply Nat.le_of_mul_le_mul_left _ positive
    calc fund.total * (holding * fund.reserve / fund.total * start.total)
        = fund.total * (holding * fund.reserve / fund.total) * start.total := by ring
      _ ≤ holding * fund.reserve * start.total := Nat.mul_le_mul_right _ (Nat.mul_div_le ..)
      _ = holding * (fund.reserve * start.total) := by ring
      _ ≤ holding * (start.reserve * fund.total + draws * start.total) := Nat.mul_le_mul_left _ most
      _ = fund.total * (holding * start.reserve) + holding * (draws * start.total) := by ring
      _ ≤ fund.total * (holding * start.reserve) + fund.total * (draws * start.total) :=
        Nat.add_le_add_left (Nat.mul_le_mul_right _ whole) _
      _ = fund.total * (holding * start.reserve + draws * start.total) := by ring

theorem Near.receipts_bounds {draws : ℕ} (near : Near start fund draws) (possible : fund.Draws order)
    (same : ∀ k ∈ order, fund.holdings k = start.holdings k) (i : ℕ) (receipt : Receipt Key)
    (drawn : (fund.receipts order)[i]? = some receipt) :
    receipt.holding = start.holdings receipt.holder ∧ receipt.holding ≠ 0 ∧
      start.share receipt.holder ≤ receipt.share ∧
      receipt.share ≤ start.share receipt.holder + (draws + i) := by
  induction order generalizing fund draws i with
  | nil => cases drawn
  | cons k order ih =>
    obtain ⟨held, later⟩ := possible
    cases i with
    | zero =>
      obtain rfl := Option.some.inj drawn
      have own := same k List.mem_cons_self
      exact ⟨own, held, near.share_bounds held own⟩
    | succ i =>
      have unchanged : ∀ other ∈ order, (fund.draw k).holdings other = start.holdings other := by
        intro other member
        have different : other ≠ k := by
          rintro rfl
          exact later.held.2 other member (Function.update_self ..)
        rw [draw_holdings_of_ne different]
        exact same other (List.mem_cons_of_mem k member)
      have bounds := ih (near.draw held) later unchanged i drawn
      rwa [Nat.add_right_comm, Nat.add_assoc] at bounds

/-- In whatever order they draw, each share is within the number of earlier draws of what
it would have been at once. -/
theorem Draws.receipts_bounds (possible : fund.Draws order) (i : ℕ) (receipt : Receipt Key)
    (drawn : (fund.receipts order)[i]? = some receipt) :
    receipt.holding = fund.holdings receipt.holder ∧ receipt.holding ≠ 0 ∧
      fund.share receipt.holder ≤ receipt.share ∧ receipt.share ≤ fund.share receipt.holder + i := by
  have bounds := (Near.refl fund).receipts_bounds possible (fun _ _ => rfl) i receipt drawn
  rwa [Nat.zero_add] at bounds

theorem Near.after {draws : ℕ} (near : Near start fund draws) (possible : fund.Draws order) :
    Near start (fund.after order) (draws + order.length) := by
  induction order generalizing fund draws with
  | nil => exact near
  | cons k order ih =>
    have later := ih (near.draw possible.1) possible.2
    rwa [Nat.add_right_comm, Nat.add_assoc] at later

/-- Who has not drawn yet can still draw its share of the start. -/
theorem Draws.share_le (possible : fund.Draws order) (held : (fund.after order).holdings k ≠ 0) :
    (fund.after order).holdings k = fund.holdings k ∧ fund.share k ≤ (fund.after order).share k := by
  have same : (fund.after order).holdings k = fund.holdings k := by
    rw [after_holdings] at held ⊢
    exact if_neg fun member => held (if_pos member)
  exact ⟨same, (((Near.refl fund).after possible).share_bounds held same).1⟩

def holders (fund : Fund Key) : Finset Key := Finset.univ.filter fun k => fund.holdings k ≠ 0

theorem Draws.length_le (possible : fund.Draws order) : order.length ≤ fund.holders.card := by
  obtain ⟨nodup, held⟩ := possible.held
  rw [← List.toFinset_card_of_nodup nodup]
  apply Finset.card_le_card
  intro k member
  exact Finset.mem_filter.mpr ⟨Finset.mem_univ k, held k (List.mem_toFinset.mp member)⟩

/-- Two orders treat a holder alike, up to less than one unit for each holder. -/
theorem Draws.receipts_close {other : List Key} (possible : fund.Draws order) (also : fund.Draws other)
    {receipt again : Receipt Key} (drawn : receipt ∈ fund.receipts order)
    (redrawn : again ∈ fund.receipts other) (same : again.holder = receipt.holder) :
    receipt.share ≤ again.share + (fund.holders.card - 1) := by
  obtain ⟨i, at_⟩ := List.mem_iff_getElem?.mp drawn
  obtain ⟨j, there⟩ := List.mem_iff_getElem?.mp redrawn
  obtain ⟨-, -, -, most⟩ := possible.receipts_bounds i receipt at_
  obtain ⟨-, -, least, -⟩ := also.receipts_bounds j again there
  rw [same] at least
  have within : i < (fund.receipts order).length := (List.getElem?_eq_some_iff.mp at_).1
  rw [← List.length_map Receipt.holder, fund.receipts_holders order] at within
  have few := possible.length_le
  omega

end Fund

end FairMarket
