import Mathlib.Order.Lattice
import Mathlib.Data.List.Induction
import Mathlib.Data.List.Perm.Basic
import Mathlib.Tactic.Common

/-! The first value of a list with the highest score. A value may have no score, and then
it does not count. -/

namespace FairMarket

variable {α β : Type} [LinearOrder β]

/-- A loop's best value so far, challenged by the next one, which has to be better. -/
def challenge (score : α → Option β) (best : Option (α × β)) (value : α) : Option (α × β) :=
  match score value, best with
  | none, best => best
  | some own, none => some (value, own)
  | some own, some (leader, top) => if top < own then some (value, own) else some (leader, top)

def foremost (score : α → Option β) (values : List α) : Option (α × β) :=
  values.foldl (challenge score) none

/-- At this place of the list stands a value with the highest score, and before it none. -/
structure Foremost (score : α → Option β) (values : List α) (place : ℕ) (winner : α) (top : β) : Prop where
  placed : values[place]? = some winner
  scored : score winner = some top
  highest : ∀ (other : ℕ) (value : α) (own : β), values[other]? = some value → score value = some own → own ≤ top
  first : ∀ (other : ℕ) (value : α) (own : β), other < place → values[other]? = some value →
    score value = some own → own < top

variable {score : α → Option β} {values others : List α} {place : ℕ} {winner value : α} {top own : β}

theorem challenge_unscored (best : Option (α × β)) (unscored : score value = none) :
    challenge score best value = best := by
  unfold challenge
  rw [unscored]

theorem challenge_unopposed (scored : score value = some own) :
    challenge score none value = some (value, own) := by
  unfold challenge
  rw [scored]

theorem challenge_leader (scored : score value = some own) (leader : α) (top : β) :
    challenge score (some (leader, top)) value =
      if top < own then some (value, own) else some (leader, top) := by
  unfold challenge
  rw [scored]

namespace Foremost

theorem mem (leads : Foremost score values place winner top) : winner ∈ values :=
  List.mem_of_getElem? leads.placed

theorem at_most (leads : Foremost score values place winner top) (member : value ∈ values)
    (scored : score value = some own) : own ≤ top := by
  obtain ⟨other, placed⟩ := List.mem_iff_getElem?.mp member
  exact leads.highest other value own placed scored

/-- There is one such place. -/
theorem unique {place' : ℕ} {winner' : α} {top' : β} (left : Foremost score values place winner top)
    (right : Foremost score values place' winner' top') : place = place' ∧ winner = winner' ∧ top = top' := by
  have same : top = top' :=
    le_antisymm (right.at_most left.mem left.scored) (left.at_most right.mem right.scored)
  subst same
  have spot : place = place' := by
    rcases Nat.lt_trichotomy place place' with before | same | after
    · exact absurd (right.first place winner top before left.placed left.scored) (lt_irrefl top)
    · exact same
    · exact absurd (left.first place' winner' top after right.placed right.scored) (lt_irrefl top)
  subst spot
  exact ⟨rfl, Option.some.inj (left.placed.symm.trans right.placed), rfl⟩

/-- A value that is not better is put at the end. -/
theorem append_worse (leads : Foremost score values place winner top)
    (worse : ∀ own, score value = some own → own ≤ top) :
    Foremost score (values ++ [value]) place winner top := by
  obtain ⟨inside, -⟩ := List.getElem?_eq_some_iff.mp leads.placed
  constructor
  · rw [List.getElem?_append_left inside]
    exact leads.placed
  · exact leads.scored
  · intro other seen own found scored
    rcases List.mem_append.mp (List.mem_of_getElem? found) with before | last
    · exact leads.at_most before scored
    · rw [List.mem_singleton.mp last] at scored
      exact worse own scored
  · intro other seen own before found scored
    rw [List.getElem?_append_left (Nat.lt_trans before inside)] at found
    exact leads.first other seen own before found scored

/-- A better value is put at the end. -/
theorem append_better (scored : score value = some own)
    (better : ∀ other ∈ values, ∀ least, score other = some least → least < own) :
    Foremost score (values ++ [value]) values.length value own := by
  constructor
  · exact List.getElem?_concat_length
  · exact scored
  · intro other seen least found known
    rcases List.mem_append.mp (List.mem_of_getElem? found) with before | last
    · exact le_of_lt (better seen before least known)
    · rw [List.mem_singleton.mp last, scored] at known
      exact le_of_eq (Option.some.inj known).symm
  · intro other seen least before found known
    rw [List.getElem?_append_left before] at found
    exact better seen (List.mem_of_getElem? found) least known

/-- A value elsewhere gives way to one that is worse than the best. -/
theorem set (leads : Foremost score values place winner top) {other : ℕ} (elsewhere : other ≠ place)
    (worse : ∀ own, score value = some own → own < top) :
    Foremost score (values.set other value) place winner top := by
  have reads : ∀ (spot : ℕ) (seen : α) (own : β), (values.set other value)[spot]? = some seen → score seen = some own →
      own < top ∨ values[spot]? = some seen := by
    intro spot seen own found scored
    rw [List.getElem?_set] at found
    split at found
    · split at found
      · rw [← Option.some.inj found] at scored
        exact .inl (worse own scored)
      · cases found
    · exact .inr found
  constructor
  · rw [List.getElem?_set_ne elsewhere]
    exact leads.placed
  · exact leads.scored
  · intro spot seen own found scored
    rcases reads spot seen own found scored with lower | kept
    · exact le_of_lt lower
    · exact leads.highest spot seen own kept scored
  · intro spot seen own before found scored
    rcases reads spot seen own found scored with lower | kept
    · exact lower
    · exact leads.first spot seen own before kept scored

end Foremost

/-- What the loop has found: nothing where nothing has a score, else the foremost value. -/
theorem foremost_spec (score : α → Option β) (values : List α) :
    match foremost score values with
    | none => ∀ value ∈ values, score value = none
    | some (winner, top) => ∃ place, Foremost score values place winner top := by
  induction values using List.reverseRecOn with
  | nil => exact fun _ member => absurd member List.not_mem_nil
  | append_singleton values value ih =>
    have turn : foremost score (values ++ [value]) = challenge score (foremost score values) value := by
      rw [foremost, List.foldl_append]
      rfl
    rw [turn]
    cases found : foremost score values with
    | none =>
      rw [found] at ih
      cases known : score value with
      | none =>
        rw [challenge_unscored none known]
        intro other member
        rcases List.mem_append.mp member with before | last
        · exact ih other before
        · rw [List.mem_singleton.mp last]
          exact known
      | some own =>
        rw [challenge_unopposed known]
        refine ⟨values.length, .append_better known ?_⟩
        intro other member least scored
        rw [ih other member] at scored
        cases scored
    | some best =>
      obtain ⟨leader, top⟩ := best
      rw [found] at ih
      obtain ⟨place, leads⟩ := ih
      cases known : score value with
      | none =>
        rw [challenge_unscored _ known]
        refine ⟨place, leads.append_worse ?_⟩
        intro own scored
        rw [known] at scored
        cases scored
      | some own =>
        rw [challenge_leader known]
        by_cases better : top < own
        · rw [if_pos better]
          refine ⟨values.length, .append_better known ?_⟩
          intro other member least scored
          exact lt_of_le_of_lt (leads.at_most member scored) better
        · rw [if_neg better]
          refine ⟨place, leads.append_worse ?_⟩
          intro least scored
          rw [← Option.some.inj (known.symm.trans scored)]
          exact not_lt.mp better

theorem foremost_eq_none : foremost score values = none ↔ ∀ value ∈ values, score value = none := by
  have spec := foremost_spec score values
  cases found : foremost score values with
  | none =>
    rw [found] at spec
    exact iff_of_true rfl spec
  | some best =>
    rw [found] at spec
    obtain ⟨place, leads⟩ := spec
    refine iff_of_false (Option.some_ne_none _) ?_
    intro unscored
    exact Option.some_ne_none _ (leads.scored.symm.trans (unscored _ leads.mem))

theorem foremost_eq_some : foremost score values = some (winner, top) ↔
    ∃ place, Foremost score values place winner top := by
  have spec := foremost_spec score values
  constructor
  · intro found
    rw [found] at spec
    exact spec
  · rintro ⟨place, leads⟩
    cases found : foremost score values with
    | none =>
      rw [found] at spec
      exact absurd (leads.scored.symm.trans (spec winner leads.mem)) (Option.some_ne_none top)
    | some best =>
      obtain ⟨other, highest⟩ := best
      rw [found] at spec
      obtain ⟨spot, other⟩ := spec
      obtain ⟨-, rfl, rfl⟩ := leads.unique other
      rfl

/-- Values without a score make no difference, wherever they stand. -/
theorem foremost_filter (score : α → Option β) (values : List α) :
    foremost score (values.filter fun value => (score value).isSome) = foremost score values := by
  unfold foremost
  generalize (none : Option (α × β)) = best
  induction values generalizing best with
  | nil => rfl
  | cons value rest ih =>
    cases known : score value with
    | none =>
      rw [List.filter_cons_of_neg (by simp [known]), List.foldl_cons, challenge_unscored best known]
      exact ih best
    | some own =>
      rw [List.filter_cons_of_pos (by simp [known]), List.foldl_cons, List.foldl_cons]
      exact ih _

/-- In another order the highest score is the same. -/
theorem foremost_perm (same : others.Perm values) :
    (foremost score others).map Prod.snd = (foremost score values).map Prod.snd := by
  cases found : foremost score values with
  | none =>
    have unscored := foremost_eq_none.mp found
    have nothing : foremost score others = none :=
      foremost_eq_none.mpr fun value member => unscored value (same.mem_iff.mp member)
    rw [nothing]
  | some best =>
    obtain ⟨place, leads⟩ := foremost_eq_some.mp found
    cases other : foremost score others with
    | none =>
      have unscored := foremost_eq_none.mp other best.1 (same.mem_iff.mpr leads.mem)
      exact absurd (leads.scored.symm.trans unscored) (Option.some_ne_none best.2)
    | some rival =>
      obtain ⟨spot, wins⟩ := foremost_eq_some.mp other
      apply congrArg some
      exact le_antisymm (leads.at_most (same.mem_iff.mp wins.mem) wins.scored)
        (wins.at_most (same.mem_iff.mpr leads.mem) leads.scored)

end FairMarket
