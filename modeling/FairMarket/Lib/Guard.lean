import Mathlib.Data.List.Forall2
import Mathlib.Data.List.ReduceOption
import Mathlib.Logic.Basic
import Mathlib.Tactic.Common

/-! Guarded computations that either return a value or abort with an error.
The simp set below turns a successful run into the conjunction of the guards
it passed, so that no later proof unfolds a do-block by hand. -/

namespace FairMarket

variable {ε α β : Type}

/-- Abort with `error` when `condition` holds, and continue otherwise. -/
def revertIf (condition : Prop) [Decidable condition] (error : ε) : Except ε Unit :=
  if condition then .error error else .ok ()

/-- Read a partial lookup, aborting with `error` when nothing is there. -/
def requireSome (value : Option α) (error : ε) : Except ε α :=
  match value with
  | some found => .ok found
  | none => .error error

theorem bind_eq_ok {first : Except ε α} {next : α → Except ε β} {result : β} :
    (first >>= next) = .ok result ↔ ∃ value, first = .ok value ∧ next value = .ok result := by
  cases first <;> simp [bind, Except.bind]

theorem bind_eq_error {first : Except ε α} {next : α → Except ε β} {error : ε} :
    (first >>= next) = .error error ↔
      first = .error error ∨ ∃ value, first = .ok value ∧ next value = .error error := by
  cases first <;> simp [bind, Except.bind]

@[simp] theorem ok_bind {value : α} {next : α → Except ε β} :
    ((.ok value : Except ε α) >>= next) = next value := rfl

theorem error_bind {error : ε} {next : α → Except ε β} :
    ((.error error : Except ε α) >>= next) = .error error := rfl

@[simp] theorem pure_eq_ok {value : α} : (pure value : Except ε α) = .ok value := rfl

@[simp] theorem revertIf_eq_ok {condition : Prop} [Decidable condition] {error : ε} {passed : Unit} :
    revertIf condition error = .ok passed ↔ ¬ condition := by
  unfold revertIf
  split <;> simp_all

theorem revertIf_eq_error {condition : Prop} [Decidable condition] {error raised : ε} :
    revertIf condition error = .error raised ↔ condition ∧ error = raised := by
  unfold revertIf
  split <;> simp_all

/-- A guard inside a successful run is a condition that failed to hold. -/
@[simp] theorem exists_revertIf {condition : Prop} [Decidable condition] {error : ε}
    {rest : Unit → Prop} :
    (∃ passed, revertIf condition error = .ok passed ∧ rest passed) ↔ ¬ condition ∧ rest () := by
  simp only [revertIf_eq_ok]
  exact ⟨fun ⟨(), passed, holds⟩ => ⟨passed, holds⟩, fun ⟨passed, holds⟩ => ⟨(), passed, holds⟩⟩

theorem toOption_eq_some {outcome : Except ε α} {value : α} :
    outcome.toOption = some value ↔ outcome = .ok value := by
  cases outcome <;> simp [Except.toOption]

@[simp] theorem requireSome_eq_ok {value : Option α} {error : ε} {found : α} :
    requireSome value error = .ok found ↔ value = some found := by
  cases value <;> simp [requireSome]

theorem requireSome_eq_error {value : Option α} {error raised : ε} :
    requireSome value error = .error raised ↔ value = none ∧ error = raised := by
  cases value <;> simp [requireSome]

/-- A loop over a list succeeds if each of its turns does. -/
theorem mapM_eq_ok {step : α → Except ε β} {list : List α} {results : List β} :
    list.mapM step = .ok results ↔
      List.Forall₂ (fun item result => step item = .ok result) list results := by
  induction list generalizing results with
  | nil =>
    simp only [List.mapM_nil, pure_eq_ok, Except.ok.injEq, List.forall₂_nil_left_iff]
    exact eq_comm
  | cons item rest ih =>
    simp only [List.mapM_cons, bind_eq_ok, pure_eq_ok, Except.ok.injEq, ih, List.forall₂_cons_left_iff]
    constructor
    · rintro ⟨result, taken, others, turns, rfl⟩
      exact ⟨result, others, taken, turns, rfl⟩
    · rintro ⟨result, others, taken, turns, rfl⟩
      exact ⟨result, taken, others, turns, rfl⟩

theorem mapM_eq_map {step : α → Except ε β} {result : α → β} {list : List α}
    (turns : ∀ item ∈ list, step item = .ok (result item)) : list.mapM step = .ok (list.map result) :=
  mapM_eq_ok.mpr (List.forall₂_map_right_iff.mpr (List.forall₂_same.mpr turns))

/-- Every item has its result. -/
theorem exists_of_mapM_eq_ok {step : α → Except ε β} {list : List α} {results : List β} {item : α}
    (done : list.mapM step = .ok results) (member : item ∈ list) : ∃ result ∈ results, step item = .ok result := by
  have turns := mapM_eq_ok.mp done
  induction turns with
  | nil => cases member
  | @cons first result rest others taken turns ih =>
    rcases List.mem_cons.mp member with rfl | later
    · exact ⟨result, List.mem_cons_self, taken⟩
    · obtain ⟨other, known, same⟩ := ih (mapM_eq_ok.mpr turns) later
      exact ⟨other, List.mem_cons_of_mem _ known, same⟩

/-- Every result is of an item. -/
theorem exists_of_mem_mapM {step : α → Except ε β} {list : List α} {results : List β} {result : β}
    (done : list.mapM step = .ok results) (member : result ∈ results) : ∃ item ∈ list, step item = .ok result := by
  have turns := mapM_eq_ok.mp done
  induction turns with
  | nil => cases member
  | @cons item first rest others taken turns ih =>
    rcases List.mem_cons.mp member with rfl | later
    · exact ⟨item, List.mem_cons_self, taken⟩
    · obtain ⟨other, known, same⟩ := ih (mapM_eq_ok.mpr turns) later
      exact ⟨other, List.mem_cons_of_mem _ known, same⟩

theorem mapM_succeeds_iff {step : α → Except ε β} {list : List α} :
    (∃ results, list.mapM step = .ok results) ↔ ∀ item ∈ list, ∃ result, step item = .ok result := by
  constructor
  · rintro ⟨results, done⟩ item member
    obtain ⟨result, -, same⟩ := exists_of_mapM_eq_ok done member
    exact ⟨result, same⟩
  · intro turns
    induction list with
    | nil => exact ⟨[], rfl⟩
    | cons item rest ih =>
      obtain ⟨own, others⟩ := List.forall_mem_cons.mp turns
      obtain ⟨result, taken⟩ := own
      obtain ⟨results, done⟩ := ih others
      exact ⟨result :: results, mapM_eq_ok.mpr (.cons taken (mapM_eq_ok.mp done))⟩

/-- What the turns of a loop give is all of it where no turn gives nothing. -/
theorem eq_map_some_of_reduceOption {turns : List (Option α)} (full : ∀ turn ∈ turns, turn.isSome = true) :
    turns = turns.reduceOption.map some := by
  induction turns with
  | nil => rfl
  | cons turn rest ih =>
    obtain ⟨own, others⟩ := List.forall_mem_cons.mp full
    obtain ⟨value, rfl⟩ := Option.isSome_iff_exists.mp own
    rw [List.reduceOption_cons_of_some, List.map_cons, ← ih others]

end FairMarket
