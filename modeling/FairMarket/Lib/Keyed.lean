import Mathlib.Data.List.Nodup
import Mathlib.Tactic.Common

/-! Maps from the keys of their values that keep the order in which keys came, and so
does whoever walks through them. A value put under a key that is there takes its place. -/

namespace FairMarket

variable {κ ν : Type} {key : ν → κ}

/-- The values of a map, in order, no two under one key. -/
structure Keyed (key : ν → κ) where
  values : List ν
  distinct : (values.map key).Nodup

namespace Keyed

def empty : Keyed key := ⟨[], List.nodup_nil⟩

@[ext] theorem ext {first second : Keyed key} (same : first.values = second.values) : first = second := by
  cases first
  cases second
  cases same
  rfl

variable [DecidableEq κ]

/-- The list with a value in the place of the first one under its key, or at the end. -/
def place (key : ν → κ) (value : ν) : List ν → List ν
  | [] => [value]
  | first :: rest => if key first = key value then value :: rest else first :: place key value rest

theorem map_place (value : ν) (values : List ν) :
    (place key value values).map key =
      if key value ∈ values.map key then values.map key else values.map key ++ [key value] := by
  induction values with
  | nil => rfl
  | cons first rest ih =>
    unfold place
    by_cases same : key first = key value
    · simp [same]
    · have known : key value ∈ key first :: rest.map key ↔ key value ∈ rest.map key := by
        simp [Ne.symm same]
      simp only [if_neg same, List.map_cons, ih, known]
      split
      · rfl
      · rfl

def set (map : Keyed key) (value : ν) : Keyed key where
  values := place key value map.values
  distinct := by
    rw [map_place]
    split
    · exact map.distinct
    · rename_i fresh
      exact List.Nodup.append map.distinct (List.nodup_singleton _) (by simpa using fresh)

def get (map : Keyed key) (k : κ) : Option ν := map.values.find? fun value => key value = k

def has (map : Keyed key) (k : κ) : Bool := (map.get k).isSome

/-- The map with the value under a key changed, if there is one. -/
def modify (map : Keyed key) (k : κ) (change : ν → ν) : Keyed key :=
  match map.get k with
  | none => map
  | some value => map.set (change value)

/-- The map without what is under a key. -/
def erase (map : Keyed key) (k : κ) : Keyed key where
  values := map.values.filter fun value => key value ≠ k
  distinct := map.distinct.sublist (List.filter_sublist.map key)

/-- The map made by putting values in one after another. -/
def ofList (values : List ν) : Keyed key := values.foldl set empty

variable {map : Keyed key} {k : κ} {value : ν}

@[simp] theorem get_empty : (empty : Keyed key).get k = none := rfl

theorem key_of_get (found : map.get k = some value) : key value = k := by
  simpa using List.find?_some found

theorem mem_of_get (found : map.get k = some value) : value ∈ map.values :=
  List.mem_of_find?_eq_some found

theorem find?_of_mem {values : List ν} (distinct : (values.map key).Nodup) (member : value ∈ values) :
    values.find? (fun other => key other = key value) = some value := by
  induction values with
  | nil => cases member
  | cons first rest ih =>
    obtain ⟨fresh, distinct⟩ := List.nodup_cons.mp distinct
    rcases List.mem_cons.mp member with rfl | later
    · exact List.find?_cons_of_pos (decide_eq_true rfl)
    · have differs : key first ≠ key value := by
        intro same
        rw [same] at fresh
        exact fresh (List.mem_map_of_mem later)
      rw [List.find?_cons_of_neg (by simpa using differs)]
      exact ih distinct later

/-- A value of the map is what its key reads. -/
theorem get_of_mem (member : value ∈ map.values) : map.get (key value) = some value :=
  find?_of_mem map.distinct member

theorem has_iff : map.has k = true ↔ ∃ value, map.get k = some value := Option.isSome_iff_exists

theorem find?_place_self (value : ν) (values : List ν) :
    (place key value values).find? (fun other => key other = key value) = some value := by
  induction values with
  | nil => exact List.find?_cons_of_pos (decide_eq_true rfl)
  | cons first rest ih =>
    unfold place
    by_cases same : key first = key value
    · rw [if_pos same]
      exact List.find?_cons_of_pos (decide_eq_true rfl)
    · rw [if_neg same, List.find?_cons_of_neg (by simpa using same)]
      exact ih

theorem find?_place_of_ne (other : k ≠ key value) (values : List ν) :
    (place key value values).find? (fun found => key found = k) =
      values.find? (fun found => key found = k) := by
  induction values with
  | nil => exact List.find?_cons_of_neg (by simpa using other.symm)
  | cons first rest ih =>
    unfold place
    by_cases same : key first = key value
    · rw [if_pos same, List.find?_cons_of_neg (by simpa using other.symm),
        List.find?_cons_of_neg (by simpa [same] using other.symm)]
    · rw [if_neg same, List.find?_cons, List.find?_cons, ih]

@[simp] theorem get_set_self (map : Keyed key) (value : ν) : (map.set value).get (key value) = some value :=
  find?_place_self value map.values

theorem get_set_of_ne (map : Keyed key) (other : k ≠ key value) : (map.set value).get k = map.get k :=
  find?_place_of_ne other map.values

theorem get_set (map : Keyed key) (value : ν) (k : κ) :
    (map.set value).get k = if k = key value then some value else map.get k := by
  by_cases same : k = key value
  · rw [if_pos same, same, get_set_self]
  · rw [if_neg same, get_set_of_ne map same]

theorem get_erase (map : Keyed key) (k j : κ) : (map.erase k).get j = if j = k then none else map.get j := by
  change (map.values.filter fun value => key value ≠ k).find? (fun value => key value = j) = _
  rw [List.find?_filter]
  by_cases same : j = k
  · subst same
    rw [if_pos rfl, List.find?_eq_none]
    intro value _
    simp
  · rw [if_neg same]
    apply congrArg (List.find? · map.values)
    funext value
    by_cases here : key value = j
    · simp [here, same]
    · simp [here]

theorem has_set (map : Keyed key) (value : ν) (k : κ) :
    (map.set value).has k = true ↔ k = key value ∨ map.has k = true := by
  unfold has
  rw [get_set]
  by_cases same : k = key value
  · simp [same]
  · simp [same]

theorem has_erase (map : Keyed key) (k j : κ) : (map.erase k).has j = true ↔ j ≠ k ∧ map.has j = true := by
  unfold has
  rw [get_erase]
  by_cases same : j = k
  · simp [same]
  · simp [same]

theorem get_modify (map : Keyed key) {change : ν → ν} (kept : ∀ value, key (change value) = key value)
    (k j : κ) : (map.modify k change).get j = if j = k then (map.get k).map change else map.get j := by
  unfold modify
  cases found : map.get k with
  | none =>
    by_cases same : j = k
    · rw [if_pos same, same, Option.map_none]
      exact found
    · rw [if_neg same]
  | some value => rw [get_set, Option.map_some, kept value, key_of_get found]

theorem get_modify_of_ne (map : Keyed key) {change : ν → ν} (kept : ∀ value, key (change value) = key value)
    {j : κ} (other : j ≠ k) : (map.modify k change).get j = map.get j := by
  rw [get_modify map kept, if_neg other]

theorem has_modify (map : Keyed key) {change : ν → ν} (kept : ∀ value, key (change value) = key value)
    (k j : κ) : (map.modify k change).has j = map.has j := by
  unfold has
  rw [get_modify map kept]
  split
  · rename_i same
    rw [same, Option.isSome_map]
  · rfl

theorem place_of_fresh {values : List ν} (fresh : key value ∉ values.map key) :
    place key value values = values ++ [value] := by
  induction values with
  | nil => rfl
  | cons first rest ih =>
    obtain ⟨differs, fresh⟩ := not_or.mp (List.mem_cons.not.mp fresh)
    rw [place, if_neg (Ne.symm differs), ih fresh, List.cons_append]

/-- Values with keys of their own come back in the order they were put in. -/
theorem values_ofList {values : List ν} (distinct : (values.map key).Nodup) :
    (ofList values : Keyed key).values = values := by
  have loop : ∀ (rest : List ν) (map : Keyed key), ((map.values ++ rest).map key).Nodup →
      (rest.foldl set map).values = map.values ++ rest := by
    intro rest
    induction rest with
    | nil => exact fun map _ => (List.append_nil _).symm
    | cons value rest ih =>
      intro map distinct
      have fresh : key value ∉ map.values.map key := by
        rw [List.map_append, List.map_cons] at distinct
        exact fun known => (List.nodup_append.mp distinct).2.2 _ known _ List.mem_cons_self rfl
      have placed : (map.set value).values = map.values ++ [value] := place_of_fresh fresh
      rw [List.foldl_cons, ih (map.set value), placed, List.append_assoc, List.singleton_append]
      rw [placed, List.append_assoc, List.singleton_append]
      exact distinct
  exact loop values empty distinct

@[simp] theorem ofList_values (map : Keyed key) : ofList map.values = map :=
  ext (values_ofList map.distinct)

end Keyed

end FairMarket
