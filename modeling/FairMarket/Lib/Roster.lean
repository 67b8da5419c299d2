import Mathlib.Data.List.Nodup
import Mathlib.Logic.Function.Basic

/-! A table of entries by key, kept together with the list of its keys and a mark for
each of them. An entry may be replaced; its key stays listed once. -/

namespace FairMarket

/-- Of a list without repetitions a property that picks one item keeps the one image. -/
theorem filter_map_unique {Item Image : Type*} [DecidableEq Item] {list : List Item} (nodup : list.Nodup)
    {item : Item} (member : item ∈ list) {image : Item → Image} {picks : Image → Bool}
    (unique : ∀ other ∈ list, picks (image other) = true ↔ other = item) :
    (list.map image).filter picks = [image item] := by
  have same : list.filter (picks ∘ image) = list.filter (· = item) :=
    List.filter_congr fun other listed => Bool.eq_iff_iff.mpr (by simp [unique other listed])
  rw [List.filter_map, same, List.filter_eq, List.count_eq_one_of_mem nodup member, List.replicate_one,
    List.map_singleton]

variable {Key Entry : Type*} [DecidableEq Key] [Zero Entry]

structure Roster (Key Entry : Type*) where
  entry : Key → Entry
  known : Key → Bool
  listed : List Key

namespace Roster

/-- Store an entry, listing its key if it is not known. -/
def place (roster : Roster Key Entry) (key : Key) (entry : Entry) : Roster Key Entry where
  entry := Function.update roster.entry key entry
  known := Function.update roster.known key true
  listed := if roster.known key then roster.listed else roster.listed ++ [key]

/-- Every listed key and every key with an entry is marked. -/
def Marked (roster : Roster Key Entry) : Prop :=
  ∀ key, key ∈ roster.listed ∨ roster.entry key ≠ 0 → roster.known key = true

/-- The keys are listed once, and exactly those that are marked. -/
structure Indexed (roster : Roster Key Entry) : Prop where
  nodup : roster.listed.Nodup
  known : ∀ key, roster.known key = true ↔ key ∈ roster.listed

/-- The keys are listed once, and exactly those with an entry, which is valid. -/
structure WellFormed (valid : Entry → Prop) (roster : Roster Key Entry) : Prop where
  nodup : roster.listed.Nodup
  known : ∀ key, roster.known key = true ↔ key ∈ roster.listed
  listed : ∀ key, key ∈ roster.listed ↔ roster.entry key ≠ 0
  valid : ∀ key, roster.entry key ≠ 0 → valid (roster.entry key)

variable {valid : Entry → Prop} {roster : Roster Key Entry} {key : Key} {entry : Entry}

theorem Marked.place (marked : roster.Marked) : (roster.place key entry).Marked := by
  intro other stored
  by_cases same : other = key
  · simp [Roster.place, same]
  · simp only [Roster.place, ne_eq, Function.update_of_ne same] at stored ⊢
    apply marked other
    split at stored
    · exact stored
    · simpa [same] using stored

omit [DecidableEq Key] in
theorem WellFormed.indexed (wellFormed : roster.WellFormed valid) : roster.Indexed :=
  ⟨wellFormed.nodup, wellFormed.known⟩

omit [Zero Entry] in
theorem mem_place (indexed : roster.Indexed) {other : Key} :
    other ∈ (roster.place key entry).listed ↔ other ∈ roster.listed ∨ other = key := by
  simp only [place]
  split
  · rename_i known
    have member := (indexed.known key).mp known
    exact ⟨.inl, fun either => either.elim id fun same => same ▸ member⟩
  · simp

omit [Zero Entry] in
theorem Indexed.place (indexed : roster.Indexed) : (roster.place key entry).Indexed := by
  constructor
  · simp only [Roster.place]
    split
    · exact indexed.nodup
    · rename_i unknown
      have absent : key ∉ roster.listed := fun member => unknown ((indexed.known key).mpr member)
      exact List.nodup_append.mpr ⟨indexed.nodup, List.nodup_singleton key, by
        intro other member last single equal
        rw [equal, List.mem_singleton.mp single] at member
        exact absent member⟩
  · intro other
    rw [mem_place indexed, ← indexed.known]
    by_cases same : other = key
    · simp [Roster.place, same]
    · simp [Roster.place, same]

theorem WellFormed.place (wellFormed : roster.WellFormed valid) (nonzero : entry ≠ 0)
    (checked : valid entry) : (roster.place key entry).WellFormed valid := by
  obtain ⟨nodup, known⟩ := wellFormed.indexed.place 
  refine ⟨nodup, known, ?_, ?_⟩
  · intro other
    rw [mem_place wellFormed.indexed, wellFormed.listed]
    by_cases same : other = key
    · simp [Roster.place, same, nonzero]
    · simp [Roster.place, same]
  · intro other present
    by_cases same : other = key
    · simp only [Roster.place, same, Function.update_self]
      exact checked
    · simp only [Roster.place, ne_eq, Function.update_of_ne same] at present ⊢
      exact wellFormed.valid other present

/-- The list grows by a first entry only. -/
theorem WellFormed.length_place (wellFormed : roster.WellFormed valid) [DecidableEq Entry] :
    (roster.place key entry).listed.length =
      roster.listed.length + if roster.entry key = 0 then 1 else 0 := by
  have first : roster.known key = true ↔ roster.entry key ≠ 0 :=
    (wellFormed.known key).trans (wellFormed.listed key)
  by_cases absent : roster.entry key = 0
  · have unknown : roster.known key = false := by
      rw [Bool.eq_false_iff]
      exact fun known => first.mp known absent
    simp [Roster.place, absent, unknown]
  · simp [Roster.place, absent, first.mpr absent]

end Roster

end FairMarket
