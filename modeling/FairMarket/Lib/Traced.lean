import Mathlib.Tactic.Common

/-! Programs that call the outside world. Every call is noted, whether it returns or throws. -/

namespace FairMarket

variable {Event ε α β : Type}

/-- What a program calls, in order, and what it returns or throws. -/
structure Traced (Event ε α : Type) where
  events : List Event
  result : Except ε α

namespace Traced

instance : Monad (Traced Event ε) where
  pure value := ⟨[], .ok value⟩
  bind first next :=
    match first.result with
    | .ok value => ⟨first.events ++ (next value).events, (next value).result⟩
    | .error raised => ⟨first.events, .error raised⟩

def call (event : Event) (answer : Except ε α) : Traced Event ε α := ⟨[event], answer⟩

/-- A computation that calls nothing. -/
def ofExcept (outcome : Except ε α) : Traced Event ε α := ⟨[], outcome⟩

/-- `try … catch`. -/
def catching (body : Traced Event ε α) (handler : ε → Traced Event ε α) : Traced Event ε α :=
  match body.result with
  | .ok _ => body
  | .error raised => ⟨body.events ++ (handler raised).events, (handler raised).result⟩

/-- `try … finally`. -/
def ensuring (body : Traced Event ε α) (last : Traced Event ε Unit) : Traced Event ε α where
  events := body.events ++ last.events
  result :=
    match last.result with
    | .ok _ => body.result
    | .error raised => .error raised

variable {first : Traced Event ε α} {next : α → Traced Event ε β} {value : α} {raised : ε} {event : Event}

@[simp] theorem pure_eq (value : α) : (pure value : Traced Event ε α) = ⟨[], .ok value⟩ := rfl

theorem bind_of_ok (returned : first.result = .ok value) :
    first >>= next = ⟨first.events ++ (next value).events, (next value).result⟩ := by
  change (match first.result with | .ok _ => _ | .error _ => _) = _
  rw [returned]

theorem bind_of_error (threw : first.result = .error raised) :
    first >>= next = ⟨first.events, .error raised⟩ := by
  change (match first.result with | .ok _ => _ | .error _ => _) = _
  rw [threw]

theorem map_of_ok (returned : first.result = .ok value) (function : α → β) :
    function <$> first = ⟨first.events, .ok (function value)⟩ := by
  change first >>= (fun value => pure (function value)) = _
  rw [bind_of_ok returned, pure_eq, List.append_nil]

theorem map_of_error (threw : first.result = .error raised) (function : α → β) :
    function <$> first = ⟨first.events, .error raised⟩ :=
  bind_of_error threw

@[simp] theorem mk_ok_bind (events : List Event) :
    ((⟨events, .ok value⟩ : Traced Event ε α) >>= next) = ⟨events ++ (next value).events, (next value).result⟩ := rfl

@[simp] theorem mk_error_bind (events : List Event) :
    ((⟨events, .error raised⟩ : Traced Event ε α) >>= next) = ⟨events, .error raised⟩ := rfl

@[simp] theorem mk_ok_catching (events : List Event) {handler : ε → Traced Event ε α} :
    catching ⟨events, .ok value⟩ handler = ⟨events, .ok value⟩ := rfl

@[simp] theorem mk_error_catching (events : List Event) {handler : ε → Traced Event ε α} :
    catching ⟨events, .error raised⟩ handler = ⟨events ++ (handler raised).events, (handler raised).result⟩ := rfl

/-- A loop calls what its turns call, up to the first one that throws. -/
theorem mem_forM_events {turn : α → Traced Event ε PUnit} {items : List α} :
    event ∈ (items.forM turn).events ↔ ∃ before item after, items = before ++ item :: after ∧
      (∀ earlier ∈ before, (turn earlier).result = .ok ⟨⟩) ∧ event ∈ (turn item).events := by
  induction items with
  | nil =>
    refine iff_of_false List.not_mem_nil ?_
    rintro ⟨before, item, after, split, -⟩
    exact absurd split (by simp)
  | cons first rest ih =>
    rw [List.forM_eq_forM, List.forM_cons]
    cases returned : (turn first).result with
    | error raised =>
      rw [bind_of_error returned]
      constructor
      · intro member
        exact ⟨[], first, rest, rfl, List.forall_mem_nil _, member⟩
      · rintro ⟨before, item, after, split, passed, member⟩
        cases before with
        | nil =>
          cases split
          exact member
        | cons other before =>
          cases split
          rw [passed first List.mem_cons_self] at returned
          cases returned
    | ok value =>
      rw [bind_of_ok returned, List.mem_append, ← List.forM_eq_forM, ih]
      constructor
      · rintro (member | ⟨before, item, after, rfl, passed, member⟩)
        · exact ⟨[], first, rest, rfl, List.forall_mem_nil _, member⟩
        · exact ⟨first :: before, item, after, rfl, List.forall_mem_cons.mpr ⟨returned, passed⟩, member⟩
      · rintro ⟨before, item, after, split, passed, member⟩
        cases before with
        | nil =>
          cases split
          exact .inl member
        | cons other before =>
          cases split
          exact .inr ⟨before, item, after, rfl, (List.forall_mem_cons.mp passed).2, member⟩

/-- What is of one kind comes after something of another. -/
def Guarded (kind guard : Event → Prop) : List Event → Prop
  | [] => True
  | event :: rest => ¬ kind event ∧ (guard event ∨ Guarded kind guard rest)

/-- Every call of the program is one of a kind. -/
def Only (kind : Event → Prop) (program : Traced Event ε α) : Prop := ∀ event ∈ program.events, kind event

variable {kind : Event → Prop} {body : Traced Event ε α} {handler : ε → Traced Event ε α}

theorem Only.pure (value : α) : Only kind (pure value : Traced Event ε α) := nofun

theorem Only.call (of_kind : kind event) (answer : Except ε α) : Only kind (call event answer) := by
  intro other member
  rw [List.mem_singleton.mp member]
  exact of_kind

theorem Only.ofExcept (outcome : Except ε α) : Only kind (ofExcept outcome : Traced Event ε α) := nofun

/-- The rest of a program runs only after its start has returned. -/
theorem Only.bind_ok (start : Only kind first) (rest : ∀ value, first.result = .ok value → Only kind (next value)) :
    Only kind (first >>= next) := by
  cases returned : first.result with
  | error raised =>
    rw [bind_of_error returned]
    exact start
  | ok value =>
    rw [bind_of_ok returned]
    intro event member
    rcases List.mem_append.mp member with before | after
    · exact start event before
    · exact rest value returned event after

theorem Only.bind (start : Only kind first) (rest : ∀ value, Only kind (next value)) :
    Only kind (first >>= next) :=
  .bind_ok start fun value _ => rest value

theorem Only.catching (start : Only kind body) (rest : ∀ raised, Only kind (handler raised)) :
    Only kind (body.catching handler) := by
  unfold Traced.catching
  cases body.result with
  | ok value => exact start
  | error raised =>
    intro event member
    rcases List.mem_append.mp member with before | after
    · exact start event before
    · exact rest raised event after

theorem Only.ensuring {last : Traced Event ε Unit} (start : Only kind body) (rest : Only kind last) :
    Only kind (body.ensuring last) := by
  intro event member
  rcases List.mem_append.mp member with before | after
  · exact start event before
  · exact rest event after

theorem Only.forM {turn : α → Traced Event ε PUnit} {items : List α} (each : ∀ item ∈ items, Only kind (turn item)) :
    Only kind (items.forM turn) := by
  intro event member
  obtain ⟨before, item, after, rfl, -, own⟩ := mem_forM_events.mp member
  exact each item (List.mem_append_right _ List.mem_cons_self) event own

variable {guard : Event → Prop} {events rest : List Event}

theorem guarded_append : Guarded kind guard (events ++ rest) ↔
    Guarded kind guard events ∧ ((∃ event ∈ events, guard event) ∨ Guarded kind guard rest) := by
  induction events with
  | nil => simp [Guarded]
  | cons event later ih =>
    simp only [List.cons_append, Guarded, ih]
    by_cases guards : guard event
    · simp [guards]
    · simp [guards, and_assoc]

theorem guarded_of_forall (none : ∀ event ∈ events, ¬ kind event) : Guarded kind guard events := by
  induction events with
  | nil => exact trivial
  | cons event later ih =>
    obtain ⟨own, others⟩ := List.forall_mem_cons.mp none
    exact ⟨own, .inr (ih others)⟩

theorem guarded_bind (start : Guarded kind guard first.events)
    (later : ∀ value, first.result = .ok value →
      (∃ event ∈ first.events, guard event) ∨ Guarded kind guard (next value).events) :
    Guarded kind guard (first >>= next).events := by
  cases returned : first.result with
  | error raised =>
    rw [bind_of_error returned]
    exact start
  | ok value =>
    rw [bind_of_ok returned]
    exact guarded_append.mpr ⟨start, later value returned⟩

theorem guarded_catching (start : Guarded kind guard body.events)
    (later : ∀ raised, Guarded kind guard (handler raised).events) :
    Guarded kind guard (body.catching handler).events := by
  unfold Traced.catching
  cases body.result with
  | ok value => exact start
  | error raised => exact guarded_append.mpr ⟨start, .inr (later raised)⟩

theorem guarded_forM {turn : α → Traced Event ε PUnit} {items : List α}
    (each : ∀ item ∈ items, Guarded kind guard (turn item).events) :
    Guarded kind guard (items.forM turn).events := by
  induction items with
  | nil => exact trivial
  | cons item later ih =>
    obtain ⟨own, others⟩ := List.forall_mem_cons.mp each
    rw [List.forM_eq_forM, List.forM_cons]
    exact guarded_bind own fun _ _ => .inr (ih others)

end Traced

end FairMarket
