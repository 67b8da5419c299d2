import FairMarket.Lib.Guard

/-! Programs on a machine that others also use. What others do comes between a program's own
actions, and what has been done before a program throws stays done. -/

namespace FairMarket

variable {State Failure Other α β : Type}

theorem mapError_eq_ok {rename : Failure → Other} {outcome : Except Failure α} {value : α} :
    outcome.mapError rename = .ok value ↔ outcome = .ok value := by
  cases outcome with
  | ok returned => rw [Except.mapError, Except.ok.injEq, Except.ok.injEq]
  | error raised => simp [Except.mapError]

/-- What a program makes of the machine, and what it returns or throws. -/
def Guest (State Failure α : Type) : Type := State → Except Failure α × State

namespace Guest

instance : Monad (Guest State Failure) where
  pure value := fun state => (.ok value, state)
  bind first next := fun state =>
    match first state with
    | (.ok value, later) => next value later
    | (.error raised, later) => (.error raised, later)

/-- Ask the machine for something. -/
def ask (read : State → Except Failure α) : Guest State Failure α := fun state => (read state, state)

def raise (raised : Failure) : Guest State Failure α := ask fun _ => .error raised

def ofExcept (outcome : Except Failure α) : Guest State Failure α := ask fun _ => outcome

/-- The others have their turn. -/
def meanwhile (others : State → State) : Guest State Failure Unit := fun state => (.ok (), others state)

/-- A `try` whose `catch` throws something else. -/
def rethrowing (rename : Failure → Other) (body : Guest State Failure α) : Guest State Other α :=
  fun state => ((body state).1.mapError rename, (body state).2)

/-- A `try` whose `catch` goes on without a value. -/
def caught (body : Guest State Failure α) : Guest State Failure (Option α) :=
  fun state => (.ok (body state).1.toOption, (body state).2)

/-- The program returns, and leaves the machine in a state. -/
def Returns (program : Guest State Failure α) (state : State) (value : α) (last : State) : Prop :=
  program state = (.ok value, last)

variable {first : Guest State Failure α} {next : α → Guest State Failure β} {state last : State} {value returned : α}
  {result : β} {raised : Failure} {body : Guest State Failure α}

@[simp] theorem pure_returns :
    (pure value : Guest State Failure α).Returns state returned last ↔ value = returned ∧ state = last := by
  change (Except.ok value, state) = (.ok returned, last) ↔ _
  rw [Prod.mk.injEq, Except.ok.injEq]

theorem bind_returns : (first >>= next).Returns state result last ↔
    ∃ value middle, first.Returns state value middle ∧ (next value).Returns middle result last := by
  change (match first state with | (.ok _, _) => _ | (.error _, _) => _) = _ ↔ _
  unfold Returns
  cases first state with
  | mk outcome later =>
    cases outcome with
    | error raised => simp
    | ok value => simp

@[simp] theorem ask_returns {read : State → Except Failure α} :
    (ask read).Returns state value last ↔ read state = .ok value ∧ state = last := by
  change (read state, state) = (.ok value, last) ↔ _
  rw [Prod.mk.injEq]

@[simp] theorem raise_returns : ¬ (raise raised : Guest State Failure α).Returns state value last := by
  intro returns
  cases (ask_returns.mp returns).1

@[simp] theorem meanwhile_returns {others : State → State} {answer : Unit} :
    (meanwhile others : Guest State Failure Unit).Returns state answer last ↔ others state = last := by
  change (Except.ok (), others state) = (.ok answer, last) ↔ _
  rw [Prod.mk.injEq, eq_self, true_and]

theorem rethrowing_returns {rename : Failure → Other} :
    (rethrowing rename body).Returns state value last ↔ body.Returns state value last := by
  change ((body state).1.mapError rename, (body state).2) = (.ok value, last) ↔ body state = _
  rw [Prod.mk.injEq, mapError_eq_ok, Prod.ext_iff]

theorem caught_returns {answer : Option α} : (caught body).Returns state answer last ↔
    (body state).1.toOption = answer ∧ (body state).2 = last := by
  change (Except.ok _, _) = (.ok answer, last) ↔ _
  rw [Prod.mk.injEq, Except.ok.injEq]

theorem returns_of_caught (returned : (caught body).Returns state (some value) last) :
    body.Returns state value last := by
  obtain ⟨answer, rfl⟩ := caught_returns.mp returned
  refine Prod.ext ?_ rfl
  cases outcome : (body state).1 with
  | error raised =>
    rw [outcome] at answer
    cases answer
  | ok result =>
    rw [outcome] at answer
    exact congrArg Except.ok (Option.some.inj answer)

/-- A value that is only renamed leaves the machine as it is. -/
theorem after_bind_pure (rename : α → β) :
    ((body >>= fun value => pure (rename value)) state).2 = (body state).2 := by
  have unfolded : (body >>= fun value => pure (rename value)) state = match body state with
      | (.ok value, later) => (.ok (rename value), later)
      | (.error raised, later) => (.error raised, later) := rfl
  rw [unfolded]
  cases body state with
  | mk outcome later => cases outcome <;> rfl

end Guest

end FairMarket
