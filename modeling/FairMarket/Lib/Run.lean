import FairMarket.Lib.Guard
import Mathlib.Data.List.Induction

/-! Runs of a machine whose steps may be refused. A refused step leaves the
state as it was, as a reverted transaction does. -/

namespace FairMarket

variable {ε State Input : Type*}

/-- Take one step, keeping the state when the step is refused. -/
def advance (step : State → Input → Except ε State) (state : State) (input : Input) : State :=
  match step state input with
  | .ok next => next
  | .error _ => state

/-- Play a list of inputs from left to right. -/
def play (step : State → Input → Except ε State) (state : State) (inputs : List Input) : State :=
  inputs.foldl (advance step) state

variable {step : State → Input → Except ε State}

@[simp] theorem play_nil (state : State) : play step state [] = state := rfl

@[simp] theorem play_cons (state : State) (input : Input) (rest : List Input) :
    play step state (input :: rest) = play step (advance step state input) rest := rfl

theorem play_append (state : State) (first rest : List Input) :
    play step state (first ++ rest) = play step (play step state first) rest :=
  List.foldl_append ..

theorem advance_cases (step : State → Input → Except ε State) (state : State) (input : Input) :
    advance step state input = state ∨ step state input = .ok (advance step state input) := by
  unfold advance
  cases taken : step state input with
  | ok next => exact .inr rfl
  | error raised => exact .inl rfl

theorem advance_ok {state next : State} {input : Input} (done : step state input = .ok next) :
    advance step state input = next := by
  rw [advance, done]

theorem advance_refused {state : State} {input : Input} (refused : (step state input).toOption.isNone = true) :
    advance step state input = state := by
  unfold advance
  cases taken : step state input with
  | error raised => rfl
  | ok next =>
    rw [taken] at refused
    cases refused

/-- The states a run goes through, from the first to the last. -/
def visited (step : State → Input → Except ε State) (state : State) : List Input → List State
  | [] => [state]
  | input :: rest => state :: visited step (advance step state input) rest

/-- A relation that every accepted step and every refused one stands in chains
the states of a run. -/
theorem visited_isChain {invariant : State → Prop} {related : State → State → Prop}
    (reflexive : ∀ state, related state state)
    (preserved : ∀ state input next, invariant state → step state input = .ok next →
      invariant next ∧ related state next)
    {state : State} (initial : invariant state) (inputs : List Input) :
    ∃ rest, visited step state inputs = state :: rest ∧ List.IsChain related (state :: rest) := by
  induction inputs generalizing state with
  | nil => exact ⟨[], rfl, .singleton state⟩
  | cons input rest ih =>
    have move : invariant (advance step state input) ∧ related state (advance step state input) := by
      rcases advance_cases step state input with kept | taken
      · rw [kept]
        exact ⟨initial, reflexive state⟩
      · exact preserved state input _ initial taken
    obtain ⟨later, same, chain⟩ := ih move.1
    refine ⟨_, rfl, ?_⟩
    rw [same]
    exact List.isChain_cons_cons.mpr ⟨move.2, chain⟩

/-- What every accepted step preserves, every run preserves. -/
theorem play_preserves {invariant : State → Prop}
    (preserved : ∀ state input next, invariant state → step state input = .ok next → invariant next)
    {state : State} (initial : invariant state) (inputs : List Input) :
    invariant (play step state inputs) := by
  induction inputs generalizing state with
  | nil => exact initial
  | cons input rest ih =>
    apply ih
    rcases advance_cases step state input with kept | taken
    · rwa [kept]
    · exact preserved state input _ initial taken

/-- Every step of the run meets `condition` in the state it starts from. -/
def Along (step : State → Input → Except ε State) (condition : State → Input → Prop) :
    State → List Input → Prop
  | _, [] => True
  | state, input :: rest =>
    condition state input ∧ Along step condition (advance step state input) rest

/-- Preservation along a run whose steps all meet a condition. -/
theorem play_preserves_along {invariant : State → Prop} {condition : State → Input → Prop}
    (preserved : ∀ state input next, invariant state → condition state input →
      step state input = .ok next → invariant next)
    {state : State} (initial : invariant state) {inputs : List Input}
    (along : Along step condition state inputs) : invariant (play step state inputs) := by
  induction inputs generalizing state with
  | nil => exact initial
  | cons input rest ih =>
    refine ih ?_ along.2
    rcases advance_cases step state input with kept | taken
    · rwa [kept]
    · exact preserved state input _ initial along.1 taken

theorem along_append {condition : State → Input → Prop} {state : State} {first rest : List Input} :
    Along step condition state (first ++ rest) ↔
      Along step condition state first ∧ Along step condition (play step state first) rest := by
  induction first generalizing state with
  | nil => exact ⟨fun along => ⟨trivial, along⟩, fun along => along.2⟩
  | cons input first ih =>
    simp only [List.cons_append, Along, play_cons, ih, and_assoc]

/-- What the accepted steps of a run put out, in order. -/
def outputs {Output : Type*} (step : State → Input → Except ε State)
    (observe : State → Input → List Output) : State → List Input → List Output
  | _, [] => []
  | state, input :: rest =>
    match step state input with
    | .ok next => observe state input ++ outputs step observe next rest
    | .error _ => outputs step observe state rest

section Outputs

variable {Output : Type*} {observe : State → Input → List Output} {start state : State}
  {inputs : List Input} {input : Input}

theorem outputs_append (state : State) (first rest : List Input) :
    outputs step observe state (first ++ rest) =
      outputs step observe state first ++ outputs step observe (play step state first) rest := by
  induction first generalizing state with
  | nil => rfl
  | cons input first ih =>
    simp only [List.cons_append, outputs, play_cons, advance]
    cases step state input with
    | ok next =>
      dsimp only
      rw [ih next, List.append_assoc]
    | error raised => exact ih state

theorem outputs_accepted {next : State} (done : step (play step start inputs) input = .ok next) :
    outputs step observe start (inputs ++ [input]) =
      outputs step observe start inputs ++ observe (play step start inputs) input := by
  simp [outputs_append, outputs, done]

theorem outputs_refused {raised : ε} (refused : step (play step start inputs) input = .error raised) :
    outputs step observe start (inputs ++ [input]) = outputs step observe start inputs := by
  simp [outputs_append, outputs, refused]

theorem play_accepted {next : State} (done : step (play step start inputs) input = .ok next) :
    play step start (inputs ++ [input]) = next := by
  simp [play_append, advance, done]

theorem play_refused {raised : ε} (refused : step (play step start inputs) input = .error raised) :
    play step start (inputs ++ [input]) = play step start inputs := by
  simp [play_append, advance, refused]

end Outputs

/-- Conditions of the single steps hold together where each of them holds. -/
theorem Along.and {first second : State → Input → Prop} {state : State} {inputs : List Input}
    (left : Along step first state inputs) (right : Along step second state inputs) :
    Along step (fun state input => first state input ∧ second state input) state inputs := by
  induction inputs generalizing state with
  | nil => exact trivial
  | cons input rest ih => exact ⟨⟨left.1, right.1⟩, ih left.2 right.2⟩

theorem Along.of_forall {condition : State → Input → Prop}
    (always : ∀ state input, condition state input) (state : State) (inputs : List Input) :
    Along step condition state inputs := by
  induction inputs generalizing state with
  | nil => exact trivial
  | cons input rest ih => exact ⟨always state input, ih _⟩

theorem Along.of_mem {condition : Input → Prop} (state : State) {inputs : List Input}
    (always : ∀ input ∈ inputs, condition input) :
    Along step (fun _ input => condition input) state inputs := by
  induction inputs generalizing state with
  | nil => exact trivial
  | cons input rest ih =>
    refine ⟨always input List.mem_cons_self, ih _ ?_⟩
    intro other member
    exact always other (List.mem_cons_of_mem input member)

/-- Preservation along a run, by steps that may use how their state was reached. -/
theorem play_preserves_reached {invariant : State → Prop} {condition : State → Input → Prop}
    {start : State} (initial : invariant start)
    (preserved : ∀ inputs input next, Along step condition start inputs →
      invariant (play step start inputs) → condition (play step start inputs) input →
        step (play step start inputs) input = .ok next → invariant next)
    {inputs : List Input} (along : Along step condition start inputs) :
    invariant (play step start inputs) := by
  induction inputs using List.reverseRecOn with
  | nil => exact initial
  | append_singleton inputs input ih =>
    obtain ⟨before, last, -⟩ := along_append.mp along
    have reached := ih before
    rw [play_append, play_cons, play_nil]
    rcases advance_cases step (play step start inputs) input with kept | taken
    · rwa [kept]
    · exact preserved inputs input _ before reached last taken

end FairMarket
