import FairMarket.Lib.Run

/-! Two computations side by side, and two runs of a machine that share some of their
steps and have further ones of their own in between. -/

namespace FairMarket

universe u

variable {ε State Input : Type*} {α β γ δ : Type u}

/-- Both computations fail alike, or both return and the results are related. -/
inductive SameOutcome (related : α → β → Prop) : Except ε α → Except ε β → Prop where
  | ok {left : α} {right : β} (near : related left right) : SameOutcome related (.ok left) (.ok right)
  | error (raised : ε) : SameOutcome related (.error raised) (.error raised)

namespace SameOutcome

variable {related : α → β → Prop} {farther : γ → δ → Prop}

theorem mono {weaker : α → β → Prop} (implied : ∀ left right, related left right → weaker left right)
    {left : Except ε α} {right : Except ε β} (same : SameOutcome related left right) :
    SameOutcome weaker left right := by
  cases same with
  | ok near => exact .ok (implied _ _ near)
  | error raised => exact .error raised

theorem bind {left : Except ε α} {right : Except ε β} {first : α → Except ε γ} {second : β → Except ε δ}
    (same : SameOutcome related left right)
    (rest : ∀ x y, left = .ok x → right = .ok y → related x y → SameOutcome farther (first x) (second y)) :
    SameOutcome farther (left >>= first) (right >>= second) := by
  cases same with
  | ok near => exact rest _ _ rfl rfl near
  | error raised => exact .error raised

/-- The two sides start with the same computation. -/
theorem bind_same {start : Except ε α} {first : α → Except ε γ} {second : α → Except ε δ}
    (rest : ∀ x, start = .ok x → SameOutcome farther (first x) (second x)) :
    SameOutcome farther (start >>= first) (start >>= second) := by
  cases start with
  | ok x => exact rest x rfl
  | error raised => exact .error raised

/-- The two sides decide alike. -/
theorem ite {condition : Prop} [Decidable condition] {left other : Except ε α} {right another : Except ε β}
    (holds : condition → SameOutcome related left right)
    (fails : ¬ condition → SameOutcome related other another) :
    SameOutcome related (if condition then left else other) (if condition then right else another) := by
  by_cases met : condition
  · rw [if_pos met, if_pos met]
    exact holds met
  · rw [if_neg met, if_neg met]
    exact fails met

theorem refl {related : α → α → Prop} (reflexive : ∀ x, related x x) (outcome : Except ε α) :
    SameOutcome related outcome outcome := by
  cases outcome with
  | ok x => exact .ok (reflexive x)
  | error raised => exact .error raised

theorem eq {left right : Except ε α} (same : SameOutcome Eq left right) : left = right := by
  cases same with
  | ok near => rw [near]
  | error raised => rfl

end SameOutcome

/-- Both computations do the same, unless one of them fails where the other returns, with an
excuse for it. -/
inductive SameUnless (related : α → β → Prop) (excusedLeft : ε → β → Prop) (excusedRight : α → ε → Prop) :
    Except ε α → Except ε β → Prop where
  | same {left : Except ε α} {right : Except ε β} (same : SameOutcome related left right) :
      SameUnless related excusedLeft excusedRight left right
  | left {raised : ε} {right : β} (excuse : excusedLeft raised right) :
      SameUnless related excusedLeft excusedRight (.error raised) (.ok right)
  | right {left : α} {raised : ε} (excuse : excusedRight left raised) :
      SameUnless related excusedLeft excusedRight (.ok left) (.error raised)

namespace SameUnless

variable {related : α → β → Prop} {excusedLeft : ε → β → Prop} {excusedRight : α → ε → Prop}
  {farther : γ → δ → Prop} {fartherLeft : ε → δ → Prop} {fartherRight : γ → ε → Prop}

theorem mono {weaker : α → β → Prop} {left : Except ε α} {right : Except ε β}
    (same : SameUnless related excusedLeft excusedRight left right)
    (implied : ∀ left right, related left right → weaker left right) :
    SameUnless weaker excusedLeft excusedRight left right := by
  cases same with
  | same same => exact .same (same.mono implied)
  | left excuse => exact .left excuse
  | right excuse => exact .right excuse

/-- The excuses hold where the rest turns an excused result into an excused one. -/
theorem bind {left : Except ε α} {right : Except ε β} {first : α → Except ε γ} {second : β → Except ε δ}
    (same : SameUnless related excusedLeft excusedRight left right)
    (rest : ∀ x y, left = .ok x → right = .ok y → related x y →
      SameUnless farther fartherLeft fartherRight (first x) (second y))
    (restLeft : ∀ raised y, excusedLeft raised y → ∃ result, second y = .ok result ∧ fartherLeft raised result)
    (restRight : ∀ x raised, excusedRight x raised →
      ∃ result, first x = .ok result ∧ fartherRight result raised) :
    SameUnless farther fartherLeft fartherRight (left >>= first) (right >>= second) := by
  cases same with
  | same same =>
    cases same with
    | ok near => exact rest _ _ rfl rfl near
    | error raised => exact .same (.error raised)
  | left excuse =>
    obtain ⟨result, done, excused⟩ := restLeft _ _ excuse
    show SameUnless farther fartherLeft fartherRight (.error _) (second _)
    rw [done]
    exact .left excused
  | right excuse =>
    obtain ⟨result, done, excused⟩ := restRight _ _ excuse
    show SameUnless farther fartherLeft fartherRight (first _) (.error _)
    rw [done]
    exact .right excused

theorem bind_same {start : Except ε α} {first : α → Except ε γ} {second : α → Except ε δ}
    (rest : ∀ x, start = .ok x → SameUnless farther fartherLeft fartherRight (first x) (second x)) :
    SameUnless farther fartherLeft fartherRight (start >>= first) (start >>= second) := by
  cases start with
  | ok x => exact rest x rfl
  | error raised => exact .same (.error raised)

/-- Where nothing is excused both computations do the same. -/
theorem outcome {left : Except ε α} {right : Except ε β}
    (same : SameUnless related excusedLeft excusedRight left right)
    (never : ∀ raised y, ¬ excusedLeft raised y) (neverRight : ∀ x raised, ¬ excusedRight x raised) :
    SameOutcome related left right := by
  cases same with
  | same same => exact same
  | left excuse => exact absurd excuse (never _ _)
  | right excuse => exact absurd excuse (neverRight _ _)

end SameUnless

/-- Two runs that take common steps together, each with further steps of its own. A
condition may look at the state it finds. -/
inductive Interleaved (step : State → Input → Except ε State) (ownLeft ownRight : State → Input → Prop)
    (common : State → State → Input → Input → Prop) : State → State → List Input → List Input → Prop where
  | done (left right : State) : Interleaved step ownLeft ownRight common left right [] []
  | left {left right : State} {input : Input} {first second : List Input} (own : ownLeft left input)
      (rest : Interleaved step ownLeft ownRight common (advance step left input) right first second) :
      Interleaved step ownLeft ownRight common left right (input :: first) second
  | right {left right : State} {input : Input} {first second : List Input} (own : ownRight right input)
      (rest : Interleaved step ownLeft ownRight common left (advance step right input) first second) :
      Interleaved step ownLeft ownRight common left right first (input :: second)
  | both {left right : State} {x y : Input} {first second : List Input} (shared : common left right x y)
      (rest : Interleaved step ownLeft ownRight common (advance step left x) (advance step right y)
        first second) :
      Interleaved step ownLeft ownRight common left right (x :: first) (y :: second)

/-- What is observed of the steps of a run, accepted or not, in order. -/
def observations {Output : Type*} (step : State → Input → Except ε State)
    (observe : State → Input → List Output) : State → List Input → List Output
  | _, [] => []
  | state, input :: rest =>
    observe state input ++ observations step observe (advance step state input) rest

section Runs

variable {step : State → Input → Except ε State} {ownLeft ownRight : State → Input → Prop}
  {common : State → State → Input → Input → Prop} {near : State → State → Prop}

/-- Related states step to related states when both sides do the same. -/
theorem advance_related {left right : State} {x y : Input} (before : near left right)
    (same : SameOutcome near (step left x) (step right y)) :
    near (advance step left x) (advance step right y) := by
  unfold advance
  generalize step left x = after, step right y = other at same
  cases same with
  | ok close => exact close
  | error raised => exact before

/-- What the steps of each side keep, and what the common steps keep, relates the ends. -/
theorem Interleaved.related
    (keepsLeft : ∀ left right input, near left right → ownLeft left input →
      near (advance step left input) right)
    (keepsRight : ∀ left right input, near left right → ownRight right input →
      near left (advance step right input))
    (keeps : ∀ left right x y, near left right → common left right x y →
      near (advance step left x) (advance step right y))
    {left right : State} {first second : List Input}
    (runs : Interleaved step ownLeft ownRight common left right first second)
    (initial : near left right) : near (play step left first) (play step right second) := by
  induction runs with
  | done => exact initial
  | left own rest ih => exact ih (keepsLeft _ _ _ initial own)
  | right own rest ih => exact ih (keepsRight _ _ _ initial own)
  | both shared rest ih => exact ih (keeps _ _ _ _ initial shared)

/-- Where nothing is observed of the steps of their own, and the same of the common ones,
the same is observed of both runs. -/
theorem Interleaved.observations_eq {Output : Type*} {observe : State → Input → List Output}
    (keepsLeft : ∀ left right input, near left right → ownLeft left input →
      near (advance step left input) right)
    (keepsRight : ∀ left right input, near left right → ownRight right input →
      near left (advance step right input))
    (keeps : ∀ left right x y, near left right → common left right x y →
      near (advance step left x) (advance step right y))
    (hiddenLeft : ∀ state input, ownLeft state input → observe state input = [])
    (hiddenRight : ∀ state input, ownRight state input → observe state input = [])
    (seen : ∀ left right x y, near left right → common left right x y → observe left x = observe right y)
    {left right : State} {first second : List Input}
    (runs : Interleaved step ownLeft ownRight common left right first second)
    (initial : near left right) :
    observations step observe left first = observations step observe right second := by
  induction runs with
  | done => rfl
  | left own rest ih =>
    rw [observations, hiddenLeft _ _ own]
    exact ih (keepsLeft _ _ _ initial own)
  | right own rest ih =>
    rw [observations, hiddenRight _ _ own]
    exact ih (keepsRight _ _ _ initial own)
  | both shared rest ih =>
    rw [observations, observations, seen _ _ _ _ initial shared, ih (keeps _ _ _ _ initial shared)]

end Runs

section Replies

variable {Left Right Reply : Type*}

/-- What a machine that answers every input answers. -/
def replies (answer : State → Input → Reply × State) : State → List Input → List Reply
  | _, [] => []
  | state, input :: rest => (answer state input).1 :: replies answer (answer state input).2 rest

/-- Every input meets the condition in the state in which it comes. -/
def Throughout (answer : State → Input → Reply × State) (condition : State → Input → Prop) :
    State → List Input → Prop
  | _, [] => True
  | state, input :: rest =>
    condition state input ∧ Throughout answer condition (answer state input).2 rest

/-- Two machines answer alike as long as they agree on every single answer, where the
relation between their states may depend on the inputs that are still to come. -/
theorem replies_eq_iff {first : Left → Input → Reply × Left} {second : Right → Input → Reply × Right}
    {related : Left → Right → List Input → Prop} {condition : Right → Input → Prop}
    (alike : ∀ left right input rest, related left right (input :: rest) → condition right input →
      (first left input).1 = (second right input).1 ∧
        related (first left input).2 (second right input).2 rest)
    (unlike : ∀ left right input rest, related left right (input :: rest) → ¬ condition right input →
      (first left input).1 ≠ (second right input).1)
    {left : Left} {right : Right} {inputs : List Input} (initial : related left right inputs) :
    replies first left inputs = replies second right inputs ↔ Throughout second condition right inputs := by
  induction inputs generalizing left right with
  | nil => exact iff_of_true rfl trivial
  | cons input rest ih =>
    by_cases met : condition right input
    · obtain ⟨same, later⟩ := alike left right input rest initial met
      rw [replies, replies, same, Throughout, List.cons.injEq, ih later]
      exact and_congr_left fun _ => iff_of_true rfl met
    · refine iff_of_false (fun same => ?_) fun all => met all.1
      exact unlike left right input rest initial met (List.cons.inj same).1

end Replies

end FairMarket
