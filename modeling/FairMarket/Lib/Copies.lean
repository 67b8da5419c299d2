import FairMarket.Lib.Run
import Mathlib.Logic.Function.Basic

/-! Parties with a copy each of one shared value. A write is made on the copy of its
party, and the whole of that copy takes the place of the shared value. -/

namespace FairMarket

variable {Party Value Write Key Record : Type}

structure CopyRules (Party Value Write : Type) where
  blank : Value
  write : Value → Write → Value
  makes : Party → Write → Bool
  /-- The party looks at the shared value again after its start. -/
  rereads : Party → Bool

structure Copies (Party Value : Type) where
  shared : Option Value
  copies : Party → Value
  running : Party → Bool

inductive CopyStep (Party Write : Type) where
  | start (party : Party)
  | reread (party : Party)
  | write (party : Party) (write : Write)

namespace Copies

/-- One step. Without a shared value a party that starts has a blank copy, and one that
rereads keeps what it has. -/
def step [DecidableEq Party] (rules : CopyRules Party Value Write) (state : Copies Party Value) :
    CopyStep Party Write → Except Unit (Copies Party Value)
  | .start party => .ok { state with
      copies := Function.update state.copies party (state.shared.getD rules.blank)
      running := Function.update state.running party true }
  | .reread party =>
    if state.running party ∧ rules.rereads party then .ok { state with
      copies := Function.update state.copies party (state.shared.getD (state.copies party)) }
    else .error ()
  | .write party write =>
    if state.running party ∧ rules.makes party write then
      let copy := rules.write (state.copies party) write
      .ok { state with shared := some copy, copies := Function.update state.copies party copy }
    else .error ()

variable [DecidableEq Party] {rules : CopyRules Party Value Write} {state next : Copies Party Value}
  {party : Party} {write : Write}

theorem step_reread (taken : state.step rules (.reread party) = .ok next) :
    next = { state with
      copies := Function.update state.copies party (state.shared.getD (state.copies party)) } ∧
      state.running party = true ∧ rules.rereads party = true := by
  simp only [step] at taken
  split at taken
  · rename_i allowed
    cases taken
    exact ⟨rfl, allowed⟩
  · cases taken

theorem step_write (taken : state.step rules (.write party write) = .ok next) :
    next = { state with
      shared := some (rules.write (state.copies party) write)
      copies := Function.update state.copies party (rules.write (state.copies party) write) } ∧
      state.running party = true ∧ rules.makes party write = true := by
  simp only [step] at taken
  split at taken
  · rename_i allowed
    cases taken
    exact ⟨rfl, allowed⟩
  · cases taken

/-- The shared value, if there is one, and every copy. -/
structure Everywhere (holds : Value → Prop) (state : Copies Party Value) : Prop where
  shared : ∀ value, state.shared = some value → holds value
  copies : ∀ party, holds (state.copies party)

namespace Everywhere

variable {holds stronger : Value → Prop}

omit [DecidableEq Party] in
theorem mono (everywhere : Everywhere stronger state) (implied : ∀ value, stronger value → holds value) :
    Everywhere holds state where
  shared value stored := implied value (everywhere.shared value stored)
  copies party := implied _ (everywhere.copies party)

theorem update (everywhere : Everywhere holds state) {copy : Value} (holding : holds copy) (party : Party) :
    ∀ other, holds (Function.update state.copies party copy other) := by
  intro other
  by_cases same : other = party
  · rw [same, Function.update_self]
    exact holding
  · rw [Function.update_of_ne same]
    exact everywhere.copies other

omit [DecidableEq Party] in
theorem getD (everywhere : Everywhere holds state) {other : Value} (otherwise : holds other) :
    holds (state.shared.getD other) := by
  cases stored : state.shared with
  | none => exact otherwise
  | some value => exact everywhere.shared value stored

/-- What a blank value has and the writes keep, all of them have. -/
theorem step (everywhere : Everywhere holds state) {input : CopyStep Party Write} (blank : holds rules.blank)
    (writes : ∀ party write, input = .write party write → holds (state.copies party) →
      holds (rules.write (state.copies party) write))
    (taken : state.step rules input = .ok next) : Everywhere holds next := by
  cases input with
  | start party =>
    cases taken
    exact ⟨everywhere.shared, everywhere.update (everywhere.getD blank) party⟩
  | reread party =>
    obtain ⟨rfl, -⟩ := step_reread taken
    exact ⟨everywhere.shared, everywhere.update (everywhere.getD (everywhere.copies party)) party⟩
  | write party write =>
    obtain ⟨rfl, -⟩ := step_write taken
    have written := writes party write rfl (everywhere.copies party)
    refine ⟨?_, everywhere.update written party⟩
    intro value stored
    rw [← Option.some.inj stored]
    exact written

end Everywhere

end Copies

/-- The records of a value. A write keeps every record that it is not about. -/
structure Records (rules : CopyRules Party Value Write) (Key Record : Type) where
  lookup : Value → Key → Option Record
  About : Write → Key → Prop
  frame : ∀ {value write key record}, lookup value key = some record → ¬ About write key →
    lookup (rules.write value write) key = some record

namespace Records

variable [DecidableEq Party] {rules : CopyRules Party Value Write} (records : Records rules Key Record)

/-- The record under a key in the shared value. -/
def shared (state : Copies Party Value) (key : Key) : Option Record :=
  state.shared.bind fun value => records.lookup value key

def StepAbout : CopyStep Party Write → Key → Prop
  | .write _ write, key => records.About write key
  | _, _ => False

/-- A running party that writes has the shared records, those aside that the write is about. -/
def Current (state : Copies Party Value) : CopyStep Party Write → Prop
  | .write party write => state.running party = true → ∀ key record,
      records.shared state key = some record → ¬ records.About write key →
        records.lookup (state.copies party) key = some record
  | _ => True

variable {state next : Copies Party Value} {input : CopyStep Party Write} {key : Key} {record : Record}

theorem shared_step (current : records.Current state input) (other : ¬ records.StepAbout input key)
    (taken : state.step rules input = .ok next) (stored : records.shared state key = some record) :
    records.shared next key = some record := by
  cases input with
  | start party =>
    cases taken
    exact stored
  | reread party =>
    obtain ⟨rfl, -⟩ := Copies.step_reread taken
    exact stored
  | write party write =>
    obtain ⟨rfl, running, -⟩ := Copies.step_write taken
    exact records.frame (current running key record stored other) other

/-- In a run of current steps a shared record stays until a write is about it. -/
theorem shared_play {before after : List (CopyStep Party Write)}
    (current : Along (Copies.step rules) records.Current state (before ++ after))
    (stored : records.shared (play (Copies.step rules) state before) key = some record)
    (other : ∀ input ∈ after, ¬ records.StepAbout input key) :
    records.shared (play (Copies.step rules) state (before ++ after)) key = some record := by
  rw [play_append]
  have untouched : Along (Copies.step rules) (fun _ input => ¬ records.StepAbout input key)
      (play (Copies.step rules) state before) after := Along.of_mem _ other
  have along := (along_append.mp current).2.and untouched
  refine @play_preserves_along _ _ _ _ (fun state => records.shared state key = some record) _ ?_ _
    stored _ along
  intro state input next stored condition taken
  exact records.shared_step condition.1 condition.2 taken stored

end Records

/-- Every write is by a party that has seen the shared value since another one wrote. -/
def relayed [DecidableEq Party] (rules : CopyRules Party Value Write) :
    (Party → Bool) → List (CopyStep Party Write) → Bool
  | _, [] => true
  | seen, .start party :: rest => relayed rules (Function.update seen party true) rest
  | seen, .reread party :: rest =>
    relayed rules (Function.update seen party (seen party || rules.rereads party)) rest
  | seen, .write party _ :: rest => seen party && relayed rules (fun other => other = party) rest

section Relayed

variable [DecidableEq Party] {rules : CopyRules Party Value Write} {state next : Copies Party Value}

/-- The copies of those who have seen the shared value are that value, if there is one. -/
def Copies.InStep (seen : Party → Bool) (state : Copies Party Value) : Prop :=
  ∀ party value, state.running party = true → seen party = true → state.shared = some value →
    state.copies party = value

/-- A party that is handed the shared value is in step with it. -/
theorem Copies.InStep.handed {seen : Party → Bool} (inStep : state.InStep seen) {party : Party}
    {copy : Value} {saw : Bool} {running : Party → Bool}
    (others : ∀ other, other ≠ party → running other = state.running other)
    (handed : ∀ value, saw = true → running party = true → state.shared = some value → copy = value) :
    InStep (Function.update seen party saw)
      { state with
        copies := Function.update state.copies party copy
        running } := by
  intro other value runs saw shared
  by_cases same : other = party
  · subst same
    rw [Function.update_self] at saw
    exact (Function.update_self ..).trans (handed value saw runs shared)
  · rw [Function.update_of_ne same] at saw
    have ran : state.running other = true := (others other same).symm.trans runs
    exact (Function.update_of_ne same ..).trans (inStep other value ran saw shared)

theorem Copies.InStep.reread {seen : Party → Bool} (inStep : state.InStep seen) (party : Party) :
    InStep (Function.update seen party (seen party || rules.rereads party))
      (advance (Copies.step rules) state (.reread party : CopyStep Party Write)) := by
  by_cases allowed : state.running party = true ∧ rules.rereads party = true
  · have taken : state.step rules (.reread party) = .ok { state with
        copies := Function.update state.copies party (state.shared.getD (state.copies party)) } :=
      if_pos allowed
    rw [advance, taken]
    apply inStep.handed
    · intro other differs
      rfl
    · intro value saw runs shared
      rw [shared, Option.getD_some]
  · have refused : state.step rules (.reread party) = .error () := if_neg allowed
    rw [advance, refused]
    intro other value runs saw shared
    by_cases same : other = party
    · subst same
      have blind : rules.rereads other = false := by
        simpa using fun rereads => allowed ⟨runs, rereads⟩
      rw [Function.update_self, blind, Bool.or_false] at saw
      exact inStep other value runs saw shared
    · rw [Function.update_of_ne same] at saw
      exact inStep other value runs saw shared

/-- After a write nobody but the writer is in step, and a refused write changes nothing. -/
theorem Copies.InStep.write {seen : Party → Bool} (inStep : state.InStep seen) {party : Party}
    (saw : seen party = true) (write : Write) :
    InStep (fun other => other = party) (advance (Copies.step rules) state (.write party write)) := by
  intro other value runs same shared
  obtain rfl : other = party := by simpa using same
  rcases advance_cases (Copies.step rules) state (.write other write) with kept | taken
  · rw [kept] at runs shared ⊢
    exact inStep other value runs saw shared
  · obtain ⟨wrote, -⟩ := Copies.step_write taken
    rw [wrote] at shared ⊢
    cases shared
    exact Function.update_self ..

/-- When the parties relay the shared value, every write is current. -/
theorem relayed_current (records : Records rules Key Record) {seen : Party → Bool}
    (inStep : state.InStep seen) {inputs : List (CopyStep Party Write)}
    (relay : relayed rules seen inputs = true) :
    Along (Copies.step rules) records.Current state inputs := by
  induction inputs generalizing state seen with
  | nil => exact trivial
  | cons input rest ih =>
    cases input with
    | start party =>
      refine ⟨trivial, ih ?_ relay⟩
      apply inStep.handed
      · intro other differs
        exact Function.update_of_ne differs ..
      · intro value saw runs shared
        rw [shared, Option.getD_some]
    | reread party =>
      refine ⟨trivial, ih ?_ relay⟩
      exact inStep.reread party
    | write party write =>
      obtain ⟨saw, relay⟩ := Bool.and_eq_true_iff.mp relay
      refine ⟨?_, ih (inStep.write saw write) relay⟩
      intro running key record stored other
      obtain ⟨value, shared, found⟩ := Option.bind_eq_some_iff.mp stored
      rw [inStep party value running saw shared]
      exact found

end Relayed

end FairMarket
