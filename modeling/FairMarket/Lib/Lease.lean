import Mathlib.Data.Nat.Notation
import Mathlib.Logic.Function.Basic
import Mathlib.Logic.Relation
import Mathlib.Order.Basic

/-! A lease on one resource that runs out by itself. What the arbiter has recorded and what
the parties believe to hold are kept apart. -/

namespace FairMarket

structure Lease (Party : Type*) where
  now : ℕ := 0
  /-- Who was given the lease, and until when. -/
  entry : Option (Party × ℕ) := none
  /-- Until when each party believes to hold it. -/
  believed : Party → Option ℕ := fun _ => none

namespace Lease

variable {Party : Type*}

/-- The party believes to hold the lease, and its time is not up. -/
def Holds (lease : Lease Party) (party : Party) : Prop :=
  ∃ deadline, lease.believed party = some deadline ∧ lease.now < deadline

def Exclusive (lease : Lease Party) : Prop :=
  ∀ first second, lease.Holds first → lease.Holds second → first = second

/-- Whoever holds the lease is the one recorded. -/
def Recorded (lease : Lease Party) : Prop :=
  ∀ party deadline, lease.believed party = some deadline → lease.now < deadline →
    lease.entry = some (party, deadline)

variable {lease next : Lease Party}

theorem Recorded.exclusive (recorded : lease.Recorded) : lease.Exclusive := by
  rintro first second ⟨deadline, believed, unexpired⟩ ⟨other, also, running⟩
  have one := recorded first deadline believed unexpired
  rw [recorded second other also running, Option.some.injEq, Prod.mk.injEq] at one
  exact one.1.symm

theorem recorded_initial : ({} : Lease Party).Recorded := nofun

variable [DecidableEq Party]

/-- What keeps a lease exclusive: it is given away only when it is free, and the record is
wiped only when it is nobody's. -/
inductive Step (lease : Lease Party) : Lease Party → Prop where
  | skip : Step lease lease
  | wait (elapsed : ℕ) : Step lease { lease with now := lease.now + elapsed }
  | grant (party : Party) (duration : ℕ)
      (free : ∀ other deadline, lease.entry = some (other, deadline) → lease.now < deadline →
        other = party) :
      Step lease { lease with
        entry := some (party, lease.now + duration)
        believed := Function.update lease.believed party (some (lease.now + duration)) }
  | forget (party : Party) : Step lease { lease with believed := Function.update lease.believed party none }
  | wipe (vacant : ∀ party deadline, lease.entry = some (party, deadline) → ¬ lease.Holds party) :
      Step lease { lease with entry := none }

theorem Recorded.step (recorded : lease.Recorded) (step : Step lease next) : next.Recorded := by
  intro party deadline believed unexpired
  cases step with
  | skip => exact recorded party deadline believed unexpired
  | wait elapsed =>
    apply recorded party deadline believed
    exact Nat.lt_of_le_of_lt (Nat.le_add_right ..) unexpired
  | grant granted duration free =>
    dsimp only at believed unexpired ⊢
    by_cases own : party = granted
    · subst own
      rw [Function.update_self] at believed
      rw [Option.some.inj believed]
    · rw [Function.update_of_ne own] at believed
      exact absurd (free party deadline (recorded party deadline believed unexpired) unexpired) own
  | forget forgetful =>
    dsimp only at believed unexpired ⊢
    by_cases own : party = forgetful
    · rw [own, Function.update_self] at believed
      cases believed
    · rw [Function.update_of_ne own] at believed
      exact recorded party deadline believed unexpired
  | wipe vacant =>
    have entry := recorded party deadline believed unexpired
    exact absurd ⟨deadline, believed, unexpired⟩ (vacant party deadline entry)

theorem Recorded.steps (recorded : lease.Recorded) (steps : Relation.ReflTransGen Step lease next) :
    next.Recorded := by
  induction steps with
  | refl => exact recorded
  | tail _ step ih => exact ih.step step

end Lease

end FairMarket
