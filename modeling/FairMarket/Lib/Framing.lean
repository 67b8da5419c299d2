import Mathlib.Data.List.Infix
import Mathlib.Data.List.Induction
import Mathlib.Tactic.Common

/-! Messages that come in pieces. What has come so far is read anew with every piece, until
it is a whole message. -/

namespace FairMarket

variable {Byte Outcome : Type}

section Marks

variable [DecidableEq Byte]

/-- Where the mark is found first. -/
def indexOf (mark : List Byte) : List Byte → Option ℕ
  | [] => none
  | byte :: rest => if mark <+: byte :: rest then some 0 else (indexOf mark rest).map (· + 1)

theorem indexOf_absent {mark bytes : List Byte} {byte : Byte} (needed : byte ∈ mark) (absent : byte ∉ bytes) :
    indexOf mark bytes = none := by
  induction bytes with
  | nil => rfl
  | cons other rest ih =>
    have further := ih fun member => absent (List.mem_cons_of_mem other member)
    rw [indexOf, further, if_neg fun start => absent (start.subset needed)]
    rfl

theorem indexOf_first {first : Byte} {mark body : List Byte} (absent : first ∉ body) (rest : List Byte) :
    indexOf (first :: mark) (body ++ first :: (mark ++ rest)) = some body.length := by
  induction body with
  | nil => exact if_pos (List.cons_prefix_cons.mpr ⟨rfl, List.prefix_append mark rest⟩)
  | cons other body ih =>
    obtain ⟨differs, later⟩ := not_or.mp (List.mem_cons.not.mp absent)
    rw [List.cons_append, indexOf, ih later, if_neg fun start => differs (List.cons_prefix_cons.mp start).1]
    rfl

end Marks

/-- Only as a whole is the message read, and then for this. -/
structure Delimits (read : List Byte → Option Outcome) (message : List Byte) (outcome : Outcome) : Prop where
  nonempty : message ≠ []
  whole : read message = some outcome
  part : ∀ first rest, first ++ rest = message → rest ≠ [] → read first = none

structure Receiver (Byte Outcome : Type) where
  buffer : List Byte := []
  settled : Option Outcome := none

/-- Take a piece in. What was settled first stands. -/
def Receiver.receive (read : List Byte → Option Outcome) (receiver : Receiver Byte Outcome) (chunk : List Byte) :
    Receiver Byte Outcome where
  buffer := receiver.buffer ++ chunk
  settled := receiver.settled <|> read (receiver.buffer ++ chunk)

variable {read : List Byte → Option Outcome} {message : List Byte} {outcome : Outcome}

theorem Receiver.buffer_received (chunks : List (List Byte)) :
    (chunks.foldl (Receiver.receive read) {}).buffer = chunks.flatten := by
  induction chunks using List.reverseRecOn with
  | nil => rfl
  | append_singleton chunks chunk ih =>
    rw [List.foldl_append, List.foldl_cons, List.foldl_nil, Receiver.receive, ih, List.flatten_append,
      List.flatten_singleton]

/-- However a message is cut, it is settled when the last of it has come, and not before. -/
theorem Delimits.received (delimits : Delimits read message outcome) (chunks : List (List Byte)) {rest : List Byte}
    (within : chunks.flatten ++ rest = message) :
    (chunks.foldl (Receiver.receive read) {}).settled = if rest = [] then some outcome else none := by
  induction chunks using List.reverseRecOn generalizing rest with
  | nil =>
    have whole : rest = message := within
    rw [whole, if_neg delimits.nonempty]
    rfl
  | append_singleton chunks chunk ih =>
    rw [List.flatten_append, List.flatten_singleton] at within
    have before := ih ((List.append_assoc _ _ _).symm.trans within)
    rw [List.foldl_append, List.foldl_cons, List.foldl_nil, Receiver.receive, Receiver.buffer_received]
    dsimp only
    rw [before]
    by_cases last : rest = []
    · rw [last, List.append_nil] at within
      rw [if_pos last, within, delimits.whole]
      split
      · rfl
      · rfl
    · have more : chunk ++ rest ≠ [] := fun empty => last (List.append_eq_nil_iff.mp empty).2
      rw [if_neg last, if_neg more, delimits.part _ rest within last]
      rfl

end FairMarket
