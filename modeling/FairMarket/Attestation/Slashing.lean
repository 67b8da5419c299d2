import FairMarket.Contracts.MockEigenLayerAVS
import FairMarket.Lib.Interleave

/-! What a verification leaves behind. The service keeps all but its slash counters, and
no verdict depends on these until one of them is full. -/

namespace FairMarket

/-- Flagged replies that are related, unless one side rejects and the other one overflows
because a counter is full. -/
abbrev SameReply {α β : Type} (related : Bool × α → Bool × β → Prop) (full fullToo : Prop) :
    Except Revert (Bool × α) → Except Revert (Bool × β) → Prop :=
  SameUnless related (fun raised y => raised = .arithmeticOverflow ∧ y.1 = false ∧ full)
    (fun x raised => raised = .arithmeticOverflow ∧ x.1 = false ∧ fullToo)

theorem SameReply.outcome {α β : Type} {related : Bool × α → Bool × β → Prop}
    {left : Except Revert (Bool × α)} {right : Except Revert (Bool × β)}
    (same : SameReply related False False left right) : SameOutcome related left right :=
  SameUnless.outcome same (fun _ _ excuse => excuse.2.2) (fun _ _ excuse => excuse.2.2)

namespace MockEigenLayerAVS

/-- The service with its slash counters left out. -/
def withoutSlashes (avs : MockEigenLayerAVS) : MockEigenLayerAVS :=
  { avs with slashCount := fun _ => 0 }

/-- An operator the proof names has a counter that no further slash fits in. -/
def Saturated (avs : MockEigenLayerAVS) (proof : Proof) : Prop :=
  ∃ envelope operator, proof = some envelope ∧ operator ∈ envelope.operators ∧
    ¬ FitsUint256 (avs.slashCount operator + 1)

variable {avs other judged : MockEigenLayerAVS} {chain : Chain} {operators : List Address}

theorem isOperator_eq (near : avs.withoutSlashes = other.withoutSlashes) :
    avs.isOperator = other.isOperator :=
  show avs.withoutSlashes.isOperator = other.withoutSlashes.isOperator by rw [near]

theorem threshold_eq (near : avs.withoutSlashes = other.withoutSlashes) :
    avs.threshold = other.threshold :=
  show avs.withoutSlashes.threshold = other.withoutSlashes.threshold by rw [near]

/-- A slash loop fails at an operator it reaches with a full counter. -/
theorem slashFrom_error {isOperator : Address → Bool} {prior : List Address}
    {slashCount : Address → ℕ} {raised : Revert}
    (failed : slashFrom isOperator prior slashCount operators = .error raised) :
    raised = .arithmeticOverflow ∧
      ∃ operator ∈ operators, operator ∉ prior ∧ ¬ FitsUint256 (slashCount operator + 1) := by
  induction operators generalizing prior slashCount with
  | nil => cases failed
  | cons operator rest ih =>
    unfold slashFrom at failed
    split at failed
    · obtain ⟨overflow, later, listed, fresh, full⟩ := ih failed
      exact ⟨overflow, later, .tail _ listed, fun before => fresh (List.mem_append_left _ before), full⟩
    · rename_i reached
      simp only [not_or, not_not] at reached
      rcases bind_eq_error.mp failed with counted | ⟨count, -, continued⟩
      · obtain ⟨full, rfl⟩ := checkedAdd_eq_error.mp counted
        exact ⟨rfl, operator, .head _, reached.2, full⟩
      · obtain ⟨overflow, later, listed, fresh, full⟩ := ih continued
        simp only [List.mem_append, List.mem_singleton, not_or] at fresh
        rw [Function.update_of_ne fresh.2] at full
        exact ⟨overflow, later, .tail _ listed, fresh.1, full⟩

/-- A rejection slashes, or fails at a full counter. -/
theorem rejectSlashing_cases (avs : MockEigenLayerAVS) (operators : List Address) :
    (∃ slashed, avs.rejectSlashing operators = .ok (false, slashed) ∧
      slashed.withoutSlashes = avs.withoutSlashes) ∨
    (avs.rejectSlashing operators = .error .arithmeticOverflow ∧
      ∃ operator ∈ operators, ¬ FitsUint256 (avs.slashCount operator + 1)) := by
  unfold rejectSlashing slashOperators
  cases slashed : slashFrom avs.isOperator [] avs.slashCount operators with
  | ok slashCount => exact .inl ⟨_, rfl, rfl⟩
  | error raised =>
    obtain ⟨rfl, operator, listed, -, full⟩ := slashFrom_error slashed
    exact .inr ⟨rfl, operator, listed, full⟩

theorem rejectSlashing_keeps {accepted : Bool}
    (done : avs.rejectSlashing operators = .ok (accepted, judged)) :
    judged.withoutSlashes = avs.withoutSlashes := by
  rcases avs.rejectSlashing_cases operators with ⟨slashed, rejected, kept⟩ | ⟨failed, -⟩
  · rw [rejected] at done
    cases done
    exact kept
  · rw [failed] at done
    cases done

theorem verifyQuorum_keeps {digest : Except Revert Digest} {envelope : ProofEnvelope} {accepted : Bool}
    (done : avs.verifyQuorum chain digest envelope = .ok (accepted, judged)) :
    judged.withoutSlashes = avs.withoutSlashes := by
  unfold verifyQuorum at done
  split at done
  · cases done
    rfl
  · simp only [bind_eq_ok] at done
    obtain ⟨signed, -, agreed, -, done⟩ := done
    split at done
    · cases done
      rfl
    · exact rejectSlashing_keeps done

theorem verifyEnvelope_keeps {digest : Except Revert Digest} {auctionId : AuctionId}
    {requestId winner winnerCiphertext : Bytes32} {winningAmount : ℕ} {envelope : ProofEnvelope}
    {accepted : Bool}
    (done : avs.verifyEnvelope chain digest auctionId requestId winner winnerCiphertext winningAmount
      envelope = .ok (accepted, judged)) : judged.withoutSlashes = avs.withoutSlashes := by
  simp only [verifyEnvelope, bind_eq_ok] at done
  obtain ⟨-, -, done⟩ := done
  split at done
  · exact rejectSlashing_keeps done
  · exact verifyQuorum_keeps done

theorem verifyAttestation_keeps {self market : Address} {auctionId : AuctionId} {requestId : Bytes32}
    {winner : Address} {winnerCiphertext : Bytes32} {winningAmount : ℕ} {proof : Proof} {accepted : Bool}
    (done : avs.verifyAttestation chain self market auctionId requestId winner winnerCiphertext
      winningAmount proof = .ok (accepted, judged)) : judged.withoutSlashes = avs.withoutSlashes := by
  simp only [verifyAttestation, bind_eq_ok] at done
  obtain ⟨envelope, -, -, -, done⟩ := done
  exact verifyEnvelope_keeps done

theorem verifyShieldedAttestation_keeps {self market : Address} {auctionId : AuctionId}
    {requestId winnerIdentity winnerCiphertext : Bytes32} {winningAmount : ℕ} {proof : Proof}
    {accepted : Bool}
    (done : avs.verifyShieldedAttestation chain self market auctionId requestId winnerIdentity
      winnerCiphertext winningAmount proof = .ok (accepted, judged)) :
    judged.withoutSlashes = avs.withoutSlashes := by
  simp only [verifyShieldedAttestation, bind_eq_ok] at done
  obtain ⟨envelope, -, done⟩ := done
  exact verifyEnvelope_keeps done

/-- Both services judge alike and stay alike, unless one of them rejects the proof and the
other one has a full counter. -/
abbrev SameVerdict (avs other : MockEigenLayerAVS) (proof : Proof) :
    Except Revert (Bool × MockEigenLayerAVS) → Except Revert (Bool × MockEigenLayerAVS) → Prop :=
  SameReply (fun x y => x.1 = y.1 ∧ x.2.withoutSlashes = y.2.withoutSlashes) (avs.Saturated proof)
    (other.Saturated proof)

theorem rejectSlashing_sameVerdict (near : avs.withoutSlashes = other.withoutSlashes)
    (envelope : ProofEnvelope) :
    SameVerdict avs other (some envelope) (avs.rejectSlashing envelope.operators)
      (other.rejectSlashing envelope.operators) := by
  rcases avs.rejectSlashing_cases envelope.operators with ⟨slashed, rejected, kept⟩ | ⟨failed, operator, listed, full⟩ <;>
    rcases other.rejectSlashing_cases envelope.operators with
      ⟨slashedToo, rejectedToo, keptToo⟩ | ⟨failedToo, otherOperator, listedToo, fullToo⟩
  · rw [rejected, rejectedToo]
    exact .same (.ok ⟨rfl, kept.trans (near.trans keptToo.symm)⟩)
  · rw [rejected, failedToo]
    exact .right ⟨rfl, rfl, envelope, otherOperator, rfl, listedToo, fullToo⟩
  · rw [failed, rejectedToo]
    exact .left ⟨rfl, rfl, envelope, operator, rfl, listed, full⟩
  · rw [failed, failedToo]
    exact .same (.error _)

theorem signersAccepted_eq (near : avs.withoutSlashes = other.withoutSlashes) {digest : Digest}
    (prior : List Address) (signers : List (Address × Signature)) :
    avs.signersAccepted chain digest prior signers = other.signersAccepted chain digest prior signers := by
  induction signers generalizing prior with
  | nil => rfl
  | cons signer rest ih =>
    unfold signersAccepted
    rw [isOperator_eq near, ih]

theorem verifyQuorum_sameVerdict (near : avs.withoutSlashes = other.withoutSlashes)
    {digest : Except Revert Digest} (envelope : ProofEnvelope) :
    SameVerdict avs other (some envelope) (avs.verifyQuorum chain digest envelope)
      (other.verifyQuorum chain digest envelope) := by
  unfold verifyQuorum
  rw [threshold_eq near]
  split
  · exact .same (.ok ⟨rfl, near⟩)
  · refine .bind_same fun signed _ => ?_
    rw [signersAccepted_eq near]
    refine .bind_same fun accepted _ => ?_
    split
    · exact .same (.ok ⟨rfl, near⟩)
    · exact rejectSlashing_sameVerdict near envelope

theorem verifyEnvelope_sameVerdict (near : avs.withoutSlashes = other.withoutSlashes)
    {digest : Except Revert Digest} {auctionId : AuctionId}
    {requestId winner winnerCiphertext : Bytes32} {winningAmount : ℕ} (envelope : ProofEnvelope) :
    SameVerdict avs other (some envelope)
      (avs.verifyEnvelope chain digest auctionId requestId winner winnerCiphertext winningAmount envelope)
      (other.verifyEnvelope chain digest auctionId requestId winner winnerCiphertext winningAmount
        envelope) := by
  unfold verifyEnvelope
  refine .bind_same fun _ _ => ?_
  split
  · exact rejectSlashing_sameVerdict near envelope
  · exact verifyQuorum_sameVerdict near envelope

theorem verifyAttestation_sameVerdict (near : avs.withoutSlashes = other.withoutSlashes)
    {self market : Address} {auctionId : AuctionId} {requestId : Bytes32} {winner : Address}
    {winnerCiphertext : Bytes32} {winningAmount : ℕ} (proof : Proof) :
    SameVerdict avs other proof
      (avs.verifyAttestation chain self market auctionId requestId winner winnerCiphertext winningAmount
        proof)
      (other.verifyAttestation chain self market auctionId requestId winner winnerCiphertext
        winningAmount proof) := by
  unfold verifyAttestation
  refine .bind_same fun envelope found => .bind_same fun _ _ => ?_
  rw [requireSome_eq_ok.mp found]
  exact verifyEnvelope_sameVerdict near envelope

theorem verifyShieldedAttestation_sameVerdict (near : avs.withoutSlashes = other.withoutSlashes)
    {self market : Address} {auctionId : AuctionId}
    {requestId winnerIdentity winnerCiphertext : Bytes32} {winningAmount : ℕ} (proof : Proof) :
    SameVerdict avs other proof
      (avs.verifyShieldedAttestation chain self market auctionId requestId winnerIdentity
        winnerCiphertext winningAmount proof)
      (other.verifyShieldedAttestation chain self market auctionId requestId winnerIdentity
        winnerCiphertext winningAmount proof) := by
  unfold verifyShieldedAttestation
  refine .bind_same fun envelope found => ?_
  rw [requireSome_eq_ok.mp found]
  exact verifyEnvelope_sameVerdict near envelope

end MockEigenLayerAVS

end FairMarket
