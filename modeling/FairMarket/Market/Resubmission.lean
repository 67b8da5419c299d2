import FairMarket.Market.BidBook

/-! Coverage proofs are public and are not used up. A proof speaks for one submission
only, but as long as its deadline is open anybody can make that submission again. -/

namespace FairMarket

open MockShieldedBidVerifier (coverageDigest)

variable {σ : Type}

/-- The calldata of `placeShieldedBid`. -/
structure Submission where
  auctionId : AuctionId
  commitmentHash : Bytes32
  encryptedBid : Bytes32
  coverageDeadline : ℕ
  coverageProof : List UInt8
  deriving DecidableEq

def Tx.submission : Tx σ → Option Submission
  | .placeShieldedBid auctionId commitmentHash encryptedBid coverageDeadline coverageProof =>
    some { auctionId, commitmentHash, encryptedBid, coverageDeadline, coverageProof }
  | _ => none

namespace Submission

/-- No earlier submission carried the proof of this one. -/
def FreshAfter (submission : Submission) (earlier : List Submission) : Prop :=
  ∀ other ∈ earlier, other.coverageProof ≠ submission.coverageProof

instance (submission : Submission) (earlier : List Submission) :
    Decidable (submission.FreshAfter earlier) :=
  inferInstanceAs (Decidable (∀ other ∈ earlier, _))

/-- The submission is for the commitment. -/
def For (submission : Submission) (auctionId : AuctionId) (commitmentHash : Bytes32) : Prop :=
  submission.auctionId = auctionId ∧ submission.commitmentHash = commitmentHash

instance (submission : Submission) (auctionId : AuctionId) (commitmentHash : Bytes32) :
    Decidable (submission.For auctionId commitmentHash) :=
  inferInstanceAs (Decidable (_ ∧ _))

/-- The handle of the last freshly proved submission for a commitment, in a history with
the newest submission first. -/
def lastProved (auctionId : AuctionId) (commitmentHash : Bytes32) : List Submission → Bytes32
  | [] => 0
  | submission :: earlier =>
    if submission.For auctionId commitmentHash ∧ submission.FreshAfter earlier then
      submission.encryptedBid
    else lastProved auctionId commitmentHash earlier

/-- One of the provers has signed for the submission. -/
def Signed (env : External σ) (provers : Set Address) (submission : Submission) : Prop :=
  ∃ verifier vault committedAmount, ∃ prover ∈ provers,
    env.recover (coverageDigest env.toChain verifier vault submission.auctionId
      submission.commitmentHash submission.encryptedBid committedAmount submission.coverageDeadline)
      submission.coverageProof = some prover

end Submission

/-- A signature that recovers to a prover does so for one digest only. -/
def External.Unforgeable (env : External σ) (provers : Set Address) : Prop :=
  ∀ first second signature, (∃ prover ∈ provers, env.recover first signature = some prover) →
    (∃ prover ∈ provers, env.recover second signature = some prover) → first = second

/-- A proof speaks for one submission only. -/
theorem Submission.Signed.unique {env : External σ} {provers : Set Address}
    (unforgeable : env.Unforgeable provers) {first second : Submission} (left : first.Signed env provers)
    (right : second.Signed env provers) (same : first.coverageProof = second.coverageProof) :
    first = second := by
  obtain ⟨verifier, vault, amount, prover, known, recovers⟩ := left
  obtain ⟨otherVerifier, otherVault, otherAmount, otherProver, otherKnown, otherRecovers⟩ := right
  rw [← same] at otherRecovers
  have digest := unforgeable _ _ _ ⟨prover, known, recovers⟩ ⟨otherProver, otherKnown, otherRecovers⟩
  simp only [coverageDigest, Digest.toEthSignedMessageHash, Digest.ethSignedMessage.injEq,
    Digest.keccak.injEq, List.cons.injEq, Word.ofAddress, Word.ofBytes32, Word.value.injEq,
    BitVec.toNat_inj] at digest
  obtain ⟨-, -, -, auctionId, commitmentHash, encryptedBid, -, deadline, -⟩ := digest
  cases first
  cases second
  simp_all

namespace World

/-- Every vault asks the verifier of prover signatures, with one of the provers, or none. -/
def ProvedBy (env : External σ) (provers : Set Address) (w : World σ) : Prop :=
  ∀ address vault, w.vaults address = some vault → vault.shieldedBidVerifier = 0 ∨
    ∃ state : MockShieldedBidVerifier, state.prover ∈ provers ∧
      ∀ self auctionId commitmentHash encryptedBid committedAmount deadline proof,
        env.verifyBidCoverage w.outside vault.shieldedBidVerifier self auctionId commitmentHash
            encryptedBid committedAmount deadline proof =
          state.verifyBidCoverage env.toChain vault.shieldedBidVerifier self auctionId commitmentHash
            encryptedBid committedAmount deadline proof

/-- The auction takes bids and its vault still accepts the proof of the submission. -/
def Admits (env : External σ) (w : World σ) (msg : Msg) (submission : Submission) : Bool :=
  let cell := w.market.auctions submission.auctionId
  let auctionVault := w.auctionShieldedEscrowVault cell
  cell.auction.state = .active ∧ msg.timestamp < cell.auction.endTime ∧
    (w.vaults auctionVault).any fun vault =>
      (vault.verifyBidCoverageProof (env.verifyBidCoverage w.outside) auctionVault msg.timestamp
        submission.commitmentHash submission.encryptedBid submission.coverageDeadline
        submission.coverageProof).isOk

variable {env : External σ} {provers : Set Address} {w next : World σ} {msg : Msg} {auctionId : AuctionId}

/-- An accepted submission was admitted and signed for, and it alone stores its handle. -/
theorem transact_submission (proved : w.ProvedBy env provers) {submission : Submission} {tx : Tx σ}
    (submits : tx.submission = some submission) (done : w.transact env (msg, tx) = .ok next) :
    w.Admits env msg submission ∧ submission.Signed env provers ∧
      ∀ a c, (next.market.auctions a).shieldedEncryptedBids c =
        if submission.For a c then submission.encryptedBid
        else (w.market.auctions a).shieldedEncryptedBids c := by
  obtain ⟨-, executed, executes, rfl⟩ := transact_ok.mp done
  cases tx with
  | placeShieldedBid placed commitmentHash encryptedBid coverageDeadline coverageProof =>
    obtain rfl := Option.some.inj submits
    simp only [execute, placeShieldedBid, bind_eq_ok, auctionExists_ok, exists_revertIf,
      requireSome_eq_ok, pure_eq_ok, Except.ok.injEq] at executes
    obtain ⟨cell, ⟨-, rfl⟩, _, active, early, -, vault, deployed, guarded, -, _, -, _, covered, bidCount,
      -, network, -, rfl⟩ := executes
    have own : (vault.commitments commitmentHash).auctionId = placed := not_not.mp (not_or.mp guarded).1
    obtain ⟨-, -, known, accepted⟩ := verifyBidCoverageProof_ok.mp covered
    refine ⟨?_, ?_, fun a c => ?_⟩
    · simp only [onlyAuctionState, revertIf_eq_ok, ne_eq, not_not] at active
      simp [Admits, active, Nat.not_le.mp early, deployed, covered, Except.isOk, Except.toBool]
    · obtain unset | ⟨state, prover, same⟩ := proved _ vault deployed
      · exact absurd unset known
      · rw [own, same, MockShieldedBidVerifier.verifyBidCoverage_eq_true] at accepted
        exact ⟨_, _, _, _, prover, accepted.2.2.2⟩
    · simp only [emit, setAuction, setNetwork, Submission.For]
      by_cases about : a = placed
      · subst about
        rw [Function.update_self]
        by_cases same : c = commitmentHash
        · simp [same]
        · simp [Function.update_of_ne same, Ne.symm same]
      · simp [Function.update_of_ne about, Ne.symm about]
  | _ => cases submits

/-- Nothing else changes a stored handle. -/
theorem transact_no_submission (wired : w.Wired env) {tx : Tx σ} (none : tx.submission = none)
    (done : w.transact env (msg, tx) = .ok next) (auctionId : AuctionId) :
    (next.market.auctions auctionId).shieldedEncryptedBids =
      (w.market.auctions auctionId).shieldedEncryptedBids := by
  rcases (transact_effects wired done).records auctionId with same | writes
  · exact congrArg BidRecord.shieldedEncryptedBids same
  · generalize written : (next.market.auctions auctionId).record = record at writes
    refine (congrArg BidRecord.shieldedEncryptedBids written).trans ?_
    cases writes with
    | placeShieldedBid => cases none
    | _ => rfl

end World

/-- The submissions a run has accepted, newest first. -/
def Deployment.submissions (deployment : Deployment) (env : External σ) (outside : σ)
    (inputs : List (Msg × Tx σ)) : List Submission :=
  (outputs (World.transact env) (fun _ input => input.2.submission.toList)
    (deployment.genesis env outside) inputs).reverse

section History

variable (deployment : Deployment) (env : External σ) (outside : σ)

/-- After `before`, the input makes an accepted submission again, which is still admitted,
for a handle that is not the last freshly proved one. -/
def Deployment.RollsBack (auctionId : AuctionId) (commitmentHash : Bytes32)
    (before : List (Msg × Tx σ)) (input : Msg × Tx σ) : Prop :=
  ∃ submission ∈ deployment.submissions env outside before, input.2.submission = some submission ∧
    submission.For auctionId commitmentHash ∧
    (deployment.run env outside before).Admits env input.1 submission ∧
    submission.encryptedBid ≠ Submission.lastProved auctionId commitmentHash
      (deployment.submissions env outside before)

instance (auctionId : AuctionId) (commitmentHash : Bytes32) (before : List (Msg × Tx σ))
    (input : Msg × Tx σ) :
    Decidable (deployment.RollsBack env outside auctionId commitmentHash before input) :=
  inferInstanceAs (Decidable (∃ submission ∈ deployment.submissions env outside before, _))

variable {deployment env outside} {provers : Set Address} {before : List (Msg × Tx σ)} {msg : Msg}
  {tx : Tx σ} {auctionId : AuctionId} {commitmentHash : Bytes32}

theorem Deployment.submissions_refused {raised : Revert}
    (refused : (deployment.run env outside before).transact env (msg, tx) = .error raised) :
    deployment.submissions env outside (before ++ [(msg, tx)]) =
      deployment.submissions env outside before := by
  rw [submissions, submissions, outputs_refused refused]

theorem Deployment.submissions_accepted {next : World σ}
    (done : (deployment.run env outside before).transact env (msg, tx) = .ok next) :
    deployment.submissions env outside (before ++ [(msg, tx)]) =
      tx.submission.toList ++ deployment.submissions env outside before := by
  rw [submissions, submissions, outputs_accepted done, List.reverse_append]
  cases tx.submission <;> rfl

/-- The history of a run: every submission in it was signed for, and the stored handle of
the commitment is the last freshly proved one. -/
structure Deployment.Faithful (deployment : Deployment) (env : External σ) (outside : σ)
    (provers : Set Address) (auctionId : AuctionId) (commitmentHash : Bytes32)
    (inputs : List (Msg × Tx σ)) : Prop where
  signed : ∀ submission ∈ deployment.submissions env outside inputs, submission.Signed env provers
  stored : ((deployment.run env outside inputs).market.auctions auctionId).shieldedEncryptedBids
    commitmentHash = Submission.lastProved auctionId commitmentHash
      (deployment.submissions env outside inputs)

/-- A proof that was used before belongs to a submission that was made before. -/
theorem Deployment.Faithful.repeated
    (faithful : deployment.Faithful env outside provers auctionId commitmentHash before)
    (unforgeable : env.Unforgeable provers) {submission : Submission} (signed : submission.Signed env provers)
    (stale : ¬ submission.FreshAfter (deployment.submissions env outside before)) :
    submission ∈ deployment.submissions env outside before := by
  simp only [Submission.FreshAfter, not_forall, not_not] at stale
  obtain ⟨other, member, same⟩ := stale
  rw [← (faithful.signed other member).unique unforgeable signed same]
  exact member

/-- What an accepted transaction does to the history and to the stored handle. -/
theorem Deployment.Faithful.step
    (faithful : deployment.Faithful env outside provers auctionId commitmentHash before)
    (unforgeable : env.Unforgeable provers)
    (proved : (deployment.run env outside before).ProvedBy env provers)
    (spared : ¬ deployment.RollsBack env outside auctionId commitmentHash before (msg, tx)) :
    deployment.Faithful env outside provers auctionId commitmentHash (before ++ [(msg, tx)]) := by
  cases done : (deployment.run env outside before).transact env (msg, tx) with
  | error raised =>
    have same : deployment.run env outside (before ++ [(msg, tx)]) = deployment.run env outside before :=
      play_refused done
    refine ⟨?_, ?_⟩
    · rw [submissions_refused done]
      exact faithful.signed
    · rw [submissions_refused done, same]
      exact faithful.stored
  | ok next =>
    have reached : deployment.run env outside (before ++ [(msg, tx)]) = next := play_accepted done
    cases submits : tx.submission with
    | none =>
      have wired := deployment.run_wired env outside before
      have unwritten := World.transact_no_submission wired submits done auctionId
      refine ⟨?_, ?_⟩
      · rw [submissions_accepted done, submits]
        exact faithful.signed
      · rw [submissions_accepted done, submits, reached, unwritten]
        exact faithful.stored
    | some submission =>
      obtain ⟨admitted, signed, written⟩ := World.transact_submission proved submits done
      refine ⟨?_, ?_⟩
      · rw [submissions_accepted done, submits]
        intro other member
        rcases List.mem_cons.mp member with rfl | earlier
        · exact signed
        · exact faithful.signed other earlier
      · rw [submissions_accepted done, submits, reached, written]
        by_cases own : submission.For auctionId commitmentHash
        · by_cases fresh : submission.FreshAfter (deployment.submissions env outside before)
          · simp [Submission.lastProved, own, fresh]
          · -- the proof is an old one, so the whole submission is
            have member := faithful.repeated unforgeable signed fresh
            have latest : submission.encryptedBid = Submission.lastProved auctionId commitmentHash
                (deployment.submissions env outside before) := by
              by_contra outdated
              exact spared ⟨submission, member, submits, own, admitted, outdated⟩
            simp [Submission.lastProved, own, fresh, latest]
        · simpa [Submission.lastProved, own] using faithful.stored

/-- The history stays faithful as long as no submission is rolled back. -/
theorem Deployment.run_faithful {inputs : List (Msg × Tx σ)} (unforgeable : env.Unforgeable provers)
    (proved : Along (World.transact env) (fun w _ => w.ProvedBy env provers)
      (deployment.genesis env outside) inputs)
    (spared : ∀ before input, before ++ [input] <+: inputs →
      ¬ deployment.RollsBack env outside auctionId commitmentHash before input) :
    deployment.Faithful env outside provers auctionId commitmentHash inputs := by
  induction inputs using List.reverseRecOn with
  | nil => exact ⟨nofun, rfl⟩
  | append_singleton before input ih =>
    obtain ⟨earlier, last, -⟩ := along_append.mp proved
    have faithful := ih earlier fun first next inside =>
      spared first next (inside.trans (List.prefix_append ..))
    exact faithful.step unforgeable last (spared before input (List.prefix_refl _))

/-- Only an accepted submission with a new proof changes the last proved handle. -/
theorem Deployment.lastProved_changes
    (changed : Submission.lastProved auctionId commitmentHash
        (deployment.submissions env outside (before ++ [(msg, tx)])) ≠
      Submission.lastProved auctionId commitmentHash (deployment.submissions env outside before)) :
    ∃ submission, tx.submission = some submission ∧ submission.For auctionId commitmentHash ∧
      submission.FreshAfter (deployment.submissions env outside before) := by
  cases done : (deployment.run env outside before).transact env (msg, tx) with
  | error raised =>
    rw [submissions_refused done] at changed
    exact absurd rfl changed
  | ok next =>
    rw [submissions_accepted done] at changed
    cases submits : tx.submission with
    | none =>
      rw [submits] at changed
      exact absurd rfl changed
    | some submission =>
      rw [submits, Option.toList_some, List.singleton_append, Submission.lastProved] at changed
      split at changed
      · rename_i fresh
        exact ⟨submission, rfl, fresh.1, fresh.2⟩
      · exact absurd rfl changed

end History

/-- In a run with prover-signed coverage in which nobody makes an old submission again
that is still admitted, after another handle has been proved, the stored handle of a
commitment is in every state the last freshly proved one, and only a submission whose
proof was not used before changes it. -/
theorem last_proved_bid_stands (deployment : Deployment) (env : External σ) (outside : σ)
    (provers : Set Address) (inputs : List (Msg × Tx σ)) (auctionId : AuctionId) (commitmentHash : Bytes32)
    (unforgeable : env.Unforgeable provers)
    (proved : Along (World.transact env) (fun w _ => w.ProvedBy env provers)
      (deployment.genesis env outside) inputs)
    (spared : ∀ before input, before ++ [input] <+: inputs →
      ¬ deployment.RollsBack env outside auctionId commitmentHash before input) :
    let stored : List (Msg × Tx σ) → Bytes32 := fun played =>
      ((deployment.run env outside played).market.auctions auctionId).shieldedEncryptedBids commitmentHash
    stored inputs = Submission.lastProved auctionId commitmentHash
        (deployment.submissions env outside inputs) ∧
      ∀ before input, before ++ [input] <+: inputs → stored (before ++ [input]) ≠ stored before →
        ∃ submission, input.2.submission = some submission ∧
          submission.For auctionId commitmentHash ∧
          submission.FreshAfter (deployment.submissions env outside before) := by
  intro stored
  have faithful : ∀ played, played <+: inputs →
      deployment.Faithful env outside provers auctionId commitmentHash played := by
    rintro played ⟨rest, rfl⟩
    apply Deployment.run_faithful unforgeable (along_append.mp proved).1
    intro before input inside
    exact spared before input (inside.trans (List.prefix_append ..))
  refine ⟨(faithful inputs (List.prefix_refl _)).stored, fun before input inside changed => ?_⟩
  apply Deployment.lastProved_changes
  rw [← (faithful _ inside).stored, ← (faithful before ((List.prefix_append ..).trans inside)).stored]
  exact changed

/-- The sample chain with the verifier of prover signatures everywhere. A signature of
account 77 is the amount and the deadline it signs for, for commitment 31 of auction 1. -/
def provenChain : External (ℕ → Address) :=
  let prover : MockShieldedBidVerifier := { owner := 1, prover := 77 }
  let chain : Chain :=
    { tokenChain.toChain with
      recover := fun digest signature => match signature with
        | [amount, deadline] =>
          if digest = coverageDigest tokenChain.toChain 16 12 1 31
              (CofheCiphertextEncoding.encodeEuint96 amount.toNat) 100 (1000 + deadline.toNat) then some 77
          else none
        | _ => none }
  { tokenChain with
    toChain := chain
    verifyBidCoverage := fun _ verifier vault auctionId commitmentHash encryptedBid committedAmount
        deadline proof =>
      prover.verifyBidCoverage chain verifier vault auctionId commitmentHash encryptedBid committedAmount
        deadline proof }

theorem provenChain_unforgeable : provenChain.Unforgeable {77} := by
  rintro first second signature ⟨prover, -, recovers⟩ ⟨other, -, otherRecovers⟩
  match signature with
  | [] => cases recovers
  | [_] => cases recovers
  | [amount, deadline] =>
    simp only [provenChain, Option.ite_none_right_eq_some] at recovers otherRecovers
    rw [recovers.1, otherRecovers.1]
  | _ :: _ :: _ :: _ => cases recovers

theorem provenChain_proved (start : World (ℕ → Address)) (inputs : List (Msg × Tx (ℕ → Address))) :
    Along (World.transact provenChain) (fun w _ => w.ProvedBy provenChain {77}) start inputs :=
  .of_forall (fun _ _ _ _ _ => .inr ⟨{ owner := 1, prover := 77 }, rfl, fun _ _ _ _ _ _ _ => rfl⟩) ..

/-- A bidder raises its bid from 50, proved until a deadline, to 60; then a stranger makes
the first submission again. -/
def raiseAndReplay (deadline : UInt8) : List (Msg × Tx (ℕ → Address)) :=
  [({ sender := 1, timestamp := 1000 }, .setShieldedEscrowVault 12),
    ({ sender := 1, timestamp := 1000 }, .setShieldedIdentityRegistry 13),
    ({ sender := 1, timestamp := 1000 }, .setShieldedBidVerifier 12 16),
    ({ sender := 9, value := 10, timestamp := 1000 }, .createAuction 5 7 100 0 10 false),
    ({ sender := 8, value := 100, timestamp := 1001 }, .lockShieldedEscrow 1 21 31 41),
    ({ sender := 8, timestamp := 1002 },
      .placeShieldedBid 1 31 (CofheCiphertextEncoding.encodeEuint96 50) (1000 + deadline.toNat) [50, deadline]),
    ({ sender := 8, timestamp := 1003 },
      .placeShieldedBid 1 31 (CofheCiphertextEncoding.encodeEuint96 60) 1100 [60, 100]),
    ({ sender := 66, timestamp := 1004 },
      .placeShieldedBid 1 31 (CofheCiphertextEncoding.encodeEuint96 50) (1000 + deadline.toNat) [50, deadline])]

set_option maxRecDepth 4000 in
/-- While the first deadline is open, the stranger takes the raise back. -/
theorem raiseAndReplay_rolled_back :
    let stored := fun inputs => ((shieldedDeployment.run provenChain (fun _ => 9) inputs).market.auctions
      1).shieldedEncryptedBids 31
    provenChain.Unforgeable {77} ∧
      Along (World.transact provenChain) (fun w _ => w.ProvedBy provenChain {77})
        (shieldedDeployment.genesis provenChain fun _ => 9) (raiseAndReplay 100) ∧
      stored ((raiseAndReplay 100).take 6) = CofheCiphertextEncoding.encodeEuint96 50 ∧
      stored ((raiseAndReplay 100).take 7) = CofheCiphertextEncoding.encodeEuint96 60 ∧
      stored (raiseAndReplay 100) = CofheCiphertextEncoding.encodeEuint96 50 ∧
      Submission.lastProved 1 31 (shieldedDeployment.submissions provenChain (fun _ => 9)
        (raiseAndReplay 100)) = CofheCiphertextEncoding.encodeEuint96 60 := by
  refine ⟨provenChain_unforgeable, provenChain_proved .., by decide +kernel, by decide +kernel,
    by decide +kernel, by decide +kernel⟩

set_option maxRecDepth 4000 in
/-- With the first deadline over, the raise stands. -/
theorem raiseAndReplay_stands :
    ((shieldedDeployment.run provenChain (fun _ => 9) (raiseAndReplay 2)).market.auctions
      1).shieldedEncryptedBids 31 = CofheCiphertextEncoding.encodeEuint96 60 := by
  have spared : ∀ index, (inside : index < (raiseAndReplay 2).length) →
      ¬ shieldedDeployment.RollsBack provenChain (fun _ => 9) 1 31 ((raiseAndReplay 2).take index)
        (raiseAndReplay 2)[index] := by decide +kernel
  have stored := (last_proved_bid_stands shieldedDeployment provenChain (fun _ => 9) {77}
    (raiseAndReplay 2) 1 31 provenChain_unforgeable (provenChain_proved ..)
    (fun before input inside => by
      obtain ⟨rest, whole⟩ := inside
      have position := spared before.length (by simp [← whole])
      simpa [← whole] using position)).1
  dsimp only at stored
  rw [stored]
  decide +kernel

end FairMarket
