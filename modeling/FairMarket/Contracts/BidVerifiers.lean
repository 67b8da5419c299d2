import FairMarket.Contracts.Cofhe

/-! The two verifiers of coverage proofs. One checks a prover's signature, the other a
Groth16 proof; both first compare the handle's amount with the committed one. -/

namespace FairMarket

open CofheCiphertextEncoding

structure MockShieldedBidVerifier where
  owner : Address
  prover : Address

namespace MockShieldedBidVerifier

/-- What the prover signs about a bid. -/
def coverageDigest (chain : Chain) (self vault : Address) (auctionId : AuctionId)
    (commitmentHash encryptedBid : Bytes32) (committedAmount deadline : ℕ) : Digest :=
  (Digest.keccak [.ofAddress self, .value chain.chainId, .ofAddress vault, .ofBytes32 auctionId,
    .ofBytes32 commitmentHash, .ofBytes32 encryptedBid, .value committedAmount,
    .value deadline]).toEthSignedMessageHash

/-- A view that reverts is `none`. -/
def verifyBidCoverage (verifier : MockShieldedBidVerifier) (chain : Chain) (self vault : Address)
    (auctionId : AuctionId) (commitmentHash encryptedBid : Bytes32) (committedAmount deadline : ℕ)
    (proof : List UInt8) : Option Bool :=
  if vault = 0 then none
  else match decodeNumeric encryptedBid with
    | .error _ => none
    | .ok amount =>
      if amount > committedAmount then some false
      else do
        let recoveredProver ← chain.recover (coverageDigest chain self vault auctionId commitmentHash
          encryptedBid committedAmount deadline) proof
        return recoveredProver = verifier.prover

def setProver (verifier : MockShieldedBidVerifier) (sender nextProver : Address) :
    Except Revert MockShieldedBidVerifier := do
  revertIf (sender ≠ verifier.owner) (.ownableUnauthorizedAccount sender)
  revertIf (nextProver = 0) .zeroAddress
  return { verifier with prover := nextProver }

/-- An accepted bid is numeric, covered and signed for. -/
theorem verifyBidCoverage_eq_true {verifier : MockShieldedBidVerifier} {chain : Chain}
    {self vault : Address} {auctionId : AuctionId} {commitmentHash encryptedBid : Bytes32}
    {committedAmount deadline : ℕ} {proof : List UInt8} :
    verifier.verifyBidCoverage chain self vault auctionId commitmentHash encryptedBid committedAmount
        deadline proof = some true ↔
      vault ≠ 0 ∧ Numeric encryptedBid ∧ payloadOf encryptedBid ≤ committedAmount ∧
        chain.recover (coverageDigest chain self vault auctionId commitmentHash encryptedBid
          committedAmount deadline) proof = some verifier.prover := by
  unfold verifyBidCoverage
  split
  · rename_i absent
    simp [absent]
  · rename_i present
    cases decoded : decodeNumeric encryptedBid with
    | error raised =>
      have unreadable : ¬ Numeric encryptedBid := by
        intro numeric
        have amount := decodeNumeric_ok.mpr ⟨numeric, rfl⟩
        rw [decoded] at amount
        cases amount
      simp [unreadable]
    | ok amount =>
      obtain ⟨numeric, rfl⟩ := decodeNumeric_ok.mp decoded
      dsimp only
      split
      · rename_i large
        exact iff_of_false (by simp) fun accepted => absurd accepted.2.2.1 (Nat.not_le.mpr large)
      · rename_i small
        simp only [Option.bind_eq_bind, Option.bind_eq_some_iff, Option.pure_def, Option.some.injEq,
          decide_eq_true_eq, exists_eq_right]
        exact ⟨fun signed => ⟨present, numeric, Nat.not_lt.mp small, signed⟩, fun accepted => accepted.2.2.2⟩

/-- The owner decides whose signature counts from now on. -/
theorem setProver_verifyBidCoverage {verifier next : MockShieldedBidVerifier} {sender nextProver : Address}
    (done : verifier.setProver sender nextProver = .ok next) (chain : Chain) (self vault : Address)
    (auctionId : AuctionId) (commitmentHash encryptedBid : Bytes32) (committedAmount deadline : ℕ)
    (proof : List UInt8) :
    sender = verifier.owner ∧
      (next.verifyBidCoverage chain self vault auctionId commitmentHash encryptedBid committedAmount deadline
          proof = some true ↔
        vault ≠ 0 ∧ Numeric encryptedBid ∧ payloadOf encryptedBid ≤ committedAmount ∧
          chain.recover (coverageDigest chain self vault auctionId commitmentHash encryptedBid
            committedAmount deadline) proof = some nextProver) := by
  simp only [setProver, bind_eq_ok, exists_revertIf, ne_eq, not_not, pure_eq_ok, Except.ok.injEq] at done
  obtain ⟨owner, -, rfl⟩ := done
  exact ⟨owner, verifyBidCoverage_eq_true⟩

end MockShieldedBidVerifier

structure Groth16Proof where
  a : ℕ × ℕ
  b : (ℕ × ℕ) × (ℕ × ℕ)
  c : ℕ × ℕ
  input : ℕ

/-- The 32-byte word of calldata at an index. -/
def wordAt (data : List UInt8) (index : ℕ) : ℕ :=
  ((data.drop (32 * index)).take 32).foldl (fun number byte => number * 256 + byte.toNat) 0

/-- `abi.decode` of the nine words of a proof, which reverts on shorter data. -/
def Groth16Proof.decode (proof : List UInt8) : Option Groth16Proof :=
  if proof.length < 288 then none
  else some {
    a := (wordAt proof 0, wordAt proof 1)
    b := ((wordAt proof 2, wordAt proof 3), (wordAt proof 4, wordAt proof 5))
    c := (wordAt proof 6, wordAt proof 7)
    input := wordAt proof 8 }

namespace ZkShieldedBidVerifier

/-- `verifyProof` is the pairing check of the Groth16 contract at the verifier's address. -/
def verifyBidCoverage (verifyProof : Groth16Proof → Bool) (encryptedBid : Bytes32)
    (committedAmount : ℕ) (proof : List UInt8) : Option Bool :=
  if payloadOf encryptedBid > committedAmount then some false
  else do
    let decoded ← Groth16Proof.decode proof
    if decoded.input ≠ encryptedBid.toNat then return false
    else return verifyProof decoded

/-- An accepted bid is covered and is the public input of its proof. -/
theorem verifyBidCoverage_eq_true {verifyProof : Groth16Proof → Bool} {encryptedBid : Bytes32}
    {committedAmount : ℕ} {proof : List UInt8} :
    verifyBidCoverage verifyProof encryptedBid committedAmount proof = some true ↔
      payloadOf encryptedBid ≤ committedAmount ∧ ∃ decoded, Groth16Proof.decode proof = some decoded ∧
        decoded.input = encryptedBid.toNat ∧ verifyProof decoded = true := by
  unfold verifyBidCoverage
  split
  · rename_i large
    exact iff_of_false (by simp) fun covered => absurd covered.1 (Nat.not_le.mpr large)
  · rename_i small
    simp only [Nat.not_lt.mp small, true_and, Option.bind_eq_bind, Option.bind_eq_some_iff]
    refine exists_congr fun decoded => and_congr_right fun _ => ?_
    split
    · rename_i other
      simp [other]
    · rename_i same
      rw [not_not] at same
      simp [same]

end ZkShieldedBidVerifier

end FairMarket
