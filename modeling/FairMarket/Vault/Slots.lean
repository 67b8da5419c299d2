import FairMarket.Vault.Backing

/-! What the vault's calls do to one commitment, and to the authorizations it has
seen. A vault may be driven by any list of calls, with settings changed in between. -/

namespace FairMarket

def VaultCall.locks : VaultCall → Bool
  | .lockEscrow .. => true
  | _ => false

def VaultCall.refunds : VaultCall → Bool
  | .claimRefundWithAuthorization .. => true
  | _ => false

/-- The call neither locks nor refunds, and settles no commitment of the auction. -/
def VaultCall.leaves (auctionId : AuctionId) : VaultCall → Prop
  | .lockEscrow .. | .claimRefundWithAuthorization .. => False
  | .settleWinningCommitment _ settled _ _ => settled ≠ auctionId
  | _ => True

namespace ShieldedEscrowVault

variable {chain : Chain} {self : Address} {vault middle next : ShieldedEscrowVault}

/-- What one call can do to one commitment. -/
inductive SlotStep (request : VaultCall) (commitmentHash : Bytes32) (slot : CommitmentDeposit) :
    CommitmentDeposit → Prop where
  | kept : SlotStep request commitmentHash slot slot
  | locked {sender : Address} {value : ℕ} {auctionId : AuctionId} {claimAuthority : Address}
      (same : request = .lockEscrow sender value auctionId commitmentHash claimAuthority)
      (vacant : slot.amount = 0) (unclaimed : slot.claimed = false) (nonzero : value ≠ 0)
      (known : claimAuthority ≠ 0) :
      SlotStep request commitmentHash slot { slot with auctionId, amount := value, claimAuthority }
  | settled (amount : ℕ) (funded : slot.amount ≠ 0) :
      SlotStep request commitmentHash slot { slot with amount }
  | refunded (same : request.refunds = true) (funded : slot.amount ≠ 0) :
      SlotStep request commitmentHash slot { slot with claimed := true, amount := 0 }

theorem releaseRefund_slot {Source : Type} {request : VaultCall}
    {settle : AuctionId → Bytes32 → Address → ℕ → Except Revert Source} {commitmentHash key : Bytes32}
    {recipient : Address} {released : ReleasedRefund Source}
    (refunds : request.refunds = true)
    (done : vault.releaseRefund settle commitmentHash key recipient = .ok released) (c : Bytes32) :
    SlotStep request c (vault.commitments c) (released.vault.commitments c) := by
  obtain ⟨⟨funded, -⟩, same⟩ := releaseRefund_ok done
  rw [same]
  dsimp only
  by_cases own : c = commitmentHash
  · rw [own, Function.update_self]
    exact .refunded refunds funded
  · rw [Function.update_of_ne own]
    exact .kept

theorem call_slot {request : VaultCall} (called : vault.call chain self request = .ok next)
    (c : Bytes32) : SlotStep request c (vault.commitments c) (next.commitments c) := by
  cases request with
  | lockEscrow sender value auctionId commitmentHash claimAuthority =>
    obtain ⟨⟨-, nonzero, -, known, vacant, unclaimed, -⟩, rfl⟩ := lockEscrow_ok.mp called
    dsimp only
    by_cases own : c = commitmentHash
    · rw [own, Function.update_self]
      exact .locked rfl vacant unclaimed nonzero known
    · rw [Function.update_of_ne own]
      exact .kept
  | allocateSlash =>
    simp only [ShieldedEscrowVault.call, bind_eq_ok, pure_eq_ok, Except.ok.injEq, Prod.exists] at called
    obtain ⟨_, _, allocated, rfl⟩ := called
    obtain ⟨-, rfl⟩ := allocateSlash_ok allocated
    exact .kept
  | settleWinningCommitment sender auctionId commitmentHash winningAmount =>
    simp only [ShieldedEscrowVault.call, bind_eq_ok, pure_eq_ok, Except.ok.injEq, Prod.exists] at called
    obtain ⟨_, _, settled, rfl⟩ := called
    obtain ⟨⟨-, -, -, -, funded, -⟩, -, rfl⟩ := settleWinningCommitment_ok.mp settled
    dsimp only
    by_cases own : c = commitmentHash
    · rw [own, Function.update_self]
      exact .settled _ funded
    · rw [Function.update_of_ne own]
      exact .kept
  | unlockRefunds =>
    obtain ⟨-, rfl⟩ := unlockRefunds_ok.mp called
    exact .kept
  | authorizeAssetClaim =>
    simp only [ShieldedEscrowVault.call, bind_eq_ok, pure_eq_ok, Except.ok.injEq, Prod.exists] at called
    obtain ⟨_, _, authorized, rfl⟩ := called
    obtain ⟨-, -, consumed⟩ := authorizeAssetClaim_ok.mp authorized
    obtain ⟨-, -, rfl⟩ := consumeClaimAuthorization_ok.mp consumed
    exact .kept
  | claimRefundWithAuthorization =>
    simp only [ShieldedEscrowVault.call, bind_eq_ok, exists_revertIf, pure_eq_ok,
      Except.ok.injEq] at called
    obtain ⟨released, done, -, rfl⟩ := called
    obtain ⟨digest, consumed, -, authorized, paid⟩ := claimRefundWithAuthorization_ok.mp done
    obtain ⟨-, -, rfl⟩ := consumeClaimAuthorization_ok.mp authorized
    exact releaseRefund_slot rfl paid c

/-- The deposits of an auction stay as they are under calls that leave them. -/
theorem call_leaves {request : VaultCall} {auctionId : AuctionId} {c : Bytes32}
    (called : vault.call chain self request = .ok next) (leaves : request.leaves auctionId)
    (about : (vault.commitments c).auctionId = auctionId) : next.commitments c = vault.commitments c := by
  cases request with
  | lockEscrow => exact leaves.elim
  | claimRefundWithAuthorization => exact leaves.elim
  | allocateSlash =>
    simp only [ShieldedEscrowVault.call, bind_eq_ok, pure_eq_ok, Except.ok.injEq, Prod.exists] at called
    obtain ⟨_, _, allocated, rfl⟩ := called
    obtain ⟨-, rfl⟩ := allocateSlash_ok allocated
    rfl
  | settleWinningCommitment sender settled commitmentHash winningAmount =>
    simp only [ShieldedEscrowVault.call, bind_eq_ok, pure_eq_ok, Except.ok.injEq, Prod.exists] at called
    obtain ⟨_, _, settles, rfl⟩ := called
    obtain ⟨⟨-, -, -, -, -, own, -⟩, -, rfl⟩ := settleWinningCommitment_ok.mp settles
    have other : c ≠ commitmentHash := by
      rintro rfl
      exact leaves (own.symm.trans about)
    exact Function.update_of_ne other ..
  | unlockRefunds =>
    obtain ⟨-, rfl⟩ := unlockRefunds_ok.mp called
    rfl
  | authorizeAssetClaim =>
    simp only [ShieldedEscrowVault.call, bind_eq_ok, pure_eq_ok, Except.ok.injEq, Prod.exists] at called
    obtain ⟨_, _, authorized, rfl⟩ := called
    obtain ⟨-, -, consumed⟩ := authorizeAssetClaim_ok.mp authorized
    obtain ⟨-, -, rfl⟩ := consumeClaimAuthorization_ok.mp consumed
    rfl

/-- A vault does not see which market lets it release a refund. -/
theorem claimRefundWithAuthorization_call {Source : Type} {timestamp : ℕ}
    {settle : AuctionId → Bytes32 → Address → ℕ → Except Revert Source} {commitmentHash : Bytes32}
    {recipient : Address} {deadline : ℕ} {signature : Signature} {released : ReleasedRefund Source}
    (done : vault.claimRefundWithAuthorization chain self timestamp settle commitmentHash recipient
      deadline signature = .ok released) :
    vault.call chain self (.claimRefundWithAuthorization timestamp commitmentHash recipient deadline
      signature true true) = .ok released.vault := by
  obtain ⟨digest, consumed, funded, authorized, refunds⟩ := claimRefundWithAuthorization_ok.mp done
  have same : consumed.releaseRefund (refundSource true) commitmentHash
      (compensationKey chain commitmentHash) recipient =
        .ok { released with source := () } := by
    simp only [releaseRefund, bind_eq_ok, exists_revertIf, pure_eq_ok, Except.ok.injEq,
      Prod.exists] at refunds ⊢
    obtain ⟨commitment, spendable, unlocked, compensation, compensated, drawn, total, left, source, -,
      payment, pays, solvent, rfl⟩ := refunds
    exact ⟨commitment, spendable, unlocked, compensation, compensated, drawn, total, left, (), by
      simp [refundSource], payment, pays, solvent, rfl⟩
  simp only [ShieldedEscrowVault.call, bind_eq_ok, exists_revertIf, pure_eq_ok, Except.ok.injEq]
  exact ⟨_, claimRefundWithAuthorization_ok.mpr ⟨digest, consumed, funded, authorized, same⟩,
    Bool.noConfusion, rfl⟩

/-- A commitment with an amount can be claimed, and a refund authorization is used
up only together with its commitment. -/
structure Claimable (chain : Chain) (address : Address) (vault : ShieldedEscrowVault) : Prop where
  funded : ∀ c, (vault.commitments c).amount ≠ 0 →
    (vault.commitments c).claimAuthority ≠ 0 ∧ (vault.commitments c).claimed = false
  spent : ∀ auctionId c recipient deadline,
    vault.usedClaimAuthorizations
        (claimDigest chain address refundClaimTag auctionId c recipient deadline) = true →
      (vault.commitments c).claimed = true

theorem SlotStep.claimed {request : VaultCall} {c : Bytes32} {slot after : CommitmentDeposit}
    (step : SlotStep request c slot after) (claimed : slot.claimed = true) : after.claimed = true := by
  cases step with
  | kept => exact claimed
  | locked => exact claimed
  | settled => exact claimed
  | refunded => rfl

theorem SlotStep.funded {request : VaultCall} {c : Bytes32} {slot after : CommitmentDeposit}
    (step : SlotStep request c slot after)
    (before : slot.amount ≠ 0 → slot.claimAuthority ≠ 0 ∧ slot.claimed = false)
    (funded : after.amount ≠ 0) : after.claimAuthority ≠ 0 ∧ after.claimed = false := by
  cases step with
  | kept => exact before funded
  | locked _ _ unclaimed _ known => exact ⟨known, unclaimed⟩
  | settled _ some => exact before some
  | refunded => exact absurd rfl funded

/-- Only a lock changes whom a commitment belongs to. -/
theorem SlotStep.recorded {request : VaultCall} {c : Bytes32} {slot after : CommitmentDeposit}
    (step : SlotStep request c slot after) (free : request.locks = false) :
    after.auctionId = slot.auctionId ∧ after.claimAuthority = slot.claimAuthority := by
  cases step with
  | kept => exact ⟨rfl, rfl⟩
  | locked same =>
    rw [same] at free
    cases free
  | settled => exact ⟨rfl, rfl⟩
  | refunded => exact ⟨rfl, rfl⟩

/-- The two kinds of claims have digests of their own. -/
theorem claimDigest_kind {first second : AuctionId} {c d : Bytes32} {recipient other : Address}
    {deadline limit : ℕ} : claimDigest chain self refundClaimTag first c recipient deadline ≠
      claimDigest chain self assetClaimTag second d other limit := by
  simp [claimDigest, Digest.toEthSignedMessageHash, refundClaimTag, assetClaimTag]

theorem claimDigest_commitment {first second : AuctionId} {c d : Bytes32} {recipient other : Address}
    {deadline limit : ℕ} (same : claimDigest chain self refundClaimTag first c recipient deadline =
      claimDigest chain self refundClaimTag second d other limit) : c = d := by
  simp only [claimDigest, Digest.toEthSignedMessageHash, Digest.ethSignedMessage.injEq,
    Digest.keccak.injEq, List.cons.injEq, true_and, Word.ofBytes32, Word.value.injEq] at same
  exact BitVec.eq_of_toNat_eq same.2.1

theorem Claimable.call {request : VaultCall} (claimable : vault.Claimable chain self)
    (called : vault.call chain self request = .ok next) : next.Claimable chain self := by
  refine ⟨fun c => (call_slot called c).funded (claimable.funded c), ?_⟩
  intro auctionId c recipient deadline used
  by_cases before : vault.usedClaimAuthorizations
      (claimDigest chain self refundClaimTag auctionId c recipient deadline) = true
  · exact (call_slot called c).claimed (claimable.spent auctionId c recipient deadline before)
  cases request with
  | lockEscrow =>
    obtain ⟨-, rfl⟩ := lockEscrow_ok.mp called
    exact absurd used before
  | allocateSlash =>
    simp only [ShieldedEscrowVault.call, bind_eq_ok, pure_eq_ok, Except.ok.injEq, Prod.exists] at called
    obtain ⟨_, _, allocated, rfl⟩ := called
    obtain ⟨-, rfl⟩ := allocateSlash_ok allocated
    exact absurd used before
  | settleWinningCommitment =>
    simp only [ShieldedEscrowVault.call, bind_eq_ok, pure_eq_ok, Except.ok.injEq, Prod.exists] at called
    obtain ⟨_, _, settled, rfl⟩ := called
    obtain ⟨-, -, rfl⟩ := settleWinningCommitment_ok.mp settled
    exact absurd used before
  | unlockRefunds =>
    obtain ⟨-, rfl⟩ := unlockRefunds_ok.mp called
    exact absurd used before
  | authorizeAssetClaim =>
    simp only [ShieldedEscrowVault.call, bind_eq_ok, pure_eq_ok, Except.ok.injEq, Prod.exists] at called
    obtain ⟨_, _, authorized, rfl⟩ := called
    obtain ⟨-, -, consumed⟩ := authorizeAssetClaim_ok.mp authorized
    obtain ⟨-, -, rfl⟩ := consumeClaimAuthorization_ok.mp consumed
    dsimp only at used
    rw [Function.update_of_ne claimDigest_kind] at used
    exact absurd used before
  | claimRefundWithAuthorization timestamp commitmentHash =>
    simp only [ShieldedEscrowVault.call, bind_eq_ok, exists_revertIf, pure_eq_ok,
      Except.ok.injEq] at called
    obtain ⟨released, done, -, rfl⟩ := called
    obtain ⟨digest, consumed, -, authorized, paid⟩ := claimRefundWithAuthorization_ok.mp done
    obtain ⟨-, -, rfl⟩ := consumeClaimAuthorization_ok.mp authorized
    obtain ⟨-, same⟩ := releaseRefund_ok paid
    rw [same] at used ⊢
    dsimp only at used ⊢
    by_cases own : c = commitmentHash
    · rw [own, Function.update_self]
    · rw [Function.update_of_ne fun digest => own (claimDigest_commitment digest)] at used
      exact absurd used before

/-- A vault after a list of accepted calls, its settings changed in between. -/
inductive Driven (chain : Chain) (self : Address) (vault : ShieldedEscrowVault) :
    List VaultCall → ShieldedEscrowVault → Prop where
  | here : Driven chain self vault [] vault
  | call {requests : List VaultCall} {middle next : ShieldedEscrowVault} (request : VaultCall)
      (driven : Driven chain self vault requests middle)
      (called : middle.call chain self request = .ok next) :
      Driven chain self vault (requests ++ [request]) next
  | settings {requests : List VaultCall} {middle : ShieldedEscrowVault}
      (shieldedBidVerifier previewReader : Address) (driven : Driven chain self vault requests middle) :
      Driven chain self vault requests { middle with shieldedBidVerifier, previewReader }

namespace Driven

variable {requests later : List VaultCall}

theorem trans (before : Driven chain self vault requests middle)
    (after : Driven chain self middle later next) : Driven chain self vault (requests ++ later) next := by
  induction after with
  | here =>
    rw [List.append_nil]
    exact before
  | call request _ called ih =>
    rw [← List.append_assoc]
    exact .call request ih called
  | settings shieldedBidVerifier previewReader _ ih => exact .settings shieldedBidVerifier previewReader ih

theorem once {request : VaultCall} (called : vault.call chain self request = .ok next) :
    Driven chain self vault [request] next :=
  .call request .here called

/-- What every call of the list keeps, and what no setting touches, the list keeps. -/
theorem preserves {invariant : ShieldedEscrowVault → Prop} {condition : VaultCall → Prop}
    (driven : Driven chain self vault requests next) (all : ∀ request ∈ requests, condition request)
    (called : ∀ vault next request, condition request → vault.call chain self request = .ok next →
      invariant vault → invariant next)
    (blind : ∀ (vault : ShieldedEscrowVault) shieldedBidVerifier previewReader, invariant vault →
      invariant { vault with shieldedBidVerifier, previewReader })
    (initial : invariant vault) : invariant next := by
  induction driven with
  | here => exact initial
  | call request _ taken ih =>
    refine called _ _ request (all request (by simp)) taken (ih fun other member => ?_)
    exact all other (List.mem_append_left _ member)
  | settings _ _ _ ih => exact blind _ _ _ (ih all)

theorem backed (driven : Driven chain self vault requests next) (initial : vault.Backed) :
    next.Backed :=
  driven.preserves (fun _ _ => trivial) (fun _ _ _ _ called backed => backed.call called)
    (fun _ _ _ backed => ⟨backed.totals, backed.funded⟩) initial

theorem claimable (driven : Driven chain self vault requests next)
    (initial : vault.Claimable chain self) : next.Claimable chain self :=
  driven.preserves (fun _ _ => trivial) (fun _ _ _ _ called claimable => claimable.call called)
    (fun _ _ _ claimable => ⟨claimable.funded, claimable.spent⟩) initial

theorem claimed (driven : Driven chain self vault requests next) {c : Bytes32}
    (initial : (vault.commitments c).claimed = true) : (next.commitments c).claimed = true :=
  driven.preserves (fun _ _ => trivial) (fun _ _ _ _ called claimed => (call_slot called c).claimed claimed)
    (fun _ _ _ claimed => claimed) initial

theorem recorded (driven : Driven chain self vault requests next)
    (free : ∀ request ∈ requests, request.locks = false) (c : Bytes32) :
    (next.commitments c).auctionId = (vault.commitments c).auctionId ∧
      (next.commitments c).claimAuthority = (vault.commitments c).claimAuthority := by
  let kept : ShieldedEscrowVault → Prop := fun later =>
    (later.commitments c).auctionId = (vault.commitments c).auctionId ∧
      (later.commitments c).claimAuthority = (vault.commitments c).claimAuthority
  refine driven.preserves free (fun middle after request quiet called before => ?_)
    (fun _ _ _ before => before) (show kept vault from ⟨rfl, rfl⟩)
  obtain ⟨about, authority⟩ := (call_slot called c).recorded quiet
  exact ⟨about.trans before.1, authority.trans before.2⟩

/-- Where nothing is locked or refunded, a deposit can at most change its amount. -/
theorem settles (driven : Driven chain self vault requests next)
    (free : ∀ request ∈ requests, request.locks = false ∧ request.refunds = false) (c : Bytes32) :
    ∃ amount, next.commitments c = { vault.commitments c with amount } := by
  let kept : ShieldedEscrowVault → Prop := fun later =>
    ∃ amount, later.commitments c = { vault.commitments c with amount }
  refine driven.preserves free (fun middle after request quiet called before => ?_)
    (fun _ _ _ before => before) (show kept vault from ⟨(vault.commitments c).amount, rfl⟩)
  obtain ⟨amount, before⟩ := before
  have step := call_slot called c
  rw [before] at step
  unfold kept
  generalize after.commitments c = slot at step ⊢
  cases step with
  | kept => exact ⟨amount, rfl⟩
  | locked same =>
    rw [same] at quiet
    cases quiet.1
  | settled rest => exact ⟨rest, rfl⟩
  | refunded same =>
    rw [quiet.2] at same
    cases same

theorem leaves (driven : Driven chain self vault requests next) {auctionId : AuctionId} {c : Bytes32}
    (all : ∀ request ∈ requests, request.leaves auctionId)
    (about : (vault.commitments c).auctionId = auctionId) : next.commitments c = vault.commitments c := by
  let kept : ShieldedEscrowVault → Prop := fun later => later.commitments c = vault.commitments c
  refine driven.preserves all (fun middle after request quiet called before => ?_)
    (fun _ _ _ before => before) (show kept vault from rfl)
  have still : (middle.commitments c).auctionId = auctionId := (congrArg (·.auctionId) before).trans about
  exact (call_leaves called quiet still).trans before

end Driven

end ShieldedEscrowVault

end FairMarket
