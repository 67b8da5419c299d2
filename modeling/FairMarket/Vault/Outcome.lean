import FairMarket.Contracts.ShieldedEscrowVault

/-! What each vault operation checks and writes when it returns. Later proofs use
these equations and never unfold an operation. -/

namespace FairMarket.ShieldedEscrowVault

theorem lockEscrow_ok {vault next : ShieldedEscrowVault} {sender : Address} {value : ℕ}
    {auctionId : AuctionId} {commitmentHash : Bytes32} {claimAuthority : Address} :
    vault.lockEscrow sender value auctionId commitmentHash claimAuthority = .ok next ↔
      (sender = vault.market ∧ value ≠ 0 ∧ commitmentHash ≠ 0 ∧ claimAuthority ≠ 0 ∧
        (vault.commitments commitmentHash).amount = 0 ∧
        (vault.commitments commitmentHash).claimed = false ∧
        FitsUint256 (vault.auctionTotals auctionId + value)) ∧
      { vault with
        commitments := Function.update vault.commitments commitmentHash
          { vault.commitments commitmentHash with auctionId, amount := value, claimAuthority }
        auctionTotals := Function.update vault.auctionTotals auctionId
          (vault.auctionTotals auctionId + value)
        balance := vault.balance + value } = next := by
  simp [lockEscrow, onlyMarket, bind_eq_ok, and_assoc]

/-- The share of a penalty that the public lane receives. -/
def publicShare (value publicEscrowTotal shieldedEscrowTotal : ℕ) : ℕ :=
  if shieldedEscrowTotal = 0 then value
  else value * publicEscrowTotal / (publicEscrowTotal + shieldedEscrowTotal)

theorem publicShare_le (value publicEscrowTotal shieldedEscrowTotal : ℕ) :
    publicShare value publicEscrowTotal shieldedEscrowTotal ≤ value := by
  unfold publicShare
  split
  · exact Nat.le_refl _
  · apply Nat.div_le_of_le_mul
    rw [Nat.mul_comm]
    exact Nat.mul_le_mul_right _ (Nat.le_add_right ..)

theorem publicSlashShare_eq {value publicEscrowTotal shieldedEscrowTotal share : ℕ}
    (shared : publicSlashShare value publicEscrowTotal shieldedEscrowTotal
      (publicEscrowTotal + shieldedEscrowTotal) = .ok share) :
    share = publicShare value publicEscrowTotal shieldedEscrowTotal := by
  unfold publicSlashShare at shared
  unfold publicShare
  split at shared
  · rename_i empty
    cases shared
    rw [if_pos empty]
  · rename_i nonempty
    simp only [bind_eq_ok, checkedMul_eq_ok, pure_eq_ok, Except.ok.injEq] at shared
    obtain ⟨product, ⟨-, rfl⟩, rfl⟩ := shared
    rw [if_neg nonempty]

theorem allocateSlash_ok {vault next : ShieldedEscrowVault} {sender : Address} {value : ℕ}
    {auctionId : AuctionId} {publicEscrowTotal allocation : ℕ}
    (allocated : vault.allocateSlash sender value auctionId publicEscrowTotal = .ok (allocation, next)) :
    (sender = vault.market ∧ value ≠ 0 ∧ publicEscrowTotal + vault.auctionTotals auctionId ≠ 0 ∧
      allocation = publicShare value publicEscrowTotal (vault.auctionTotals auctionId)) ∧
    { vault with
      shieldedSlashReserves := Function.update vault.shieldedSlashReserves auctionId
        (vault.shieldedSlashReserves auctionId + (value - allocation))
      balance := vault.balance + value - allocation } = next := by
  simp only [allocateSlash, onlyMarket, exists_revertIf, bind_eq_ok, checkedAdd_eq_ok,
    checkedSub_eq_ok, pure_eq_ok, Except.ok.injEq, Prod.mk.injEq, not_or, ne_eq, not_not] at allocated
  obtain ⟨isMarket, total, ⟨-, rfl⟩, ⟨nonzero, some⟩, share, shared, shielded, ⟨-, rfl⟩,
    reserve, ⟨-, rfl⟩, -, rfl, rfl⟩ := allocated
  exact ⟨⟨isMarket, nonzero, some, publicSlashShare_eq shared⟩, rfl⟩

theorem settleWinningCommitment_ok {vault next : ShieldedEscrowVault} {sender : Address}
    {auctionId : AuctionId} {commitmentHash : Bytes32} {winningAmount remaining : ℕ} :
    vault.settleWinningCommitment sender auctionId commitmentHash winningAmount =
        .ok (remaining, next) ↔
      (sender = vault.market ∧ vault.refundsUnlocked auctionId = false ∧ commitmentHash ≠ 0 ∧
        vault.winningCommitments auctionId = 0 ∧
        (vault.commitments commitmentHash).amount ≠ 0 ∧
        (vault.commitments commitmentHash).auctionId = auctionId ∧
        winningAmount ≤ (vault.commitments commitmentHash).amount ∧
        winningAmount ≤ vault.auctionTotals auctionId ∧ winningAmount ≤ vault.balance) ∧
      (vault.commitments commitmentHash).amount - winningAmount = remaining ∧
      { vault with
        commitments := Function.update vault.commitments commitmentHash
          { vault.commitments commitmentHash with
            amount := (vault.commitments commitmentHash).amount - winningAmount }
        winningCommitments := Function.update vault.winningCommitments auctionId commitmentHash
        auctionTotals := Function.update vault.auctionTotals auctionId
          (vault.auctionTotals auctionId - winningAmount)
        balance := vault.balance - winningAmount } = next := by
  simp only [settleWinningCommitment, onlyMarket, exists_revertIf, bind_eq_ok, checkedSub_eq_ok,
    pure_eq_ok, Except.ok.injEq, Prod.mk.injEq, ne_eq, not_not, Nat.not_lt, gt_iff_lt,
    Bool.not_eq_true]
  constructor
  · rintro ⟨isMarket, locked, nonzero, unsettled, -, funded, same, covered, rest, ⟨-, rfl⟩, total,
      ⟨backed, rfl⟩, solvent, rfl, rfl⟩
    exact ⟨⟨isMarket, locked, nonzero, unsettled, funded, same, covered, backed, solvent⟩, rfl, rfl⟩
  · rintro ⟨⟨isMarket, locked, nonzero, unsettled, funded, same, covered, backed, solvent⟩, rfl, rfl⟩
    exact ⟨isMarket, locked, nonzero, unsettled, fun spent => funded spent.1, funded, same, covered, _,
      ⟨covered, rfl⟩, _, ⟨backed, rfl⟩, solvent, rfl, rfl⟩

theorem unlockRefunds_ok {vault next : ShieldedEscrowVault} {sender : Address}
    {auctionId : AuctionId} :
    vault.unlockRefunds sender auctionId = .ok next ↔ sender = vault.market ∧
      { vault with refundsUnlocked := Function.update vault.refundsUnlocked auctionId true } = next := by
  simp [unlockRefunds, onlyMarket, bind_eq_ok]

theorem requireRegisteredCommitment_ok {vault : ShieldedEscrowVault} {commitmentHash : Bytes32}
    {commitment : CommitmentDeposit} :
    vault.requireRegisteredCommitment commitmentHash = .ok commitment ↔
      (vault.commitments commitmentHash).auctionId ≠ 0 ∧
      (vault.commitments commitmentHash).claimAuthority ≠ 0 ∧
      vault.commitments commitmentHash = commitment := by
  simp [requireRegisteredCommitment, bind_eq_ok]

theorem requireSpendableCommitment_ok {vault : ShieldedEscrowVault} {commitmentHash : Bytes32}
    {commitment : CommitmentDeposit} :
    vault.requireSpendableCommitment commitmentHash = .ok commitment ↔
      (vault.commitments commitmentHash).amount ≠ 0 ∧
      vault.commitments commitmentHash = commitment := by
  simp only [requireSpendableCommitment, bind_eq_ok, exists_revertIf, pure_eq_ok, Except.ok.injEq]
  constructor
  · rintro ⟨-, funded, same⟩
    exact ⟨funded, same⟩
  · rintro ⟨funded, same⟩
    exact ⟨fun spent => funded spent.1, funded, same⟩

theorem consumeClaimAuthorization_ok {vault next : ShieldedEscrowVault} {chain : Chain}
    {self : Address} {timestamp : ℕ} {claimTag : String} {commitmentHash : Bytes32}
    {auctionId : AuctionId} {recipient : Address} {deadline : ℕ} {signature : Signature}
    {digest : Digest} :
    vault.consumeClaimAuthorization chain self timestamp claimTag commitmentHash auctionId recipient
        deadline signature = .ok (digest, next) ↔
      (recipient ≠ 0 ∧ timestamp ≤ deadline ∧
        (vault.commitments commitmentHash).auctionId ≠ 0 ∧
        (vault.commitments commitmentHash).claimAuthority ≠ 0 ∧
        vault.usedClaimAuthorizations
          (claimDigest chain self claimTag auctionId commitmentHash recipient deadline) = false ∧
        chain.recover (claimDigest chain self claimTag auctionId commitmentHash recipient deadline)
          signature = some (vault.commitments commitmentHash).claimAuthority) ∧
      claimDigest chain self claimTag auctionId commitmentHash recipient deadline = digest ∧
      { vault with
        usedClaimAuthorizations := Function.update vault.usedClaimAuthorizations
          (claimDigest chain self claimTag auctionId commitmentHash recipient deadline) true } = next := by
  simp only [consumeClaimAuthorization, exists_revertIf, bind_eq_ok, requireRegisteredCommitment_ok,
    requireSome_eq_ok, pure_eq_ok, Except.ok.injEq, Prod.mk.injEq, ne_eq, not_not, Nat.not_lt,
    gt_iff_lt, Bool.not_eq_true]
  constructor
  · rintro ⟨known, timely, commitment, ⟨registered, authority, rfl⟩, unused, signer, recovered, rfl,
      rfl, rfl⟩
    exact ⟨⟨known, timely, registered, authority, unused, recovered⟩, rfl, rfl⟩
  · rintro ⟨⟨known, timely, registered, authority, unused, recovered⟩, rfl, rfl⟩
    exact ⟨known, timely, _, ⟨registered, authority, rfl⟩, unused, _, recovered, rfl, rfl, rfl⟩

theorem authorizeAssetClaim_ok {vault next : ShieldedEscrowVault} {chain : Chain} {self : Address}
    {timestamp : ℕ} {sender : Address} {auctionId : AuctionId} {commitmentHash : Bytes32}
    {recipient : Address} {deadline : ℕ} {signature : Signature} {digest : Digest} :
    vault.authorizeAssetClaim chain self timestamp sender auctionId commitmentHash recipient
        deadline signature = .ok (digest, next) ↔
      sender = vault.market ∧ (vault.commitments commitmentHash).auctionId = auctionId ∧
      vault.consumeClaimAuthorization chain self timestamp assetClaimTag commitmentHash auctionId
        recipient deadline signature = .ok (digest, next) := by
  simp only [authorizeAssetClaim, onlyMarket, exists_revertIf, bind_eq_ok,
    requireRegisteredCommitment_ok, ne_eq, not_not]
  constructor
  · rintro ⟨isMarket, commitment, ⟨registered, authority, rfl⟩, rfl, consumed⟩
    exact ⟨isMarket, rfl, consumed⟩
  · rintro ⟨isMarket, rfl, consumed⟩
    obtain ⟨⟨-, -, registered, authority, -⟩, -⟩ := consumeClaimAuthorization_ok.mp consumed
    exact ⟨isMarket, _, ⟨registered, authority, rfl⟩, rfl, consumed⟩

/-- The compensation a commitment draws from the remaining reserve. -/
def compensationShare (principal reserve remainingEscrow : ℕ) : ℕ :=
  principal * reserve / remainingEscrow

theorem consumeShieldedCompensation_ok {vault next : ShieldedEscrowVault} {auctionId : AuctionId}
    {principal compensation : ℕ}
    (consumed : vault.consumeShieldedCompensation auctionId principal = .ok (compensation, next)) :
    compensation = compensationShare principal (vault.shieldedSlashReserves auctionId)
        (vault.auctionTotals auctionId) ∧
      compensation ≤ vault.shieldedSlashReserves auctionId ∧
      { vault with
        shieldedSlashReserves := Function.update vault.shieldedSlashReserves auctionId
          (vault.shieldedSlashReserves auctionId - compensation) } = next := by
  unfold consumeShieldedCompensation at consumed
  unfold compensationShare
  dsimp only at consumed
  split at consumed
  · rename_i empty
    cases consumed
    have nothing : principal * vault.shieldedSlashReserves auctionId / vault.auctionTotals auctionId = 0 := by
      rcases empty with none | none <;> simp [none]
    simp [nothing]
  · simp only [bind_eq_ok, checkedMul_eq_ok, checkedSub_eq_ok, pure_eq_ok, Except.ok.injEq,
      Prod.mk.injEq] at consumed
    obtain ⟨product, ⟨-, rfl⟩, remaining, ⟨bounded, rfl⟩, rfl, rfl⟩ := consumed
    exact ⟨rfl, bounded, rfl⟩

variable {Source : Type}

theorem releaseRefund_ok {vault : ShieldedEscrowVault}
    {settle : AuctionId → Bytes32 → Address → ℕ → Except Revert Source}
    {commitmentHash key : Bytes32} {recipient : Address} {released : ReleasedRefund Source}
    (done : vault.releaseRefund settle commitmentHash key recipient = .ok released) :
    let commitment := vault.commitments commitmentHash
    let compensation := compensationShare commitment.amount
      (vault.shieldedSlashReserves commitment.auctionId) (vault.auctionTotals commitment.auctionId)
    (commitment.amount ≠ 0 ∧ vault.refundsUnlocked commitment.auctionId = true ∧
      compensation ≤ vault.shieldedSlashReserves commitment.auctionId ∧
      commitment.amount ≤ vault.auctionTotals commitment.auctionId ∧
      commitment.amount + compensation ≤ vault.balance ∧
      settle commitment.auctionId key recipient commitment.amount = .ok released.source) ∧
    released = {
      auctionId := commitment.auctionId
      principalAmount := commitment.amount
      compensationAmount := compensation
      source := released.source
      vault := { vault with
        commitments := Function.update vault.commitments commitmentHash
          { commitment with claimed := true, amount := 0 }
        auctionTotals := Function.update vault.auctionTotals commitment.auctionId
          (vault.auctionTotals commitment.auctionId - commitment.amount)
        shieldedSlashReserves := Function.update vault.shieldedSlashReserves commitment.auctionId
          (vault.shieldedSlashReserves commitment.auctionId - compensation)
        balance := vault.balance - (commitment.amount + compensation) } } := by
  simp only [releaseRefund, bind_eq_ok, requireSpendableCommitment_ok, exists_revertIf, checkedSub_eq_ok,
    checkedAdd_eq_ok, pure_eq_ok, Except.ok.injEq, Prod.exists, not_not, Nat.not_lt] at done
  obtain ⟨commitment, ⟨funded, rfl⟩, unlocked, compensation, compensated, consumed, total,
    ⟨backed, rfl⟩, source, settled, payment, ⟨-, rfl⟩, solvent, rfl⟩ := done
  obtain ⟨rfl, bounded, rfl⟩ := consumeShieldedCompensation_ok consumed
  exact ⟨⟨funded, unlocked, bounded, backed, solvent, settled⟩, rfl⟩

theorem claimRefundWithAuthorization_ok {vault : ShieldedEscrowVault} {chain : Chain}
    {self : Address} {timestamp : ℕ}
    {settle : AuctionId → Bytes32 → Address → ℕ → Except Revert Source}
    {commitmentHash : Bytes32} {recipient : Address} {deadline : ℕ} {signature : Signature}
    {released : ReleasedRefund Source} :
    vault.claimRefundWithAuthorization chain self timestamp settle commitmentHash recipient deadline
        signature = .ok released ↔
      ∃ digest consumed, (vault.commitments commitmentHash).amount ≠ 0 ∧
        vault.consumeClaimAuthorization chain self timestamp refundClaimTag commitmentHash
          (vault.commitments commitmentHash).auctionId recipient deadline signature =
            .ok (digest, consumed) ∧
        consumed.releaseRefund settle commitmentHash (compensationKey chain commitmentHash) recipient =
          .ok released := by
  simp only [claimRefundWithAuthorization, bind_eq_ok, requireSpendableCommitment_ok, Prod.exists]
  constructor
  · rintro ⟨commitment, ⟨funded, rfl⟩, digest, consumed, authorized, done⟩
    exact ⟨digest, consumed, funded, authorized, done⟩
  · rintro ⟨digest, consumed, funded, authorized, done⟩
    exact ⟨_, ⟨funded, rfl⟩, digest, consumed, authorized, done⟩

end FairMarket.ShieldedEscrowVault
