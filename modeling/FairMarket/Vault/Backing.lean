import FairMarket.Vault.Calls
import FairMarket.Lib.Ledger

/-! Every commitment and every reserved penalty is backed by the vault's own
balance, and the per-auction totals are the sums they claim to be. -/

namespace FairMarket

/-- What a commitment contributes to the total of an auction. -/
def CommitmentDeposit.amountIn (auctionId : AuctionId) (deposit : CommitmentDeposit) : ℕ :=
  if deposit.auctionId = auctionId then deposit.amount else 0

theorem CommitmentDeposit.amountIn_le (auctionId : AuctionId) (deposit : CommitmentDeposit) :
    deposit.amountIn auctionId ≤ deposit.amount := by
  unfold CommitmentDeposit.amountIn
  split
  · exact Nat.le_refl _
  · exact Nat.zero_le _

namespace ShieldedEscrowVault

/-- Escrow recorded over all commitments. -/
def committed (vault : ShieldedEscrowVault) : ℕ := ∑ c, (vault.commitments c).amount

/-- Penalties reserved over all auctions. -/
def reserved (vault : ShieldedEscrowVault) : ℕ := ∑ a, vault.shieldedSlashReserves a

structure Backed (vault : ShieldedEscrowVault) : Prop where
  totals : ∀ auctionId,
    vault.auctionTotals auctionId = ∑ c, (vault.commitments c).amountIn auctionId
  funded : vault.committed + vault.reserved ≤ vault.balance

theorem backed_deployed (owner market : Address) : (deployed owner market).Backed where
  totals := by
    intro auctionId
    refine (Finset.sum_eq_zero fun c _ => ?_).symm
    unfold CommitmentDeposit.amountIn
    split <;> rfl
  funded := by simp [deployed, committed, reserved]

/-- Rewriting one commitment moves an auction's sum by the change of that slot. -/
theorem sum_amountIn_update (table : Bytes32 → CommitmentDeposit) (slot : Bytes32)
    (deposit : CommitmentDeposit) (auctionId : AuctionId) :
    ∑ c, (Function.update table slot deposit c).amountIn auctionId +
        (table slot).amountIn auctionId =
      ∑ c, (table c).amountIn auctionId + deposit.amountIn auctionId := by
  have moved := Ledger.sum_agree_off (fun c => (table c).amountIn auctionId)
    (fun c => (Function.update table slot deposit c).amountIn auctionId) slot
    (fun other different => by simp [Function.update_of_ne different])
  simpa using moved

theorem sum_amount_update (table : Bytes32 → CommitmentDeposit) (slot : Bytes32)
    (deposit : CommitmentDeposit) :
    ∑ c, (Function.update table slot deposit c).amount + (table slot).amount =
      ∑ c, (table c).amount + deposit.amount := by
  have moved := Ledger.sum_agree_off (fun c => (table c).amount)
    (fun c => (Function.update table slot deposit c).amount) slot
    (fun other different => by simp [Function.update_of_ne different])
  simpa using moved

variable {vault next : ShieldedEscrowVault}

/-- A commitment is never larger than its auction's total. -/
theorem Backed.amount_le_total (backed : vault.Backed) (commitmentHash : Bytes32) :
    (vault.commitments commitmentHash).amount ≤
      vault.auctionTotals (vault.commitments commitmentHash).auctionId := by
  rw [backed.totals]
  have part := Ledger.le_sum (fun c => (vault.commitments c).amountIn
    (vault.commitments commitmentHash).auctionId) commitmentHash
  simpa [CommitmentDeposit.amountIn] using part

theorem Backed.compensation_le_reserve (backed : vault.Backed) (commitmentHash : Bytes32) :
    let commitment := vault.commitments commitmentHash
    compensationShare commitment.amount (vault.shieldedSlashReserves commitment.auctionId)
      (vault.auctionTotals commitment.auctionId) ≤
        vault.shieldedSlashReserves commitment.auctionId := by
  apply Nat.div_le_of_le_mul
  exact Nat.mul_le_mul_right _ (backed.amount_le_total commitmentHash)

/-- A commitment and its auction's whole reserve are both in the vault. -/
theorem Backed.covers (backed : vault.Backed) (commitmentHash : Bytes32) (auctionId : AuctionId) :
    (vault.commitments commitmentHash).amount + vault.shieldedSlashReserves auctionId ≤
      vault.balance := by
  have slot := Ledger.le_sum (fun c => (vault.commitments c).amount) commitmentHash
  have lane := Ledger.le_sum vault.shieldedSlashReserves auctionId
  have funded := backed.funded
  unfold committed reserved at funded
  omega

theorem Backed.lockEscrow (backed : vault.Backed) {sender : Address} {value : ℕ}
    {auctionId : AuctionId} {commitmentHash : Bytes32} {claimAuthority : Address}
    (locked : vault.lockEscrow sender value auctionId commitmentHash claimAuthority = .ok next) :
    next.Backed := by
  obtain ⟨⟨-, -, -, -, empty, -, -⟩, rfl⟩ := lockEscrow_ok.mp locked
  constructor
  · intro other
    have moved := sum_amountIn_update vault.commitments commitmentHash
      { vault.commitments commitmentHash with auctionId, amount := value, claimAuthority } other
    have vacant : (vault.commitments commitmentHash).amountIn other = 0 := by
      have bounded := (vault.commitments commitmentHash).amountIn_le other
      omega
    have total := backed.totals other
    by_cases same : other = auctionId
    · subst other
      simp only [CommitmentDeposit.amountIn, if_true, Function.update_self] at moved vacant total ⊢
      omega
    · rw [vacant] at moved
      simp only [CommitmentDeposit.amountIn, Ne.symm same, if_false] at moved total ⊢
      simp only [Function.update_of_ne same]
      omega
  · have moved := sum_amount_update vault.commitments commitmentHash
      { vault.commitments commitmentHash with auctionId, amount := value, claimAuthority }
    have funded := backed.funded
    simp only [committed, reserved] at moved funded ⊢
    omega

theorem Backed.allocateSlash (backed : vault.Backed) {sender : Address} {value : ℕ}
    {auctionId : AuctionId} {publicEscrowTotal allocation : ℕ}
    (allocated : vault.allocateSlash sender value auctionId publicEscrowTotal = .ok (allocation, next)) :
    next.Backed := by
  obtain ⟨⟨-, -, -, share⟩, rfl⟩ := allocateSlash_ok allocated
  refine ⟨backed.totals, ?_⟩
  have bounded := publicShare_le value publicEscrowTotal (vault.auctionTotals auctionId)
  have moved := Ledger.sum_update vault.shieldedSlashReserves auctionId
    (vault.shieldedSlashReserves auctionId + (value - allocation))
  have funded := backed.funded
  simp only [committed, reserved] at funded ⊢
  omega

/-- What a commitment gives up, the total of its auction gives up. -/
theorem Backed.totals_less (backed : vault.Backed) {commitmentHash : Bytes32} {changed : CommitmentDeposit}
    {taken : ℕ} (about : changed.auctionId = (vault.commitments commitmentHash).auctionId)
    (less : changed.amount + taken = (vault.commitments commitmentHash).amount) (other : AuctionId) :
    Function.update vault.auctionTotals (vault.commitments commitmentHash).auctionId
        (vault.auctionTotals (vault.commitments commitmentHash).auctionId - taken) other =
      ∑ c, (Function.update vault.commitments commitmentHash changed c).amountIn other := by
  have moved := sum_amountIn_update vault.commitments commitmentHash changed other
  have total := backed.totals other
  by_cases same : other = (vault.commitments commitmentHash).auctionId
  · subst other
    simp only [CommitmentDeposit.amountIn, about, if_true, Function.update_self] at moved total ⊢
    omega
  · simp only [CommitmentDeposit.amountIn, about, Ne.symm same, if_false] at moved total
    simp only [CommitmentDeposit.amountIn, Function.update_of_ne same]
    omega

theorem Backed.settleWinningCommitment (backed : vault.Backed) {sender : Address}
    {auctionId : AuctionId} {commitmentHash : Bytes32} {winningAmount remaining : ℕ}
    (settled : vault.settleWinningCommitment sender auctionId commitmentHash winningAmount =
      .ok (remaining, next)) : next.Backed := by
  obtain ⟨⟨-, -, -, -, -, same, covered, -, -⟩, -, rfl⟩ := settleWinningCommitment_ok.mp settled
  subst same
  constructor
  · exact backed.totals_less rfl (Nat.sub_add_cancel covered)
  · have moved := sum_amount_update vault.commitments commitmentHash
      { vault.commitments commitmentHash with
        amount := (vault.commitments commitmentHash).amount - winningAmount }
    have funded := backed.funded
    simp only [committed, reserved] at moved funded ⊢
    omega

theorem Backed.releaseRefund (backed : vault.Backed) {Source : Type}
    {settle : AuctionId → Bytes32 → Address → ℕ → Except Revert Source}
    {commitmentHash key : Bytes32} {recipient : Address} {released : ReleasedRefund Source}
    (done : vault.releaseRefund settle commitmentHash key recipient = .ok released) :
    released.vault.Backed := by
  obtain ⟨⟨-, -, bounded, -, -, -⟩, same⟩ := releaseRefund_ok done
  rw [same]
  constructor
  · exact backed.totals_less rfl (Nat.zero_add _)
  · have slots := sum_amount_update vault.commitments commitmentHash
      { vault.commitments commitmentHash with claimed := true, amount := 0 }
    have lanes := Ledger.sum_update vault.shieldedSlashReserves
      (vault.commitments commitmentHash).auctionId
      (vault.shieldedSlashReserves (vault.commitments commitmentHash).auctionId -
        compensationShare (vault.commitments commitmentHash).amount
          (vault.shieldedSlashReserves (vault.commitments commitmentHash).auctionId)
          (vault.auctionTotals (vault.commitments commitmentHash).auctionId))
    have funded := backed.funded
    simp only [committed, reserved] at slots lanes funded ⊢
    omega

theorem Backed.consumeClaimAuthorization (backed : vault.Backed) {chain : Chain} {self : Address}
    {timestamp : ℕ} {claimTag : String} {commitmentHash : Bytes32} {auctionId : AuctionId}
    {recipient : Address} {deadline : ℕ} {signature : Signature} {digest : Digest}
    (consumed : vault.consumeClaimAuthorization chain self timestamp claimTag commitmentHash auctionId
      recipient deadline signature = .ok (digest, next)) : next.Backed := by
  obtain ⟨-, -, rfl⟩ := consumeClaimAuthorization_ok.mp consumed
  exact ⟨backed.totals, backed.funded⟩

theorem Backed.call (backed : vault.Backed) {chain : Chain} {self : Address} {request : VaultCall}
    (called : vault.call chain self request = .ok next) : next.Backed := by
  cases request with
  | lockEscrow => exact backed.lockEscrow called
  | allocateSlash =>
    simp only [ShieldedEscrowVault.call, bind_eq_ok, pure_eq_ok, Except.ok.injEq, Prod.exists] at called
    obtain ⟨_, _, allocated, rfl⟩ := called
    exact backed.allocateSlash allocated
  | settleWinningCommitment =>
    simp only [ShieldedEscrowVault.call, bind_eq_ok, pure_eq_ok, Except.ok.injEq, Prod.exists] at called
    obtain ⟨_, _, settled, rfl⟩ := called
    exact backed.settleWinningCommitment settled
  | unlockRefunds =>
    obtain ⟨-, rfl⟩ := unlockRefunds_ok.mp called
    exact ⟨backed.totals, backed.funded⟩
  | authorizeAssetClaim =>
    simp only [ShieldedEscrowVault.call, bind_eq_ok, pure_eq_ok, Except.ok.injEq, Prod.exists] at called
    obtain ⟨_, _, authorized, rfl⟩ := called
    exact backed.consumeClaimAuthorization (authorizeAssetClaim_ok.mp authorized).2.2
  | claimRefundWithAuthorization =>
    simp only [ShieldedEscrowVault.call, bind_eq_ok, exists_revertIf, pure_eq_ok,
      Except.ok.injEq] at called
    obtain ⟨released, done, -, rfl⟩ := called
    obtain ⟨digest, consumed, -, authorized, paid⟩ := claimRefundWithAuthorization_ok.mp done
    exact (backed.consumeClaimAuthorization authorized).releaseRefund paid

theorem backed_play (chain : Chain) (self owner market : Address) (calls : List VaultCall) :
    (play (ShieldedEscrowVault.call chain self) (deployed owner market) calls).Backed :=
  play_preserves (fun _ _ _ backed called => backed.call called) (backed_deployed owner market) calls

theorem allocateSlash_no_underflow {sender : Address} {value : ℕ} {auctionId : AuctionId}
    {publicEscrowTotal : ℕ} :
    vault.allocateSlash sender value auctionId publicEscrowTotal ≠ .error .arithmeticUnderflow := by
  intro raised
  simp only [ShieldedEscrowVault.allocateSlash, onlyMarket, bind_eq_error, revertIf_eq_error,
    revertIf_eq_ok, checkedAdd_eq_error, checkedAdd_eq_ok, checkedSub_eq_error, checkedSub_eq_ok,
    pure_eq_ok, reduceCtorEq, and_false, and_true, false_or, exists_const, or_false] at raised
  obtain ⟨-, total, ⟨-, rfl⟩, -, shared | ⟨share, shared, exceeds⟩⟩ := raised
  · unfold publicSlashShare at shared
    split at shared <;> simp [bind_eq_error, checkedMul_eq_error] at shared
  · have bounded := publicShare_le value publicEscrowTotal (vault.auctionTotals auctionId)
    rw [publicSlashShare_eq shared] at exceeds
    omega

theorem Backed.settleWinningCommitment_no_underflow (backed : vault.Backed) {sender : Address}
    {auctionId : AuctionId} {commitmentHash : Bytes32} {winningAmount : ℕ} :
    vault.settleWinningCommitment sender auctionId commitmentHash winningAmount ≠
      .error .arithmeticUnderflow := by
  intro raised
  simp only [ShieldedEscrowVault.settleWinningCommitment, onlyMarket, bind_eq_error, revertIf_eq_error,
    revertIf_eq_ok, checkedSub_eq_error, checkedSub_eq_ok, pure_eq_ok, reduceCtorEq, and_false,
    and_true, false_or, exists_const, or_false, ne_eq, not_not, Nat.not_lt, gt_iff_lt] at raised
  obtain ⟨-, -, -, -, -, -, same, covered, exceeds | ⟨remaining, -, exceeds⟩⟩ := raised
  · omega
  · have part := backed.amount_le_total commitmentHash
    rw [same] at part
    omega

theorem consumeClaimAuthorization_no_underflow {chain : Chain} {self : Address} {timestamp : ℕ}
    {claimTag : String} {commitmentHash : Bytes32} {auctionId : AuctionId} {recipient : Address}
    {deadline : ℕ} {signature : Signature} :
    vault.consumeClaimAuthorization chain self timestamp claimTag commitmentHash auctionId recipient
      deadline signature ≠ .error .arithmeticUnderflow := by
  simp [ShieldedEscrowVault.consumeClaimAuthorization, requireRegisteredCommitment, bind_eq_error,
    revertIf_eq_error, requireSome_eq_error]

theorem Backed.consumeShieldedCompensation_no_underflow (backed : vault.Backed)
    (commitmentHash : Bytes32) :
    vault.consumeShieldedCompensation (vault.commitments commitmentHash).auctionId
      (vault.commitments commitmentHash).amount ≠ .error .arithmeticUnderflow := by
  intro raised
  unfold consumeShieldedCompensation at raised
  dsimp only at raised
  split at raised
  · cases raised
  · simp only [bind_eq_error, checkedMul_eq_error, checkedMul_eq_ok, checkedSub_eq_error,
      pure_eq_ok, reduceCtorEq, and_false, and_true, false_or, exists_const, or_false] at raised
    obtain ⟨product, ⟨-, rfl⟩, exceeds⟩ := raised
    exact Nat.not_le.mpr exceeds (backed.compensation_le_reserve commitmentHash)

theorem Backed.releaseRefund_no_underflow (backed : vault.Backed) (settles : Bool)
    {commitmentHash key : Bytes32} {recipient : Address} :
    vault.releaseRefund (refundSource settles) commitmentHash key recipient ≠
      .error .arithmeticUnderflow := by
  intro raised
  simp only [ShieldedEscrowVault.releaseRefund, requireSpendableCommitment, refundSource, bind_eq_error,
    bind_eq_ok, revertIf_eq_error, revertIf_eq_ok, checkedSub_eq_error, checkedSub_eq_ok,
    checkedAdd_eq_error, pure_eq_ok, Except.ok.injEq, reduceCtorEq, and_false, and_true, false_or,
    exists_const, or_false, Prod.exists] at raised
  obtain ⟨commitment, ⟨-, -, rfl⟩, -, failed | ⟨compensation, compensated, consumed, exceeds⟩⟩ := raised
  · exact backed.consumeShieldedCompensation_no_underflow commitmentHash failed
  · obtain ⟨-, -, rfl⟩ := consumeShieldedCompensation_ok consumed
    exact Nat.not_le.mpr exceeds (backed.amount_le_total commitmentHash)

/-- No subtraction of a vault operation can go below zero. -/
theorem Backed.call_no_underflow (backed : vault.Backed) (chain : Chain) (self : Address)
    (request : VaultCall) : vault.call chain self request ≠ .error .arithmeticUnderflow := by
  intro raised
  cases request with
  | lockEscrow =>
    simp [ShieldedEscrowVault.call, ShieldedEscrowVault.lockEscrow, onlyMarket, bind_eq_error,
      revertIf_eq_error, checkedAdd_eq_error] at raised
  | allocateSlash =>
    simp only [ShieldedEscrowVault.call, bind_eq_error, pure_eq_ok, reduceCtorEq, and_false,
      exists_false, or_false] at raised
    exact allocateSlash_no_underflow raised
  | settleWinningCommitment =>
    simp only [ShieldedEscrowVault.call, bind_eq_error, pure_eq_ok, reduceCtorEq, and_false,
      exists_false, or_false] at raised
    exact backed.settleWinningCommitment_no_underflow raised
  | unlockRefunds =>
    simp [ShieldedEscrowVault.call, ShieldedEscrowVault.unlockRefunds, onlyMarket, bind_eq_error,
      revertIf_eq_error] at raised
  | authorizeAssetClaim =>
    simp only [ShieldedEscrowVault.call, ShieldedEscrowVault.authorizeAssetClaim, onlyMarket,
      requireRegisteredCommitment, bind_eq_error, bind_eq_ok, revertIf_eq_error, revertIf_eq_ok, pure_eq_ok,
      reduceCtorEq, and_false, exists_const, exists_false, or_false, false_or] at raised
    obtain ⟨-, commitment, -, -, failed⟩ := raised
    exact consumeClaimAuthorization_no_underflow failed
  | claimRefundWithAuthorization timestamp commitmentHash recipient deadline signature settles accepts =>
    simp only [ShieldedEscrowVault.call, ShieldedEscrowVault.claimRefundWithAuthorization,
      requireSpendableCommitment, bind_eq_error, bind_eq_ok, revertIf_eq_error, pure_eq_ok,
      reduceCtorEq, and_false, exists_const, exists_false, or_false, false_or, exists_revertIf,
      Prod.exists] at raised
    obtain ⟨commitment, -, failed | ⟨digest, consumed, authorized, failed⟩⟩ := raised
    · exact consumeClaimAuthorization_no_underflow failed
    · exact (backed.consumeClaimAuthorization authorized).releaseRefund_no_underflow settles failed

theorem Backed.consumeShieldedCompensation (backed : vault.Backed) {commitmentHash : Bytes32}
    (fits : FitsUint256 ((vault.commitments commitmentHash).amount *
      vault.shieldedSlashReserves (vault.commitments commitmentHash).auctionId)) :
    ∃ compensation next, vault.consumeShieldedCompensation (vault.commitments commitmentHash).auctionId
      (vault.commitments commitmentHash).amount = .ok (compensation, next) := by
  have bounded := backed.compensation_le_reserve commitmentHash
  unfold compensationShare at bounded
  unfold ShieldedEscrowVault.consumeShieldedCompensation
  dsimp only at bounded ⊢
  split
  · exact ⟨_, _, rfl⟩
  · simp [checkedMul, fits, checkedSub, bounded]

/-- What a refund of a commitment must satisfy besides being authorised. The last
two fields are the overflow checks the compiler adds. -/
structure RefundReady (vault : ShieldedEscrowVault) (commitmentHash : Bytes32) : Prop where
  funded : (vault.commitments commitmentHash).amount ≠ 0
  unlocked : vault.refundsUnlocked (vault.commitments commitmentHash).auctionId = true
  productFits : FitsUint256 ((vault.commitments commitmentHash).amount *
    vault.shieldedSlashReserves (vault.commitments commitmentHash).auctionId)
  paymentFits : FitsUint256 ((vault.commitments commitmentHash).amount +
    compensationShare (vault.commitments commitmentHash).amount
      (vault.shieldedSlashReserves (vault.commitments commitmentHash).auctionId)
      (vault.auctionTotals (vault.commitments commitmentHash).auctionId))

/-- A ready refund is paid: the vault holds the principal and the compensation. -/
theorem Backed.releaseRefund_succeeds (backed : vault.Backed) {Source : Type}
    {settle : AuctionId → Bytes32 → Address → ℕ → Except Revert Source} {source : Source}
    {commitmentHash key : Bytes32} {recipient : Address} (ready : vault.RefundReady commitmentHash)
    (settled : settle (vault.commitments commitmentHash).auctionId key recipient
      (vault.commitments commitmentHash).amount = .ok source) :
    ∃ released, vault.releaseRefund settle commitmentHash key recipient = .ok released := by
  obtain ⟨compensation, next, consumed⟩ := backed.consumeShieldedCompensation ready.productFits
  obtain ⟨rfl, bounded, rfl⟩ := consumeShieldedCompensation_ok consumed
  have part := backed.amount_le_total commitmentHash
  have covers := backed.covers commitmentHash (vault.commitments commitmentHash).auctionId
  simp only [ShieldedEscrowVault.releaseRefund, bind_eq_ok, requireSpendableCommitment_ok, exists_revertIf,
    checkedSub_eq_ok, checkedAdd_eq_ok, pure_eq_ok, Except.ok.injEq, Prod.exists, not_not, Nat.not_lt]
  refine ⟨_, _, ⟨ready.funded, rfl⟩, ready.unlocked, _, _, consumed, _, ⟨part, rfl⟩, source, settled, _,
    ⟨ready.paymentFits, rfl⟩, ?_, rfl⟩
  dsimp only
  omega

theorem Backed.claimRefundWithAuthorization_succeeds (backed : vault.Backed) {chain : Chain}
    {self : Address} {timestamp : ℕ} {commitmentHash : Bytes32} {recipient : Address} {deadline : ℕ}
    {signature : Signature} {digest : Digest} {consumed : ShieldedEscrowVault}
    (authorized : vault.consumeClaimAuthorization chain self timestamp refundClaimTag commitmentHash
      (vault.commitments commitmentHash).auctionId recipient deadline signature = .ok (digest, consumed))
    (ready : vault.RefundReady commitmentHash) :
    ∃ next, vault.call chain self (.claimRefundWithAuthorization timestamp commitmentHash recipient
      deadline signature true true) = .ok next := by
  have stillReady : consumed.RefundReady commitmentHash := by
    obtain ⟨-, -, rfl⟩ := consumeClaimAuthorization_ok.mp authorized
    exact ⟨ready.funded, ready.unlocked, ready.productFits, ready.paymentFits⟩
  obtain ⟨released, done⟩ : ∃ released, consumed.releaseRefund (refundSource true) commitmentHash
      (compensationKey chain commitmentHash) recipient = .ok released :=
    (backed.consumeClaimAuthorization authorized).releaseRefund_succeeds stillReady rfl
  refine ⟨released.vault, ?_⟩
  simp only [ShieldedEscrowVault.call, bind_eq_ok, exists_revertIf, pure_eq_ok, Except.ok.injEq]
  exact ⟨released, claimRefundWithAuthorization_ok.mpr ⟨digest, consumed, ready.funded, authorized, done⟩,
    by simp, rfl⟩

/-- In every state the market can drive a vault to, the totals are the sums of
their commitments, the balance covers all escrow and all reserves, no subtraction
underflows, no compensation exceeds its reserve, and every ready and authorised
refund is paid. -/
theorem vault_backing (chain : Chain) (self owner market : Address) (calls : List VaultCall) :
    let vault := play (ShieldedEscrowVault.call chain self) (deployed owner market) calls
    (∀ auctionId, vault.auctionTotals auctionId =
        ∑ c, if (vault.commitments c).auctionId = auctionId then (vault.commitments c).amount else 0) ∧
      ∑ c, (vault.commitments c).amount + ∑ a, vault.shieldedSlashReserves a ≤ vault.balance ∧
      (∀ request, vault.call chain self request ≠ .error .arithmeticUnderflow) ∧
      (∀ c, compensationShare (vault.commitments c).amount
          (vault.shieldedSlashReserves (vault.commitments c).auctionId)
          (vault.auctionTotals (vault.commitments c).auctionId) ≤
        vault.shieldedSlashReserves (vault.commitments c).auctionId) ∧
      (∀ timestamp c recipient deadline signature digest consumed,
        vault.consumeClaimAuthorization chain self timestamp refundClaimTag c
            (vault.commitments c).auctionId recipient deadline signature = .ok (digest, consumed) →
        vault.RefundReady c →
        ∃ next, vault.call chain self (.claimRefundWithAuthorization timestamp c recipient deadline
          signature true true) = .ok next) := by
  intro vault
  have backed : vault.Backed := backed_play chain self owner market calls
  refine ⟨backed.totals, backed.funded, backed.call_no_underflow chain self,
    backed.compensation_le_reserve, ?_⟩
  intro timestamp c recipient deadline signature digest consumed authorized ready
  exact backed.claimRefundWithAuthorization_succeeds authorized ready

end ShieldedEscrowVault

end FairMarket
