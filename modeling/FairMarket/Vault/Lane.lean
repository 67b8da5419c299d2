import FairMarket.Vault.Outcome

/-! A vault seen from one auction. Every operation moves the lane of the auction it
names and no other. -/

namespace FairMarket

/-- What a vault keeps about one auction. -/
structure Lane where
  total : ℕ := 0
  reserve : ℕ := 0
  unlocked : Bool := false
  winningCommitment : Bytes32 := 0

namespace ShieldedEscrowVault

def lane (vault : ShieldedEscrowVault) (auctionId : AuctionId) : Lane where
  total := vault.auctionTotals auctionId
  reserve := vault.shieldedSlashReserves auctionId
  unlocked := vault.refundsUnlocked auctionId
  winningCommitment := vault.winningCommitments auctionId

/-- The operation replaces one lane and keeps the vault's market. -/
structure MovesLane (auctionId : AuctionId) (vault next : ShieldedEscrowVault) (after : Lane) : Prop where
  market : next.market = vault.market
  lane : next.lane auctionId = after
  others : ∀ other, other ≠ auctionId → next.lane other = vault.lane other

variable {vault next : ShieldedEscrowVault} {sender : Address} {value : ℕ} {auctionId : AuctionId}
  {commitmentHash : Bytes32}

theorem lockEscrow_lane {claimAuthority : Address}
    (locked : vault.lockEscrow sender value auctionId commitmentHash claimAuthority = .ok next) :
    MovesLane auctionId vault next
      { vault.lane auctionId with total := (vault.lane auctionId).total + value } := by
  obtain ⟨-, rfl⟩ := lockEscrow_ok.mp locked
  refine ⟨rfl, ?_, fun other different => ?_⟩
  · simp only [lane, Function.update_self]
  · simp only [lane, Function.update_of_ne different]

theorem allocateSlash_lane {publicEscrowTotal allocation : ℕ}
    (allocated : vault.allocateSlash sender value auctionId publicEscrowTotal = .ok (allocation, next)) :
    allocation = publicShare value publicEscrowTotal (vault.lane auctionId).total ∧
      MovesLane auctionId vault next
        { vault.lane auctionId with
          reserve := (vault.lane auctionId).reserve + (value - allocation) } := by
  obtain ⟨⟨-, -, -, share⟩, rfl⟩ := allocateSlash_ok allocated
  refine ⟨share, rfl, ?_, fun other different => ?_⟩
  · simp only [lane, Function.update_self]
  · simp only [lane, Function.update_of_ne different]

theorem settleWinningCommitment_lane {winningAmount remaining : ℕ}
    (settled : vault.settleWinningCommitment sender auctionId commitmentHash winningAmount =
      .ok (remaining, next)) :
    winningAmount ≤ (vault.lane auctionId).total ∧
      MovesLane auctionId vault next
        { vault.lane auctionId with
          total := (vault.lane auctionId).total - winningAmount
          winningCommitment := commitmentHash } := by
  obtain ⟨⟨-, -, -, -, -, -, -, backed, -⟩, -, rfl⟩ := settleWinningCommitment_ok.mp settled
  refine ⟨backed, rfl, ?_, fun other different => ?_⟩
  · simp only [lane, Function.update_self]
  · simp only [lane, Function.update_of_ne different]

theorem unlockRefunds_lane (unlocked : vault.unlockRefunds sender auctionId = .ok next) :
    MovesLane auctionId vault next { vault.lane auctionId with unlocked := true } := by
  obtain ⟨-, rfl⟩ := unlockRefunds_ok.mp unlocked
  refine ⟨rfl, ?_, fun other different => ?_⟩
  · simp only [lane, Function.update_self]
  · simp only [lane, Function.update_of_ne different]

theorem consumeClaimAuthorization_lane {chain : Chain} {self : Address} {timestamp : ℕ}
    {claimTag : String} {recipient : Address} {deadline : ℕ} {signature : Signature} {digest : Digest}
    (consumed : vault.consumeClaimAuthorization chain self timestamp claimTag commitmentHash auctionId
      recipient deadline signature = .ok (digest, next)) :
    next.market = vault.market ∧ ∀ other, next.lane other = vault.lane other := by
  obtain ⟨-, -, rfl⟩ := consumeClaimAuthorization_ok.mp consumed
  exact ⟨rfl, fun _ => rfl⟩

theorem releaseRefund_lane {Source : Type}
    {settle : AuctionId → Bytes32 → Address → ℕ → Except Revert Source} {key : Bytes32}
    {recipient : Address} {released : ReleasedRefund Source}
    (done : vault.releaseRefund settle commitmentHash key recipient = .ok released) :
    MovesLane released.auctionId vault released.vault
      { vault.lane released.auctionId with
        total := (vault.lane released.auctionId).total - released.principalAmount
        reserve := (vault.lane released.auctionId).reserve - released.compensationAmount } := by
  obtain ⟨-, same⟩ := releaseRefund_ok done
  rw [same]
  refine ⟨rfl, ?_, fun other different => ?_⟩
  · simp only [lane, Function.update_self]
  · simp only [lane, Function.update_of_ne different]

end ShieldedEscrowVault

end FairMarket
