import FairMarket.Evm.Types
import Mathlib.Logic.Function.Basic

/-! The vault that holds shielded escrow by commitment. One table of commitments
serves every auction; totals, reserves and unlock flags are kept per auction. -/

namespace FairMarket

structure CommitmentDeposit where
  auctionId : AuctionId := 0
  amount : ℕ := 0
  claimed : Bool := false
  claimAuthority : Address := 0

structure ShieldedEscrowVault where
  commitments : Bytes32 → CommitmentDeposit := fun _ => {}
  auctionTotals : AuctionId → ℕ := fun _ => 0
  refundsUnlocked : AuctionId → Bool := fun _ => false
  shieldedSlashReserves : AuctionId → ℕ := fun _ => 0
  winningCommitments : AuctionId → Bytes32 := fun _ => 0
  usedClaimAuthorizations : Digest → Bool := fun _ => false
  owner : Address := 0
  market : Address
  previewReader : Address := 0
  shieldedBidVerifier : Address := 0
  balance : ℕ := 0

namespace ShieldedEscrowVault

def assetClaimTag : String := "FFM_SHIELDED_ASSET_CLAIM"

def refundClaimTag : String := "FFM_SHIELDED_REFUND_CLAIM"

def refundCompensationTag : String := "FFM_SHIELDED_REFUND_COMPENSATION"

def onlyMarket (vault : ShieldedEscrowVault) (sender : Address) : Except Revert Unit :=
  revertIf (sender ≠ vault.market) (.notMarket sender)

def lockEscrow (vault : ShieldedEscrowVault) (sender : Address) (value : ℕ) (auctionId : AuctionId)
    (commitmentHash : Bytes32) (claimAuthority : Address) : Except Revert ShieldedEscrowVault := do
  vault.onlyMarket sender
  revertIf (value = 0) .zeroValue
  revertIf (commitmentHash = 0) .invalidCommitmentHash
  revertIf (claimAuthority = 0) .zeroAddress
  let commitment := vault.commitments commitmentHash
  revertIf (commitment.amount ≠ 0 ∨ commitment.claimed) (.commitmentAlreadyExists commitmentHash)
  let total ← checkedAdd (vault.auctionTotals auctionId) value
  return { vault with
    commitments := Function.update vault.commitments commitmentHash
      { commitment with auctionId, amount := value, claimAuthority }
    auctionTotals := Function.update vault.auctionTotals auctionId total
    balance := vault.balance + value }

/-- The public lane's share of a penalty, all of it when nothing is shielded. -/
def publicSlashShare (value publicEscrowTotal shieldedEscrowTotal totalEscrow : ℕ) : Except Revert ℕ :=
  if shieldedEscrowTotal = 0 then .ok value
  else do
    let product ← checkedMul value publicEscrowTotal
    return product / totalEscrow

/-- Split a penalty between the lanes. The public share goes back to the market,
whose `receive` accepts any transfer. -/
def allocateSlash (vault : ShieldedEscrowVault) (sender : Address) (value : ℕ)
    (auctionId : AuctionId) (publicEscrowTotal : ℕ) : Except Revert (ℕ × ShieldedEscrowVault) := do
  vault.onlyMarket sender
  let shieldedEscrowTotal := vault.auctionTotals auctionId
  let totalEscrow ← checkedAdd publicEscrowTotal shieldedEscrowTotal
  revertIf (value = 0 ∨ totalEscrow = 0) (.invalidSlashAllocation auctionId)
  let publicSlashAllocation ← publicSlashShare value publicEscrowTotal shieldedEscrowTotal totalEscrow
  let shieldedSlashAllocation ← checkedSub value publicSlashAllocation
  let reserve ← checkedAdd (vault.shieldedSlashReserves auctionId) shieldedSlashAllocation
  revertIf (vault.balance + value < publicSlashAllocation)
    (.nativeTransferFailed vault.market publicSlashAllocation)
  return (publicSlashAllocation, { vault with
    shieldedSlashReserves := Function.update vault.shieldedSlashReserves auctionId reserve
    balance := vault.balance + value - publicSlashAllocation })

def settleWinningCommitment (vault : ShieldedEscrowVault) (sender : Address)
    (auctionId : AuctionId) (commitmentHash : Bytes32) (winningAmount : ℕ) :
    Except Revert (ℕ × ShieldedEscrowVault) := do
  vault.onlyMarket sender
  revertIf (vault.refundsUnlocked auctionId) (.refundsUnlocked auctionId)
  revertIf (commitmentHash = 0) .invalidCommitmentHash
  revertIf (vault.winningCommitments auctionId ≠ 0)
    (.winningCommitmentAlreadySettled auctionId (vault.winningCommitments auctionId))
  let commitment := vault.commitments commitmentHash
  let availableAmount := commitment.amount
  revertIf (availableAmount = 0 ∧ commitment.claimed) (.commitmentAlreadyClaimed commitmentHash)
  revertIf (availableAmount = 0) (.commitmentDoesNotExist commitmentHash)
  revertIf (commitment.auctionId ≠ auctionId) (.commitmentDoesNotExist commitmentHash)
  revertIf (winningAmount > availableAmount)
    (.winningAmountExceedsCommitment auctionId winningAmount availableAmount)
  let remainingRefund ← checkedSub availableAmount winningAmount
  let total ← checkedSub (vault.auctionTotals auctionId) winningAmount
  revertIf (vault.balance < winningAmount) (.nativeTransferFailed vault.market winningAmount)
  return (remainingRefund, { vault with
    commitments := Function.update vault.commitments commitmentHash
      { commitment with amount := remainingRefund }
    winningCommitments := Function.update vault.winningCommitments auctionId commitmentHash
    auctionTotals := Function.update vault.auctionTotals auctionId total
    balance := vault.balance - winningAmount })

def unlockRefunds (vault : ShieldedEscrowVault) (sender : Address) (auctionId : AuctionId) :
    Except Revert ShieldedEscrowVault := do
  vault.onlyMarket sender
  return { vault with refundsUnlocked := Function.update vault.refundsUnlocked auctionId true }

def requireRegisteredCommitment (vault : ShieldedEscrowVault) (commitmentHash : Bytes32) :
    Except Revert CommitmentDeposit := do
  let commitment := vault.commitments commitmentHash
  revertIf (commitment.auctionId = 0) (.commitmentDoesNotExist commitmentHash)
  revertIf (commitment.claimAuthority = 0) (.claimAuthorityNotSet commitmentHash)
  return commitment

def requireSpendableCommitment (vault : ShieldedEscrowVault) (commitmentHash : Bytes32) :
    Except Revert CommitmentDeposit := do
  let commitment := vault.commitments commitmentHash
  revertIf (commitment.amount = 0 ∧ commitment.claimed) (.commitmentAlreadyClaimed commitmentHash)
  revertIf (commitment.amount = 0) (.commitmentDoesNotExist commitmentHash)
  return commitment

/-- The digest a claim authority signs. -/
def claimDigest (chain : Chain) (self : Address) (claimTag : String) (auctionId : AuctionId)
    (commitmentHash : Bytes32) (recipient : Address) (deadline : ℕ) : Digest :=
  (Digest.keccak [.text claimTag, .value chain.chainId, .ofAddress self, .ofBytes32 auctionId,
    .ofBytes32 commitmentHash, .ofAddress recipient, .value deadline]).toEthSignedMessageHash

def consumeClaimAuthorization (vault : ShieldedEscrowVault) (chain : Chain) (self : Address)
    (timestamp : ℕ) (claimTag : String) (commitmentHash : Bytes32) (auctionId : AuctionId)
    (recipient : Address) (deadline : ℕ) (signature : Signature) :
    Except Revert (Digest × ShieldedEscrowVault) := do
  revertIf (recipient = 0) .zeroAddress
  revertIf (timestamp > deadline) (.claimAuthorizationExpired deadline timestamp)
  let commitment ← vault.requireRegisteredCommitment commitmentHash
  let authorizationDigest := claimDigest chain self claimTag auctionId commitmentHash recipient deadline
  revertIf (vault.usedClaimAuthorizations authorizationDigest)
    (.claimAuthorizationAlreadyUsed authorizationDigest)
  let recoveredAuthority ← requireSome (chain.recover authorizationDigest signature) .invalidSignature
  revertIf (recoveredAuthority ≠ commitment.claimAuthority)
    (.invalidClaimAuthority commitmentHash commitment.claimAuthority recoveredAuthority)
  return (authorizationDigest, { vault with
    usedClaimAuthorizations := Function.update vault.usedClaimAuthorizations authorizationDigest true })

def authorizeAssetClaim (vault : ShieldedEscrowVault) (chain : Chain) (self : Address)
    (timestamp : ℕ) (sender : Address) (auctionId : AuctionId) (commitmentHash : Bytes32)
    (recipient : Address) (deadline : ℕ) (signature : Signature) :
    Except Revert (Digest × ShieldedEscrowVault) := do
  vault.onlyMarket sender
  let commitment ← vault.requireRegisteredCommitment commitmentHash
  revertIf (commitment.auctionId ≠ auctionId) (.commitmentDoesNotExist commitmentHash)
  vault.consumeClaimAuthorization chain self timestamp assetClaimTag commitmentHash
    commitment.auctionId recipient deadline signature

def consumeShieldedCompensation (vault : ShieldedEscrowVault) (auctionId : AuctionId)
    (principalAmount : ℕ) : Except Revert (ℕ × ShieldedEscrowVault) :=
  let reserve := vault.shieldedSlashReserves auctionId
  let remainingEscrow := vault.auctionTotals auctionId
  if reserve = 0 ∨ remainingEscrow = 0 then .ok (0, vault)
  else do
    let product ← checkedMul principalAmount reserve
    let compensationAmount := product / remainingEscrow
    let remaining ← checkedSub reserve compensationAmount
    return (compensationAmount, { vault with
      shieldedSlashReserves := Function.update vault.shieldedSlashReserves auctionId remaining })

/-- What a refund releases: the amounts, the refund source's own new state and the vault's. -/
structure ReleasedRefund (Source : Type) where
  auctionId : AuctionId
  principalAmount : ℕ
  compensationAmount : ℕ
  source : Source
  vault : ShieldedEscrowVault

/-- `settleShieldedRefund` stands for the call back into the market. The payment
to the recipient is the last action, so its code runs after this function. -/
def releaseRefund {Source : Type} (vault : ShieldedEscrowVault)
    (settleShieldedRefund : AuctionId → Bytes32 → Address → ℕ → Except Revert Source)
    (commitmentHash compensationKey : Bytes32) (recipient : Address) :
    Except Revert (ReleasedRefund Source) := do
  let commitment ← vault.requireSpendableCommitment commitmentHash
  let auctionId := commitment.auctionId
  revertIf (¬ vault.refundsUnlocked auctionId) (.refundsLocked auctionId)
  let principalAmount := commitment.amount
  let (compensationAmount, compensated) ← vault.consumeShieldedCompensation auctionId principalAmount
  let total ← checkedSub (compensated.auctionTotals auctionId) principalAmount
  let source ← settleShieldedRefund auctionId compensationKey recipient principalAmount
  let payment ← checkedAdd principalAmount compensationAmount
  revertIf (compensated.balance < payment) (.nativeTransferFailed recipient payment)
  return { auctionId, principalAmount, compensationAmount, source, vault := { compensated with
    commitments := Function.update compensated.commitments commitmentHash
      { commitment with claimed := true, amount := 0 }
    auctionTotals := Function.update compensated.auctionTotals auctionId total
    balance := compensated.balance - payment } }

/-- The key under which the market remembers a paid refund. -/
def compensationKey (chain : Chain) (commitmentHash : Bytes32) : Bytes32 :=
  chain.keccak [.text refundCompensationTag, .ofBytes32 commitmentHash]

def claimRefundWithAuthorization {Source : Type} (vault : ShieldedEscrowVault) (chain : Chain)
    (self : Address) (timestamp : ℕ)
    (settleShieldedRefund : AuctionId → Bytes32 → Address → ℕ → Except Revert Source)
    (commitmentHash : Bytes32) (recipient : Address) (deadline : ℕ) (signature : Signature) :
    Except Revert (ReleasedRefund Source) := do
  let commitment ← vault.requireSpendableCommitment commitmentHash
  let (_, consumed) ← vault.consumeClaimAuthorization chain self timestamp refundClaimTag
    commitmentHash commitment.auctionId recipient deadline signature
  consumed.releaseRefund settleShieldedRefund commitmentHash (compensationKey chain commitmentHash)
    recipient

/-- The auction a commitment is recorded under, its unlock flag and its claimed flag. -/
def commitmentState (vault : ShieldedEscrowVault) (commitmentHash : Bytes32) :
    AuctionId × Bool × Bool :=
  let commitment := vault.commitments commitmentHash
  (commitment.auctionId, vault.refundsUnlocked commitment.auctionId, commitment.claimed)

def canPreviewCommitment (vault : ShieldedEscrowVault) (sender : Address) : Except Revert Unit :=
  revertIf (sender ≠ vault.market ∧ sender ≠ vault.owner ∧ sender ≠ vault.previewReader)
    (.notPreviewReader sender)

/-- What `commitmentState` returns with the amount after the auction, for a preview reader. -/
def previewCommitment (vault : ShieldedEscrowVault) (sender : Address) (commitmentHash : Bytes32) :
    Except Revert (AuctionId × ℕ × Bool × Bool) := do
  vault.canPreviewCommitment sender
  let commitment := vault.commitments commitmentHash
  return (commitment.auctionId, commitment.amount, vault.refundsUnlocked commitment.auctionId,
    commitment.claimed)

/-- The verifier is asked about the vault at `self`; a reverting one yields `none`. -/
def verifyBidCoverageProof (vault : ShieldedEscrowVault)
    (verifyBidCoverage : Address → Address → AuctionId → Bytes32 → Bytes32 → ℕ → ℕ → List UInt8 →
      Option Bool)
    (self : Address) (timestamp : ℕ) (commitmentHash encryptedBid : Bytes32) (deadline : ℕ)
    (signature : List UInt8) : Except Revert Unit := do
  let commitment ← vault.requireSpendableCommitment commitmentHash
  revertIf (timestamp > deadline) (.claimAuthorizationExpired deadline timestamp)
  let verifier := vault.shieldedBidVerifier
  revertIf (verifier = 0) (.invalidShieldedBidProof commitmentHash 0)
  let valid ← requireSome (verifyBidCoverage verifier self commitment.auctionId commitmentHash
    encryptedBid commitment.amount deadline signature) .callFailed
  revertIf (¬ valid) (.invalidShieldedBidProof commitmentHash verifier)

def setMarket (vault : ShieldedEscrowVault) (sender newMarket : Address) : Except Revert ShieldedEscrowVault := do
  revertIf (sender ≠ vault.owner) (.ownableUnauthorizedAccount sender)
  revertIf (newMarket = 0) .zeroAddress
  return { vault with market := newMarket }

def setShieldedBidVerifier (vault : ShieldedEscrowVault) (sender newVerifier : Address) :
    Except Revert ShieldedEscrowVault := do
  revertIf (sender ≠ vault.owner) (.ownableUnauthorizedAccount sender)
  return { vault with shieldedBidVerifier := newVerifier }

def setPreviewReader (vault : ShieldedEscrowVault) (sender newPreviewReader : Address) :
    Except Revert ShieldedEscrowVault := do
  revertIf (sender ≠ vault.owner) (.ownableUnauthorizedAccount sender)
  revertIf (newPreviewReader = 0) .zeroAddress
  return { vault with previewReader := newPreviewReader }

end ShieldedEscrowVault

end FairMarket
