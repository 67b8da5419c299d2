import FairMarket.Contracts.MockEigenLayerAVS
import FairMarket.Contracts.SettlementEngine
import FairMarket.Contracts.ShieldedEscrowVault
import FairMarket.Contracts.ShieldedIdentityRegistry
import FairMarket.Contracts.SlashedPot

/-! The market's storage, the contracts it is wired to, and what lies outside of
them. All mappings keyed by one auction id are gathered in one cell. -/

namespace FairMarket

structure Auction where
  exists_ : Bool := false
  nftContract : Address := 0
  tokenId : ℕ := 0
  seller : Address := 0
  endTime : ℕ := 0
  sellerDeposit : ℕ := 0
  state : AuctionState := .created
  isVickrey : Bool := false
  lastBlockTimestamp : ℕ := 0
  winnerCiphertext : Bytes32 := 0
  winningAmount : ℕ := 0
  winner : Address := 0
  totalEscrow : ℕ := 0
  slashAmount : ℕ := 0
  createdAt : ℕ := 0
  resolvingSince : ℕ := 0
  sellerClaimed : Bool := false
  assetClaimed : Bool := false
  bidCount : ℕ := 0
  startingPrice : ℕ := 0

structure PendingResolutionRequest where
  exists_ : Bool := false
  requestId : Bytes32 := 0
  winnerHandle : Bytes32 := 0
  amountHandle : Bytes32 := 0
  requestedAt : ℕ := 0

structure AuctionDependencySnapshot where
  initialized : Bool := false
  cofheAdapter : Address := 0
  settlementEngine : Address := 0
  slashedPot : Address := 0
  shieldedEscrowVault : Address := 0
  shieldedIdentityRegistry : Address := 0

/-- Everything the market stores under one auction id. -/
structure AuctionStorage where
  auction : Auction := {}
  escrowBalances : Address → ℕ := fun _ => 0
  hasWithdrawn : Address → Bool := fun _ => false
  encryptedBids : Address → Bytes32 := fun _ => 0
  knownBidders : Address → Bool := fun _ => false
  bidders : List Address := []
  resolutionRequest : PendingResolutionRequest := {}
  finalizationExecutor : Address := 0
  finalizationReward : ℕ := 0
  finalizationNonce : ℕ := 0
  finalizationSalt : Bytes32 := 0
  finalizationRewardClaimed : Bool := false
  shieldedRefundsUnlocked : Bool := false
  shieldedRefundClaimed : Bytes32 → Bool := fun _ => false
  shieldedEncryptedBids : Bytes32 → Bytes32 := fun _ => 0
  knownShieldedCommitments : Bytes32 → Bool := fun _ => false
  shieldedCommitments : List Bytes32 := []
  winningCommitment : Bytes32 := 0
  dependencySnapshot : AuctionDependencySnapshot := {}

/-- The two fields `_observeNetwork` maintains. -/
structure NetworkObservation where
  lastObservationTimestamp : ℕ := 0
  movingAverageBlockDelta : ℕ := 0

/-- The market's own storage. The reentrancy guard is open between transactions
and refuses every entry during one, so it is not a field. -/
structure FhenixFairMarket where
  auctions : AuctionId → AuctionStorage := fun _ => {}
  auctionCounter : ℕ := 0
  owner : Address
  slashedPot : Address
  cofheAdapter : Address
  settlementEngine : Address := 0
  shieldedEscrowVault : Address := 0
  shieldedIdentityRegistry : Address := 0
  network : NetworkObservation := {}
  balance : ℕ := 0

/-- What the contracts emit, with the amounts they name. -/
inductive Event where
  | auctionCreated (auctionId : AuctionId) (seller nftContract : Address) (tokenId sellerDeposit : ℕ)
  | auctionStateChanged (auctionId : AuctionId) (fromState toState : AuctionState)
  | escrowLocked (auctionId : AuctionId) (bidder : Address) (amount : ℕ)
  | shieldedEscrowLocked (auctionId : AuctionId) (commitmentHash : Bytes32) (amount : ℕ)
  | shieldedClaimAuthorityRegistered (auctionId : AuctionId) (commitmentHash : Bytes32)
      (claimAuthority : Address)
  | bidPlaced (auctionId : AuctionId) (bidder : Address) (bidHandle : Bytes32)
  | shieldedBidPlaced (auctionId : AuctionId) (commitmentHash bidHandle : Bytes32)
  | finalizationTriggered (auctionId : AuctionId) (requestId : Bytes32)
  | resolutionRejected (auctionId : AuctionId) (requestId : Bytes32)
  | resolutionRecorded (auctionId : AuctionId) (winner : Address) (winnerCiphertext : Bytes32)
  | fallbackTriggered (auctionId : AuctionId) (elapsed threshold : ℕ)
  | refundClaimed (auctionId : AuctionId) (claimant : Address) (escrowRefund compensation : ℕ)
  | sellerProceedsClaimed (auctionId : AuctionId) (seller : Address) (amount : ℕ)
  | finalizeRewardClaimed (auctionId : AuctionId) (executor : Address) (amount : ℕ)
  | shieldedRefundClaimed (auctionId : AuctionId) (commitmentHash : Bytes32) (recipient : Address)
      (principalAmount compensationAmount : ℕ)
  /-- The ERC-721 transfer of an auction's token out of the market. -/
  | assetReleased (auctionId : AuctionId) (recipient : Address)

/-- The contracts this repository does not contain, over a state `σ` of their own.
A view may revert, which is `none`. -/
structure External (σ : Type) extends Chain where
  /-- The address of the market's proxy. -/
  market : Address
  isContract : σ → Address → Bool
  gt : σ → Address → Bytes32 → ℕ → Option Bool
  lte : σ → Address → Bytes32 → ℕ → Option Bool
  /-- `IShieldedBidVerifier.verifyBidCoverage`, the verifier's address first. -/
  verifyBidCoverage : σ → Address → Address → AuctionId → Bytes32 → Bytes32 → ℕ → ℕ → List UInt8 →
    Option Bool
  verifyAttestation : σ → Address → Address → AuctionId → Bytes32 → Address → Bytes32 → ℕ → Proof →
    Except Revert (Bool × σ)
  verifyShieldedAttestation : σ → Address → Address → AuctionId → Bytes32 → Bytes32 → Bytes32 → ℕ →
    Proof → Except Revert (Bool × σ)
  ownerOf : σ → Address → ℕ → Option Address
  getApproved : σ → Address → ℕ → Option Address
  isApprovedForAll : σ → Address → Address → Address → Option Bool
  safeTransferFrom : σ → Address → Address → Address → ℕ → Except Revert σ
  /-- The views of a vault or a registry that is not of this repository, its address first and
  then the caller's. -/
  commitmentState : σ → Address → Address → Bytes32 → Option (AuctionId × Bool × Bool) := fun _ _ _ _ => none
  previewCommitment : σ → Address → Address → Bytes32 → Option (AuctionId × ℕ × Bool × Bool) :=
    fun _ _ _ _ => none
  identityForCommitment : σ → Address → Address → AuctionId → Bytes32 → Option Bytes32 := fun _ _ _ _ _ => none
  /-- Run the recipient's code on a plain transfer, `none` when it reverts. -/
  receiveEther : σ → Address → ℕ → Option σ
  /-- What may happen outside without any call of the contracts below. -/
  admits : σ → σ → Bool

/-- The key under which the market remembers the refund of a commitment. -/
def External.refundKey {σ : Type} (env : External σ) (commitmentHash : Bytes32) : Bytes32 :=
  ShieldedEscrowVault.compensationKey env.toChain commitmentHash

/-- The market, every deployed dependency by address, and the outside. The last
two fields only record: plain transfers to the market, and all events, newest first. -/
structure World (σ : Type) where
  market : FhenixFairMarket
  vaults : Address → Option ShieldedEscrowVault
  registries : Address → Option ShieldedIdentityRegistry
  pots : Address → Option SlashedPot
  engines : Address → Option SettlementEngine
  outside : σ
  timestamp : ℕ := 0
  unsolicited : ℕ := 0
  log : List Event := []

variable {σ : Type}

/-- The auction an event is about. -/
def Event.auctionId : Event → AuctionId
  | .auctionCreated auctionId .. | .auctionStateChanged auctionId .. | .escrowLocked auctionId ..
  | .shieldedEscrowLocked auctionId .. | .shieldedClaimAuthorityRegistered auctionId ..
  | .bidPlaced auctionId .. | .shieldedBidPlaced auctionId .. | .finalizationTriggered auctionId ..
  | .resolutionRejected auctionId .. | .resolutionRecorded auctionId ..
  | .fallbackTriggered auctionId .. | .refundClaimed auctionId ..
  | .sellerProceedsClaimed auctionId .. | .finalizeRewardClaimed auctionId ..
  | .shieldedRefundClaimed auctionId .. | .assetReleased auctionId .. => auctionId

namespace World

def setAuction (w : World σ) (auctionId : AuctionId) (cell : AuctionStorage) : World σ :=
  { w with market.auctions := Function.update w.market.auctions auctionId cell }

def setVault (w : World σ) (address : Address) (vault : ShieldedEscrowVault) : World σ :=
  { w with vaults := Function.update w.vaults address (some vault) }

def setRegistry (w : World σ) (address : Address) (registry : ShieldedIdentityRegistry) : World σ :=
  { w with registries := Function.update w.registries address (some registry) }

def setPot (w : World σ) (address : Address) (pot : SlashedPot) : World σ :=
  { w with pots := Function.update w.pots address (some pot) }

def setNetwork (w : World σ) (network : NetworkObservation) : World σ :=
  { w with market.network := network }

def setOutside (w : World σ) (outside : σ) : World σ := { w with outside }

/-- The market's balance grows. -/
def credit (w : World σ) (amount : ℕ) : World σ :=
  { w with market.balance := w.market.balance + amount }

/-- The market's balance shrinks. -/
def debit (w : World σ) (amount : ℕ) : World σ :=
  { w with market.balance := w.market.balance - amount }

def emit (w : World σ) (event : Event) : World σ :=
  { w with log := event :: w.log }

end World

end FairMarket
