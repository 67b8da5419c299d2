import FairMarket.Market.Storage
import FairMarket.Vault.Lane

/-! One auction by itself: what the market, its vault and its pot keep about it,
and everything a transaction can do to that. -/

namespace FairMarket

/-- One auction across the contracts. There is no lane when it has no vault. -/
structure AuctionView where
  cell : AuctionStorage := {}
  lane : Option Lane := none
  pot : Pot := {}
  log : List Event := []

/-- The money a step moves: into and out of the market, into and out of the pot. -/
structure Flow where
  received : ℕ := 0
  paid : ℕ := 0
  potReceived : ℕ := 0
  potPaid : ℕ := 0

/-- The escrow a claimant may take out. -/
def AuctionStorage.refundOf (cell : AuctionStorage) (claimant : Address) : ℕ :=
  match cell.auction.state with
  | .finalized =>
    if claimant = cell.auction.winner then cell.escrowBalances claimant - cell.auction.winningAmount
    else cell.escrowBalances claimant
  | .cancelled | .voided => cell.escrowBalances claimant
  | _ => 0

/-- The compensation a claimant draws from the auction's entry in the pot. -/
def AuctionStorage.compensationOf (cell : AuctionStorage) (pot : Pot) (claimant : Address) : ℕ :=
  match cell.auction.state with
  | .cancelled | .voided =>
    if cell.auction.slashAmount = 0 then 0
    else cell.escrowBalances claimant * pot.totalSlash / pot.totalEscrow
  | _ => 0

namespace AuctionView

def shieldedTotal (v : AuctionView) : ℕ := v.lane.elim 0 Lane.total

def reserve (v : AuctionView) : ℕ := v.lane.elim 0 Lane.reserve

/-- All escrow of the auction, in the open and in the vault. -/
def totalEscrow (v : AuctionView) : ℕ := v.cell.auction.totalEscrow + v.shieldedTotal

/-- The part of a penalty the pot receives. -/
def publicSlash (v : AuctionView) (slashAmount : ℕ) : ℕ :=
  ShieldedEscrowVault.publicShare slashAmount v.cell.auction.totalEscrow v.shieldedTotal

/-- The pot once it has received a share. -/
def fillPot (pot : Pot) (totalEscrow share : ℕ) : Pot :=
  if share = 0 then pot
  else { exists_ := true
         totalEscrow := if pot.exists_ then pot.totalEscrow else totalEscrow
         totalSlash := pot.totalSlash + share }

/-- Register a penalty with the vault and the pot. -/
def slashed (v : AuctionView) (slashAmount : ℕ) : AuctionView :=
  { v with
    lane := v.lane.map fun lane =>
      { lane with reserve := lane.reserve + (slashAmount - v.publicSlash slashAmount) }
    pot := fillPot v.pot v.cell.auction.totalEscrow (v.publicSlash slashAmount) }

/-- Open the refund path where there is a vault. -/
def opened (v : AuctionView) : AuctionView :=
  if v.cell.shieldedRefundsUnlocked then v
  else match v.lane with
    | none => v
    | some lane => { v with
        cell := { v.cell with shieldedRefundsUnlocked := true }
        lane := some { lane with unlocked := true } }

def emit (v : AuctionView) (event : Event) : AuctionView := { v with log := event :: v.log }

def refundOf (v : AuctionView) (claimant : Address) : ℕ := v.cell.refundOf claimant

def compensationOf (v : AuctionView) (claimant : Address) : ℕ := v.cell.compensationOf v.pot claimant

def sellerPayout (v : AuctionView) : ℕ :=
  match v.cell.auction.state with
  | .finalized =>
    v.cell.auction.sellerDeposit + v.cell.auction.winningAmount - v.cell.finalizationReward
  | .cancelled => v.cell.auction.sellerDeposit - v.cell.auction.slashAmount
  | .voided =>
    if v.cell.auction.slashAmount = 0 ∧ v.totalEscrow = 0 then
      v.cell.auction.sellerDeposit - v.cell.finalizationReward
    else 0
  | _ => 0

section Simp

variable (v : AuctionView) (event : Event) (slashAmount : ℕ)

@[simp] theorem emit_cell : (v.emit event).cell = v.cell := rfl

@[simp] theorem emit_lane : (v.emit event).lane = v.lane := rfl

@[simp] theorem emit_pot : (v.emit event).pot = v.pot := rfl

@[simp] theorem emit_log : (v.emit event).log = event :: v.log := rfl

@[simp] theorem emit_shieldedTotal : (v.emit event).shieldedTotal = v.shieldedTotal := rfl

@[simp] theorem emit_reserve : (v.emit event).reserve = v.reserve := rfl

@[simp] theorem slashed_cell : (v.slashed slashAmount).cell = v.cell := rfl

@[simp] theorem slashed_log : (v.slashed slashAmount).log = v.log := rfl

@[simp] theorem slashed_pot : (v.slashed slashAmount).pot =
    fillPot v.pot v.cell.auction.totalEscrow (v.publicSlash slashAmount) := rfl

@[simp] theorem slashed_shieldedTotal : (v.slashed slashAmount).shieldedTotal = v.shieldedTotal := by
  unfold shieldedTotal slashed
  cases v.lane <;> rfl

/-- Without a vault all of the penalty is public. -/
@[simp] theorem slashed_reserve :
    (v.slashed slashAmount).reserve = v.reserve + (slashAmount - v.publicSlash slashAmount) := by
  cases lane : v.lane with
  | none =>
    have share : v.publicSlash slashAmount = slashAmount := by
      simp [publicSlash, shieldedTotal, lane, ShieldedEscrowVault.publicShare]
    simp [reserve, slashed, lane, share]
  | some => simp [reserve, slashed, lane]

theorem opened_cases :
    v.opened = v ∧ (v.cell.shieldedRefundsUnlocked = true ∨ v.lane = none) ∨
      ∃ lane, v.cell.shieldedRefundsUnlocked = false ∧ v.lane = some lane ∧ v.opened = { v with
        cell := { v.cell with shieldedRefundsUnlocked := true }
        lane := some { lane with unlocked := true } } := by
  unfold opened
  cases already : v.cell.shieldedRefundsUnlocked with
  | true => exact .inl ⟨if_pos rfl, .inl rfl⟩
  | false =>
    cases present : v.lane with
    | none => exact .inl ⟨rfl, .inr rfl⟩
    | some lane => exact .inr ⟨lane, rfl, rfl, rfl⟩

/-- Whatever does not depend on the two unlock flags survives opening the refund path. -/
theorem opened_same {α : Type} (read : AuctionView → α)
    (blind : ∀ lane, v.lane = some lane → read { v with
      cell := { v.cell with shieldedRefundsUnlocked := true }
      lane := some { lane with unlocked := true } } = read v) : read v.opened = read v := by
  rcases opened_cases v with ⟨same, -⟩ | ⟨lane, -, present, same⟩
  · rw [same]
  · rw [same, blind lane present]

@[simp] theorem opened_auction : v.opened.cell.auction = v.cell.auction :=
  opened_same v (·.cell.auction) fun _ _ => rfl

@[simp] theorem opened_escrowBalances : v.opened.cell.escrowBalances = v.cell.escrowBalances :=
  opened_same v (·.cell.escrowBalances) fun _ _ => rfl

@[simp] theorem opened_hasWithdrawn : v.opened.cell.hasWithdrawn = v.cell.hasWithdrawn :=
  opened_same v (·.cell.hasWithdrawn) fun _ _ => rfl

@[simp] theorem opened_resolutionRequest : v.opened.cell.resolutionRequest = v.cell.resolutionRequest :=
  opened_same v (·.cell.resolutionRequest) fun _ _ => rfl

@[simp] theorem opened_finalizationReward : v.opened.cell.finalizationReward = v.cell.finalizationReward :=
  opened_same v (·.cell.finalizationReward) fun _ _ => rfl

@[simp] theorem opened_finalizationRewardClaimed :
    v.opened.cell.finalizationRewardClaimed = v.cell.finalizationRewardClaimed :=
  opened_same v (·.cell.finalizationRewardClaimed) fun _ _ => rfl

@[simp] theorem opened_shieldedRefundClaimed : v.opened.cell.shieldedRefundClaimed = v.cell.shieldedRefundClaimed :=
  opened_same v (·.cell.shieldedRefundClaimed) fun _ _ => rfl

@[simp] theorem opened_winningCommitment : v.opened.cell.winningCommitment = v.cell.winningCommitment :=
  opened_same v (·.cell.winningCommitment) fun _ _ => rfl

@[simp] theorem opened_dependencySnapshot : v.opened.cell.dependencySnapshot = v.cell.dependencySnapshot :=
  opened_same v (·.cell.dependencySnapshot) fun _ _ => rfl

@[simp] theorem opened_pot : v.opened.pot = v.pot :=
  opened_same v (·.pot) fun _ _ => rfl

@[simp] theorem opened_log : v.opened.log = v.log :=
  opened_same v (·.log) fun _ _ => rfl

@[simp] theorem opened_shieldedTotal : v.opened.shieldedTotal = v.shieldedTotal :=
  opened_same v shieldedTotal fun lane present => by simp [shieldedTotal, present]

@[simp] theorem opened_reserve : v.opened.reserve = v.reserve :=
  opened_same v reserve fun lane present => by simp [reserve, present]

end Simp

end AuctionView

def AuctionState.terminal : AuctionState → Bool
  | .finalized | .cancelled | .voided => true
  | _ => false

/-- The fields a new auction starts with. -/
def newAuction (nftContract : Address) (tokenId : ℕ) (seller : Address)
    (endTime sellerDeposit startingPrice now : ℕ) (isVickrey : Bool) : Auction :=
  { exists_ := true
    nftContract
    tokenId
    seller
    endTime
    sellerDeposit
    state := .active
    isVickrey
    lastBlockTimestamp := toUint64 now
    createdAt := toUint64 now
    startingPrice }

open AuctionView

/-- What a transaction at time `now` can do to an auction, and the money it moves. -/
inductive AuctionStep (refundKey : Bytes32 → Bytes32) (auctionId : AuctionId) (now : ℕ) :
    Flow → AuctionView → AuctionView → Prop where
  | created {v : AuctionView} (nftContract : Address) (tokenId : ℕ) (seller : Address)
      (endTime sellerDeposit startingPrice : ℕ) (isVickrey : Bool)
      (dependencySnapshot : AuctionDependencySnapshot) (lane : Option Lane)
      (fresh : v = {}) (funded : sellerDeposit ≠ 0) (known : seller ≠ 0)
      (initialized : dependencySnapshot.initialized = true) (vacant : lane = none ∨ lane = some {}) :
      AuctionStep refundKey auctionId now { received := sellerDeposit } v {
        cell := {
          auction := newAuction nftContract tokenId seller endTime sellerDeposit startingPrice now isVickrey
          dependencySnapshot }
        lane
        log := [.auctionCreated auctionId seller nftContract tokenId sellerDeposit,
          .auctionStateChanged auctionId .created .active] }
  | escrowLocked {v : AuctionView} (bidder : Address) (amount : ℕ)
      (found : v.cell.auction.exists_ = true) (active : v.cell.auction.state = .active)
      (early : now < v.cell.auction.endTime) (nonzero : amount ≠ 0) (known : bidder ≠ 0) :
      AuctionStep refundKey auctionId now { received := amount } v
        ({ v with cell := { v.cell with
          escrowBalances := Function.update v.cell.escrowBalances bidder
            (v.cell.escrowBalances bidder + amount)
          auction := { v.cell.auction with
            totalEscrow := v.cell.auction.totalEscrow + amount
            lastBlockTimestamp := toUint64 now } } }.emit (.escrowLocked auctionId bidder amount))
  | shieldedEscrowLocked {v : AuctionView} (lane : Lane) (commitmentHash : Bytes32)
      (claimAuthority : Address) (amount : ℕ)
      (found : v.cell.auction.exists_ = true) (active : v.cell.auction.state = .active)
      (early : now < v.cell.auction.endTime) (nonzero : amount ≠ 0) (vault : v.lane = some lane) :
      AuctionStep refundKey auctionId now {} v
        (({ v with
          cell := { v.cell with auction.lastBlockTimestamp := toUint64 now }
          lane := some { lane with total := lane.total + amount } }.emit
            (.shieldedClaimAuthorityRegistered auctionId commitmentHash claimAuthority)).emit
              (.shieldedEscrowLocked auctionId commitmentHash amount))
  | bidPlaced {v : AuctionView} (bidder : Address) (encryptedBid : Bytes32) (bidCount : ℕ)
      (found : v.cell.auction.exists_ = true) (active : v.cell.auction.state = .active)
      (early : now < v.cell.auction.endTime) :
      AuctionStep refundKey auctionId now {} v
        ({ v with cell := { v.cell with
          knownBidders := Function.update v.cell.knownBidders bidder true
          bidders := if v.cell.knownBidders bidder then v.cell.bidders else v.cell.bidders ++ [bidder]
          encryptedBids := Function.update v.cell.encryptedBids bidder encryptedBid
          auction := { v.cell.auction with bidCount, lastBlockTimestamp := toUint64 now } } }.emit
            (.bidPlaced auctionId bidder encryptedBid))
  | shieldedBidPlaced {v : AuctionView} (commitmentHash encryptedBid : Bytes32) (bidCount : ℕ)
      (found : v.cell.auction.exists_ = true) (active : v.cell.auction.state = .active)
      (early : now < v.cell.auction.endTime) :
      AuctionStep refundKey auctionId now {} v
        ({ v with cell := { v.cell with
          knownShieldedCommitments := Function.update v.cell.knownShieldedCommitments commitmentHash true
          shieldedCommitments := if v.cell.knownShieldedCommitments commitmentHash then
            v.cell.shieldedCommitments else v.cell.shieldedCommitments ++ [commitmentHash]
          shieldedEncryptedBids := Function.update v.cell.shieldedEncryptedBids commitmentHash encryptedBid
          auction := { v.cell.auction with bidCount, lastBlockTimestamp := toUint64 now } } }.emit
            (.shieldedBidPlaced auctionId commitmentHash encryptedBid))
  | finalizeTriggered {v : AuctionView} (executor : Address) (finalizeNonce : ℕ) (raceSalt : Bytes32)
      (request : PendingResolutionRequest)
      (found : v.cell.auction.exists_ = true) (active : v.cell.auction.state = .active)
      (late : v.cell.auction.endTime ≤ now) (known : executor ≠ 0) (pending : request.exists_ = true) :
      AuctionStep refundKey auctionId now {} v
        (({ v with cell := { v.cell with
          auction := { v.cell.auction with
            state := .resolving
            lastBlockTimestamp := toUint64 now
            resolvingSince := toUint64 now }
          finalizationExecutor := executor
          finalizationReward := v.cell.auction.sellerDeposit * 20 / 10000
          finalizationNonce := finalizeNonce
          finalizationSalt := raceSalt
          resolutionRequest := request } }.emit (.auctionStateChanged auctionId .active .resolving)).emit
            (.finalizationTriggered auctionId request.requestId))
  | resolutionRejected {v : AuctionView} (found : v.cell.auction.exists_ = true)
      (resolving : v.cell.auction.state = .resolving) :
      AuctionStep refundKey auctionId now {} v
        (v.emit (.resolutionRejected auctionId v.cell.resolutionRequest.requestId))
  | resolved {v : AuctionView} (winner : Address) (winnerCiphertext : Bytes32) (winningAmount : ℕ)
      (found : v.cell.auction.exists_ = true) (resolving : v.cell.auction.state = .resolving)
      (backed : winner = 0 ∧ winningAmount = 0 ∨ winner ≠ 0 ∧ winningAmount ≠ 0 ∧
        winningAmount ≤ v.cell.escrowBalances winner) :
      AuctionStep refundKey auctionId now {} v
        (({ v with cell := { v.cell with
          auction := { v.cell.auction with
            winner
            winnerCiphertext
            winningAmount
            state := .finalized
            lastBlockTimestamp := toUint64 now }
          resolutionRequest := {} } }.emit (.auctionStateChanged auctionId .resolving .finalized)).emit
            (.resolutionRecorded auctionId winner winnerCiphertext)).opened
  | shieldedResolved {v : AuctionView} (lane : Lane) (winnerIdentityHash commitmentHash
      winnerCiphertext : Bytes32) (winningAmount : ℕ)
      (found : v.cell.auction.exists_ = true) (resolving : v.cell.auction.state = .resolving)
      (vault : v.lane = some lane) (identity : winnerIdentityHash ≠ 0) (nonzero : winningAmount ≠ 0)
      (backed : winningAmount ≤ lane.total) :
      AuctionStep refundKey auctionId now { received := winningAmount } v
        (({ v with
          cell := { v.cell with
            auction := { v.cell.auction with
              winner := 0
              winnerCiphertext
              winningAmount
              state := .finalized
              lastBlockTimestamp := toUint64 now }
            winningCommitment := winnerIdentityHash
            resolutionRequest := {} }
          lane := some { lane with
            total := lane.total - winningAmount
            winningCommitment := commitmentHash } }.emit
              (.auctionStateChanged auctionId .resolving .finalized)).emit
                (.resolutionRecorded auctionId 0 winnerCiphertext)).opened
  | cancelled {v : AuctionView} (slashAmount : ℕ)
      (found : v.cell.auction.exists_ = true) (active : v.cell.auction.state = .active)
      (early : now < v.cell.auction.endTime) (bounded : slashAmount ≤ v.cell.auction.sellerDeposit)
      (none : v.totalEscrow = 0 → slashAmount = 0) :
      AuctionStep refundKey auctionId now { paid := slashAmount, potReceived := v.publicSlash slashAmount } v
        ((({ v with cell := { v.cell with
          auction := { v.cell.auction with
            slashAmount
            state := .cancelled
            lastBlockTimestamp := toUint64 now } } }.emit
              (.auctionStateChanged auctionId .active .cancelled)).slashed slashAmount).opened.emit
                (.assetReleased auctionId v.cell.auction.seller))
  | voided {v : AuctionView} (slashAmount elapsed timeoutWindow : ℕ)
      (found : v.cell.auction.exists_ = true) (resolving : v.cell.auction.state = .resolving)
      (fallback : slashAmount = if v.totalEscrow = 0 then 0 else
        v.cell.auction.sellerDeposit - v.cell.finalizationReward) :
      AuctionStep refundKey auctionId now { paid := slashAmount, potReceived := v.publicSlash slashAmount } v
        (((({ v with cell := { v.cell with
          auction := { v.cell.auction with
            slashAmount
            state := .voided
            lastBlockTimestamp := toUint64 now }
          resolutionRequest := {} } }.emit
            (.auctionStateChanged auctionId .resolving .voided)).slashed slashAmount).opened.emit
              (.assetReleased auctionId v.cell.auction.seller)).emit
                (.fallbackTriggered auctionId elapsed timeoutWindow))
  | refundClaimed {v : AuctionView} (claimant : Address)
      (found : v.cell.auction.exists_ = true) (known : claimant ≠ 0)
      (unclaimed : v.cell.hasWithdrawn claimant = false)
      (some : ¬ (v.refundOf claimant = 0 ∧ v.compensationOf claimant = 0)) :
      AuctionStep refundKey auctionId now { paid := v.refundOf claimant, potPaid := v.compensationOf claimant } v
        ({ v with cell := { v.cell with
          hasWithdrawn := Function.update v.cell.hasWithdrawn claimant true
          escrowBalances := if v.refundOf claimant = 0 then v.cell.escrowBalances else
            Function.update v.cell.escrowBalances claimant 0 } }.emit
              (.refundClaimed auctionId claimant (v.refundOf claimant) (v.compensationOf claimant)))
  | sellerProceedsClaimed {v : AuctionView}
      (found : v.cell.auction.exists_ = true) (unclaimed : v.cell.auction.sellerClaimed = false)
      (nonzero : v.sellerPayout ≠ 0) :
      AuctionStep refundKey auctionId now { paid := v.sellerPayout } v
        ({ v with cell := { v.cell with auction.sellerClaimed := true } }.emit
          (.sellerProceedsClaimed auctionId v.cell.auction.seller v.sellerPayout))
  | finalizeRewardClaimed {v : AuctionView}
      (found : v.cell.auction.exists_ = true) (unclaimed : v.cell.finalizationRewardClaimed = false)
      (settled : v.cell.auction.state = .finalized ∨ v.cell.auction.state = .voided) :
      AuctionStep refundKey auctionId now { paid := v.cell.finalizationReward } v
        ({ v with cell := { v.cell with finalizationRewardClaimed := true } }.emit
          (.finalizeRewardClaimed auctionId v.cell.finalizationExecutor v.cell.finalizationReward))
  | assetClaimed {v : AuctionView} (recipient : Address)
      (found : v.cell.auction.exists_ = true) (finalized : v.cell.auction.state = .finalized)
      (unclaimed : v.cell.auction.assetClaimed = false) :
      AuctionStep refundKey auctionId now {} v
        ({ v with cell := { v.cell with auction.assetClaimed := true } }.emit
          (.assetReleased auctionId recipient))
  | shieldedRefunded {v : AuctionView} (lane : Lane) (commitmentHash : Bytes32) (recipient : Address)
      (principal : ℕ)
      (found : v.cell.auction.exists_ = true) (terminal : v.cell.auction.state.terminal = true)
      (vault : v.lane = some lane) (unlocked : lane.unlocked = true)
      (unclaimed : v.cell.shieldedRefundClaimed (refundKey commitmentHash) = false)
      (nonzero : principal ≠ 0) (bounded : principal ≤ lane.total)
      (covered : ShieldedEscrowVault.compensationShare principal lane.reserve lane.total ≤ lane.reserve) :
      AuctionStep refundKey auctionId now {} v
        ({ v with
          cell := { v.cell with
            shieldedRefundClaimed := Function.update v.cell.shieldedRefundClaimed
              (refundKey commitmentHash) true }
          lane := some { lane with
            total := lane.total - principal
            reserve := lane.reserve -
              ShieldedEscrowVault.compensationShare principal lane.reserve lane.total } }.emit
                (.shieldedRefundClaimed auctionId commitmentHash recipient principal
                  (ShieldedEscrowVault.compensationShare principal lane.reserve lane.total)))

end FairMarket
