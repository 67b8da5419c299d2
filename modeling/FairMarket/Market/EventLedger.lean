import FairMarket.Market.Runs

/-! What the events of an auction tell about it. A reader of the log alone arrives at what
the market stores. -/

namespace FairMarket

variable {σ : Type}

/-- What a reader of the log knows about an auction. -/
structure AuctionLedger where
  state : Option AuctionState := none
  seller : Address := 0
  nftContract : Address := 0
  tokenId : ℕ := 0
  sellerDeposit : ℕ := 0
  escrowBalances : Address → ℕ := fun _ => 0
  totalEscrow : ℕ := 0
  encryptedBids : Address → Bytes32 := fun _ => 0
  knownBidders : Address → Bool := fun _ => false
  bidders : List Address := []
  shieldedEncryptedBids : Bytes32 → Bytes32 := fun _ => 0
  knownShieldedCommitments : Bytes32 → Bool := fun _ => false
  shieldedCommitments : List Bytes32 := []
  requestId : Bytes32 := 0
  winner : Address := 0
  winnerCiphertext : Bytes32 := 0
  hasWithdrawn : Address → Bool := fun _ => false
  shieldedRefundClaimed : Bytes32 → Bool := fun _ => false
  sellerClaimed : Bool := false
  finalizationRewardClaimed : Bool := false
  assetClaimed : Bool := false

namespace AuctionLedger

/-- What one more event of the auction tells. -/
def apply (refundKey : Bytes32 → Bytes32) (ledger : AuctionLedger) : Event → AuctionLedger
  | .auctionCreated _ seller nftContract tokenId sellerDeposit =>
    { ledger with seller, nftContract, tokenId, sellerDeposit }
  | .auctionStateChanged _ _ toState =>
    { ledger with
      state := some toState
      requestId := if toState = .finalized ∨ toState = .voided then 0 else ledger.requestId }
  | .escrowLocked _ bidder amount =>
    { ledger with
      escrowBalances := Function.update ledger.escrowBalances bidder (ledger.escrowBalances bidder + amount)
      totalEscrow := ledger.totalEscrow + amount }
  | .bidPlaced _ bidder bidHandle =>
    { ledger with
      encryptedBids := Function.update ledger.encryptedBids bidder bidHandle
      knownBidders := Function.update ledger.knownBidders bidder true
      bidders := if ledger.knownBidders bidder then ledger.bidders else ledger.bidders ++ [bidder] }
  | .shieldedBidPlaced _ commitmentHash bidHandle =>
    { ledger with
      shieldedEncryptedBids := Function.update ledger.shieldedEncryptedBids commitmentHash bidHandle
      knownShieldedCommitments := Function.update ledger.knownShieldedCommitments commitmentHash true
      shieldedCommitments := if ledger.knownShieldedCommitments commitmentHash then ledger.shieldedCommitments
        else ledger.shieldedCommitments ++ [commitmentHash] }
  | .finalizationTriggered _ requestId => { ledger with requestId }
  | .resolutionRecorded _ winner winnerCiphertext => { ledger with winner, winnerCiphertext }
  | .refundClaimed _ claimant escrowRefund _ =>
    { ledger with
      hasWithdrawn := Function.update ledger.hasWithdrawn claimant true
      escrowBalances := if escrowRefund = 0 then ledger.escrowBalances
        else Function.update ledger.escrowBalances claimant 0 }
  | .sellerProceedsClaimed .. => { ledger with sellerClaimed := true }
  | .finalizeRewardClaimed .. => { ledger with finalizationRewardClaimed := true }
  | .shieldedRefundClaimed _ commitmentHash _ _ _ =>
    { ledger with
      shieldedRefundClaimed := Function.update ledger.shieldedRefundClaimed (refundKey commitmentHash) true }
  -- A cancelled or voided auction gives the asset back without any claim.
  | .assetReleased .. => { ledger with assetClaimed := ledger.assetClaimed || ledger.state = some .finalized }
  | .shieldedEscrowLocked .. | .shieldedClaimAuthorityRegistered .. | .resolutionRejected ..
  | .fallbackTriggered .. => ledger

/-- Read a log, which has its newest event first. -/
def replay (refundKey : Bytes32 → Bytes32) (log : List Event) : AuctionLedger :=
  log.foldr (fun event ledger => ledger.apply refundKey event) {}

@[simp] theorem replay_nil (refundKey : Bytes32 → Bytes32) : replay refundKey [] = {} := rfl

@[simp] theorem replay_cons (refundKey : Bytes32 → Bytes32) (event : Event) (log : List Event) :
    replay refundKey (event :: log) = (replay refundKey log).apply refundKey event := rfl

end AuctionLedger

/-- What the market stores of it. -/
def AuctionStorage.ledger (cell : AuctionStorage) : AuctionLedger where
  state := if cell.auction.exists_ then some cell.auction.state else none
  seller := cell.auction.seller
  nftContract := cell.auction.nftContract
  tokenId := cell.auction.tokenId
  sellerDeposit := cell.auction.sellerDeposit
  escrowBalances := cell.escrowBalances
  totalEscrow := cell.auction.totalEscrow
  encryptedBids := cell.encryptedBids
  knownBidders := cell.knownBidders
  bidders := cell.bidders
  shieldedEncryptedBids := cell.shieldedEncryptedBids
  knownShieldedCommitments := cell.knownShieldedCommitments
  shieldedCommitments := cell.shieldedCommitments
  requestId := cell.resolutionRequest.requestId
  winner := cell.auction.winner
  winnerCiphertext := cell.auction.winnerCiphertext
  hasWithdrawn := cell.hasWithdrawn
  shieldedRefundClaimed := cell.shieldedRefundClaimed
  sellerClaimed := cell.auction.sellerClaimed
  finalizationRewardClaimed := cell.finalizationRewardClaimed
  assetClaimed := cell.auction.assetClaimed

/-- The log of an auction tells what is stored of it. -/
def AuctionView.Recorded (refundKey : Bytes32 → Bytes32) (v : AuctionView) : Prop :=
  AuctionLedger.replay refundKey v.log = v.cell.ledger

section Step

variable {refundKey : Bytes32 → Bytes32} {auctionId : AuctionId} {now : ℕ} {flow : Flow} {v next : AuctionView}

namespace AuctionView.Recorded

/-- One more event, which tells what has become of the stored cell. -/
theorem event {event : Event} (recorded : v.Recorded refundKey) (grown : next.log = event :: v.log)
    (told : v.cell.ledger.apply refundKey event = next.cell.ledger) : next.Recorded refundKey := by
  unfold Recorded at recorded ⊢
  rw [grown, AuctionLedger.replay_cons, recorded]
  exact told

/-- Two events for one write. -/
theorem events {first second : Event} (recorded : v.Recorded refundKey)
    (grown : next.log = second :: first :: v.log)
    (told : (v.cell.ledger.apply refundKey first).apply refundKey second = next.cell.ledger) :
    next.Recorded refundKey := by
  unfold Recorded at recorded ⊢
  rw [grown, AuctionLedger.replay_cons, AuctionLedger.replay_cons, recorded]
  exact told

theorem opened (recorded : v.Recorded refundKey) : v.opened.Recorded refundKey := by
  have same : v.opened.cell.ledger = v.cell.ledger := opened_same v (·.cell.ledger) fun _ _ => rfl
  unfold Recorded at recorded ⊢
  rw [opened_log, same]
  exact recorded

theorem slashed (recorded : v.Recorded refundKey) (slashAmount : ℕ) :
    (v.slashed slashAmount).Recorded refundKey := recorded

/-- The asset of a settled auction goes back to its seller. -/
theorem released {recipient : Address} (recorded : v.Recorded refundKey)
    (state : v.cell.auction.state ≠ .finalized) :
    (v.emit (.assetReleased auctionId recipient)).Recorded refundKey := by
  have kept : (v.cell.auction.assetClaimed || v.cell.ledger.state = some .finalized) =
      v.cell.auction.assetClaimed := by
    simp [AuctionStorage.ledger, state]
  exact recorded.event rfl (congrArg (fun assetClaimed => { v.cell.ledger with assetClaimed }) kept)

end AuctionView.Recorded

/-- Every step writes into the log what it does to the storage. -/
theorem AuctionStep.recorded (step : AuctionStep refundKey auctionId now flow v next)
    (recorded : v.Recorded refundKey) : next.Recorded refundKey := by
  cases step with
  | created => exact rfl
  | escrowLocked => exact recorded.event rfl rfl
  | shieldedEscrowLocked => exact recorded.events rfl rfl
  | bidPlaced => exact recorded.event rfl rfl
  | shieldedBidPlaced => exact recorded.event rfl rfl
  | finalizeTriggered _ _ _ _ found =>
    refine recorded.events rfl ?_
    simp [AuctionLedger.apply, AuctionStorage.ledger, found]
  | resolutionRejected => exact recorded.event rfl rfl
  | resolved _ _ _ found =>
    apply AuctionView.Recorded.opened
    refine recorded.events rfl ?_
    simp [AuctionLedger.apply, AuctionStorage.ledger, found]
  | shieldedResolved _ _ _ _ _ found =>
    apply AuctionView.Recorded.opened
    refine recorded.events rfl ?_
    simp [AuctionLedger.apply, AuctionStorage.ledger, found]
  | cancelled slashAmount found active =>
    refine AuctionView.Recorded.released ?_ (by simp)
    refine AuctionView.Recorded.opened (.slashed (recorded.event rfl ?_) slashAmount)
    simp [AuctionLedger.apply, AuctionStorage.ledger, found]
  | voided slashAmount elapsed timeoutWindow found =>
    refine AuctionView.Recorded.event (AuctionView.Recorded.released ?_ (by simp)) rfl rfl
    refine AuctionView.Recorded.opened (.slashed (recorded.event rfl ?_) slashAmount)
    simp [AuctionLedger.apply, AuctionStorage.ledger, found]
  | refundClaimed => exact recorded.event rfl rfl
  | sellerProceedsClaimed => exact recorded.event rfl rfl
  | finalizeRewardClaimed => exact recorded.event rfl rfl
  | assetClaimed _ found finalized =>
    refine recorded.event rfl ?_
    simp [AuctionLedger.apply, AuctionStorage.ledger, found, finalized]
  | shieldedRefunded => exact recorded.event rfl rfl

end Step

/-- In every state of every run, reading the events of an auction from the log, oldest first,
gives what the market stores of it: its state and consignment, all escrows and bids in the
order in which the bidders came, its open request, its winner, and who has been paid what
is paid once. Amounts that no event names, such as the winning one, are left out. -/
theorem log_tells_storage (deployment : Deployment) (env : External σ) (outside : σ)
    (inputs : List (Msg × Tx σ)) (auctionId : AuctionId) :
    AuctionLedger.replay env.refundKey
        ((deployment.run env outside inputs).log.filter fun event => event.auctionId = auctionId) =
      ((deployment.run env outside inputs).market.auctions auctionId).ledger := by
  obtain ⟨now, history⟩ := deployment.run_reachable env outside inputs auctionId
  have told : ((deployment.run env outside inputs).view auctionId).Recorded env.refundKey :=
    history.preserves (fun _ _ _ _ step recorded => step.recorded recorded) rfl
  exact told

end FairMarket
