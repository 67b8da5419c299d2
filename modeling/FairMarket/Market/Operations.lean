import FairMarket.Market.Storage

/-! The market's entry points, in the order of the source. Each returns the world
its transaction leaves behind, or the error it reverts with. -/

namespace FairMarket

variable {σ : Type}

def minAuctionDuration : ℕ := 60

def maxAuctionDuration : ℕ := 90 * 24 * 60 * 60

def defaultDynamicTimeout : ℕ := 30 * 60

def keeperFinalizeRewardBps : ℕ := 20

def maxConfidentialBidValue : ℕ := 2 ^ 96 - 1

def networkSampleCeiling : ℕ := 10 * 60

def NetworkObservation.observe (network : NetworkObservation) (timestamp : ℕ) :
    Except Revert NetworkObservation :=
  let currentTimestamp := toUint64 timestamp
  if network.lastObservationTimestamp < 1 then
    .ok { network with lastObservationTimestamp := currentTimestamp }
  else do
    let delta ← checkedSub currentTimestamp network.lastObservationTimestamp
    return if delta < 1 then network
      else if delta > networkSampleCeiling then
        { network with lastObservationTimestamp := currentTimestamp }
      else if network.movingAverageBlockDelta < 1 then
        { lastObservationTimestamp := currentTimestamp, movingAverageBlockDelta := delta }
      else
        { lastObservationTimestamp := currentTimestamp
          movingAverageBlockDelta := toUint64 ((network.movingAverageBlockDelta * 7 + delta) / 8) }

def validTransition (previousState nextState : AuctionState) : Bool :=
  match previousState, nextState with
  | .created, .active => true
  | .active, .resolving => true
  | .active, .cancelled => true
  | .resolving, .finalized => true
  | .resolving, .voided => true
  | _, _ => false

def Auction.transitionState (auction : Auction) (timestamp : ℕ) (nextState : AuctionState) :
    Except Revert Auction := do
  revertIf (¬ validTransition auction.state nextState)
    (.invalidStateTransition auction.state nextState)
  return { auction with state := nextState, lastBlockTimestamp := toUint64 timestamp }

/-- `auction.bidCount += 1` on a `uint32`, for a first bid only. -/
def nextBidCount (bidCount : ℕ) (first : Bool) : Except Revert ℕ :=
  if ¬ first then .ok bidCount
  else if bidCount + 1 < 2 ^ 32 then .ok (bidCount + 1)
  else .error .arithmeticOverflow

namespace World

/-- The `auctionExists` modifier, returning the auction's cell. -/
def auctionExists (w : World σ) (auctionId : AuctionId) : Except Revert AuctionStorage := do
  let cell := w.market.auctions auctionId
  revertIf (¬ cell.auction.exists_) (.auctionDoesNotExist auctionId)
  return cell

def onlyAuctionState (cell : AuctionStorage) (expectedState : AuctionState) : Except Revert Unit :=
  revertIf (cell.auction.state ≠ expectedState)
    (.unexpectedAuctionState expectedState cell.auction.state)

def onlyAuctionSeller (cell : AuctionStorage) (sender : Address) : Except Revert Unit :=
  revertIf (cell.auction.seller ≠ sender) (.notAuctionSeller sender cell.auction.seller)

/-- A dependency of an auction: the one snapshotted with it, or the current one. -/
def auctionDependency (cell : AuctionStorage) (snapshotted : AuctionDependencySnapshot → Address)
    (current : Address) : Address :=
  if cell.dependencySnapshot.initialized then snapshotted cell.dependencySnapshot else current

def auctionCofheAdapter (w : World σ) (cell : AuctionStorage) : Address :=
  auctionDependency cell (·.cofheAdapter) w.market.cofheAdapter

def auctionSettlementEngine (w : World σ) (cell : AuctionStorage) : Address :=
  auctionDependency cell (·.settlementEngine) w.market.settlementEngine

def auctionSlashedPot (w : World σ) (cell : AuctionStorage) : Address :=
  auctionDependency cell (·.slashedPot) w.market.slashedPot

def auctionShieldedEscrowVault (w : World σ) (cell : AuctionStorage) : Address :=
  auctionDependency cell (·.shieldedEscrowVault) w.market.shieldedEscrowVault

def auctionShieldedIdentityRegistry (w : World σ) (cell : AuctionStorage) : Address :=
  auctionDependency cell (·.shieldedIdentityRegistry) w.market.shieldedIdentityRegistry

/-- Call an auction's engine, or use the market's own default when it has none. -/
def withEngine (w : World σ) (cell : AuctionStorage) {α : Type} (ownDefault : Except Revert α)
    (call : SettlementEngine → Except Revert α) : Except Revert α :=
  let address := w.auctionSettlementEngine cell
  if address = 0 then ownDefault
  else do
    let engine ← requireSome (w.engines address) .callFailed
    call engine

def shieldedEscrowTotal (w : World σ) (auctionId : AuctionId) (cell : AuctionStorage) : ℕ :=
  match w.vaults (w.auctionShieldedEscrowVault cell) with
  | none => 0
  | some vault => vault.auctionTotals auctionId

def totalEscrowIncludingShielded (w : World σ) (auctionId : AuctionId) (cell : AuctionStorage) :
    Except Revert ℕ :=
  checkedAdd cell.auction.totalEscrow (w.shieldedEscrowTotal auctionId cell)

/-- `Address.sendValue`: the market pays a recipient, whose code runs. -/
def sendValue (env : External σ) (w : World σ) (recipient : Address) (amount : ℕ) :
    Except Revert (World σ) := do
  revertIf (w.market.balance < amount) (.insufficientBalance w.market.balance amount)
  let outside ← requireSome (env.receiveEther w.outside recipient amount) .callFailed
  return (w.setOutside outside).debit amount

def createAuction (env : External σ) (w : World σ) (msg : Msg) (nftContract : Address)
    (tokenId duration startingPrice sellerDeposit : ℕ) (isVickrey : Bool) :
    Except Revert (World σ) := do
  revertIf (nftContract = 0) .zeroAddress
  revertIf (duration < minAuctionDuration ∨ duration > maxAuctionDuration) (.invalidDuration duration)
  revertIf (startingPrice > maxConfidentialBidValue) (.invalidStartingPrice startingPrice)
  revertIf (msg.value = 0 ∨ msg.value ≠ sellerDeposit)
    (.incorrectSellerDeposit sellerDeposit msg.value)
  let tokenOwner ← requireSome (env.ownerOf w.outside nftContract tokenId) .callFailed
  revertIf (tokenOwner ≠ msg.sender) (.notNFTOwner nftContract tokenId msg.sender)
  let approvedAddress ← requireSome (env.getApproved w.outside nftContract tokenId) .callFailed
  let approvedForAll ← requireSome
    (env.isApprovedForAll w.outside nftContract msg.sender env.market) .callFailed
  revertIf (approvedAddress ≠ env.market ∧ ¬ approvedForAll) (.nftNotApproved nftContract tokenId)
  let auctionCounter ← checkedAdd w.market.auctionCounter 1
  let auctionId : AuctionId := BitVec.ofNat 256 auctionCounter
  let cell := w.market.auctions auctionId
  let endTime ← checkedAdd msg.timestamp duration
  let network ← w.market.network.observe msg.timestamp
  let auction ← { cell.auction with
    exists_ := true
    nftContract
    tokenId
    seller := msg.sender
    endTime := toUint64 endTime
    sellerDeposit
    state := .created
    isVickrey
    createdAt := toUint64 msg.timestamp
    startingPrice : Auction }.transitionState msg.timestamp .active
  let outside ← env.safeTransferFrom w.outside nftContract msg.sender env.market tokenId
  let dependencySnapshot : AuctionDependencySnapshot := {
    initialized := true
    cofheAdapter := w.market.cofheAdapter
    settlementEngine := w.market.settlementEngine
    slashedPot := w.market.slashedPot
    shieldedEscrowVault := w.market.shieldedEscrowVault
    shieldedIdentityRegistry := w.market.shieldedIdentityRegistry }
  let created := ({ w with market.auctionCounter := auctionCounter }.setNetwork network).setAuction
    auctionId { cell with auction, dependencySnapshot }
  return (((created.setOutside outside).credit msg.value).emit
    (.auctionStateChanged auctionId .created .active)).emit
      (.auctionCreated auctionId msg.sender nftContract tokenId sellerDeposit)

def lockEscrow (w : World σ) (msg : Msg) (auctionId : AuctionId) : Except Revert (World σ) := do
  let cell ← w.auctionExists auctionId
  onlyAuctionState cell .active
  revertIf (msg.value = 0) .zeroValue
  revertIf (msg.timestamp ≥ cell.auction.endTime)
    (.auctionAlreadyEnded auctionId cell.auction.endTime)
  let escrow ← checkedAdd (cell.escrowBalances msg.sender) msg.value
  let totalEscrow ← checkedAdd cell.auction.totalEscrow msg.value
  let network ← w.market.network.observe msg.timestamp
  let locked := (w.setNetwork network).setAuction auctionId { cell with
    escrowBalances := Function.update cell.escrowBalances msg.sender escrow
    auction := { cell.auction with totalEscrow, lastBlockTimestamp := toUint64 msg.timestamp } }
  return (locked.credit msg.value).emit (.escrowLocked auctionId msg.sender msg.value)

def lockShieldedEscrow (env : External σ) (w : World σ) (msg : Msg) (auctionId : AuctionId)
    (identityHash commitmentHash : Bytes32) (claimAuthority : Address) :
    Except Revert (World σ) := do
  let cell ← w.auctionExists auctionId
  onlyAuctionState cell .active
  let auctionVault := w.auctionShieldedEscrowVault cell
  let auctionRegistry := w.auctionShieldedIdentityRegistry cell
  revertIf (msg.value = 0) .zeroValue
  revertIf (identityHash = 0) .invalidIdentityHash
  revertIf (commitmentHash = 0) .invalidCommitmentHash
  revertIf (msg.timestamp ≥ cell.auction.endTime)
    (.auctionAlreadyEnded auctionId cell.auction.endTime)
  let vault ← requireSome (w.vaults auctionVault) .shieldedEscrowVaultNotConfigured
  let registry ← requireSome (w.registries auctionRegistry) .shieldedIdentityRegistryNotConfigured
  let network ← w.market.network.observe msg.timestamp
  let bound ← registry.bindIdentity env.market auctionId identityHash commitmentHash
  let locked ← vault.lockEscrow env.market msg.value auctionId commitmentHash claimAuthority
  let stamped := (w.setNetwork network).setAuction auctionId { cell with
    auction.lastBlockTimestamp := toUint64 msg.timestamp }
  return (((stamped.setRegistry auctionRegistry bound).setVault auctionVault locked).emit
    (.shieldedClaimAuthorityRegistered auctionId commitmentHash claimAuthority)).emit
      (.shieldedEscrowLocked auctionId commitmentHash msg.value)

/-- A bid must exceed `startingPrice - 1` when there is a starting price. -/
def requireStartingPrice (env : External σ) (w : World σ) (sender : Address) (auctionId : AuctionId)
    (cell : AuctionStorage) (encryptedBid : Bytes32) : Except Revert Unit :=
  if cell.auction.startingPrice = 0 then .ok ()
  else do
    let above ← requireSome (env.gt w.outside (w.auctionCofheAdapter cell) encryptedBid
      (cell.auction.startingPrice - 1)) .callFailed
    revertIf (¬ above) (.bidBelowStartingPrice auctionId sender cell.auction.startingPrice)

def placeBid (env : External σ) (w : World σ) (msg : Msg) (auctionId : AuctionId)
    (encryptedBid : Bytes32) : Except Revert (World σ) := do
  let cell ← w.auctionExists auctionId
  onlyAuctionState cell .active
  revertIf (msg.timestamp ≥ cell.auction.endTime)
    (.auctionAlreadyEnded auctionId cell.auction.endTime)
  let availableEscrow := cell.escrowBalances msg.sender
  revertIf (availableEscrow = 0) (.noEscrowLocked auctionId msg.sender)
  requireStartingPrice env w msg.sender auctionId cell encryptedBid
  let covered ← requireSome
    (env.lte w.outside (w.auctionCofheAdapter cell) encryptedBid availableEscrow) .callFailed
  revertIf (¬ covered) (.bidExceedsEscrow auctionId msg.sender)
  let bidCount ← nextBidCount cell.auction.bidCount (cell.encryptedBids msg.sender = 0)
  let network ← w.market.network.observe msg.timestamp
  let placed := (w.setNetwork network).setAuction auctionId { cell with
    knownBidders := Function.update cell.knownBidders msg.sender true
    bidders := if cell.knownBidders msg.sender then cell.bidders else cell.bidders ++ [msg.sender]
    encryptedBids := Function.update cell.encryptedBids msg.sender encryptedBid
    auction := { cell.auction with bidCount, lastBlockTimestamp := toUint64 msg.timestamp } }
  return placed.emit (.bidPlaced auctionId msg.sender encryptedBid)

def placeShieldedBid (env : External σ) (w : World σ) (msg : Msg) (auctionId : AuctionId)
    (commitmentHash encryptedBid : Bytes32) (coverageDeadline : ℕ) (coverageProof : List UInt8) :
    Except Revert (World σ) := do
  let cell ← w.auctionExists auctionId
  onlyAuctionState cell .active
  let auctionVault := w.auctionShieldedEscrowVault cell
  revertIf (msg.timestamp ≥ cell.auction.endTime)
    (.auctionAlreadyEnded auctionId cell.auction.endTime)
  revertIf (commitmentHash = 0) .invalidCommitmentHash
  let vault ← requireSome (w.vaults auctionVault) .shieldedEscrowVaultNotConfigured
  let (commitmentAuctionId, refundUnlocked, claimed) := vault.commitmentState commitmentHash
  revertIf (commitmentAuctionId ≠ auctionId ∨ claimed)
    (.missingShieldedEncryptedBid auctionId commitmentHash)
  revertIf refundUnlocked (.auctionAlreadyEnded auctionId cell.auction.endTime)
  requireStartingPrice env w msg.sender auctionId cell encryptedBid
  vault.verifyBidCoverageProof (env.verifyBidCoverage w.outside) auctionVault msg.timestamp
    commitmentHash encryptedBid coverageDeadline coverageProof
  let bidCount ← nextBidCount cell.auction.bidCount (cell.shieldedEncryptedBids commitmentHash = 0)
  let network ← w.market.network.observe msg.timestamp
  let placed := (w.setNetwork network).setAuction auctionId { cell with
    knownShieldedCommitments := Function.update cell.knownShieldedCommitments commitmentHash true
    shieldedCommitments := if cell.knownShieldedCommitments commitmentHash then
      cell.shieldedCommitments else cell.shieldedCommitments ++ [commitmentHash]
    shieldedEncryptedBids := Function.update cell.shieldedEncryptedBids commitmentHash encryptedBid
    auction := { cell.auction with bidCount, lastBlockTimestamp := toUint64 msg.timestamp } }
  return placed.emit (.shieldedBidPlaced auctionId commitmentHash encryptedBid)

def deriveFinalizationSalt (env : External σ) (msg : Msg) (auctionId : AuctionId)
    (finalizeNonce : ℕ) : Bytes32 :=
  if msg.priorBlockhash ≠ 0 then msg.priorBlockhash
  else env.keccak [.ofAddress env.market, .value env.chainId, .ofBytes32 auctionId,
    .value finalizeNonce, .ofAddress msg.sender, .value msg.timestamp]

def computeFinalizeReward (sellerDeposit : ℕ) : Except Revert ℕ := do
  let scaled ← checkedMul sellerDeposit keeperFinalizeRewardBps
  return scaled / SettlementEngine.bpsDenominator

def prepareResolutionRequest (env : External σ) (w : World σ) (auctionId : AuctionId)
    (cell : AuctionStorage) (finalizeNonce : ℕ) (raceSalt : Bytes32) :
    Except Revert SettlementEngine.ResolutionRequest :=
  w.withEngine cell
    (.ok (.ofId env.keccak (env.keccak [.ofAddress env.market, .value env.chainId,
      .ofBytes32 auctionId, .value cell.auction.bidCount, .value cell.auction.endTime,
      .value finalizeNonce, .ofBytes32 raceSalt])))
    fun _ => SettlementEngine.prepareResolutionRequest env.toChain (w.auctionSettlementEngine cell)
      env.market auctionId cell.auction.bidCount cell.auction.endTime finalizeNonce raceSalt

def triggerFinalize (env : External σ) (w : World σ) (msg : Msg) (auctionId : AuctionId) :
    Except Revert (World σ) := do
  let cell ← w.auctionExists auctionId
  onlyAuctionState cell .active
  revertIf (msg.timestamp < cell.auction.endTime)
    (.auctionStillRunning auctionId cell.auction.endTime)
  revertIf cell.resolutionRequest.exists_
    (.resolutionAlreadyRequested auctionId cell.resolutionRequest.requestId)
  let network ← w.market.network.observe msg.timestamp
  let auction ← cell.auction.transitionState msg.timestamp .resolving
  let finalizeNonce ← checkedAdd cell.finalizationNonce 1
  let raceSalt := deriveFinalizationSalt env msg auctionId finalizeNonce
  let finalizeReward ← computeFinalizeReward cell.auction.sellerDeposit
  let nextRequest ← prepareResolutionRequest env w auctionId cell finalizeNonce raceSalt
  let triggered := (w.setNetwork network).setAuction auctionId { cell with
    auction := { auction with resolvingSince := toUint64 msg.timestamp }
    finalizationExecutor := msg.sender
    finalizationReward := finalizeReward
    finalizationNonce := finalizeNonce
    finalizationSalt := raceSalt
    resolutionRequest := {
      exists_ := true
      requestId := nextRequest.requestId
      winnerHandle := nextRequest.winnerHandle
      amountHandle := nextRequest.amountHandle
      requestedAt := toUint64 msg.timestamp } }
  return (triggered.emit (.auctionStateChanged auctionId .active .resolving)).emit
    (.finalizationTriggered auctionId nextRequest.requestId)

/-- Unlock the auction's vault for refunds, once and only where there is a vault. -/
def openShieldedRefundPath (env : External σ) (w : World σ) (auctionId : AuctionId) :
    Except Revert (World σ) :=
  let cell := w.market.auctions auctionId
  let auctionVault := w.auctionShieldedEscrowVault cell
  if cell.shieldedRefundsUnlocked then .ok w
  else match w.vaults auctionVault with
    | none => .ok w
    | some vault => do
      let unlocked ← vault.unlockRefunds env.market auctionId
      return (w.setAuction auctionId { cell with shieldedRefundsUnlocked := true }).setVault
        auctionVault unlocked

/-- What a public winner must satisfy before the proof is looked at. -/
def validatePublicWinner (env : External σ) (w : World σ) (auctionId : AuctionId)
    (cell : AuctionStorage) (winner : Address) (winnerCiphertext : Bytes32) (winningAmount : ℕ) :
    Except Revert Unit :=
  if winner = 0 then revertIf (winningAmount ≠ 0) (.winnerRequiredForWinningAmount auctionId winningAmount)
  else do
    revertIf (winningAmount = 0) (.zeroWinningAmount auctionId winner)
    revertIf (winningAmount < cell.auction.startingPrice)
      (.winningAmountBelowStartingPrice auctionId winningAmount cell.auction.startingPrice)
    revertIf (cell.encryptedBids winner = 0) (.missingEncryptedBid auctionId winner)
    let covered ← requireSome (env.lte w.outside (w.auctionCofheAdapter cell) winnerCiphertext
      (cell.escrowBalances winner)) .callFailed
    revertIf (¬ covered) (.bidExceedsEscrow auctionId winner)
    revertIf (winningAmount > cell.escrowBalances winner)
      (.invalidWinningAmount auctionId winningAmount (cell.escrowBalances winner))

/-- Record an accepted resolution. -/
def recordResolution (w : World σ) (msg : Msg) (auctionId : AuctionId) (cell : AuctionStorage)
    (winner : Address) (winningCommitment winnerCiphertext : Bytes32) (winningAmount : ℕ) :
    Except Revert (World σ) := do
  let network ← w.market.network.observe msg.timestamp
  let auction ← { cell.auction with winner, winnerCiphertext, winningAmount }.transitionState
    msg.timestamp .finalized
  let recorded := (w.setNetwork network).setAuction auctionId { cell with
    auction
    winningCommitment
    resolutionRequest := {} }
  return (recorded.emit (.auctionStateChanged auctionId .resolving .finalized)).emit
    (.resolutionRecorded auctionId winner winnerCiphertext)

/-- A rejected proof leaves only the service's own state changed. -/
def rejectResolution (w : World σ) (auctionId : AuctionId) (requestId : Bytes32) : World σ :=
  w.emit (.resolutionRejected auctionId requestId)

def submitResolution (env : External σ) (w : World σ) (msg : Msg) (auctionId : AuctionId)
    (winner : Address) (winnerCiphertext : Bytes32) (winningAmount : ℕ) (avsProof : Proof) :
    Except Revert (Bool × World σ) := do
  let cell ← w.auctionExists auctionId
  onlyAuctionState cell .resolving
  let request := cell.resolutionRequest
  revertIf (¬ request.exists_) (.missingResolutionRequest auctionId)
  let auctionSettlementEngine := w.auctionSettlementEngine cell
  revertIf (auctionSettlementEngine = 0) (.invalidAVSProof auctionId request.requestId)
  validatePublicWinner env w auctionId cell winner winnerCiphertext winningAmount
  let engine ← requireSome (w.engines auctionSettlementEngine) .callFailed
  let (proofAccepted, outside) ← engine.verifyResolutionProof (env.verifyAttestation w.outside)
    env.market auctionId request.requestId winner winnerCiphertext winningAmount avsProof
  if ¬ proofAccepted then
    return (false, (w.setOutside outside).rejectResolution auctionId request.requestId)
  else
    let recorded ← (w.setOutside outside).recordResolution msg auctionId cell winner
      cell.winningCommitment winnerCiphertext winningAmount
    let opened ← recorded.openShieldedRefundPath env auctionId
    return (true, opened)

def resolveShieldedCommitment (w : World σ) (auctionId : AuctionId) (cell : AuctionStorage)
    (identityHash : Bytes32) : Except Revert Bytes32 := do
  revertIf (identityHash = 0) .invalidIdentityHash
  let registry ← requireSome (w.registries (w.auctionShieldedIdentityRegistry cell))
    .shieldedIdentityRegistryNotConfigured
  let commitmentHash := registry.commitmentForIdentity auctionId identityHash
  revertIf (commitmentHash = 0) (.missingShieldedEncryptedBid auctionId identityHash)
  return commitmentHash

def validateShieldedResolutionBid (w : World σ) (auctionId : AuctionId) (cell : AuctionStorage)
    (winnerIdentityHash winnerCiphertext : Bytes32) (winningAmount startingPrice : ℕ) :
    Except Revert Bytes32 := do
  revertIf (winnerIdentityHash = 0) .invalidIdentityHash
  revertIf (winningAmount = 0) (.zeroWinningAmount auctionId 0)
  revertIf (winningAmount < startingPrice)
    (.winningAmountBelowStartingPrice auctionId winningAmount startingPrice)
  let winnerCommitmentHash ← w.resolveShieldedCommitment auctionId cell winnerIdentityHash
  let storedBid := cell.shieldedEncryptedBids winnerCommitmentHash
  revertIf (storedBid = 0) (.missingShieldedEncryptedBid auctionId winnerCommitmentHash)
  revertIf (storedBid ≠ winnerCiphertext)
    (.unexpectedShieldedWinningCiphertext auctionId storedBid winnerCiphertext)
  let vault ← requireSome (w.vaults (w.auctionShieldedEscrowVault cell))
    .shieldedEscrowVaultNotConfigured
  let (commitmentAuctionId, _, claimed) := vault.commitmentState winnerCommitmentHash
  revertIf (commitmentAuctionId ≠ auctionId ∨ claimed)
    (.missingShieldedEncryptedBid auctionId winnerCommitmentHash)
  return winnerCommitmentHash

/-- Take the winning amount out of the auction's vault. -/
def settleWinningCommitment (env : External σ) (w : World σ) (auctionId : AuctionId)
    (commitmentHash : Bytes32) (winningAmount : ℕ) : Except Revert (World σ) := do
  let auctionVault := w.auctionShieldedEscrowVault (w.market.auctions auctionId)
  let vault ← requireSome (w.vaults auctionVault) .callFailed
  let (_, settled) ← vault.settleWinningCommitment env.market auctionId commitmentHash winningAmount
  return (w.setVault auctionVault settled).credit winningAmount

def markWinningIdentity (env : External σ) (w : World σ) (auctionId : AuctionId)
    (winnerIdentityHash : Bytes32) : Except Revert (World σ) := do
  let auctionRegistry := w.auctionShieldedIdentityRegistry (w.market.auctions auctionId)
  let registry ← requireSome (w.registries auctionRegistry) .callFailed
  let marked ← registry.markWinningIdentity env.market auctionId winnerIdentityHash
  return w.setRegistry auctionRegistry marked

def submitShieldedResolution (env : External σ) (w : World σ) (msg : Msg) (auctionId : AuctionId)
    (winnerIdentityHash winnerCiphertext : Bytes32) (winningAmount : ℕ) (avsProof : Proof) :
    Except Revert (Bool × World σ) := do
  let cell ← w.auctionExists auctionId
  onlyAuctionState cell .resolving
  let request := cell.resolutionRequest
  revertIf (¬ request.exists_) (.missingResolutionRequest auctionId)
  let auctionSettlementEngine := w.auctionSettlementEngine cell
  revertIf (auctionSettlementEngine = 0) (.invalidAVSProof auctionId request.requestId)
  let winnerCommitmentHash ← w.validateShieldedResolutionBid auctionId cell winnerIdentityHash
    winnerCiphertext winningAmount cell.auction.startingPrice
  let engine ← requireSome (w.engines auctionSettlementEngine) .callFailed
  let (proofAccepted, outside) ← engine.verifyShieldedResolutionProof
    (env.verifyShieldedAttestation w.outside) env.market auctionId request.requestId
    winnerIdentityHash winnerCiphertext winningAmount avsProof
  if ¬ proofAccepted then
    return (false, (w.setOutside outside).rejectResolution auctionId request.requestId)
  else
    let recorded ← (w.setOutside outside).recordResolution msg auctionId cell 0 winnerIdentityHash
      winnerCiphertext winningAmount
    let settled ← recorded.settleWinningCommitment env auctionId winnerCommitmentHash winningAmount
    let opened ← settled.openShieldedRefundPath env auctionId
    let marked ← opened.markWinningIdentity env auctionId winnerIdentityHash
    return (true, marked)

def computeCancellationSlash (w : World σ) (msg : Msg) (auctionId : AuctionId)
    (cell : AuctionStorage) : Except Revert ℕ := do
  let totalEscrowIncludingShielded ← w.totalEscrowIncludingShielded auctionId cell
  if totalEscrowIncludingShielded = 0 then return 0
  else w.withEngine cell (.ok (cell.auction.sellerDeposit / 2)) fun _ => do
    let elapsed ← checkedSub msg.timestamp cell.auction.createdAt
    let duration ← checkedSub cell.auction.endTime cell.auction.createdAt
    SettlementEngine.computeCancellationSlash cell.auction.sellerDeposit elapsed duration
      totalEscrowIncludingShielded

/-- Send a penalty through the auction's vault, which keeps the shielded share. -/
def allocateSlash (env : External σ) (w : World σ) (auctionId : AuctionId)
    (totalEscrow slashAmount : ℕ) : Except Revert (ℕ × World σ) :=
  let auctionVault := w.auctionShieldedEscrowVault (w.market.auctions auctionId)
  match w.vaults auctionVault with
  | none => .ok (slashAmount, w)
  | some vault => do
    revertIf (w.market.balance < slashAmount) .callFailed
    let (publicSlashAllocation, allocated) ← vault.allocateSlash env.market slashAmount auctionId
      totalEscrow
    return (publicSlashAllocation,
      ((w.debit slashAmount).setVault auctionVault allocated).credit publicSlashAllocation)

def registerSlash (env : External σ) (w : World σ) (auctionId : AuctionId)
    (totalEscrow slashAmount : ℕ) : Except Revert (World σ) :=
  if slashAmount < 1 then .ok w
  else do
    let (publicSlashAllocation, allocated) ← w.allocateSlash env auctionId totalEscrow slashAmount
    if publicSlashAllocation < 1 then return allocated
    else
      let auctionSlashedPot := w.auctionSlashedPot (w.market.auctions auctionId)
      let pot ← requireSome (allocated.pots auctionSlashedPot) .slashedPotNotConfigured
      revertIf (allocated.market.balance < publicSlashAllocation) .callFailed
      let registered ← pot.registerSlash env.market publicSlashAllocation auctionId totalEscrow
      return (allocated.setPot auctionSlashedPot registered).debit publicSlashAllocation

/-- Hand an auction's token over to a recipient, whose code runs. -/
def releaseFromEscrow (env : External σ) (w : World σ) (auctionId : AuctionId)
    (recipient : Address) : Except Revert (World σ) := do
  let auction := (w.market.auctions auctionId).auction
  let outside ← env.safeTransferFrom w.outside auction.nftContract env.market recipient auction.tokenId
  return (w.setOutside outside).emit (.assetReleased auctionId recipient)

def cancelAuction (env : External σ) (w : World σ) (msg : Msg) (auctionId : AuctionId) :
    Except Revert (World σ) := do
  let cell ← w.auctionExists auctionId
  onlyAuctionSeller cell msg.sender
  onlyAuctionState cell .active
  revertIf (msg.timestamp ≥ cell.auction.endTime)
    (.auctionAlreadyEnded auctionId cell.auction.endTime)
  let slashAmount ← w.computeCancellationSlash msg auctionId cell
  let network ← w.market.network.observe msg.timestamp
  let auction ← { cell.auction with slashAmount }.transitionState msg.timestamp .cancelled
  let cancelled := ((w.setNetwork network).setAuction auctionId { cell with auction }).emit
    (.auctionStateChanged auctionId .active .cancelled)
  let registered ← cancelled.registerSlash env auctionId auction.totalEscrow slashAmount
  let opened ← registered.openShieldedRefundPath env auctionId
  opened.releaseFromEscrow env auctionId auction.seller

def previewDynamicTimeout (w : World σ) (cell : AuctionStorage) : Except Revert ℕ :=
  w.withEngine cell (.ok defaultDynamicTimeout) fun _ =>
    SettlementEngine.computeDynamicTimeout w.market.network.movingAverageBlockDelta

/-- The penalty of a seller whose auction nobody resolved. -/
def fallbackSlash (totalEscrow finalizeReward sellerDeposit : ℕ) : ℕ :=
  if totalEscrow = 0 then 0
  else if finalizeReward ≥ sellerDeposit then 0
  else sellerDeposit - finalizeReward

def triggerFallbackVoid (env : External σ) (w : World σ) (msg : Msg) (auctionId : AuctionId) :
    Except Revert (World σ) := do
  let cell ← w.auctionExists auctionId
  onlyAuctionState cell .resolving
  let timeoutWindow ← w.previewDynamicTimeout cell
  let elapsed ← checkedSub msg.timestamp cell.auction.resolvingSince
  let totalEscrowIncludingShielded ← w.totalEscrowIncludingShielded auctionId cell
  revertIf (elapsed < timeoutWindow) (.fallbackThresholdNotReached elapsed timeoutWindow)
  let slashAmount := fallbackSlash totalEscrowIncludingShielded cell.finalizationReward
    cell.auction.sellerDeposit
  let network ← w.market.network.observe msg.timestamp
  let auction ← { cell.auction with slashAmount }.transitionState msg.timestamp .voided
  let voided := ((w.setNetwork network).setAuction auctionId
    { cell with auction, resolutionRequest := {} }).emit
      (.auctionStateChanged auctionId .resolving .voided)
  let registered ← voided.registerSlash env auctionId auction.totalEscrow slashAmount
  let opened ← registered.openShieldedRefundPath env auctionId
  let released ← opened.releaseFromEscrow env auctionId auction.seller
  return released.emit (.fallbackTriggered auctionId elapsed timeoutWindow)

def computeWinningRefund (w : World σ) (cell : AuctionStorage)
    (escrowContribution winningAmount : ℕ) : Except Revert ℕ :=
  w.withEngine cell
    (.ok (if winningAmount ≥ escrowContribution then 0 else escrowContribution - winningAmount))
    fun _ => .ok (SettlementEngine.computeWinningRefund escrowContribution winningAmount)

/-- The compensation of a public escrow holder after a penalty. -/
def previewCompensation (w : World σ) (auctionId : AuctionId) (cell : AuctionStorage)
    (escrowContribution : ℕ) : Except Revert ℕ :=
  let auctionSlashedPot := w.auctionSlashedPot cell
  if escrowContribution ≠ 0 ∧ cell.auction.slashAmount ≠ 0 ∧ auctionSlashedPot ≠ 0 then do
    let pot ← requireSome (w.pots auctionSlashedPot) .callFailed
    pot.previewClaim auctionId escrowContribution
  else .ok 0

def previewRefund (w : World σ) (auctionId : AuctionId) (claimant : Address) :
    Except Revert (ℕ × ℕ) := do
  let cell ← w.auctionExists auctionId
  let escrowContribution := cell.escrowBalances claimant
  match cell.auction.state with
  | .finalized =>
    if claimant = cell.auction.winner then
      let escrowRefund ← w.computeWinningRefund cell escrowContribution cell.auction.winningAmount
      return (escrowRefund, 0)
    else return (escrowContribution, 0)
  | .cancelled | .voided =>
    let compensation ← w.previewCompensation auctionId cell escrowContribution
    return (escrowContribution, compensation)
  | _ => return (0, 0)

def computeSellerPayout (w : World σ) (cell : AuctionStorage) (sellerDeposit winningAmount : ℕ) :
    Except Revert ℕ :=
  w.withEngine cell (checkedAdd sellerDeposit winningAmount) fun _ =>
    SettlementEngine.computeSellerPayout sellerDeposit winningAmount

def computeSellerCancellationPayout (w : World σ) (cell : AuctionStorage)
    (sellerDeposit slashAmount : ℕ) : Except Revert ℕ :=
  w.withEngine cell (.ok (if slashAmount ≥ sellerDeposit then 0 else sellerDeposit - slashAmount))
    fun _ => .ok (SettlementEngine.computeSellerCancellationPayout sellerDeposit slashAmount)

/-- What remains of an amount once the keeper's reward is set aside. -/
def lessReward (amount finalizeReward : ℕ) : ℕ :=
  if finalizeReward ≥ amount then 0 else amount - finalizeReward

def previewSellerPayout (w : World σ) (auctionId : AuctionId) : Except Revert ℕ := do
  let cell ← w.auctionExists auctionId
  match cell.auction.state with
  | .finalized =>
    let grossPayout ← w.computeSellerPayout cell cell.auction.sellerDeposit cell.auction.winningAmount
    return lessReward grossPayout cell.finalizationReward
  | .cancelled =>
    w.computeSellerCancellationPayout cell cell.auction.sellerDeposit cell.auction.slashAmount
  | .voided =>
    if cell.auction.slashAmount ≠ 0 then return 0
    else
      let totalEscrowIncludingShielded ← w.totalEscrowIncludingShielded auctionId cell
      if totalEscrowIncludingShielded ≠ 0 then return 0
      else return lessReward cell.auction.sellerDeposit cell.finalizationReward
  | _ => return 0

/-- Pay the escrow part of a refund, if there is one. -/
def payEscrowRefund (env : External σ) (w : World σ) (auctionId : AuctionId) (cell : AuctionStorage)
    (claimant : Address) (escrowRefund : ℕ) : Except Revert (World σ) :=
  if escrowRefund = 0 then .ok w
  else (w.setAuction auctionId { cell with
    escrowBalances := Function.update cell.escrowBalances claimant 0 }).sendValue env claimant escrowRefund

/-- Have the auction's pot pay a compensation, if there is one. -/
def payCompensation (env : External σ) (w : World σ) (auctionId : AuctionId) (claimant : Address)
    (escrowRefund compensation : ℕ) : Except Revert (ℕ × World σ) :=
  if compensation = 0 then .ok (0, w)
  else do
    let auctionSlashedPot := w.auctionSlashedPot (w.market.auctions auctionId)
    let pot ← requireSome (w.pots auctionSlashedPot) .callFailed
    let (amount, claimed) ← pot.claimFor env.keccak env.market auctionId claimant escrowRefund
    if amount = 0 then return (0, w.setPot auctionSlashedPot claimed)
    else
      let outside ← requireSome (env.receiveEther w.outside claimant amount)
        (.nativeTransferFailed claimant amount)
      return (amount, (w.setPot auctionSlashedPot claimed).setOutside outside)

def claimRefund (env : External σ) (w : World σ) (msg : Msg) (auctionId : AuctionId) :
    Except Revert (World σ) := do
  let cell ← w.auctionExists auctionId
  revertIf (cell.hasWithdrawn msg.sender) (.noClaimableBalance auctionId msg.sender)
  let (escrowRefund, compensation) ← w.previewRefund auctionId msg.sender
  revertIf (escrowRefund = 0 ∧ compensation = 0) (.noClaimableBalance auctionId msg.sender)
  let withdrawn := { cell with hasWithdrawn := Function.update cell.hasWithdrawn msg.sender true }
  let refunded ← (w.setAuction auctionId withdrawn).payEscrowRefund env auctionId withdrawn msg.sender
    escrowRefund
  let (paid, compensated) ← refunded.payCompensation env auctionId msg.sender escrowRefund compensation
  return compensated.emit (.refundClaimed auctionId msg.sender escrowRefund paid)

def claimSellerProceeds (env : External σ) (w : World σ) (msg : Msg) (auctionId : AuctionId) :
    Except Revert (World σ) := do
  let cell ← w.auctionExists auctionId
  onlyAuctionSeller cell msg.sender
  revertIf cell.auction.sellerClaimed (.sellerProceedsAlreadyClaimed auctionId)
  let sellerPayout ← w.previewSellerPayout auctionId
  revertIf (sellerPayout = 0) (.noClaimableBalance auctionId msg.sender)
  let claimed := w.setAuction auctionId { cell with auction.sellerClaimed := true }
  let sent ← claimed.sendValue env msg.sender sellerPayout
  return sent.emit (.sellerProceedsClaimed auctionId msg.sender sellerPayout)

/-- Pay a reward, if there is one. -/
def payReward (env : External σ) (w : World σ) (recipient : Address) (reward : ℕ) :
    Except Revert (World σ) :=
  if reward = 0 then .ok w else w.sendValue env recipient reward

def claimFinalizeReward (env : External σ) (w : World σ) (msg : Msg) (auctionId : AuctionId) :
    Except Revert (World σ) := do
  let cell ← w.auctionExists auctionId
  let executor := cell.finalizationExecutor
  revertIf (executor ≠ msg.sender) (.unauthorizedFinalizeRewardClaim auctionId msg.sender executor)
  revertIf cell.finalizationRewardClaimed (.finalizeRewardAlreadyClaimed auctionId)
  let state := cell.auction.state
  revertIf (state ≠ .finalized ∧ state ≠ .voided) (.finalizeRewardNotReady auctionId state)
  let reward := cell.finalizationReward
  let claimed := w.setAuction auctionId { cell with finalizationRewardClaimed := true }
  let sent ← claimed.payReward env msg.sender reward
  return sent.emit (.finalizeRewardClaimed auctionId msg.sender reward)

/-- Who may claim the asset of an auction without a winning identity. -/
def expectedRecipient (auction : Auction) : Address :=
  if auction.winner = 0 then auction.seller else auction.winner

def claimAsset (env : External σ) (w : World σ) (msg : Msg) (auctionId : AuctionId) :
    Except Revert (World σ) := do
  let cell ← w.auctionExists auctionId
  onlyAuctionState cell .finalized
  revertIf cell.auction.assetClaimed (.assetAlreadyClaimed auctionId)
  revertIf (cell.winningCommitment ≠ 0) (.shieldedWinnerMustClaimPrivately auctionId)
  let recipient := expectedRecipient cell.auction
  revertIf (msg.sender ≠ recipient) (.unauthorizedAssetClaim auctionId msg.sender recipient)
  let claimed := w.setAuction auctionId { cell with auction.assetClaimed := true }
  claimed.releaseFromEscrow env auctionId recipient

def claimShieldedAssetWithAuthorization (env : External σ) (w : World σ) (msg : Msg)
    (auctionId : AuctionId) (winnerIdentityHash : Bytes32) (recipient : Address) (deadline : ℕ)
    (signature : Signature) : Except Revert (World σ) := do
  let cell ← w.auctionExists auctionId
  onlyAuctionState cell .finalized
  let auctionVault := w.auctionShieldedEscrowVault cell
  revertIf cell.auction.assetClaimed (.assetAlreadyClaimed auctionId)
  revertIf (recipient = 0) .zeroAddress
  let vault ← requireSome (w.vaults auctionVault) .shieldedEscrowVaultNotConfigured
  let expectedIdentityHash := cell.winningCommitment
  revertIf (expectedIdentityHash = 0 ∨ winnerIdentityHash ≠ expectedIdentityHash)
    (.unauthorizedShieldedIdentityClaim auctionId winnerIdentityHash expectedIdentityHash)
  let commitmentHash ← w.resolveShieldedCommitment auctionId cell winnerIdentityHash
  let (_, authorized) ← vault.authorizeAssetClaim env.toChain auctionVault msg.timestamp env.market
    auctionId commitmentHash recipient deadline signature
  let claimed := (w.setAuction auctionId { cell with auction.assetClaimed := true }).setVault
    auctionVault authorized
  claimed.releaseFromEscrow env auctionId recipient

end World

/-- The vault's call back into the market when it releases a refund. -/
def FhenixFairMarket.settleShieldedRefund (market : FhenixFairMarket) (sender : Address)
    (auctionId : AuctionId) (nullifierHash : Bytes32) (_recipient : Address)
    (_escrowContribution : ℕ) : Except Revert FhenixFairMarket := do
  let cell := market.auctions auctionId
  revertIf (¬ cell.auction.exists_) (.auctionDoesNotExist auctionId)
  let auctionVault := World.auctionDependency cell (·.shieldedEscrowVault) market.shieldedEscrowVault
  revertIf (sender ≠ auctionVault) (.unauthorizedShieldedRefundSource sender auctionVault)
  revertIf (cell.shieldedRefundClaimed nullifierHash)
    (.shieldedRefundAlreadyClaimed auctionId nullifierHash)
  let state := cell.auction.state
  revertIf (state ≠ .cancelled ∧ state ≠ .voided ∧ state ≠ .finalized)
    (.shieldedRefundsNotReady auctionId state)
  revertIf (¬ cell.shieldedRefundsUnlocked) (.shieldedRefundsNotReady auctionId state)
  return { market with auctions := Function.update market.auctions auctionId { cell with
    shieldedRefundClaimed := Function.update cell.shieldedRefundClaimed nullifierHash true } }

namespace World

/-- Whether an address is one of the contracts of this world. -/
def isSystem (env : External σ) (w : World σ) (address : Address) : Bool :=
  address = env.market ∨ (w.vaults address).isSome ∨ (w.registries address).isSome ∨
    (w.pots address).isSome ∨ (w.engines address).isSome

/-- `receive()`: a plain transfer to the market. -/
def receiveEther (w : World σ) (amount : ℕ) : World σ :=
  { w.credit amount with unsolicited := w.unsolicited + amount }

/-- A vault pays an arbitrary recipient. Of the contracts of this world only the
market takes plain transfers. -/
def payRefund (env : External σ) (w : World σ) (recipient : Address) (amount : ℕ) :
    Except Revert (World σ) :=
  if recipient = env.market then
    .ok (w.receiveEther amount)
  else if w.isSystem env recipient then .error (.nativeTransferFailed recipient amount)
  else do
    let outside ← requireSome (env.receiveEther w.outside recipient amount)
      (.nativeTransferFailed recipient amount)
    return w.setOutside outside

/-- A refund claimed at the vault `vaultAddress`, which is wired to this market. -/
def claimRefundWithAuthorization (env : External σ) (w : World σ) (msg : Msg)
    (vaultAddress : Address) (commitmentHash : Bytes32) (recipient : Address) (deadline : ℕ)
    (signature : Signature) : Except Revert (World σ) := do
  let vault ← requireSome (w.vaults vaultAddress) .callFailed
  let released ← vault.claimRefundWithAuthorization env.toChain vaultAddress msg.timestamp
    (w.market.settleShieldedRefund vaultAddress) commitmentHash recipient deadline signature
  let settled := { w with market := released.source }.setVault vaultAddress released.vault
  let paid ← settled.payRefund env recipient (released.principalAmount + released.compensationAmount)
  return paid.emit (.shieldedRefundClaimed released.auctionId commitmentHash recipient
    released.principalAmount released.compensationAmount)

end World

end FairMarket
