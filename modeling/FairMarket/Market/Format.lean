import FairMarket.Keeper.ResolutionQueue
import FairMarket.Market.Agreement
import FairMarket.Market.Rejection

/-! The format of an auction, sealed or Vickrey. It is stored and shown, and nothing else:
worlds that differ in formats alone stay so, whatever transactions come. -/

namespace FairMarket

variable {σ : Type}

def Auction.unlabelled (auction : Auction) : Auction := { auction with isVickrey := false }

def AuctionStorage.unlabelled (cell : AuctionStorage) : AuctionStorage :=
  { cell with auction := cell.auction.unlabelled }

def FhenixFairMarket.unlabelled (market : FhenixFairMarket) : FhenixFairMarket :=
  { market with auctions := fun auctionId => (market.auctions auctionId).unlabelled }

/-- The world without the formats. -/
def World.unlabelled (w : World σ) : World σ := { w with market := w.market.unlabelled }

def Tx.unlabelled : Tx σ → Tx σ
  | .createAuction nftContract tokenId duration startingPrice sellerDeposit _ =>
    .createAuction nftContract tokenId duration startingPrice sellerDeposit false
  | tx => tx

/-- The second value is the first one without the formats. -/
def Strips (w v : World σ) : Prop := v = w.unlabelled

theorem update_unlabelled (auctionId : AuctionId) (auctions : AuctionId → AuctionStorage) (cell : AuctionStorage) :
    (fun other => (Function.update auctions auctionId cell other).unlabelled) =
      Function.update (fun other => (auctions other).unlabelled) auctionId cell.unlabelled := by
  funext other
  by_cases same : other = auctionId
  · subst same
    rw [Function.update_self, Function.update_self]
  · rw [Function.update_of_ne same, Function.update_of_ne same]

namespace Strips

variable {w v : World σ} {auctionId : AuctionId}

theorem setNetwork (near : Strips w v) (network : NetworkObservation) :
    Strips (w.setNetwork network) (v.setNetwork network) := congrArg (World.setNetwork · network) near

theorem setOutside (near : Strips w v) (outside : σ) : Strips (w.setOutside outside) (v.setOutside outside) :=
  congrArg (World.setOutside · outside) near

theorem credit (near : Strips w v) (amount : ℕ) : Strips (w.credit amount) (v.credit amount) :=
  congrArg (World.credit · amount) near

theorem debit (near : Strips w v) (amount : ℕ) : Strips (w.debit amount) (v.debit amount) :=
  congrArg (World.debit · amount) near

theorem emit (near : Strips w v) (event : Event) : Strips (w.emit event) (v.emit event) :=
  congrArg (World.emit · event) near

theorem setVault (near : Strips w v) (address : Address) (vault : ShieldedEscrowVault) :
    Strips (w.setVault address vault) (v.setVault address vault) := congrArg (World.setVault · address vault) near

theorem setRegistry (near : Strips w v) (address : Address) (registry : ShieldedIdentityRegistry) :
    Strips (w.setRegistry address registry) (v.setRegistry address registry) :=
  congrArg (World.setRegistry · address registry) near

theorem setPot (near : Strips w v) (address : Address) (pot : SlashedPot) :
    Strips (w.setPot address pot) (v.setPot address pot) := congrArg (World.setPot · address pot) near

theorem setAuction (near : Strips w v) {cell stripped : AuctionStorage} (same : stripped = cell.unlabelled) :
    Strips (w.setAuction auctionId cell) (v.setAuction auctionId stripped) := by
  cases near
  cases same
  unfold Strips World.setAuction World.unlabelled FhenixFairMarket.unlabelled
  dsimp only
  rw [update_unlabelled]

end Strips

namespace World

variable {env : External σ} {w v : World σ} {msg : Msg} {auctionId : AuctionId}

/-- An auction is found with its format or without. -/
theorem auctionExists_strips {α β : Type} {related : α → β → Prop} {first : AuctionStorage → Except Revert α}
    {second : AuctionStorage → Except Revert β}
    (rest : ∀ cell, SameOutcome related (first cell) (second cell.unlabelled)) :
    SameOutcome related (w.auctionExists auctionId >>= first) (w.unlabelled.auctionExists auctionId >>= second) := by
  unfold auctionExists
  rw [bind_assoc, bind_assoc]
  refine .bind_same fun _ _ => ?_
  exact rest (w.market.auctions auctionId)

/-- The format stays as it is where the state changes. -/
theorem transitionState_strips {auction : Auction} {timestamp : ℕ} {nextState : AuctionState} {α β : Type}
    {related : α → β → Prop} {first : Auction → Except Revert α} {second : Auction → Except Revert β}
    (rest : ∀ next, SameOutcome related (first next) (second next.unlabelled)) :
    SameOutcome related (auction.transitionState timestamp nextState >>= first)
      (auction.unlabelled.transitionState timestamp nextState >>= second) := by
  unfold Auction.transitionState
  rw [bind_assoc, bind_assoc]
  refine .bind_same fun _ _ => ?_
  exact rest _

theorem sendValue_strips (near : Strips w v) (recipient : Address) (amount : ℕ) :
    SameOutcome Strips (w.sendValue env recipient amount) (v.sendValue env recipient amount) := by
  cases near
  unfold sendValue
  refine .bind_same fun _ _ => .bind_same fun _ _ => .ok rfl

theorem releaseFromEscrow_strips (near : Strips w v) (recipient : Address) :
    SameOutcome Strips (w.releaseFromEscrow env auctionId recipient)
      (v.releaseFromEscrow env auctionId recipient) := by
  cases near
  unfold releaseFromEscrow
  refine .bind_same fun _ _ => .ok rfl

theorem openShieldedRefundPath_strips (near : Strips w v) :
    SameOutcome Strips (w.openShieldedRefundPath env auctionId)
      (v.openShieldedRefundPath env auctionId) := by
  cases near
  unfold openShieldedRefundPath
  refine .ite (fun _ => .ok rfl) fun _ => ?_
  have vaults : w.unlabelled.vaults = w.vaults := rfl
  have pinned : w.unlabelled.auctionShieldedEscrowVault (w.unlabelled.market.auctions auctionId) =
      w.auctionShieldedEscrowVault (w.market.auctions auctionId) := rfl
  rw [vaults, pinned]
  cases w.vaults (w.auctionShieldedEscrowVault (w.market.auctions auctionId)) with
  | none => exact .ok rfl
  | some vault =>
    refine .bind_same fun unlocked _ => .ok ?_
    exact Strips.setVault (Strips.setAuction rfl rfl) ..

theorem createAuction_strips (nftContract : Address) (tokenId duration startingPrice sellerDeposit : ℕ)
    (isVickrey : Bool) :
    SameOutcome Strips (w.createAuction env msg nftContract tokenId duration startingPrice sellerDeposit isVickrey)
      (w.unlabelled.createAuction env msg nftContract tokenId duration startingPrice sellerDeposit false) := by
  unfold createAuction
  refine .bind_same fun _ _ => .bind_same fun _ _ => .bind_same fun _ _ => .bind_same fun _ _ =>
    .bind_same fun _ _ => .bind_same fun _ _ => .bind_same fun _ _ => .bind_same fun _ _ =>
    .bind_same fun _ _ => .bind_same fun auctionCounter _ => .bind_same fun _ _ =>
    .bind_same fun network _ => ?_
  refine transitionState_strips fun auction => .bind_same fun outside _ => .ok ?_
  have counted : Strips { w with market.auctionCounter := auctionCounter }
      { w.unlabelled with market.auctionCounter := auctionCounter } := rfl
  exact ((((counted.setNetwork network).setAuction rfl).setOutside outside).credit msg.value).emit _ |>.emit _

theorem lockEscrow_strips :
    SameOutcome Strips (w.lockEscrow msg auctionId) (w.unlabelled.lockEscrow msg auctionId) := by
  unfold lockEscrow
  refine auctionExists_strips fun cell => .bind_same fun _ _ => .bind_same fun _ _ => .bind_same fun _ _ =>
    .bind_same fun _ _ => .bind_same fun _ _ => .bind_same fun network _ => .ok ?_
  exact (((Strips.setNetwork rfl network).setAuction rfl).credit msg.value).emit _

theorem lockShieldedEscrow_strips (identityHash commitmentHash : Bytes32) (claimAuthority : Address) :
    SameOutcome Strips (w.lockShieldedEscrow env msg auctionId identityHash commitmentHash claimAuthority)
      (w.unlabelled.lockShieldedEscrow env msg auctionId identityHash commitmentHash claimAuthority) := by
  unfold lockShieldedEscrow
  refine auctionExists_strips fun cell => .bind_same fun _ _ => .bind_same fun _ _ => .bind_same fun _ _ =>
    .bind_same fun _ _ => .bind_same fun _ _ => .bind_same fun _ _ => .bind_same fun _ _ =>
    .bind_same fun network _ => .bind_same fun bound _ => .bind_same fun locked _ => .ok ?_
  exact (((((Strips.setNetwork rfl network).setAuction rfl).setRegistry _ bound).setVault _ locked).emit _).emit _

theorem placeBid_strips (encryptedBid : Bytes32) :
    SameOutcome Strips (w.placeBid env msg auctionId encryptedBid)
      (w.unlabelled.placeBid env msg auctionId encryptedBid) := by
  unfold placeBid
  refine auctionExists_strips fun cell => .bind_same fun _ _ => .bind_same fun _ _ => .bind_same fun _ _ =>
    .bind_same fun _ _ => .bind_same fun _ _ => .bind_same fun _ _ => .bind_same fun _ _ =>
    .bind_same fun network _ => .ok ?_
  exact ((Strips.setNetwork rfl network).setAuction rfl).emit _

theorem placeShieldedBid_strips (commitmentHash encryptedBid : Bytes32) (coverageDeadline : ℕ)
    (coverageProof : List UInt8) :
    SameOutcome Strips
      (w.placeShieldedBid env msg auctionId commitmentHash encryptedBid coverageDeadline coverageProof)
      (w.unlabelled.placeShieldedBid env msg auctionId commitmentHash encryptedBid coverageDeadline
        coverageProof) := by
  unfold placeShieldedBid
  refine auctionExists_strips fun cell => .bind_same fun _ _ => .bind_same fun _ _ => .bind_same fun _ _ =>
    .bind_same fun vault _ => ?_
  generalize vault.commitmentState commitmentHash = committed
  obtain ⟨commitmentAuctionId, refundUnlocked, claimed⟩ := committed
  refine .bind_same fun _ _ => .bind_same fun _ _ => .bind_same fun _ _ => .bind_same fun _ _ =>
    .bind_same fun _ _ => .bind_same fun network _ => .ok ?_
  exact ((Strips.setNetwork rfl network).setAuction rfl).emit _

theorem triggerFinalize_strips :
    SameOutcome Strips (w.triggerFinalize env msg auctionId) (w.unlabelled.triggerFinalize env msg auctionId) := by
  unfold triggerFinalize
  refine auctionExists_strips fun cell => .bind_same fun _ _ => .bind_same fun _ _ => .bind_same fun _ _ =>
    .bind_same fun network _ => transitionState_strips fun auction => .bind_same fun _ _ =>
    .bind_same fun _ _ => .bind_same fun _ _ => .ok ?_
  exact (((Strips.setNetwork rfl network).setAuction rfl).emit _).emit _

theorem recordResolution_strips (near : Strips w v) (cell : AuctionStorage) (winner : Address)
    (winningCommitment winnerCiphertext : Bytes32) (winningAmount : ℕ) :
    SameOutcome Strips
      (w.recordResolution msg auctionId cell winner winningCommitment winnerCiphertext winningAmount)
      (v.recordResolution msg auctionId cell.unlabelled winner winningCommitment winnerCiphertext
        winningAmount) := by
  cases near
  unfold recordResolution
  refine .bind_same fun network _ => transitionState_strips fun auction => .ok ?_
  exact (((Strips.setNetwork rfl network).setAuction rfl).emit _).emit _

/-- The results of a submission are the same, and its worlds but for the formats. -/
def StripsAfter (x y : Bool × World σ) : Prop := x.1 = y.1 ∧ Strips x.2 y.2

theorem submitResolution_strips (winner : Address) (winnerCiphertext : Bytes32) (winningAmount : ℕ)
    (avsProof : Proof) :
    SameOutcome StripsAfter
      (w.submitResolution env msg auctionId winner winnerCiphertext winningAmount avsProof)
      (w.unlabelled.submitResolution env msg auctionId winner winnerCiphertext winningAmount avsProof) := by
  unfold submitResolution
  refine auctionExists_strips fun cell => .bind_same fun _ _ => .bind_same fun _ _ => .bind_same fun _ _ =>
    .bind_same fun _ _ => .bind_same fun engine _ => .bind_same fun checked _ => ?_
  obtain ⟨proofAccepted, outside⟩ := checked
  refine .ite (fun _ => .ok ⟨rfl, (Strips.setOutside rfl outside).emit _⟩) fun _ => ?_
  refine .bind (recordResolution_strips rfl ..) fun _ _ _ _ recorded => ?_
  refine .bind (openShieldedRefundPath_strips recorded) fun _ _ _ _ opened => .ok ⟨rfl, opened⟩

theorem settleWinningCommitment_strips (near : Strips w v) (commitmentHash : Bytes32) (winningAmount : ℕ) :
    SameOutcome Strips (w.settleWinningCommitment env auctionId commitmentHash winningAmount)
      (v.settleWinningCommitment env auctionId commitmentHash winningAmount) := by
  cases near
  unfold settleWinningCommitment
  refine .bind_same fun vault _ => .bind_same fun settled _ => .ok ?_
  exact (Strips.setVault rfl ..).credit _

theorem markWinningIdentity_strips (near : Strips w v) (winnerIdentityHash : Bytes32) :
    SameOutcome Strips (w.markWinningIdentity env auctionId winnerIdentityHash)
      (v.markWinningIdentity env auctionId winnerIdentityHash) := by
  cases near
  unfold markWinningIdentity
  refine .bind_same fun registry _ => .bind_same fun marked _ => .ok ?_
  exact Strips.setRegistry rfl ..

theorem submitShieldedResolution_strips (winnerIdentityHash winnerCiphertext : Bytes32) (winningAmount : ℕ)
    (avsProof : Proof) :
    SameOutcome StripsAfter
      (w.submitShieldedResolution env msg auctionId winnerIdentityHash winnerCiphertext winningAmount avsProof)
      (w.unlabelled.submitShieldedResolution env msg auctionId winnerIdentityHash winnerCiphertext winningAmount
        avsProof) := by
  unfold submitShieldedResolution
  refine auctionExists_strips fun cell => .bind_same fun _ _ => .bind_same fun _ _ => .bind_same fun _ _ =>
    .bind_same fun winnerCommitmentHash _ => .bind_same fun engine _ => .bind_same fun checked _ => ?_
  obtain ⟨proofAccepted, outside⟩ := checked
  refine .ite (fun _ => .ok ⟨rfl, (Strips.setOutside rfl outside).emit _⟩) fun _ => ?_
  refine .bind (recordResolution_strips rfl ..) fun _ _ _ _ recorded => ?_
  refine .bind (settleWinningCommitment_strips recorded ..) fun _ _ _ _ settled => ?_
  refine .bind (openShieldedRefundPath_strips settled) fun _ _ _ _ opened => ?_
  refine .bind (markWinningIdentity_strips opened _) fun _ _ _ _ marked => .ok ⟨rfl, marked⟩

theorem allocateSlash_strips (near : Strips w v) (totalEscrow slashAmount : ℕ) :
    SameOutcome (fun x y => x.1 = y.1 ∧ Strips x.2 y.2) (w.allocateSlash env auctionId totalEscrow slashAmount)
      (v.allocateSlash env auctionId totalEscrow slashAmount) := by
  cases near
  unfold allocateSlash
  have vaults : w.unlabelled.vaults = w.vaults := rfl
  have pinned : w.unlabelled.auctionShieldedEscrowVault (w.unlabelled.market.auctions auctionId) =
      w.auctionShieldedEscrowVault (w.market.auctions auctionId) := rfl
  dsimp only
  rw [vaults, pinned]
  cases w.vaults (w.auctionShieldedEscrowVault (w.market.auctions auctionId)) with
  | none => exact .ok ⟨rfl, rfl⟩
  | some vault =>
    refine .bind_same fun _ _ => .bind_same fun allocated _ => .ok ⟨rfl, ?_⟩
    exact ((Strips.debit rfl slashAmount).setVault ..).credit _

theorem registerSlash_strips (near : Strips w v) (totalEscrow slashAmount : ℕ) :
    SameOutcome Strips (w.registerSlash env auctionId totalEscrow slashAmount)
      (v.registerSlash env auctionId totalEscrow slashAmount) := by
  cases near
  unfold registerSlash
  refine .ite (fun _ => .ok rfl) fun _ => ?_
  refine .bind (allocateSlash_strips rfl ..) fun x y _ _ same => ?_
  obtain ⟨share, left⟩ := x
  obtain ⟨other, right⟩ := y
  obtain ⟨equal, near⟩ := same
  cases equal
  cases near
  refine .ite (fun _ => .ok rfl) fun _ => .bind_same fun pot _ => .bind_same fun _ _ =>
    .bind_same fun registered _ => .ok ?_
  exact (Strips.setPot rfl ..).debit _

theorem cancelAuction_strips :
    SameOutcome Strips (w.cancelAuction env msg auctionId) (w.unlabelled.cancelAuction env msg auctionId) := by
  unfold cancelAuction
  refine auctionExists_strips fun cell => .bind_same fun _ _ => .bind_same fun _ _ => .bind_same fun _ _ =>
    .bind_same fun slashAmount _ => .bind_same fun network _ => ?_
  refine transitionState_strips fun auction => ?_
  refine .bind (registerSlash_strips (((Strips.setNetwork rfl network).setAuction rfl).emit _) ..)
    fun _ _ _ _ registered => ?_
  refine .bind (openShieldedRefundPath_strips registered) fun _ _ _ _ opened => ?_
  exact releaseFromEscrow_strips opened _

theorem triggerFallbackVoid_strips :
    SameOutcome Strips (w.triggerFallbackVoid env msg auctionId)
      (w.unlabelled.triggerFallbackVoid env msg auctionId) := by
  unfold triggerFallbackVoid
  refine auctionExists_strips fun cell => .bind_same fun _ _ => .bind_same fun timeoutWindow _ =>
    .bind_same fun elapsed _ => .bind_same fun _ _ => .bind_same fun _ _ => .bind_same fun network _ => ?_
  refine transitionState_strips fun auction => ?_
  refine .bind (registerSlash_strips (((Strips.setNetwork rfl network).setAuction rfl).emit _) ..)
    fun _ _ _ _ registered => ?_
  refine .bind (openShieldedRefundPath_strips registered) fun _ _ _ _ opened => ?_
  refine .bind (releaseFromEscrow_strips opened _) fun _ _ _ _ released => .ok (released.emit _)

/-- The refund a claimant sees. -/
theorem previewRefund_unlabelled (claimant : Address) :
    w.unlabelled.previewRefund auctionId claimant = w.previewRefund auctionId claimant := by
  have same : SameOutcome Eq (w.previewRefund auctionId claimant)
      (w.unlabelled.previewRefund auctionId claimant) := by
    unfold previewRefund
    exact auctionExists_strips fun cell => .refl (fun _ => rfl) _
  exact same.eq.symm

/-- The proceeds a seller sees. -/
theorem previewSellerPayout_unlabelled :
    w.unlabelled.previewSellerPayout auctionId = w.previewSellerPayout auctionId := by
  have same : SameOutcome Eq (w.previewSellerPayout auctionId)
      (w.unlabelled.previewSellerPayout auctionId) := by
    unfold previewSellerPayout
    exact auctionExists_strips fun cell => .refl (fun _ => rfl) _
  exact same.eq.symm

theorem payEscrowRefund_strips (near : Strips w v) (cell : AuctionStorage) (claimant : Address)
    (escrowRefund : ℕ) :
    SameOutcome Strips (w.payEscrowRefund env auctionId cell claimant escrowRefund)
      (v.payEscrowRefund env auctionId cell.unlabelled claimant escrowRefund) := by
  unfold payEscrowRefund
  exact .ite (fun _ => .ok near) fun _ => sendValue_strips (near.setAuction rfl) ..

theorem payCompensation_strips (near : Strips w v) (claimant : Address) (escrowRefund compensation : ℕ) :
    SameOutcome (fun x y => x.1 = y.1 ∧ Strips x.2 y.2)
      (w.payCompensation env auctionId claimant escrowRefund compensation)
      (v.payCompensation env auctionId claimant escrowRefund compensation) := by
  cases near
  unfold payCompensation
  refine .ite (fun _ => .ok ⟨rfl, rfl⟩) fun _ => .bind_same fun pot _ => .bind_same fun paid _ => ?_
  obtain ⟨amount, claimed⟩ := paid
  refine .ite (fun _ => .ok ⟨rfl, Strips.setPot rfl ..⟩) fun _ => .bind_same fun outside _ => .ok ⟨rfl, ?_⟩
  exact (Strips.setPot rfl ..).setOutside outside

theorem payReward_strips (near : Strips w v) (recipient : Address) (reward : ℕ) :
    SameOutcome Strips (w.payReward env recipient reward) (v.payReward env recipient reward) := by
  unfold payReward
  exact .ite (fun _ => .ok near) fun _ => sendValue_strips near ..

theorem claimRefund_strips :
    SameOutcome Strips (w.claimRefund env msg auctionId) (w.unlabelled.claimRefund env msg auctionId) := by
  unfold claimRefund
  rw [previewRefund_unlabelled]
  refine auctionExists_strips fun cell => .bind_same fun _ _ => .bind_same fun owed _ => ?_
  obtain ⟨escrowRefund, compensation⟩ := owed
  refine .bind_same fun _ _ => ?_
  refine .bind (payEscrowRefund_strips (Strips.setAuction rfl rfl) ..) fun _ _ _ _ refunded => ?_
  refine .bind (payCompensation_strips refunded ..) fun x y _ _ same => ?_
  obtain ⟨paid, left⟩ := x
  obtain ⟨other, right⟩ := y
  obtain ⟨equal, near⟩ := same
  cases equal
  exact .ok (near.emit _)

theorem claimSellerProceeds_strips :
    SameOutcome Strips (w.claimSellerProceeds env msg auctionId)
      (w.unlabelled.claimSellerProceeds env msg auctionId) := by
  unfold claimSellerProceeds
  rw [previewSellerPayout_unlabelled]
  refine auctionExists_strips fun cell => .bind_same fun _ _ => .bind_same fun _ _ =>
    .bind_same fun sellerPayout _ => .bind_same fun _ _ => ?_
  exact .bind (sendValue_strips (Strips.setAuction rfl rfl) ..) fun _ _ _ _ sent => .ok (sent.emit _)

theorem claimFinalizeReward_strips :
    SameOutcome Strips (w.claimFinalizeReward env msg auctionId)
      (w.unlabelled.claimFinalizeReward env msg auctionId) := by
  unfold claimFinalizeReward
  refine auctionExists_strips fun cell => .bind_same fun _ _ => .bind_same fun _ _ => .bind_same fun _ _ => ?_
  exact .bind (payReward_strips (Strips.setAuction rfl rfl) ..) fun _ _ _ _ sent => .ok (sent.emit _)

theorem claimAsset_strips :
    SameOutcome Strips (w.claimAsset env msg auctionId) (w.unlabelled.claimAsset env msg auctionId) := by
  unfold claimAsset
  refine auctionExists_strips fun cell => .bind_same fun _ _ => .bind_same fun _ _ => .bind_same fun _ _ =>
    .bind_same fun _ _ => ?_
  exact releaseFromEscrow_strips (Strips.setAuction rfl rfl) _

theorem claimShieldedAsset_strips (winnerIdentityHash : Bytes32) (recipient : Address) (deadline : ℕ)
    (signature : Signature) :
    SameOutcome Strips
      (w.claimShieldedAssetWithAuthorization env msg auctionId winnerIdentityHash recipient deadline signature)
      (w.unlabelled.claimShieldedAssetWithAuthorization env msg auctionId winnerIdentityHash recipient deadline
        signature) := by
  unfold claimShieldedAssetWithAuthorization
  refine auctionExists_strips fun cell => .bind_same fun _ _ => .bind_same fun _ _ => .bind_same fun _ _ =>
    .bind_same fun vault _ => .bind_same fun _ _ => .bind_same fun commitmentHash _ =>
    .bind_same fun authorized _ => ?_
  exact releaseFromEscrow_strips ((Strips.setAuction rfl rfl).setVault ..) _

theorem settleShieldedRefund_strips (market : FhenixFairMarket) (sender : Address) (key : Bytes32)
    (recipient : Address) (amount : ℕ) :
    SameOutcome (fun left right => right = left.unlabelled)
      (market.settleShieldedRefund sender auctionId key recipient amount)
      (market.unlabelled.settleShieldedRefund sender auctionId key recipient amount) := by
  unfold FhenixFairMarket.settleShieldedRefund
  refine .bind_same fun _ _ => .bind_same fun _ _ => .bind_same fun _ _ => .bind_same fun _ _ =>
    .bind_same fun _ _ => .ok ?_
  unfold FhenixFairMarket.unlabelled
  dsimp only
  rw [update_unlabelled]
  rfl

theorem payRefund_strips (near : Strips w v) (recipient : Address) (amount : ℕ) :
    SameOutcome Strips (w.payRefund env recipient amount) (v.payRefund env recipient amount) := by
  cases near
  unfold payRefund
  refine .ite (fun _ => .ok rfl) fun _ => .ite (fun _ => .error _) fun _ => .bind_same fun outside _ => .ok rfl

theorem claimRefundWithAuthorization_strips (address : Address) (commitmentHash : Bytes32)
    (recipient : Address) (deadline : ℕ) (signature : Signature) :
    SameOutcome Strips
      (w.claimRefundWithAuthorization env msg address commitmentHash recipient deadline signature)
      (w.unlabelled.claimRefundWithAuthorization env msg address commitmentHash recipient deadline
        signature) := by
  unfold claimRefundWithAuthorization
  refine .bind_same fun vault _ => ?_
  unfold ShieldedEscrowVault.claimRefundWithAuthorization
  refine .bind (.bind_same fun commitment _ => .bind_same fun consumed _ =>
    releaseRefund_agrees (fun _ _ _ _ => settleShieldedRefund_strips ..) ..) fun x y _ _ same => ?_
  obtain ⟨settled, same⟩ := same
  rw [same, settled]
  refine .bind (payRefund_strips (Strips.setVault rfl ..) ..) fun _ _ _ _ paid => .ok (paid.emit _)

theorem afterResolution_strips {first second : Except Revert (Bool × World σ)}
    (same : SameOutcome StripsAfter first second) :
    SameOutcome Strips (afterResolution first) (afterResolution second) :=
  same.bind fun _ _ _ _ near => .ok near.2

theorem setAVS_strips (sender address newAVS : Address) :
    SameOutcome Strips (w.setAVS sender address newAVS) (w.unlabelled.setAVS sender address newAVS) := by
  unfold setAVS
  exact .bind_same fun engine _ => .bind_same fun changed _ => .ok rfl

theorem setShieldedBidVerifier_strips (sender address newVerifier : Address) :
    SameOutcome Strips (w.setShieldedBidVerifier sender address newVerifier)
      (w.unlabelled.setShieldedBidVerifier sender address newVerifier) := by
  unfold setShieldedBidVerifier
  exact .bind_same fun vault _ => .bind_same fun changed _ => .ok (Strips.setVault rfl ..)

theorem setPreviewReader_strips (sender address newPreviewReader : Address) :
    SameOutcome Strips (w.setPreviewReader sender address newPreviewReader)
      (w.unlabelled.setPreviewReader sender address newPreviewReader) := by
  unfold setPreviewReader
  exact .bind_same fun vault _ => .bind_same fun changed _ => .ok (Strips.setVault rfl ..)

/-- A setter of the market checks its caller and the new address, and stores the address. -/
theorem set_strips {checks : Except Revert Unit} {deployed : Except Revert Unit} {next stripped : World σ}
    (near : Strips next stripped) :
    SameOutcome Strips (do checks; deployed; return next) (do checks; deployed; return stripped) :=
  .bind_same fun _ _ => .bind_same fun _ _ => .ok near

theorem execute_strips (tx : Tx σ) :
    SameOutcome Strips (w.execute env msg tx) (w.unlabelled.execute env msg tx.unlabelled) := by
  cases tx with
  | createAuction => exact createAuction_strips ..
  | lockEscrow => exact lockEscrow_strips
  | lockShieldedEscrow => exact lockShieldedEscrow_strips ..
  | placeBid => exact placeBid_strips _
  | placeShieldedBid => exact placeShieldedBid_strips ..
  | triggerFinalize => exact triggerFinalize_strips
  | submitResolution => exact afterResolution_strips (submitResolution_strips ..)
  | submitShieldedResolution => exact afterResolution_strips (submitShieldedResolution_strips ..)
  | cancelAuction => exact cancelAuction_strips
  | triggerFallbackVoid => exact triggerFallbackVoid_strips
  | claimRefund => exact claimRefund_strips
  | claimSellerProceeds => exact claimSellerProceeds_strips
  | claimFinalizeReward => exact claimFinalizeReward_strips
  | claimAsset => exact claimAsset_strips
  | claimShieldedAssetWithAuthorization => exact claimShieldedAsset_strips ..
  | claimRefundWithAuthorization => exact claimRefundWithAuthorization_strips ..
  | receive => exact .ok rfl
  | setCofheAdapter => exact set_strips rfl
  | setSettlementEngine => exact set_strips rfl
  | setSlashedPot => exact set_strips rfl
  | setShieldedEscrowVault => exact set_strips rfl
  | setShieldedIdentityRegistry => exact set_strips rfl
  | setAVS => exact setAVS_strips ..
  | setShieldedBidVerifier => exact setShieldedBidVerifier_strips ..
  | setPreviewReader => exact setPreviewReader_strips ..
  | outside next => exact .bind_same fun _ _ => .ok rfl

theorem transact_strips (tx : Tx σ) :
    SameOutcome Strips (w.transact env (msg, tx)) (w.unlabelled.transact env (msg, tx.unlabelled)) := by
  have payable : tx.unlabelled.payable = tx.payable := by cases tx <;> rfl
  have creates : tx.unlabelled.creates = tx.creates := by cases tx <;> rfl
  have configured : w.unlabelled.Configured ↔ w.Configured :=
    ⟨fun given => given.transfer rfl rfl rfl rfl, fun given => given.transfer rfl rfl rfl rfl⟩
  have system : w.unlabelled.isSystem env msg.sender = w.isSystem env msg.sender := rfl
  have clock : w.unlabelled.timestamp = w.timestamp := rfl
  simp only [transact, payable, creates, configured, system, clock]
  refine .bind_same fun _ _ => .bind_same fun _ _ => .bind (execute_strips tx) fun next _ _ _ near => .ok ?_
  exact congrArg (fun v : World σ => { v with timestamp := msg.timestamp }) near

end World

/-- The attempted transaction without the format it may set. -/
def stripped (input : Msg × Tx σ) : Msg × Tx σ := (input.1, input.2.unlabelled)

/-- What an attempted transaction is refused with, if it is. -/
def World.refusal (env : External σ) (w : World σ) (input : Msg × Tx σ) : List (Option Revert) :=
  match w.transact env input with
  | .ok _ => [none]
  | .error raised => [some raised]

section Runs

variable {env : External σ} {w : World σ}

theorem World.refusal_stripped (input : Msg × Tx σ) :
    w.unlabelled.refusal env (stripped input) = w.refusal env input := by
  have same : SameOutcome Strips (w.transact env (input.1, input.2))
      (w.unlabelled.transact env (input.1, input.2.unlabelled)) := transact_strips input.2
  unfold refusal stripped
  generalize w.transact env (input.1, input.2) = x,
    w.unlabelled.transact env (input.1, input.2.unlabelled) = y at same
  cases same <;> rfl

theorem advance_unlabelled (input : Msg × Tx σ) :
    (advance (World.transact env) w input).unlabelled =
      advance (World.transact env) w.unlabelled (stripped input) := by
  have near : Strips (advance (World.transact env) w input)
      (advance (World.transact env) w.unlabelled (stripped input)) :=
    advance_related rfl (World.transact_strips input.2)
  exact near.symm

theorem play_unlabelled (inputs : List (Msg × Tx σ)) :
    (play (World.transact env) w inputs).unlabelled =
      play (World.transact env) w.unlabelled (inputs.map stripped) := by
  induction inputs generalizing w with
  | nil => rfl
  | cons input rest ih => rw [List.map_cons, play_cons, play_cons, ih, advance_unlabelled]

theorem refusals_stripped (inputs : List (Msg × Tx σ)) :
    observations (World.transact env) (World.refusal env) w.unlabelled (inputs.map stripped) =
      observations (World.transact env) (World.refusal env) w inputs := by
  induction inputs generalizing w with
  | nil => rfl
  | cons input rest ih =>
    rw [List.map_cons, observations, observations, World.refusal_stripped, ← advance_unlabelled, ih]

end Runs

section Jobs

variable {env : External σ} {w : World σ} {account : Address} {nowMs : Keeper.Number}

/-- A view that does not show the format. -/
theorem view_unlabelled {α : Type} {read : AuctionStorage → Except Revert α}
    (unshown : ∀ cell : AuctionStorage, read cell.unlabelled = read cell) (auctionId : AuctionId) :
    (w.unlabelled.auctionExists auctionId >>= read) = (w.auctionExists auctionId >>= read) := by
  unfold World.auctionExists
  rw [bind_assoc, bind_assoc]
  exact congrArg _ (funext fun _ => unshown (w.market.auctions auctionId))

theorem collectEncryptedBidsFromChain_unlabelled (auctionId : AuctionId) :
    w.unlabelled.collectEncryptedBidsFromChain env account auctionId =
      w.collectEncryptedBidsFromChain env account auctionId := by
  have publicBids : w.unlabelled.collectPublicBid auctionId = w.collectPublicBid auctionId := by
    funext bidder
    have handle : w.unlabelled.getEncryptedBid auctionId bidder = w.getEncryptedBid auctionId bidder :=
      view_unlabelled (fun _ => rfl) auctionId
    rw [World.collectPublicBid, World.collectPublicBid, handle]
    rfl
  have shieldedBids : w.unlabelled.collectShieldedBid env account auctionId =
      w.collectShieldedBid env account auctionId := by
    funext shieldedVaultAddress shieldedRegistryAddress commitmentHash
    have handle : w.unlabelled.getShieldedEncryptedBid auctionId commitmentHash =
        w.getShieldedEncryptedBid auctionId commitmentHash := view_unlabelled (fun _ => rfl) auctionId
    rw [World.collectShieldedBid, World.collectShieldedBid, handle]
    rfl
  have bidders : w.unlabelled.getBidders auctionId = w.getBidders auctionId := view_unlabelled (fun _ => rfl) auctionId
  have commitments : w.unlabelled.getShieldedCommitments auctionId = w.getShieldedCommitments auctionId :=
    view_unlabelled (fun _ => rfl) auctionId
  rw [World.collectEncryptedBidsFromChain, World.collectEncryptedBidsFromChain, bidders, commitments, publicBids,
    shieldedBids]
  rfl

theorem readBidBook_unlabelled (auctionId : ℤ) :
    w.unlabelled.readBidBook env account auctionId = w.readBidBook env account auctionId := by
  have price : ∀ id, w.unlabelled.getAuctionStartingPrice id = w.getAuctionStartingPrice id :=
    view_unlabelled fun _ => rfl
  simp only [World.readBidBook, collectEncryptedBidsFromChain_unlabelled, price]

theorem inspectTriggeredAuction_unlabelled (auctionId : ℤ) :
    w.unlabelled.inspectTriggeredAuction auctionId = w.inspectTriggeredAuction auctionId := by
  have request : ∀ id, w.unlabelled.getResolutionRequest id = w.getResolutionRequest id := by
    intro id
    unfold World.getResolutionRequest
    exact view_unlabelled (fun _ => rfl) id
  simp only [World.inspectTriggeredAuction, request]

/-- The jobs of a pass do not show the formats. -/
theorem enqueueJobs_unlabelled (auctions : List Keeper.StoredAuctionRecord) (store : Keeper.AuctionStateStore) :
    Keeper.enqueueJobs env w.unlabelled account nowMs auctions store =
      Keeper.enqueueJobs env w account nowMs auctions store := by
  induction auctions generalizing store with
  | nil => rfl
  | cons auction rest ih =>
    simp only [Keeper.enqueueJobs, inspectTriggeredAuction_unlabelled, readBidBook_unlabelled, ih]

end Jobs

/-- The format of an auction decides nothing. Two runs whose transactions differ at most in the
formats sellers choose have the same transactions refused, with the same errors, and leave
worlds behind that differ in the formats alone, so that winners, amounts and payments are the
same; and from either the keeper collects the same bids, and enqueues the same jobs. -/
theorem format_inert (deployment : Deployment) (env : External σ) (outside : σ)
    (first second : List (Msg × Tx σ)) (alike : first.map stripped = second.map stripped) :
    let w := deployment.run env outside first
    let v := deployment.run env outside second
    let genesis := deployment.genesis env outside
    observations (World.transact env) (World.refusal env) genesis first =
        observations (World.transact env) (World.refusal env) genesis second ∧
      w.unlabelled = v.unlabelled ∧
      (∀ account auctionId, w.collectEncryptedBidsFromChain env account auctionId =
        v.collectEncryptedBidsFromChain env account auctionId) ∧
      ∀ account nowMs store, Keeper.enqueuePendingResolutionJobs env w account nowMs store =
        Keeper.enqueuePendingResolutionJobs env v account nowMs store := by
  intro w v genesis
  have same : w.unlabelled = v.unlabelled := by
    have left : w.unlabelled = play (World.transact env) genesis.unlabelled (first.map stripped) :=
      play_unlabelled first
    have right : v.unlabelled = play (World.transact env) genesis.unlabelled (second.map stripped) :=
      play_unlabelled second
    rw [left, right, alike]
  refine ⟨?_, same, fun account auctionId => ?_, fun account nowMs store => ?_⟩
  · rw [← refusals_stripped first, alike, refusals_stripped]
  · rw [← collectEncryptedBidsFromChain_unlabelled, same, collectEncryptedBidsFromChain_unlabelled]
  · rw [Keeper.enqueuePendingResolutionJobs, ← enqueueJobs_unlabelled, same, enqueueJobs_unlabelled,
      Keeper.enqueuePendingResolutionJobs]

/-- Bids of ninety and of sixty, and the ninety is attested. -/
def ninetyAndSixty (isVickrey : Bool) : List (Msg × Tx (ℕ → Address)) :=
  [({ sender := 1, timestamp := 900 }, .setAVS 14 15),
    ({ sender := 1, timestamp := 900 }, .setSettlementEngine 14),
    ({ sender := 9, value := 10, timestamp := 1000 }, .createAuction 5 7 100 0 10 isVickrey),
    ({ sender := 8, value := 100, timestamp := 1001 }, .lockEscrow 1),
    ({ sender := 7, value := 60, timestamp := 1002 }, .lockEscrow 1),
    ({ sender := 8, timestamp := 1003 }, .placeBid 1 (CofheCiphertextEncoding.encodeEuint96 90)),
    ({ sender := 7, timestamp := 1004 }, .placeBid 1 (CofheCiphertextEncoding.encodeEuint96 60)),
    ({ sender := 7, timestamp := 1100 }, .triggerFinalize 1),
    ({ sender := 7, timestamp := 1101 },
      .submitResolution 1 8 (CofheCiphertextEncoding.encodeEuint96 90) 90 none),
    ({ sender := 9, timestamp := 1102 }, .claimSellerProceeds 1)]

set_option maxRecDepth 4000 in
/-- The seller of a Vickrey auction is paid the ninety, beside its deposit of ten. -/
theorem ninetyAndSixty_first_price :
    (hostDeployment.run tokenChain (fun _ => 9) (ninetyAndSixty true)).log.head? =
      some (.sellerProceedsClaimed 1 9 100) := by
  obtain ⟨-, same, -⟩ := format_inert hostDeployment tokenChain (fun _ => 9) (ninetyAndSixty true)
    (ninetyAndSixty false) rfl
  have logs : (hostDeployment.run tokenChain (fun _ => 9) (ninetyAndSixty true)).unlabelled.log =
      (hostDeployment.run tokenChain (fun _ => 9) (ninetyAndSixty false)).unlabelled.log := congrArg World.log same
  exact (congrArg List.head? logs).trans rfl

end FairMarket
