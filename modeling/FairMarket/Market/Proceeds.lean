import FairMarket.Market.Cancellation
import FairMarket.Market.Payout
import FairMarket.Market.Terms

/-! What the log says of the seller's share: nothing before it is claimed, and then what was due. -/

namespace FairMarket

section Steps

variable {refundKey : Bytes32 → Bytes32} {auctionId : AuctionId} {now : ℕ} {flow : Flow} {v next : AuctionView}

/-- The log holds one payment to the seller, of what is due, if the flag is set, and else none. -/
def AuctionView.ProceedsRecorded (auctionId : AuctionId) (v : AuctionView) : Prop :=
  v.log.filter (Event.isSellerProceeds auctionId) =
    if v.cell.auction.sellerClaimed then [.sellerProceedsClaimed auctionId v.cell.auction.seller v.cell.sellerDue]
    else []

namespace AuctionView.ProceedsRecorded

theorem none (recorded : v.ProceedsRecorded auctionId) (unclaimed : v.cell.auction.sellerClaimed = false) :
    v.log.filter (Event.isSellerProceeds auctionId) = [] := by
  rw [recorded, unclaimed]
  rfl

/-- A step before the payment that pays the seller nothing. -/
theorem unpaid (recorded : v.ProceedsRecorded auctionId) (unclaimed : v.cell.auction.sellerClaimed = false)
    (flag : next.cell.auction.sellerClaimed = v.cell.auction.sellerClaimed)
    (silent : next.log.filter (Event.isSellerProceeds auctionId) =
      v.log.filter (Event.isSellerProceeds auctionId)) : next.ProceedsRecorded auctionId := by
  unfold ProceedsRecorded
  rw [silent, recorded.none unclaimed, flag, unclaimed]
  rfl

theorem step (step : AuctionStep refundKey auctionId now flow v next) (sound : Sound v)
    (recorded : v.ProceedsRecorded auctionId) : next.ProceedsRecorded auctionId := by
  cases step with
  | created => rfl
  | escrowLocked _ _ found active =>
    exact recorded.unpaid (sound.bidding_of_active found active).sellerUnpaid rfl rfl
  | shieldedEscrowLocked _ _ _ _ found active =>
    exact recorded.unpaid (sound.bidding_of_active found active).sellerUnpaid rfl rfl
  | bidPlaced _ _ _ found active =>
    exact recorded.unpaid (sound.bidding_of_active found active).sellerUnpaid rfl rfl
  | shieldedBidPlaced _ _ _ found active =>
    exact recorded.unpaid (sound.bidding_of_active found active).sellerUnpaid rfl rfl
  | finalizeTriggered _ _ _ _ found active =>
    exact recorded.unpaid (sound.bidding_of_active found active).sellerUnpaid rfl rfl
  | resolutionRejected => exact recorded
  | resolved _ _ _ found resolving =>
    exact recorded.unpaid (sound.bidding_of_resolving found resolving).sellerUnpaid (by simp)
      (by simp [Event.isSellerProceeds])
  | shieldedResolved _ _ _ _ _ found resolving =>
    exact recorded.unpaid (sound.bidding_of_resolving found resolving).sellerUnpaid (by simp)
      (by simp [Event.isSellerProceeds])
  | cancelled _ found active =>
    exact recorded.unpaid (sound.bidding_of_active found active).sellerUnpaid (by simp)
      (by simp [Event.isSellerProceeds])
  | voided _ _ _ found resolving =>
    exact recorded.unpaid (sound.bidding_of_resolving found resolving).sellerUnpaid (by simp)
      (by simp [Event.isSellerProceeds])
  | refundClaimed => exact recorded
  | sellerProceedsClaimed found unclaimed nonzero =>
    rcases sound with rfl | bidding | settled
    · cases found
    · exact absurd bidding.sellerPayout_eq nonzero
    · unfold ProceedsRecorded
      rw [AuctionView.emit_log, List.filter_cons_of_pos (by simp [Event.isSellerProceeds]),
        recorded.none unclaimed, settled.sellerPayout_eq]
      rfl
  | finalizeRewardClaimed => exact recorded
  | assetClaimed => exact recorded
  | shieldedRefunded => exact recorded

end AuctionView.ProceedsRecorded

theorem Reachable.proceedsRecorded (reachable : Reachable refundKey auctionId v) : v.ProceedsRecorded auctionId := by
  obtain ⟨now, run⟩ := reachable
  have kept : ∀ now flow v next, AuctionStep refundKey auctionId now flow v next →
      Sound v ∧ v.ProceedsRecorded auctionId → Sound next ∧ next.ProceedsRecorded auctionId :=
    fun _ _ _ _ step before => ⟨before.1.step step, before.2.step step before.1⟩
  exact (run.preserves kept ⟨.inl rfl, rfl⟩).2

end Steps

variable {σ : Type}

/-- The same of the whole log of any run. -/
theorem Deployment.run_proceeds (deployment : Deployment) (env : External σ) (outside : σ)
    (inputs : List (Msg × Tx σ)) (auctionId : AuctionId) :
    let w := deployment.run env outside inputs
    let cell := w.market.auctions auctionId
    w.log.filter (Event.isSellerProceeds auctionId) =
      if cell.auction.sellerClaimed then [.sellerProceedsClaimed auctionId cell.auction.seller cell.sellerDue]
      else [] := by
  intro w cell
  have recorded := (deployment.run_reachable env outside inputs auctionId).proceedsRecorded
  have about : ∀ event, Event.isSellerProceeds auctionId event = true → event.auctionId = auctionId := by
    intro event counted
    cases event <;> first
      | cases counted
      | exact of_decide_eq_true counted
  refine Eq.trans ?_ recorded
  rw [World.view, List.filter_filter]
  refine List.filter_congr fun event _ => ?_
  cases counted : Event.isSellerProceeds auctionId event with
  | false => rfl
  | true => exact (decide_eq_true (about event counted)).symm

namespace World

variable {env : External σ} {w next : World σ} {msg : Msg} {auctionId : AuctionId} {seller : Address} {payout : ℕ}

/-- A cancellation before the end never costs the whole deposit. -/
theorem computeCancellationSlash_lt
    (deposited : (w.market.auctions auctionId).auction.sellerDeposit ≠ 0)
    (early : msg.timestamp < (w.market.auctions auctionId).auction.endTime) {slashAmount : ℕ}
    (computed : w.computeCancellationSlash msg auctionId (w.market.auctions auctionId) = .ok slashAmount) :
    slashAmount < (w.market.auctions auctionId).auction.sellerDeposit := by
  simp only [computeCancellationSlash, bind_eq_ok] at computed
  obtain ⟨total, totals, computed⟩ := computed
  split at computed
  · cases computed
    exact Nat.pos_of_ne_zero deposited
  · rcases withEngine_ok computed with own | ⟨engine, called⟩
    · cases own
      omega
    · simp only [bind_eq_ok, checkedSub_eq_ok] at called
      obtain ⟨elapsed, ⟨created, rfl⟩, duration, ⟨-, rfl⟩, slash⟩ := called
      exact SettlementEngine.computeCancellationSlash_lt deposited (by omega) slash

/-- The auction is cancelled, and what it leaves its seller of the deposit is not nothing. -/
structure LeavesSeller (env : External σ) (w : World σ) (auctionId : AuctionId) (seller : Address) (payout : ℕ) :
    Prop where
  wired : w.Wired env
  found : (w.market.auctions auctionId).auction.exists_ = true
  cancelled : (w.market.auctions auctionId).auction.state = .cancelled
  own : (w.market.auctions auctionId).auction.seller = seller
  slashed : (w.market.auctions auctionId).auction.slashAmount + payout =
    (w.market.auctions auctionId).auction.sellerDeposit
  positive : payout ≠ 0

/-- A cancellation is the seller's, and leaves it a part of the deposit. -/
theorem cancelAuction_leavesSeller (wired : w.Wired env) (sound : Sound (w.view auctionId))
    (done : w.transact env (msg, .cancelAuction auctionId) = .ok next) :
    ∃ payout, next.LeavesSeller env auctionId msg.sender payout := by
  obtain ⟨found, active, early, computed, nextFound, cancelled, deposit, -⟩ := transact_cancels wired done
  have nextWired := (transact_transition wired done).1
  have slash := computeCancellationSlash_lt (sound.bidding_of_active found active).deposited early computed
  have own : (next.market.auctions auctionId).auction.seller = (w.market.auctions auctionId).auction.seller := by
    have offered : w.Offered env auctionId (w.market.auctions auctionId).auction.terms := ⟨wired, found, rfl⟩
    exact congrArg AuctionTerms.seller (offered.transact done).terms
  have sender : (w.market.auctions auctionId).auction.seller = msg.sender := by
    obtain ⟨-, executed, executes, -⟩ := transact_ok.mp done
    simp only [execute, cancelAuction, onlyAuctionSeller, bind_eq_ok, auctionExists_ok, exists_revertIf,
      not_not] at executes
    obtain ⟨cell, ⟨-, rfl⟩, seller, -⟩ := executes
    exact seller
  refine ⟨(next.market.auctions auctionId).auction.sellerDeposit - (next.market.auctions auctionId).auction.slashAmount,
    nextWired, nextFound, cancelled, own.trans sender, ?_, ?_⟩
  · rw [deposit]
    omega
  · rw [deposit]
    omega

namespace LeavesSeller

/-- Nothing takes the payout back. -/
theorem play (leaves : w.LeavesSeller env auctionId seller payout) (inputs : List (Msg × Tx σ)) :
    (play (World.transact env) w inputs).LeavesSeller env auctionId seller payout := by
  obtain ⟨wired, history⟩ := leaves.wired.play_run inputs
  have terminal := congrArg AuctionState.terminal leaves.cancelled
  obtain ⟨found, outcome⟩ := (history auctionId).outcome_eq leaves.found terminal
  have offered : w.Offered env auctionId (w.market.auctions auctionId).auction.terms := ⟨leaves.wired, leaves.found, rfl⟩
  have terms := (offered.play inputs).terms
  have seller := congrArg AuctionTerms.seller terms
  have deposit := congrArg AuctionTerms.sellerDeposit terms
  have slash := congrArg Outcome.slashAmount outcome
  refine ⟨wired, found, (congrArg Outcome.state outcome).trans leaves.cancelled, seller.trans leaves.own, ?_,
    leaves.positive⟩
  exact (congrArg (· + payout) slash).trans (leaves.slashed.trans deposit.symm)

theorem sellerDue (leaves : w.LeavesSeller env auctionId seller payout) :
    (w.market.auctions auctionId).sellerDue = payout := by
  have slashed := leaves.slashed
  unfold AuctionStorage.sellerDue
  rw [leaves.cancelled]
  dsimp only
  omega

theorem preview (leaves : w.LeavesSeller env auctionId seller payout) :
    w.previewSellerPayout auctionId = .ok payout := by
  have slashed := leaves.slashed
  rw [previewSellerPayout_cancelled leaves.wired leaves.found leaves.cancelled]
  exact congrArg Except.ok (by omega)

/-- Until it is claimed, the seller's claim is accepted and pays it. -/
theorem claim (leaves : w.LeavesSeller env auctionId seller payout) (solvent : w.Solvent)
    (unclaimed : (w.market.auctions auctionId).auction.sellerClaimed = false)
    (accepts : w.AcceptsEther env seller) (own : msg.sender = seller) (unpaid : msg.value = 0)
    (timely : w.timestamp ≤ msg.timestamp) :
    ∃ next, w.transact env (msg, .claimSellerProceeds auctionId) = .ok next ∧
      next.market.balance + payout = w.market.balance ∧
      (next.market.auctions auctionId).auction.sellerClaimed = true := by
  have due : (w.view auctionId).sellerPayout = payout := (previewSellerPayout_eq leaves.wired leaves.preview).symm
  obtain ⟨outside, received⟩ := Option.isSome_iff_exists.mp (accepts.accepts w.outside payout)
  have funded : payout ≤ w.market.balance := due ▸ solvent.sellerPayout_le unclaimed
  have succeeds : ∃ executed, w.claimSellerProceeds env msg auctionId = .ok executed := by
    unfold claimSellerProceeds onlyAuctionSeller
    rw [auctionExists_ok.mpr ⟨leaves.found, rfl⟩, ok_bind, leaves.preview]
    simp only [bind_eq_ok, exists_revertIf, ok_bind, sendValue_ok, pure_eq_ok, Except.ok.injEq, unclaimed]
    refine ⟨_, fun other => other (leaves.own.trans own.symm), Bool.noConfusion, leaves.positive, _,
      ⟨funded, outside, ?_, rfl⟩, rfl⟩
    rw [own]
    exact received
  obtain ⟨executed, executes⟩ := succeeds
  obtain ⟨-, changes, balance, -⟩ := claimSellerProceeds_changes leaves.wired executes
  refine ⟨{ executed with timestamp := msg.timestamp }, transact_unpaid rfl ?_ ?_ timely unpaid executes,
    due ▸ balance, congrArg (·.cell.auction.sellerClaimed) changes.view⟩
  · rw [own]
    exact accepts.known
  · rw [own]
    exact accepts.stranger

end LeavesSeller

end World

end FairMarket
