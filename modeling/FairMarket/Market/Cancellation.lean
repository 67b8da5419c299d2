import FairMarket.Market.Accounted
import FairMarket.Market.Authority
import FairMarket.Market.Lifecycle

/-! What cancelling costs the seller: a part of the deposit that only grows with time, and
never all of it. -/

namespace FairMarket

/-- What a penalty is computed from stays as it is, but for the escrow, which only grows. -/
structure AuctionView.Standing (v next : AuctionView) : Prop where
  found : next.cell.auction.exists_ = true
  sellerDeposit : next.cell.auction.sellerDeposit = v.cell.auction.sellerDeposit
  createdAt : next.cell.auction.createdAt = v.cell.auction.createdAt
  endTime : next.cell.auction.endTime = v.cell.auction.endTime
  snapshot : next.cell.dependencySnapshot = v.cell.dependencySnapshot
  escrow : next.cell.auction.state = .active →
    v.cell.auction.state = .active ∧ v.totalEscrow ≤ next.totalEscrow

section Standing

variable {refundKey : Bytes32 → Bytes32} {auctionId : AuctionId} {start now : ℕ} {flow : Flow}
  {first v next : AuctionView}

theorem AuctionStep.standing (step : AuctionStep refundKey auctionId now flow v next)
    (found : v.cell.auction.exists_ = true) : v.Standing next := by
  cases step with
  | created _ _ _ _ _ _ _ _ _ fresh =>
    rw [fresh] at found
    cases found
  | escrowLocked bidder amount _ active =>
    refine ⟨found, rfl, rfl, rfl, rfl, fun _ => ⟨active, ?_⟩⟩
    exact Nat.add_le_add_right (Nat.le_add_right _ amount) _
  | shieldedEscrowLocked lane _ _ amount _ active _ _ vault =>
    refine ⟨found, rfl, rfl, rfl, rfl, fun _ => ⟨active, ?_⟩⟩
    have before : v.shieldedTotal = lane.total := by
      rw [AuctionView.shieldedTotal, vault]
      rfl
    apply Nat.add_le_add_left
    rw [before]
    exact Nat.le_add_right lane.total amount
  | bidPlaced _ _ _ _ active => exact ⟨found, rfl, rfl, rfl, rfl, fun _ => ⟨active, Nat.le_refl _⟩⟩
  | shieldedBidPlaced _ _ _ _ active => exact ⟨found, rfl, rfl, rfl, rfl, fun _ => ⟨active, Nat.le_refl _⟩⟩
  | finalizeTriggered => exact ⟨found, rfl, rfl, rfl, rfl, fun active => AuctionState.noConfusion active⟩
  | resolutionRejected => exact ⟨found, rfl, rfl, rfl, rfl, fun active => ⟨active, Nat.le_refl _⟩⟩
  | resolved => exact ⟨by simpa using found, by simp, by simp, by simp, by simp, by simp⟩
  | shieldedResolved => exact ⟨by simpa using found, by simp, by simp, by simp, by simp, by simp⟩
  | cancelled => exact ⟨by simpa using found, by simp, by simp, by simp, by simp, by simp⟩
  | voided => exact ⟨by simpa using found, by simp, by simp, by simp, by simp, by simp⟩
  | refundClaimed => exact ⟨found, rfl, rfl, rfl, rfl, fun active => ⟨active, Nat.le_refl _⟩⟩
  | sellerProceedsClaimed => exact ⟨found, rfl, rfl, rfl, rfl, fun active => ⟨active, Nat.le_refl _⟩⟩
  | finalizeRewardClaimed => exact ⟨found, rfl, rfl, rfl, rfl, fun active => ⟨active, Nat.le_refl _⟩⟩
  | assetClaimed => exact ⟨found, rfl, rfl, rfl, rfl, fun active => ⟨active, Nat.le_refl _⟩⟩
  | shieldedRefunded _ _ _ _ _ terminal =>
    refine ⟨found, rfl, rfl, rfl, rfl, fun active => ?_⟩
    change v.cell.auction.state = .active at active
    rw [active] at terminal
    cases terminal

theorem AuctionRun.standing (run : AuctionRun refundKey auctionId start first now v)
    (found : first.cell.auction.exists_ = true) : first.Standing v := by
  induction run with
  | here => exact ⟨found, rfl, rfl, rfl, rfl, fun active => ⟨active, Nat.le_refl _⟩⟩
  | wait _ _ ih => exact ih
  | step _ _ step ih =>
    have last := step.standing ih.found
    refine ⟨last.found, last.sellerDeposit.trans ih.sellerDeposit, last.createdAt.trans ih.createdAt,
      last.endTime.trans ih.endTime, last.snapshot.trans ih.snapshot, fun active => ?_⟩
    obtain ⟨middle, grown⟩ := last.escrow active
    obtain ⟨initial, before⟩ := ih.escrow middle
    exact ⟨initial, before.trans grown⟩

end Standing

variable {σ : Type}

namespace World

variable {env : External σ} {w next : World σ} {msg : Msg} {auctionId : AuctionId}

/-- A cancellation that is accepted: the deposit stays on record, and the penalty is what
was computed at its time. -/
theorem transact_cancels (wired : w.Wired env)
    (cancels : w.transact env (msg, .cancelAuction auctionId) = .ok next) :
    (w.market.auctions auctionId).auction.exists_ = true ∧
      (w.market.auctions auctionId).auction.state = .active ∧
      msg.timestamp < (w.market.auctions auctionId).auction.endTime ∧
      w.computeCancellationSlash msg auctionId (w.market.auctions auctionId) =
        .ok (next.market.auctions auctionId).auction.slashAmount ∧
      (next.market.auctions auctionId).auction.exists_ = true ∧
      (next.market.auctions auctionId).auction.state = .cancelled ∧
      (next.market.auctions auctionId).auction.sellerDeposit =
        (w.market.auctions auctionId).auction.sellerDeposit ∧
      (next.market.auctions auctionId).auction.sellerClaimed =
        (w.market.auctions auctionId).auction.sellerClaimed := by
  obtain ⟨-, executed, executes, rfl⟩ := transact_ok.mp cancels
  obtain ⟨slashAmount, ⟨found, active, early, computed⟩, changes, -⟩ := cancelAuction_changes wired executes
  have auction : (executed.market.auctions auctionId).auction = { (w.market.auctions auctionId).auction with
      slashAmount
      state := .cancelled
      lastBlockTimestamp := toUint64 msg.timestamp } := by
    have same := congrArg (·.cell.auction) changes.view
    simpa using same
  dsimp only
  rw [auction]
  exact ⟨found, active, early, computed, found, rfl, rfl, rfl⟩

/-- What the seller of a cancelled auction can claim, now and later. -/
theorem previewSellerPayout_cancelled (wired : w.Wired env)
    (found : (w.market.auctions auctionId).auction.exists_ = true)
    (cancelled : (w.market.auctions auctionId).auction.state = .cancelled) :
    w.previewSellerPayout auctionId =
      .ok ((w.market.auctions auctionId).auction.sellerDeposit -
        (w.market.auctions auctionId).auction.slashAmount) := by
  obtain ⟨payout, previewed⟩ : ∃ payout, w.previewSellerPayout auctionId = .ok payout := by
    unfold previewSellerPayout
    rw [auctionExists_ok.mpr ⟨found, rfl⟩, ok_bind]
    simp only [cancelled]
    exact wired.withEngine_succeeds found ⟨_, rfl⟩ fun _ => ⟨_, rfl⟩
  have payouts := previewSellerPayout_eq wired previewed
  unfold AuctionView.sellerPayout at payouts
  simp only [view_cell, cancelled] at payouts
  rw [previewed, payouts]

/-- A later cancellation of the same auction costs the seller no less. -/
theorem cancellation_later {later : World σ} {lateMsg : Msg} {slashAmount lateSlash : ℕ} (wired : w.Wired env)
    (lateWired : later.Wired env) (found : (w.market.auctions auctionId).auction.exists_ = true)
    (standing : (w.view auctionId).Standing (later.view auctionId))
    (active : (later.market.auctions auctionId).auction.state = .active)
    (engine : (w.snapshot auctionId).settlementEngine ≠ 0) (escrowed : (w.view auctionId).totalEscrow ≠ 0)
    (time : msg.timestamp ≤ lateMsg.timestamp)
    (computed : w.computeCancellationSlash msg auctionId (w.market.auctions auctionId) = .ok slashAmount)
    (lateComputed : later.computeCancellationSlash lateMsg auctionId (later.market.auctions auctionId) =
      .ok lateSlash) : slashAmount ≤ lateSlash := by
  have grown := (standing.escrow active).2
  have lateEngine : (later.snapshot auctionId).settlementEngine ≠ 0 := by
    have same : later.snapshot auctionId = w.snapshot auctionId := standing.snapshot
    rwa [same]
  obtain ⟨-, first⟩ := computeCancellationSlash_engine wired found engine escrowed computed
  obtain ⟨-, second⟩ := computeCancellationSlash_engine lateWired standing.found lateEngine (by omega) lateComputed
  have deposit : (later.market.auctions auctionId).auction.sellerDeposit =
      (w.market.auctions auctionId).auction.sellerDeposit := standing.sellerDeposit
  have created : (later.market.auctions auctionId).auction.createdAt =
      (w.market.auctions auctionId).auction.createdAt := standing.createdAt
  have ends : (later.market.auctions auctionId).auction.endTime =
      (w.market.auctions auctionId).auction.endTime := standing.endTime
  rw [deposit, created, ends] at second
  rw [SettlementEngine.computeCancellationSlash_totalEscrow (by omega) escrowed] at second
  exact (SettlementEngine.computeCancellationSlash_bounds escrowed (Nat.sub_le_sub_right time _) first second).2.1

end World

/-- What cancelling costs. The engine's penalty is computed exactly if its products fit in 256
bits, and with escrow at stake it is at least a quarter of the deposit, rounded down, at most
the deposit, and not less when more time has passed. A cancellation that the market accepts,
with escrow present and an engine snapshotted, leaves the seller a part of the deposit:
penalty and payout make up the deposit, the payout is not zero, and it can be claimed from
then on. And no cancellation of this auction at a later time, had the run gone on in
another way, would have cost less. -/
theorem cancellation_penalty (deployment : Deployment) (env : External σ) (outside : σ)
    (before : List (Msg × Tx σ)) :
    (∀ sellerDeposit elapsed duration totalEscrow, totalEscrow ≠ 0 →
      ((∃ slash, SettlementEngine.computeCancellationSlash sellerDeposit elapsed duration totalEscrow = .ok slash) ↔
        sellerDeposit = 0 ∨ duration = 0 ∨
          FitsUint256 (min elapsed duration * 7500) ∧
            FitsUint256 (sellerDeposit * (2500 + min elapsed duration * 7500 / duration)))) ∧
    (∀ sellerDeposit first second duration totalEscrow firstSlash secondSlash, totalEscrow ≠ 0 → first ≤ second →
      SettlementEngine.computeCancellationSlash sellerDeposit first duration totalEscrow = .ok firstSlash →
      SettlementEngine.computeCancellationSlash sellerDeposit second duration totalEscrow = .ok secondSlash →
        sellerDeposit / 4 ≤ firstSlash ∧ firstSlash ≤ secondSlash ∧ secondSlash ≤ sellerDeposit) ∧
    ∀ msg auctionId next,
      (deployment.run env outside before).transact env (msg, .cancelAuction auctionId) = .ok next →
      ((deployment.run env outside before).view auctionId).totalEscrow ≠ 0 →
      ((deployment.run env outside before).snapshot auctionId).settlementEngine ≠ 0 →
      let auction := (next.market.auctions auctionId).auction
      auction.slashAmount < auction.sellerDeposit ∧
      (∃ payout, next.computeSellerCancellationPayout (next.market.auctions auctionId) auction.sellerDeposit
          auction.slashAmount = .ok payout ∧
        auction.slashAmount + payout = auction.sellerDeposit ∧ 0 < payout ∧ auction.sellerClaimed = false ∧
        ∀ after, (deployment.run env outside (before ++ (msg, .cancelAuction auctionId) :: after)).previewSellerPayout
          auctionId = .ok payout) ∧
      ∀ after later last, (deployment.run env outside (before ++ after)).transact env
          (later, .cancelAuction auctionId) = .ok last →
        msg.timestamp ≤ later.timestamp →
          auction.slashAmount ≤ (last.market.auctions auctionId).auction.slashAmount := by
  refine ⟨fun _ _ _ _ staked => SettlementEngine.computeCancellationSlash_succeeds staked,
    fun _ _ _ _ _ _ _ staked later => SettlementEngine.computeCancellationSlash_bounds staked later, ?_⟩
  intro msg auctionId next cancels escrowed engine auction
  have wired := deployment.run_wired env outside before
  have accepted := deployment.run_accepted cancels
  have nextWired : next.Wired env := accepted ▸ deployment.run_wired env outside (before ++ [(msg, .cancelAuction auctionId)])
  obtain ⟨found, active, early, computed, nextFound, cancelled, deposit, claimed⟩ := World.transact_cancels wired cancels
  have bidding := (deployment.run_reachable env outside before auctionId).sound.bidding_of_active found active
  obtain ⟨created, slash⟩ := World.computeCancellationSlash_engine wired found engine escrowed computed
  have strict : auction.slashAmount < auction.sellerDeposit := by
    rw [deposit]
    exact SettlementEngine.computeCancellationSlash_lt bidding.deposited (by omega) slash
  refine ⟨strict, ?_, ?_⟩
  · obtain ⟨payout, pays⟩ : ∃ payout, next.computeSellerCancellationPayout (next.market.auctions auctionId)
        auction.sellerDeposit auction.slashAmount = .ok payout :=
      nextWired.withEngine_succeeds nextFound ⟨_, rfl⟩ fun _ => ⟨_, rfl⟩
    have rest := World.computeSellerCancellationPayout_eq pays
    refine ⟨payout, pays, by omega, by omega, claimed.trans bidding.sellerUnpaid, ?_⟩
    intro after
    have lastWired := deployment.run_wired env outside ((before ++ [(msg, .cancelAuction auctionId)]) ++ after)
    have history := deployment.run_append env outside (before ++ [(msg, .cancelAuction auctionId)]) after auctionId
    rw [accepted] at history
    have standing := history.standing nextFound
    have outcome := (history.outcome_eq nextFound (congrArg AuctionState.terminal cancelled)).2
    rw [List.append_assoc, List.singleton_append] at lastWired standing outcome
    have state := (congrArg Outcome.state outcome).trans cancelled
    have kept : (deployment.run env outside (before ++ (msg, .cancelAuction auctionId) :: after)).previewSellerPayout
        auctionId = _ := World.previewSellerPayout_cancelled lastWired standing.found state
    have slashes := congrArg Outcome.slashAmount outcome
    have deposits := standing.sellerDeposit
    rw [kept, rest]
    exact congrArg Except.ok (congrArg₂ (· - ·) deposits slashes)
  · intro after later last cancelsLater time
    have lateWired := deployment.run_wired env outside (before ++ after)
    obtain ⟨-, stillActive, -, lateComputed, -⟩ := World.transact_cancels lateWired cancelsLater
    have standing := (deployment.run_append env outside before after auctionId).standing found
    exact World.cancellation_later wired lateWired found standing stillActive engine escrowed time computed lateComputed

/-- An auction with an engine and one bidder, cancelled by its seller halfway. -/
def cancelHalfway : List (Msg × Tx (ℕ → Address)) :=
  [({ sender := 1, timestamp := 1000 }, .setSettlementEngine 14),
    ({ sender := 9, value := 1000, timestamp := 1000 }, .createAuction 5 7 100 0 1000 false),
    ({ sender := 8, value := 100, timestamp := 1001 }, .lockEscrow 1),
    ({ sender := 9, timestamp := 1050 }, .cancelAuction 1)]

/-- The seller loses a quarter of the deposit and half of the rest. -/
theorem cancellation_penalty_halfway :
    let next := shieldedDeployment.run tokenChain (fun _ => 9) cancelHalfway
    (next.market.auctions 1).auction.slashAmount = 625 ∧ next.previewSellerPayout 1 = .ok 375 := by
  obtain ⟨-, -, cancelled⟩ := cancellation_penalty shieldedDeployment tokenChain (fun _ => 9) (cancelHalfway.take 3)
  obtain ⟨-, ⟨payout, -, complete, -, -, claims⟩, -⟩ := cancelled { sender := 9, timestamp := 1050 } 1
    (shieldedDeployment.run tokenChain (fun _ => 9) cancelHalfway) rfl (by decide +kernel) (by decide +kernel)
  have slash : ((shieldedDeployment.run tokenChain (fun _ => 9) cancelHalfway).market.auctions 1).auction.slashAmount =
      625 := by decide +kernel
  have deposit : ((shieldedDeployment.run tokenChain (fun _ => 9) cancelHalfway).market.auctions
      1).auction.sellerDeposit = 1000 := by decide +kernel
  obtain rfl : payout = 375 := by omega
  exact ⟨slash, claims []⟩

end FairMarket
