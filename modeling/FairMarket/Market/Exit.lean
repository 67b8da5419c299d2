import FairMarket.Market.Fallback
import FairMarket.Market.Listed

/-! The way out that is open to everyone: whoever wants an auction to end ends it alone, in
two calls and a bounded time, and all that is due to anyone can be claimed from then on. -/

namespace FairMarket

variable {σ : Type}

/-- An auction that takes bids has not been triggered, and one that waits was in the past. -/
structure AuctionView.Clocked (v : AuctionView) (now : ℕ) : Prop where
  untriggered : v.cell.auction.state = .active → v.cell.finalizationNonce = 0
  past : v.cell.auction.state = .resolving → v.cell.auction.resolvingSince ≤ now

section Step

variable {refundKey : Bytes32 → Bytes32} {auctionId : AuctionId} {past now : ℕ} {flow : Flow} {v next : AuctionView}

theorem AuctionView.Clocked.of_terminal (terminal : v.cell.auction.state.terminal = true) : v.Clocked now where
  untriggered active := by
    rw [active] at terminal
    cases terminal
  past resolving := by
    rw [resolving] at terminal
    cases terminal

theorem AuctionStep.clocked (step : AuctionStep refundKey auctionId now flow v next) (before : v.Clocked past)
    (monotone : past ≤ now) : next.Clocked now := by
  cases step with
  | created => exact ⟨fun _ => rfl, fun resolving => AuctionState.noConfusion resolving⟩
  | finalizeTriggered => exact ⟨fun active => AuctionState.noConfusion active, fun _ => NetworkObservation.toUint64_le now⟩
  | resolved => exact .of_terminal (by simp [AuctionState.terminal])
  | shieldedResolved => exact .of_terminal (by simp [AuctionState.terminal])
  | cancelled => exact .of_terminal (by simp [AuctionState.terminal])
  | voided => exact .of_terminal (by simp [AuctionState.terminal])
  | _ => exact ⟨before.untriggered, fun resolving => (before.past resolving).trans monotone⟩

theorem AuctionRun.clocked {start : ℕ} {first : AuctionView} (run : AuctionRun refundKey auctionId start first now v)
    (initial : first.Clocked start) : v.Clocked now := by
  induction run with
  | here => exact initial
  | wait _ monotone ih => exact ⟨ih.untriggered, fun resolving => (ih.past resolving).trans monotone⟩
  | step _ monotone step ih => exact step.clocked ih monotone

end Step

theorem Deployment.run_clocked (deployment : Deployment) (env : External σ) (outside : σ)
    (inputs : List (Msg × Tx σ)) (auctionId : AuctionId) :
    ((deployment.run env outside inputs).view auctionId).Clocked (deployment.run env outside inputs).timestamp := by
  have history := deployment.run_append env outside [] inputs auctionId
  rw [List.nil_append] at history
  apply history.clocked
  exact ⟨fun _ => rfl, fun _ => Nat.le_refl 0⟩

namespace World

variable {env : External σ} {w next : World σ} {msg : Msg} {auctionId : AuctionId}

/-- A world of a run in which an auction takes bids. -/
structure Open (env : External σ) (w : World σ) (auctionId : AuctionId) : Prop where
  wired : w.Wired env
  sound : Sound (w.view auctionId)
  clocked : (w.view auctionId).Clocked w.timestamp
  active : (w.market.auctions auctionId).auction.state = .active
  supply : (w.market.auctions auctionId).auction.sellerDeposit < 2 ^ 128
  paced : w.market.network.Paced w.timestamp
  proxy : env.market ≠ 0

namespace Open

theorem found (isOpen : w.Open env auctionId) : (w.market.auctions auctionId).auction.exists_ = true :=
  isOpen.wired.found_of_state isOpen.active nofun

theorem bidding (isOpen : w.Open env auctionId) : Bidding (w.view auctionId) :=
  isOpen.sound.bidding_of_active isOpen.found isOpen.active

/-- From its end on nothing in the trigger can fail. -/
theorem triggerFinalize_succeeds (isOpen : w.Open env auctionId)
    (late : (w.market.auctions auctionId).auction.endTime ≤ msg.timestamp)
    (later : w.timestamp ≤ msg.timestamp) (clock : msg.timestamp < 2 ^ 64) :
    ∃ next, w.triggerFinalize env msg auctionId = .ok next := by
  obtain ⟨network, observed⟩ := (isOpen.paced.mono later).observe_succeeds clock
  have nonce : (w.market.auctions auctionId).finalizationNonce = 0 := isOpen.clocked.untriggered isOpen.active
  have supply := isOpen.supply
  have scaled : FitsUint256 ((w.market.auctions auctionId).auction.sellerDeposit * keeperFinalizeRewardBps) := by
    unfold FitsUint256 keeperFinalizeRewardBps
    omega
  have counted : FitsUint256 ((w.market.auctions auctionId).finalizationNonce + 1) := by
    rw [nonce]
    decide
  have unrequested : ¬ (w.market.auctions auctionId).resolutionRequest.exists_ = true := by
    intro requested
    have resolving : (w.market.auctions auctionId).auction.state = .resolving := isOpen.bidding.request.mp requested
    rw [isOpen.active] at resolving
    cases resolving
  have prepares : ∀ raceSalt, ∃ request, prepareResolutionRequest env w auctionId (w.market.auctions auctionId)
      ((w.market.auctions auctionId).finalizationNonce + 1) raceSalt = .ok request := by
    intro raceSalt
    apply isOpen.wired.withEngine_succeeds isOpen.found
    · exact ⟨_, rfl⟩
    · intro engine
      exact ⟨_, bind_eq_ok.mpr ⟨(), revertIf_eq_ok.mpr isOpen.proxy, rfl⟩⟩
  obtain ⟨request, prepared⟩ := prepares (deriveFinalizationSalt env msg auctionId
    ((w.market.auctions auctionId).finalizationNonce + 1))
  unfold triggerFinalize onlyAuctionState computeFinalizeReward
  simp only [bind_eq_ok, auctionExists_ok, exists_revertIf, transitionState_ok, checkedAdd_eq_ok, checkedMul_eq_ok,
    pure_eq_ok, Except.ok.injEq, Nat.not_lt]
  exact ⟨_, _, ⟨isOpen.found, rfl⟩, not_not.mpr isOpen.active, late, unrequested, network, observed, _,
    ⟨by rw [isOpen.active]; rfl, rfl⟩, _, ⟨counted, rfl⟩, _, ⟨_, ⟨scaled, rfl⟩, rfl⟩, request, prepared, rfl⟩

end Open

/-- What a trigger that went through has done. -/
theorem triggerFinalize_ok (done : w.triggerFinalize env msg auctionId = .ok next) :
    (w.market.auctions auctionId).auction.endTime ≤ msg.timestamp ∧
      (next.market.auctions auctionId).auction =
        { (w.market.auctions auctionId).auction with
          state := .resolving
          lastBlockTimestamp := toUint64 msg.timestamp
          resolvingSince := toUint64 msg.timestamp } ∧
      (next.view auctionId).deposited = (w.view auctionId).deposited ∧ next.outside = w.outside := by
  simp only [triggerFinalize, onlyAuctionState, bind_eq_ok, auctionExists_ok, exists_revertIf, transitionState_ok,
    pure_eq_ok, Except.ok.injEq, Nat.not_lt] at done
  obtain ⟨cell, ⟨-, rfl⟩, -, late, -, network, -, auction, ⟨-, rfl⟩, nonce, -, reward, -, request, -, rfl⟩ := done
  refine ⟨late, ?_, ?_, rfl⟩
  · simp [emit, setAuction]
  · rw [view_emit _ auctionId rfl, view_emit _ auctionId rfl, view_setAuction _ auctionId (by rfl)]
    simp [AuctionView.deposited, Event.publicEscrow, Event.shieldedEscrow]

/-- The trigger as a transaction. It leaves everything the fallback asks about as it was. -/
theorem Open.triggers (isOpen : w.Open env auctionId)
    (late : (w.market.auctions auctionId).auction.endTime ≤ msg.timestamp) (later : w.timestamp ≤ msg.timestamp)
    (clock : msg.timestamp < 2 ^ 64) (known : msg.sender ≠ 0) (stranger : w.isSystem env msg.sender = false)
    (unpaid : msg.value = 0) :
    ∃ next, w.transact env (msg, .triggerFinalize auctionId) = .ok next ∧ next.timestamp = msg.timestamp ∧
      (next.market.auctions auctionId).auction =
        { (w.market.auctions auctionId).auction with
          state := .resolving
          lastBlockTimestamp := toUint64 msg.timestamp
          resolvingSince := toUint64 msg.timestamp } ∧
      (next.view auctionId).deposited = (w.view auctionId).deposited ∧ next.outside = w.outside ∧
      next.isSystem env msg.sender = w.isSystem env msg.sender := by
  obtain ⟨executed, executes⟩ := isOpen.triggerFinalize_succeeds late later clock
  obtain ⟨-, changed, deposited, outward⟩ := triggerFinalize_ok executes
  obtain ⟨-, moves⟩ := triggerFinalize_moves known executes
  exact ⟨{ executed with timestamp := msg.timestamp }, transact_unpaid rfl known stranger later unpaid executes, rfl,
    changed, deposited, outward, moves.frame.isSystem_eq _⟩

section EndingFrom

variable {caller : Address}

end EndingFrom

end World

namespace Deployment

variable {deployment : Deployment} {env : External σ} {outside : σ} {inputs : List (Msg × Tx σ)}
  {auctionId : AuctionId} {next : World σ} {msg : Msg}

theorem run_open
    (active : ((deployment.run env outside inputs).market.auctions auctionId).auction.state = .active)
    (supply : ((deployment.run env outside inputs).market.auctions auctionId).auction.sellerDeposit < 2 ^ 128)
    (proxy : env.market ≠ 0) : (deployment.run env outside inputs).Open env auctionId where
  wired := deployment.run_wired env outside inputs
  sound := (deployment.run_reachable env outside inputs auctionId).sound
  clocked := deployment.run_clocked env outside inputs auctionId
  active := active
  supply := supply
  paced := deployment.run_paced env outside inputs
  proxy := proxy

end Deployment

end FairMarket
