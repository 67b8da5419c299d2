import FairMarket.Market.Deposits
import FairMarket.Market.Network
import FairMarket.Market.Payout

/-! The way out of an auction nobody resolves. Of the calls the fallback makes into other
contracts, only the transfer of the token to the seller can refuse it. -/

namespace FairMarket

variable {σ : Type}

namespace ShieldedEscrowVault

theorem publicSlashShare_succeeds {value publicTotal shieldedTotal total : ℕ} (small : value < 2 ^ 128)
    (few : publicTotal < 2 ^ 128) :
    ∃ share, publicSlashShare value publicTotal shieldedTotal total = .ok share := by
  unfold publicSlashShare
  split
  · exact ⟨_, rfl⟩
  · have product := checkedMul_eq_ok.mpr ⟨fits_mul small few, rfl⟩
    exact ⟨_, bind_eq_ok.mpr ⟨_, product, rfl⟩⟩

/-- A vault without reserves takes any penalty of an auction with escrow. -/
theorem allocateSlash_succeeds {vault : ShieldedEscrowVault} {sender : Address} {value : ℕ}
    {auctionId : AuctionId} {publicTotal : ℕ} (market : sender = vault.market) (nonzero : value ≠ 0)
    (escrowed : publicTotal + vault.auctionTotals auctionId ≠ 0) (small : value < 2 ^ 128)
    (few : publicTotal + vault.auctionTotals auctionId < 2 ^ 128)
    (empty : vault.shieldedSlashReserves auctionId = 0) :
    ∃ share allocated, vault.allocateSlash sender value auctionId publicTotal = .ok (share, allocated) := by
  obtain ⟨share, shares⟩ := @publicSlashShare_succeeds value publicTotal (vault.auctionTotals auctionId)
    (publicTotal + vault.auctionTotals auctionId) small (by omega)
  have bounded : share ≤ value := by
    rw [publicSlashShare_eq shares]
    exact publicShare_le ..
  have total : FitsUint256 (publicTotal + vault.auctionTotals auctionId) := by
    unfold FitsUint256
    omega
  have reserve : FitsUint256 (vault.shieldedSlashReserves auctionId + (value - share)) := by
    unfold FitsUint256
    omega
  have paid : ¬ vault.balance + value < share := by omega
  simp only [allocateSlash, onlyMarket, bind_eq_ok, exists_revertIf, checkedAdd_eq_ok, checkedSub_eq_ok,
    pure_eq_ok, Except.ok.injEq]
  exact ⟨share, _, fun other => other market, _, ⟨total, rfl⟩, fun none => none.elim nonzero escrowed,
    share, shares, _, ⟨bounded, rfl⟩, _, ⟨reserve, rfl⟩, paid, rfl⟩

end ShieldedEscrowVault

namespace World

variable {env : External σ} {w next : World σ} {msg : Msg} {auctionId : AuctionId}

theorem openShieldedRefundPath_succeeds (wired : w.Wired env)
    (found : (w.market.auctions auctionId).auction.exists_ = true) :
    ∃ opened, w.openShieldedRefundPath env auctionId = .ok opened := by
  unfold openShieldedRefundPath
  dsimp only
  rw [wired.auctionVault found]
  split
  · exact ⟨_, rfl⟩
  · split
    · exact ⟨_, rfl⟩
    · rename_i vault deployed
      have market := wired.vaultMarket _ vault deployed
      simp only [ShieldedEscrowVault.unlockRefunds, ShieldedEscrowVault.onlyMarket, bind_eq_ok,
        exists_revertIf, pure_eq_ok, Except.ok.injEq]
      exact ⟨_, _, ⟨fun other => other market.symm, rfl⟩, rfl⟩

/-- A penalty the market can pay is registered by the auction's vault and pot. -/
theorem registerSlash_succeeds (wired : w.Wired env)
    (found : (w.market.auctions auctionId).auction.exists_ = true) {totalEscrow slashAmount : ℕ}
    (total : (w.market.auctions auctionId).auction.totalEscrow = totalEscrow)
    (funded : slashAmount ≤ w.market.balance) (small : slashAmount < 2 ^ 128)
    (escrowed : slashAmount ≠ 0 → (w.view auctionId).totalEscrow ≠ 0)
    (few : (w.view auctionId).totalEscrow < 2 ^ 128) (reserve : (w.view auctionId).reserve = 0)
    (pot : (w.view auctionId).pot = {}) :
    ∃ registered, w.registerSlash env auctionId totalEscrow slashAmount = .ok registered := by
  subst total
  have allocates : slashAmount ≠ 0 → ∃ share allocated, w.allocateSlash env auctionId
      (w.market.auctions auctionId).auction.totalEscrow slashAmount = .ok (share, allocated) := by
    intro nonzero
    have some := escrowed nonzero
    unfold allocateSlash
    dsimp only
    rw [wired.auctionVault found]
    split
    · exact ⟨_, _, rfl⟩
    · rename_i vault deployed
      simp only [AuctionView.totalEscrow, AuctionView.shieldedTotal, AuctionView.reserve,
        view_lane deployed, Option.elim_some, view_cell] at some few reserve
      obtain ⟨share, allocated, done⟩ := ShieldedEscrowVault.allocateSlash_succeeds
        (wired.vaultMarket _ vault deployed).symm nonzero some small few reserve
      simp only [bind_eq_ok, exists_revertIf, Nat.not_lt]
      exact ⟨share, _, funded, ⟨share, allocated⟩, done, rfl⟩
  unfold registerSlash
  split
  · exact ⟨_, rfl⟩
  · rename_i positive
    obtain ⟨share, allocated, done⟩ := allocates (by omega)
    obtain ⟨bounded, -, balance, -, pots⟩ := allocateSlash_changes wired found rfl done
    have least := ShieldedEscrowVault.publicShare_le slashAmount
      (w.view auctionId).cell.auction.totalEscrow (w.view auctionId).shieldedTotal
    have within : share ≤ slashAmount := by
      rw [bounded]
      exact least
    rw [done, ok_bind]
    dsimp only
    split
    · exact ⟨_, rfl⟩
    · obtain ⟨slashed, deployed⟩ :=
        Option.isSome_iff_exists.mp (wired.snapshots auctionId found).pot
      have market := wired.potMarket _ slashed deployed
      have empty : slashed.pots auctionId = {} := by rw [← pot, view_pot deployed]
      have fits : FitsUint256 (0 + share) := by
        unfold FitsUint256
        omega
      have present : allocated.pots (w.auctionSlashedPot (w.market.auctions auctionId)) = some slashed := by
        rw [wired.auctionPot found, pots]
        exact deployed
      simp only [bind_eq_ok, requireSome_eq_ok, exists_revertIf, SlashedPot.registerSlash,
        SlashedPot.onlyMarket, checkedAdd_eq_ok, pure_eq_ok, Except.ok.injEq]
      refine ⟨_, slashed, present, by omega, _, ⟨fun other => other market.symm, _, ⟨?_, rfl⟩, rfl⟩, rfl⟩
      rw [empty]
      exact fits

/-- A world of a run in which an auction waits for its resolution, with deposits far
below the word size. -/
structure Stalled (env : External σ) (w : World σ) (auctionId : AuctionId) : Prop where
  wired : w.Wired env
  solvent : w.Solvent
  accounted : w.Accounted env
  conserved : Conserved (w.view auctionId)
  deposited : w.Deposited
  resolving : (w.market.auctions auctionId).auction.state = .resolving
  supply : (w.view auctionId).deposited < 2 ^ 128
  paced : w.market.network.Paced w.timestamp

/-- How long an auction may stay unresolved: the engine's longest window, or the default. -/
def longestTimeout (w : World σ) (auctionId : AuctionId) : ℕ :=
  if (w.snapshot auctionId).settlementEngine = 0 then defaultDynamicTimeout
  else SettlementEngine.maxDynamicTimeout

namespace Stalled

theorem found (stalled : w.Stalled env auctionId) :
    (w.market.auctions auctionId).auction.exists_ = true :=
  stalled.wired.found_of_state stalled.resolving nofun

theorem bidding (stalled : w.Stalled env auctionId) : Bidding (w.view auctionId) :=
  stalled.conserved.sound.bidding_of_resolving stalled.found stalled.resolving

/-- All that is held for the auction is small. -/
theorem held_lt (stalled : w.Stalled env auctionId) :
    (w.market.auctions auctionId).auction.sellerDeposit + (w.view auctionId).totalEscrow < 2 ^ 128 := by
  have held := stalled.conserved.held_le
  have supply := stalled.supply
  rw [AuctionView.owed_of_bidding stalled.bidding, stalled.bidding.escrow] at held
  rw [AuctionView.totalEscrow, view_cell] at *
  omega

/-- The seller's deposit is still in the market. -/
theorem sellerDeposit_le (stalled : w.Stalled env auctionId) :
    (w.market.auctions auctionId).auction.sellerDeposit ≤ w.market.balance := by
  have own := AuctionView.owed_of_bidding stalled.bidding
  have part := Ledger.le_sum (fun other => (w.view other).owed) auctionId
  have balance := stalled.solvent.balance
  unfold World.owed at balance
  rw [own, view_cell] at part
  generalize ∑ other, (w.view other).owed = owed at part balance
  omega

theorem previewDynamicTimeout_succeeds (stalled : w.Stalled env auctionId) :
    ∃ timeoutWindow ≤ w.longestTimeout auctionId,
      w.previewDynamicTimeout (w.market.auctions auctionId) = .ok timeoutWindow := by
  have address : w.auctionSettlementEngine (w.market.auctions auctionId) =
      (w.snapshot auctionId).settlementEngine := if_pos (stalled.wired.initialized auctionId stalled.found)
  unfold previewDynamicTimeout withEngine longestTimeout
  dsimp only
  rw [address]
  split
  · exact ⟨_, Nat.le_refl _, rfl⟩
  · rename_i set
    have deployed := (stalled.wired.snapshots auctionId stalled.found).engine.resolve_left set
    obtain ⟨engine, present⟩ := Option.isSome_iff_exists.mp deployed
    obtain ⟨timeoutWindow, short, computed⟩ := stalled.paced.computeDynamicTimeout_succeeds
    refine ⟨timeoutWindow, short, bind_eq_ok.mpr ⟨engine, ?_, computed⟩⟩
    exact requireSome_eq_ok.mpr present

theorem totalEscrowIncludingShielded_succeeds (stalled : w.Stalled env auctionId) :
    w.totalEscrowIncludingShielded auctionId (w.market.auctions auctionId) =
      .ok (w.view auctionId).totalEscrow := by
  have held := stalled.held_lt
  rw [totalEscrowIncludingShielded, checkedAdd_eq_ok, shieldedEscrowTotal_eq stalled.wired stalled.found]
  refine ⟨?_, rfl⟩
  unfold FitsUint256
  rw [AuctionView.totalEscrow, view_cell] at held
  omega

/-- Once the longest window is over, the fallback goes through if the token does. -/
theorem triggerFallbackVoid_succeeds (stalled : w.Stalled env auctionId)
    (late : (w.market.auctions auctionId).auction.resolvingSince + w.longestTimeout auctionId ≤
      msg.timestamp)
    (later : w.timestamp ≤ msg.timestamp) (clock : msg.timestamp < 2 ^ 64)
    (transfers : ∃ outside, env.safeTransferFrom w.outside
      (w.market.auctions auctionId).auction.nftContract env.market
      (w.market.auctions auctionId).auction.seller
      (w.market.auctions auctionId).auction.tokenId = .ok outside) :
    ∃ next, w.triggerFallbackVoid env msg auctionId = .ok next := by
  have held := stalled.held_lt
  have deposit := stalled.sellerDeposit_le
  obtain ⟨timeoutWindow, short, timeout⟩ := stalled.previewDynamicTimeout_succeeds
  obtain ⟨network, observed⟩ := (stalled.paced.mono later).observe_succeeds clock
  obtain ⟨outside, transferred⟩ := transfers
  have slash : fallbackSlash (w.view auctionId).totalEscrow
      (w.market.auctions auctionId).finalizationReward
      (w.market.auctions auctionId).auction.sellerDeposit ≤
        (w.market.auctions auctionId).auction.sellerDeposit := by
    unfold fallbackSlash
    split
    · exact Nat.zero_le _
    · split <;> omega
  have none : fallbackSlash (w.view auctionId).totalEscrow
      (w.market.auctions auctionId).finalizationReward
      (w.market.auctions auctionId).auction.sellerDeposit ≠ 0 → (w.view auctionId).totalEscrow ≠ 0 := by
    intro nonzero empty
    exact nonzero (if_pos empty)
  -- the auction is marked first, so the rest happens in a world where it is voided
  let voided := ((w.setNetwork network).setAuction auctionId { w.market.auctions auctionId with
    auction := { (w.market.auctions auctionId).auction with
      slashAmount := fallbackSlash (w.view auctionId).totalEscrow
        (w.market.auctions auctionId).finalizationReward
        (w.market.auctions auctionId).auction.sellerDeposit
      state := .voided
      lastBlockTimestamp := toUint64 msg.timestamp }
    resolutionRequest := {} }).emit (.auctionStateChanged auctionId .resolving .voided)
  have changes : Changes auctionId w voided _ :=
    .emit rfl (.setAuction rfl rfl (.setNetwork network .refl))
  have wired := stalled.wired.of_frame changes.frame stalled.found
  have found := changes.frame.found.trans stalled.found
  have marked : (voided.market.auctions auctionId).auction.totalEscrow =
      (w.market.auctions auctionId).auction.totalEscrow :=
    congrArg (·.cell.auction.totalEscrow) changes.view
  obtain ⟨registered, registers⟩ := registerSlash_succeeds wired found marked (slash.trans deposit)
    (by omega) (fun nonzero => by rw [changes.view]; exact none nonzero)
    (by rw [changes.view]; change (w.view auctionId).totalEscrow < _; omega)
    (by rw [changes.view]; exact stalled.bidding.reserve)
    (by rw [changes.view]; exact stalled.bidding.pot)
  have slashes := registerSlash_slashes wired found marked registers
  obtain ⟨opened, opens⟩ := openShieldedRefundPath_succeeds
    (wired.of_frame slashes.changes.frame found) (slashes.changes.frame.found.trans found)
  have same : opened.outside = w.outside :=
    (openShieldedRefundPath_inward opens).1.trans (registerSlash_inward registers).1
  obtain ⟨both, -⟩ := slash_then_open stalled.wired stalled.found registers opens changes rfl
  have auction := congrArg (·.cell.auction) both.view
  rw [AuctionView.opened_auction, AuctionView.slashed_cell] at auction
  have released : ∃ released, opened.releaseFromEscrow env auctionId
      (w.market.auctions auctionId).auction.seller = .ok released := by
    unfold releaseFromEscrow
    dsimp only [view_cell] at auction ⊢
    rw [auction, same]
    exact ⟨_, bind_eq_ok.mpr ⟨outside, transferred, rfl⟩⟩
  obtain ⟨released, releases⟩ := released
  unfold triggerFallbackVoid onlyAuctionState
  simp only [bind_eq_ok, auctionExists_ok, exists_revertIf, transitionState_ok, checkedSub_eq_ok,
    pure_eq_ok, Except.ok.injEq, Nat.not_lt]
  exact ⟨_, _, ⟨stalled.found, rfl⟩, not_not.mpr stalled.resolving, timeoutWindow, timeout, _,
    ⟨by omega, rfl⟩, _, stalled.totalEscrowIncludingShielded_succeeds, by omega, network, observed, _,
    ⟨by rw [stalled.resolving]; rfl, rfl⟩, registered, registers, opened, opens, released, releases, rfl⟩

end Stalled

/-- What a fallback that went through has done. -/
theorem triggerFallbackVoid_ok (wired : w.Wired env)
    (done : w.triggerFallbackVoid env msg auctionId = .ok next) :
    (∃ outside, env.safeTransferFrom w.outside (w.market.auctions auctionId).auction.nftContract env.market
      (w.market.auctions auctionId).auction.seller (w.market.auctions auctionId).auction.tokenId =
        .ok outside) ∧
      (next.market.auctions auctionId).auction.state = .voided ∧
      (next.market.auctions auctionId).escrowBalances = (w.market.auctions auctionId).escrowBalances ∧
      (next.view auctionId).deposited = (w.view auctionId).deposited := by
  simp only [triggerFallbackVoid, onlyAuctionState, releaseFromEscrow, bind_eq_ok, auctionExists_ok,
    exists_revertIf, transitionState_ok, checkedSub_eq_ok, pure_eq_ok, Except.ok.injEq, ne_eq, not_not,
    Nat.not_lt] at done
  obtain ⟨cell, ⟨found, rfl⟩, resolving, timeoutWindow, -, elapsed, -, total, totals, -, network, -,
    auction, ⟨-, rfl⟩, registered, registers, opened, opens, released, ⟨outside, transferred, rfl⟩,
    rfl⟩ := done
  obtain ⟨changes, -⟩ := slash_then_open wired found registers opens
    (.emit rfl (.setAuction rfl rfl (.setNetwork network .refl))) rfl
  have both : Changes auctionId w _ _ := .emit (show
    (Event.fallbackTriggered auctionId elapsed timeoutWindow).auctionId = auctionId from rfl) (.emit (show
      (Event.assetReleased auctionId (w.market.auctions auctionId).auction.seller).auctionId = auctionId
        from rfl) (.setOutside outside changes))
  have same : opened.outside = w.outside :=
    (openShieldedRefundPath_inward opens).1.trans (registerSlash_inward registers).1
  have marked := congrArg (·.cell.auction) changes.view
  rw [AuctionView.opened_auction, AuctionView.slashed_cell] at marked
  dsimp only [view_cell] at marked
  rw [marked, same] at transferred
  refine ⟨⟨outside, transferred⟩, ?_, ?_, ?_⟩
  · have state := congrArg (·.cell.auction.state) both.view
    exact state.trans (by simp)
  · have escrow := congrArg (·.cell.escrowBalances) both.view
    exact escrow.trans (by simp)
  · have deposited := congrArg (·.deposited) both.view
    refine deposited.trans ?_
    simp [AuctionView.deposited, Event.publicEscrow, Event.shieldedEscrow]

/-- A party has its refund left, and no account that takes plain transfers is refused. -/
def Refundable (env : External σ) (w : World σ) (auctionId : AuctionId) (entitlement : Entitlement) : Prop :=
  w.Entitled auctionId entitlement ∧ ∀ input, w.Exercises env auctionId entitlement input →
    w.timestamp ≤ input.1.timestamp → ∃ next, w.transact env input = .ok next

theorem Settling.refundable (settling : w.Settling env auctionId) (free : env.CollisionFree)
    {entitlement : Entitlement} (entitled : w.Entitled auctionId entitlement) :
    w.Refundable env auctionId entitlement := by
  refine ⟨entitled, fun input exercises timely => ?_⟩
  obtain ⟨next, done, -⟩ := settling.claim free exercises entitled timely
  exact ⟨next, done⟩

/-- The auction is voided, and every escrow in it can be had back in full: by each public
bidder, and for each commitment of its vault that was not claimed. -/
structure Frees (env : External σ) (w next : World σ) (auctionId : AuctionId) : Prop where
  voided : (next.market.auctions auctionId).auction.state = .voided
  publicEscrow : ∀ p, (next.view auctionId).refundOf p = (w.market.auctions auctionId).escrowBalances p ∧
    ((w.market.auctions auctionId).escrowBalances p ≠ 0 → next.Refundable env auctionId (.refund p))
  shieldedEscrow : ∀ vault c, w.vaults (w.snapshot auctionId).shieldedEscrowVault = some vault →
    (vault.commitments c).auctionId = auctionId → (vault.commitments c).claimed = false →
      next.shieldedAmount auctionId c = (vault.commitments c).amount ∧
        next.Refundable env auctionId (.shieldedRefund c)

theorem Stalled.frees (stalled : w.Stalled env auctionId) (free : env.CollisionFree)
    (done : w.transact env (msg, .triggerFallbackVoid auctionId) = .ok next)
    (settling : next.Settling env auctionId) : Frees env w next auctionId := by
  obtain ⟨-, executed, executes, same⟩ := transact_ok.mp done
  obtain ⟨-, voided, escrow, -⟩ := triggerFallbackVoid_ok stalled.wired executes
  rw [show (executed.market.auctions auctionId) = next.market.auctions auctionId by rw [← same]]
    at voided escrow
  have refund : ∀ p, (next.view auctionId).refundOf p =
      (w.market.auctions auctionId).escrowBalances p := by
    intro p
    rw [AuctionView.refundOf, AuctionStorage.refundOf, view_cell, voided, escrow]
  have snapshot : next.snapshot auctionId = w.snapshot auctionId := by
    obtain ⟨-, -, -, touched, flow, transition⟩ := transact_transition stalled.wired done
    exact (transition.kept auctionId).snapshot stalled.found
  refine ⟨voided, fun p => ⟨refund p, fun escrowed => ?_⟩, fun vault c deployed about unclaimed => ?_⟩
  · apply settling.refundable free
    change (next.view auctionId).refundOf p ≠ 0
    rwa [refund p]
  · obtain ⟨changed, present, move⟩ := (transact_effects stalled.wired done).vaults.exists_after deployed
    have kept : changed.commitments c = vault.commitments c := by
      have slot := move.slot c
      generalize changed.commitments c = after at slot
      cases slot with
      | kept => rfl
      | settled _ impossible => cases impossible
      | refunded impossible => cases impossible
      | locked impossible => cases impossible
    have amount : next.shieldedAmount auctionId c = (vault.commitments c).amount := by
      rw [shieldedAmount, snapshot, present, Option.elim_some, kept, CommitmentDeposit.amountIn,
        if_pos about]
    have nonzero : (vault.commitments c).auctionId ≠ 0 := by
      rw [about]
      exact (stalled.wired.counted auctionId stalled.found).1
    have funded := (stalled.deposited.whole _ vault c deployed nonzero
      (by rw [about, stalled.resolving]; rfl)).1
    refine ⟨amount, settling.refundable free ?_⟩
    change next.shieldedAmount auctionId c ≠ 0
    rwa [amount]

end World

/-- The token moves out of the market unless the recipient is a contract that rejects it. -/
def External.RefusedOnlyBy (env : External σ) (nft : Address) (rejects : σ → Address → Bool) : Prop :=
  ∀ outside recipient tokenId, recipient ≠ 0 → env.ownerOf outside nft tokenId = some env.market →
    ((∃ next, env.safeTransferFrom outside nft env.market recipient tokenId = .ok next) ↔
      ¬ (env.isContract outside recipient = true ∧ rejects outside recipient = true))

/-- A created auction has a seller. -/
theorem AuctionStep.seller_known {refundKey : Bytes32 → Bytes32} {auctionId : AuctionId} {now : ℕ}
    {flow : Flow} {v next : AuctionView} (step : AuctionStep refundKey auctionId now flow v next)
    (absent : v.cell.auction.exists_ = false) : next.cell.auction.seller ≠ 0 := by
  cases step with
  | created _ _ _ _ _ _ _ _ _ _ _ known => exact known
  | _ => simp_all

namespace Deployment

variable (deployment : Deployment) (env : External σ) (outside : σ) (inputs : List (Msg × Tx σ))

theorem run_seller (auctionId : AuctionId)
    (found : ((deployment.run env outside inputs).market.auctions auctionId).auction.exists_ = true) :
    ((deployment.run env outside inputs).market.auctions auctionId).auction.seller ≠ 0 := by
  let named : World σ → Prop := fun w => w.Wired env ∧
    ((w.market.auctions auctionId).auction.exists_ = true → (w.market.auctions auctionId).auction.seller ≠ 0)
  have kept : ∀ w input next, named w → w.transact env input = .ok next → named next := by
    rintro w ⟨msg, tx⟩ next ⟨wired, seller⟩ done
    obtain ⟨still, -, -, touched, flow, transition⟩ := World.transact_transition wired done
    refine ⟨still, fun present => ?_⟩
    by_cases before : (w.market.auctions auctionId).auction.exists_ = true
    · have consigned := (transition.consignment before).1
      simp only [Auction.consignment, Prod.mk.injEq] at consigned
      rw [consigned.2.2]
      exact seller before
    · have unchanged : next.view auctionId ≠ w.view auctionId := by
        intro same
        have exists_ := congrArg (·.cell.auction.exists_) same
        exact before (exists_.symm.trans present)
      by_cases same : auctionId = touched
      · subst same
        rcases transition.step with ⟨-, viewed⟩ | step
        · exact absurd viewed unchanged
        · exact step.seller_known (Bool.eq_false_iff.mpr before)
      · exact absurd (transition.others auctionId same) unchanged
  exact (play_preserves kept ⟨deployment.genesis_wired env outside, fun found => Bool.noConfusion found⟩
    inputs).2 found

variable {deployment env outside inputs}

theorem run_stalled {auctionId : AuctionId}
    (resolving : ((deployment.run env outside inputs).market.auctions auctionId).auction.state = .resolving)
    (supply : ((deployment.run env outside inputs).view auctionId).deposited < 2 ^ 128) :
    (deployment.run env outside inputs).Stalled env auctionId := by
  obtain ⟨wired, solvent⟩ := deployment.run_solvent env outside inputs
  exact ⟨wired, solvent, deployment.run_accounted env outside inputs,
    (deployment.run_reachable env outside inputs auctionId).conserved,
    deployment.run_deposited env outside inputs, resolving, supply, deployment.run_paced env outside inputs⟩

end Deployment

/-- In every state of every run in which an auction waits for its resolution, once its
longest window is over the fallback of any caller succeeds and frees all escrow of the
auction, exactly if the seller is not a contract that rejects the token. -/
theorem fallback_frees_iff (deployment : Deployment) (env : External σ) (outside : σ)
    (inputs : List (Msg × Tx σ)) (auctionId : AuctionId) (nft : Address)
    (lawful : LawfulERC721 env nft) (unapproved : Unapproved env nft outside)
    (rejects : σ → Address → Bool) (refused : env.RefusedOnlyBy nft rejects) (free : env.CollisionFree)
    (msg : Msg) :
    let w := deployment.run env outside inputs
    let auction := (w.market.auctions auctionId).auction
    auction.state = .resolving → auction.nftContract = nft → (w.view auctionId).deposited < 2 ^ 128 →
    auction.resolvingSince + w.longestTimeout auctionId ≤ msg.timestamp →
    msg.sender ≠ 0 → w.isSystem env msg.sender = false → msg.value = 0 →
    w.timestamp ≤ msg.timestamp → msg.timestamp < 2 ^ 64 →
      ((∃ next, w.transact env (msg, .triggerFallbackVoid auctionId) = .ok next ∧
          World.Frees env w next auctionId) ↔
        ¬ (env.isContract w.outside auction.seller = true ∧ rejects w.outside auction.seller = true)) := by
  intro w auction resolving ours supply late known stranger unpaid later clock
  have stalled : w.Stalled env auctionId := deployment.run_stalled resolving supply
  have held : env.ownerOf w.outside nft auction.tokenId = some env.market := by
    have inCustody : auction.inCustody = true := by rw [Auction.inCustody, resolving]
    exact ((deployment.run_custody lawful unapproved inputs).held auctionId inCustody ours).1
  have seller : auction.seller ≠ 0 := deployment.run_seller env outside inputs auctionId stalled.found
  have transfers := refused w.outside auction.seller auction.tokenId seller held
  rw [← transfers]
  constructor
  · rintro ⟨next, done, -⟩
    obtain ⟨-, executed, executes, -⟩ := World.transact_ok.mp done
    have transferred := (World.triggerFallbackVoid_ok stalled.wired executes).1
    rwa [show (w.market.auctions auctionId).auction.nftContract = nft from ours] at transferred
  · intro transferred
    have whole : ∃ outside, env.safeTransferFrom w.outside
        (w.market.auctions auctionId).auction.nftContract env.market
        (w.market.auctions auctionId).auction.seller
        (w.market.auctions auctionId).auction.tokenId = .ok outside := by
      rwa [show (w.market.auctions auctionId).auction.nftContract = nft from ours]
    obtain ⟨executed, executes⟩ := stalled.triggerFallbackVoid_succeeds late later clock whole
    obtain ⟨-, voided, -, deposited⟩ := World.triggerFallbackVoid_ok stalled.wired executes
    have done : w.transact env (msg, .triggerFallbackVoid auctionId) =
        .ok { executed with timestamp := msg.timestamp } :=
      World.transact_unpaid rfl known stranger later unpaid executes
    have settling : ({ executed with timestamp := msg.timestamp } : World σ).Settling env auctionId := by
      refine @World.Settling.of_run _ env _ auctionId deployment outside
        (inputs ++ [(msg, .triggerFallbackVoid auctionId)]) ?_ (by dsimp only; rw [voided]; rfl) ?_
      · exact Deployment.run_accepted done
      · exact deposited.trans_lt supply
    exact ⟨_, done, stalled.frees free done settling⟩

/-- The sample chain when account 9 is a contract that takes no token. -/
def rejectingChain : External (ℕ → Address) :=
  { tokenChain with
    safeTransferFrom := fun owners nft sender recipient tokenId =>
      if recipient = 9 then .error .callFailed
      else tokenChain.safeTransferFrom owners nft sender recipient tokenId }

theorem rejectingChain_transfers {owners next : ℕ → Address} {nft sender recipient : Address} {tokenId : ℕ}
    (transferred : rejectingChain.safeTransferFrom owners nft sender recipient tokenId = .ok next) :
    recipient ≠ 9 ∧ tokenChain.safeTransferFrom owners nft sender recipient tokenId = .ok next := by
  simp only [rejectingChain] at transferred
  split at transferred
  · cases transferred
  · exact ⟨‹_›, transferred⟩

theorem rejectingChain_lawful : LawfulERC721 rejectingChain 5 :=
  { tokenChain_lawful with
    elsewhere := by
      intro owners next other sender recipient tokenId different transferred
      exact tokenChain_lawful.elsewhere owners next other sender recipient tokenId different
        (rejectingChain_transfers transferred).2
    moved := by
      intro owners next sender recipient tokenId transferred
      exact tokenChain_lawful.moved owners next sender recipient tokenId
        (rejectingChain_transfers transferred).2 }

theorem tokenChain_transfers {owners : ℕ → Address} {tokenId : ℕ} (recipient : Address)
    (owned : tokenChain.ownerOf owners 5 tokenId = some tokenChain.market) :
    ∃ next, tokenChain.safeTransferFrom owners 5 tokenChain.market recipient tokenId = .ok next := by
  have market : owners tokenId = 100 := Option.some.inj owned
  exact ⟨_, if_pos ⟨rfl, market⟩⟩

theorem rejectingChain_refusedOnlyBy :
    rejectingChain.RefusedOnlyBy 5 (fun _ account => account = 9) := by
  intro owners recipient tokenId _ owned
  constructor
  · rintro ⟨next, transferred⟩ ⟨-, rejects⟩
    exact (rejectingChain_transfers transferred).1 (of_decide_eq_true rejects)
  · intro accepts
    obtain ⟨next, transferred⟩ := tokenChain_transfers recipient owned
    have other : recipient ≠ 9 := fun same => accepts ⟨rfl, decide_eq_true same⟩
    exact ⟨next, (if_neg other).trans transferred⟩

/-- A bidder and a contract that sells its token, in an auction nobody resolves. -/
def bidAndWait : List (Msg × Tx (ℕ → Address)) :=
  [({ sender := 9, value := 10, timestamp := 1000 }, .createAuction 5 7 100 0 10 false),
    ({ sender := 8, value := 100, timestamp := 1001 }, .lockEscrow 1),
    ({ sender := 8, timestamp := 1100 }, .triggerFinalize 1)]

set_option maxRecDepth 4000 in
/-- The seller that rejects its token keeps the bidder's escrow locked. -/
theorem bidAndWait_blocked :
    let w := tokenDeployment.run rejectingChain (fun _ => 9) bidAndWait
    LawfulERC721 rejectingChain 5 ∧ Unapproved rejectingChain 5 (fun _ => 9) ∧
      rejectingChain.RefusedOnlyBy 5 (fun _ account => account = 9) ∧
      (w.market.auctions 1).auction.state = .resolving ∧
      (w.market.auctions 1).auction.resolvingSince + 2 * 60 * 60 ≤ 8300 ∧
      w.transact rejectingChain ({ sender := 8, timestamp := 8300 }, .triggerFallbackVoid 1) =
        .error .callFailed ∧
      (w.market.auctions 1).escrowBalances 8 = 100 ∧
      w.transact rejectingChain ({ sender := 8, timestamp := 8300 }, .claimRefund 1) =
        .error (.noClaimableBalance 1 8) := by
  refine ⟨rejectingChain_lawful, fun _ => nofun, rejectingChain_refusedOnlyBy, by decide +kernel,
    by decide +kernel, rfl, by decide +kernel, rfl⟩

set_option maxRecDepth 4000 in
/-- A seller that takes its token back frees the bidder's escrow. -/
theorem bidAndWait_freed :
    ∃ next, (tokenDeployment.run tokenChain (fun _ => 9) bidAndWait).transact tokenChain
      ({ sender := 8, timestamp := 2900 }, .triggerFallbackVoid 1) = .ok next ∧
        (next.market.auctions 1).auction.state = .voided := by
  obtain ⟨next, done, frees⟩ := (fallback_frees_iff tokenDeployment tokenChain (fun _ => 9) bidAndWait 1 5
    tokenChain_lawful (fun _ => nofun) (fun _ _ => false)
    (fun owners recipient tokenId _ owned =>
      iff_of_true (tokenChain_transfers recipient owned) fun both => nomatch both.2)
    tokenChain_collisionFree { sender := 8, timestamp := 2900 } (by decide +kernel) (by decide +kernel)
    (by decide +kernel) (by decide +kernel) (by decide) (by decide +kernel) rfl (by decide +kernel)
    (by decide)).mpr fun both => nomatch both.2
  exact ⟨next, done, frees.voided⟩

end FairMarket
