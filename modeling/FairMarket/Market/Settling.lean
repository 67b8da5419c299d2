import FairMarket.Market.Moves

/-! Resolutions, cancellation and the fallback, read as steps of their auction. -/

namespace FairMarket

variable {σ : Type}

namespace World

variable {env : External σ} {w next : World σ} {msg : Msg} {auctionId : AuctionId}

theorem openShieldedRefundPath_changes (wired : w.Wired env)
    (found : (w.market.auctions auctionId).auction.exists_ = true)
    (done : w.openShieldedRefundPath env auctionId = .ok next) :
    Changes auctionId w next (w.view auctionId).opened ∧ next.market.balance = w.market.balance ∧
      next.unsolicited = w.unsolicited ∧ next.pots = w.pots := by
  unfold openShieldedRefundPath at done
  dsimp only at done
  rw [wired.auctionVault found] at done
  split at done
  · rename_i already
    cases done
    have kept : (w.view auctionId).opened = w.view auctionId := if_pos already
    rw [kept]
    exact ⟨.refl, rfl, rfl, rfl⟩
  · rename_i closed
    split at done
    · rename_i absent
      cases done
      have kept : (w.view auctionId).opened = w.view auctionId := by
        simp [AuctionView.opened, view, absent]
      rw [kept]
      exact ⟨.refl, rfl, rfl, rfl⟩
    · rename_i vault deployed
      simp only [bind_eq_ok, pure_eq_ok, Except.ok.injEq] at done
      obtain ⟨unlocked, unlocks, rfl⟩ := done
      have lane := ShieldedEscrowVault.unlockRefunds_lane unlocks
      refine ⟨.congr (.setVault rfl deployed lane (.setAuction rfl rfl .refl)) ?_, rfl, rfl, rfl⟩
      simp only [AuctionView.opened, view_cell, closed, view_lane deployed]
      rfl

/-- A penalty leaves the market, its public share enters the pot, and nothing else moves. -/
structure Slashes (auctionId : AuctionId) (slashAmount : ℕ) (w next : World σ) : Prop where
  changes : Changes auctionId w next ((w.view auctionId).slashed slashAmount)
  balance : next.market.balance + slashAmount = w.market.balance
  unsolicited : next.unsolicited = w.unsolicited
  potBalance : ∀ address pot changed, w.pots address = some pot → next.pots address = some changed →
    changed.balance = pot.balance + if address = (w.snapshot auctionId).slashedPot then
      (w.view auctionId).publicSlash slashAmount else 0

theorem allocateSlash_changes (wired : w.Wired env)
    (found : (w.market.auctions auctionId).auction.exists_ = true) {totalEscrow slashAmount share : ℕ}
    (total : (w.market.auctions auctionId).auction.totalEscrow = totalEscrow)
    (done : w.allocateSlash env auctionId totalEscrow slashAmount = .ok (share, next)) :
    share = (w.view auctionId).publicSlash slashAmount ∧
      Changes auctionId w next { w.view auctionId with
        lane := (w.view auctionId).lane.map fun lane =>
          { lane with reserve := lane.reserve + (slashAmount - share) } } ∧
      next.market.balance + slashAmount = w.market.balance + share ∧
      next.unsolicited = w.unsolicited ∧ next.pots = w.pots := by
  subst total
  unfold allocateSlash at done
  dsimp only at done
  rw [wired.auctionVault found] at done
  split at done
  · rename_i absent
    cases done
    have none : (w.view auctionId).lane = none := by simp only [view, absent, Option.map_none]
    refine ⟨?_, ?_, rfl, rfl, rfl⟩
    · simp [AuctionView.publicSlash, AuctionView.shieldedTotal, none, ShieldedEscrowVault.publicShare]
    · simp only [none, Option.map_none]
      rw [← none]
      exact .refl
  · rename_i vault deployed
    simp only [bind_eq_ok, exists_revertIf, Nat.not_lt, Prod.exists, pure_eq_ok, Except.ok.injEq,
      Prod.mk.injEq] at done
    obtain ⟨solvent, allocation, allocated, allocates, rfl, rfl⟩ := done
    obtain ⟨shared, lane⟩ := ShieldedEscrowVault.allocateSlash_lane allocates
    have present := view_lane deployed
    refine ⟨?_, ?_, ?_, rfl, rfl⟩
    · simp only [AuctionView.publicSlash, AuctionView.shieldedTotal, present, Option.elim_some]
      exact shared
    · simp only [present, Option.map_some]
      exact .credit _ (.setVault rfl deployed lane (.debit _ .refl))
    · simp only [credit, setVault, debit]
      omega

theorem slashed_zero (v : AuctionView) : v.slashed 0 = v := by
  have share : v.publicSlash 0 = 0 := Nat.le_zero.mp (ShieldedEscrowVault.publicShare_le 0 _ _)
  obtain ⟨cell, lane, pot, log⟩ := v
  cases lane <;> simp [AuctionView.slashed, AuctionView.fillPot, share]

theorem registerSlash_pot {pot registered : SlashedPot} {sender : Address} {share totalEscrow : ℕ}
    (nonzero : share ≠ 0)
    (done : pot.registerSlash sender share auctionId totalEscrow = .ok registered) :
    registered.market = pot.market ∧ registered.balance = pot.balance + share ∧
      registered.pots auctionId = AuctionView.fillPot (pot.pots auctionId) totalEscrow share ∧
      ∀ other, other ≠ auctionId → registered.pots other = pot.pots other := by
  simp only [SlashedPot.registerSlash, bind_eq_ok, checkedAdd_eq_ok, pure_eq_ok,
    Except.ok.injEq] at done
  obtain ⟨-, -, totalSlash, ⟨-, rfl⟩, rfl⟩ := done
  refine ⟨rfl, rfl, ?_, fun other different => Function.update_of_ne different ..⟩
  simp only [Function.update_self, AuctionView.fillPot, nonzero, if_false]
  cases opened : (pot.pots auctionId).exists_ <;> simp [opened]

theorem view_pot {pot : SlashedPot} (deployed : w.pots (w.snapshot auctionId).slashedPot = some pot) :
    (w.view auctionId).pot = pot.pots auctionId := by
  simp only [view, deployed, Option.map_some, Option.getD_some]

theorem registerSlash_slashes (wired : w.Wired env)
    (found : (w.market.auctions auctionId).auction.exists_ = true) {totalEscrow slashAmount : ℕ}
    (total : (w.market.auctions auctionId).auction.totalEscrow = totalEscrow)
    (done : w.registerSlash env auctionId totalEscrow slashAmount = .ok next) :
    Slashes auctionId slashAmount w next := by
  subst total
  unfold registerSlash at done
  split at done
  · rename_i none
    cases done
    obtain rfl : slashAmount = 0 := by omega
    have share : (w.view auctionId).publicSlash 0 = 0 :=
      Nat.le_zero.mp (ShieldedEscrowVault.publicShare_le 0 _ _)
    refine ⟨.congr .refl (slashed_zero _).symm, rfl, rfl, fun address pot changed before after => ?_⟩
    rw [before] at after
    cases after
    rw [share, ite_self]
    rfl
  · rename_i positive
    simp only [bind_eq_ok, Prod.exists] at done
    obtain ⟨share, allocated, allocates, done⟩ := done
    obtain ⟨rfl, changes, balance, unsolicited, pots⟩ := allocateSlash_changes wired found rfl allocates
    split at done
    · rename_i nothing
      simp only [pure_eq_ok, Except.ok.injEq] at done
      subst done
      have share : (w.view auctionId).publicSlash slashAmount = 0 := by omega
      refine ⟨.congr changes ?_, by omega, unsolicited, fun address pot changed before after => ?_⟩
      · simp only [AuctionView.slashed, AuctionView.fillPot, share, if_true, view_cell]
      · rw [pots, before] at after
        cases after
        rw [share, ite_self]
        rfl
    · rename_i shared
      rw [wired.auctionPot found] at done
      simp only [bind_eq_ok, requireSome_eq_ok, exists_revertIf, pure_eq_ok, Except.ok.injEq,
        Nat.not_lt, pots] at done
      obtain ⟨pot, deployed, solvent, registered, registers, rfl⟩ := done
      have nonzero : (w.view auctionId).publicSlash slashAmount ≠ 0 := by omega
      obtain ⟨market, credited, entry, others⟩ := registerSlash_pot nonzero registers
      have present : allocated.pots (w.snapshot auctionId).slashedPot = some pot := pots ▸ deployed
      refine ⟨.congr (.debit _ (.setPot rfl present market others changes)) ?_, ?_, unsolicited, ?_⟩
      · simp only [AuctionView.slashed, entry, view_pot deployed, view_cell]
      · simp only [debit, setPot]
        omega
      · intro address before changed found after
        simp only [debit, setPot] at after
        by_cases own : address = (w.snapshot auctionId).slashedPot
        · subst own
          rw [Function.update_self, Option.some.injEq] at after
          rw [deployed, Option.some.injEq] at found
          subst after found
          rw [if_pos rfl, credited]
        · rw [Function.update_of_ne own, pots, found, Option.some.injEq] at after
          rw [if_neg own, after]
          rfl

theorem shieldedEscrowTotal_eq (wired : w.Wired env)
    (found : (w.market.auctions auctionId).auction.exists_ = true) :
    w.shieldedEscrowTotal auctionId (w.market.auctions auctionId) = (w.view auctionId).shieldedTotal := by
  unfold shieldedEscrowTotal
  rw [wired.auctionVault found]
  simp only [AuctionView.shieldedTotal, view]
  cases w.vaults (w.snapshot auctionId).shieldedEscrowVault <;> rfl

theorem totalEscrowIncludingShielded_ok (wired : w.Wired env)
    (found : (w.market.auctions auctionId).auction.exists_ = true) {total : ℕ}
    (done : w.totalEscrowIncludingShielded auctionId (w.market.auctions auctionId) = .ok total) :
    total = (w.view auctionId).totalEscrow := by
  rw [totalEscrowIncludingShielded, checkedAdd_eq_ok, shieldedEscrowTotal_eq wired found] at done
  exact done.2.symm

/-- An engine call either uses the default or a deployed engine. -/
theorem withEngine_ok {cell : AuctionStorage} {α : Type} {ownDefault : Except Revert α}
    {call : SettlementEngine → Except Revert α} {result : α}
    (done : w.withEngine cell ownDefault call = .ok result) :
    ownDefault = .ok result ∨ ∃ engine, call engine = .ok result := by
  unfold withEngine at done
  dsimp only at done
  split at done
  · exact .inl done
  · simp only [bind_eq_ok, requireSome_eq_ok] at done
    obtain ⟨engine, -, called⟩ := done
    exact .inr ⟨engine, called⟩

/-- An auction's engine is there if it has one. -/
theorem Wired.withEngine_succeeds (wired : w.Wired env)
    (found : (w.market.auctions auctionId).auction.exists_ = true) {α : Type}
    {ownDefault : Except Revert α} {call : SettlementEngine → Except Revert α}
    (own : ∃ result, ownDefault = .ok result) (called : ∀ engine, ∃ result, call engine = .ok result) :
    ∃ result, w.withEngine (w.market.auctions auctionId) ownDefault call = .ok result := by
  have address : w.auctionSettlementEngine (w.market.auctions auctionId) =
      (w.snapshot auctionId).settlementEngine := if_pos (wired.initialized auctionId found)
  unfold withEngine
  dsimp only
  rw [address]
  split
  · exact own
  · rename_i set
    have deployed := (wired.snapshots auctionId found).engine.resolve_left set
    obtain ⟨engine, present⟩ := Option.isSome_iff_exists.mp deployed
    obtain ⟨result, computed⟩ := called engine
    refine ⟨result, ?_⟩
    simp only [bind_eq_ok, requireSome_eq_ok]
    exact ⟨engine, present, computed⟩

/-- With an engine the penalty is what it computes. -/
theorem computeCancellationSlash_engine (wired : w.Wired env)
    (found : (w.market.auctions auctionId).auction.exists_ = true) {slashAmount : ℕ}
    (engine : (w.snapshot auctionId).settlementEngine ≠ 0) (escrowed : (w.view auctionId).totalEscrow ≠ 0)
    (done : w.computeCancellationSlash msg auctionId (w.market.auctions auctionId) = .ok slashAmount) :
    (w.market.auctions auctionId).auction.createdAt ≤ msg.timestamp ∧
      SettlementEngine.computeCancellationSlash (w.market.auctions auctionId).auction.sellerDeposit
        (msg.timestamp - (w.market.auctions auctionId).auction.createdAt)
        ((w.market.auctions auctionId).auction.endTime - (w.market.auctions auctionId).auction.createdAt)
        (w.view auctionId).totalEscrow = .ok slashAmount := by
  have address : w.auctionSettlementEngine (w.market.auctions auctionId) =
      (w.snapshot auctionId).settlementEngine := if_pos (wired.initialized auctionId found)
  simp only [computeCancellationSlash, bind_eq_ok] at done
  obtain ⟨total, totals, done⟩ := done
  rw [totalEscrowIncludingShielded_ok wired found totals, if_neg escrowed] at done
  unfold withEngine at done
  dsimp only at done
  rw [address, if_neg engine] at done
  simp only [bind_eq_ok, requireSome_eq_ok, checkedSub_eq_ok] at done
  obtain ⟨-, -, elapsed, ⟨created, rfl⟩, duration, ⟨-, rfl⟩, computed⟩ := done
  exact ⟨created, computed⟩

theorem computeCancellationSlash_bounds (wired : w.Wired env)
    (found : (w.market.auctions auctionId).auction.exists_ = true) {slashAmount : ℕ}
    (done : w.computeCancellationSlash msg auctionId (w.market.auctions auctionId) = .ok slashAmount) :
    slashAmount ≤ (w.market.auctions auctionId).auction.sellerDeposit ∧
      ((w.view auctionId).totalEscrow = 0 → slashAmount = 0) := by
  simp only [computeCancellationSlash, bind_eq_ok] at done
  obtain ⟨total, totals, done⟩ := done
  rw [totalEscrowIncludingShielded_ok wired found totals] at done
  split at done
  · simp only [pure_eq_ok, Except.ok.injEq] at done
    omega
  · rename_i nonzero
    refine ⟨?_, fun zero => absurd zero nonzero⟩
    rcases withEngine_ok done with half | ⟨engine, computed⟩
    · simp only [Except.ok.injEq] at half
      omega
    · simp only [bind_eq_ok, checkedSub_eq_ok] at computed
      obtain ⟨elapsed, -, duration, -, computed⟩ := computed
      exact SettlementEngine.computeCancellationSlash_le computed

/-- After a first change, register a penalty and open the refund path. -/
theorem slash_then_open (wired : w.Wired env)
    (found : (w.market.auctions auctionId).auction.exists_ = true) {middle registered : World σ}
    {v : AuctionView} {totalEscrow slashAmount : ℕ}
    (registers : middle.registerSlash env auctionId totalEscrow slashAmount = .ok registered)
    (opens : registered.openShieldedRefundPath env auctionId = .ok next)
    (first : Changes auctionId w middle v) (total : v.cell.auction.totalEscrow = totalEscrow) :
    Changes auctionId w next (v.slashed slashAmount).opened ∧
      next.market.balance + slashAmount = middle.market.balance ∧
      next.unsolicited = middle.unsolicited ∧
      ∀ address pot changed, middle.pots address = some pot → next.pots address = some changed →
        changed.balance = pot.balance + if address = (w.snapshot auctionId).slashedPot then
          v.publicSlash slashAmount else 0 := by
  have middleFound := first.frame.found.trans found
  have middleWired := wired.of_frame first.frame found
  have middleView := first.view
  have second := registerSlash_slashes middleWired middleFound
    ((congrArg (·.cell.auction.totalEscrow) middleView).trans total) registers
  have registeredFound := second.changes.frame.found.trans middleFound
  obtain ⟨third, balance, unsolicited, pots⟩ := openShieldedRefundPath_changes
    (middleWired.of_frame second.changes.frame middleFound) registeredFound opens
  refine ⟨.congr (first.trans (second.changes.trans third)) ?_, ?_, ?_, ?_⟩
  · rw [second.changes.view, middleView]
  · rw [balance, second.balance]
  · rw [unsolicited, second.unsolicited]
  · rw [pots, ← first.frame.snapshot, ← middleView]
    exact second.potBalance

/-- What a cancellation makes of its auction, with the penalty that was computed. -/
theorem cancelAuction_changes (wired : w.Wired env) (done : w.cancelAuction env msg auctionId = .ok next) :
    ∃ slashAmount, ((w.market.auctions auctionId).auction.exists_ = true ∧
        (w.market.auctions auctionId).auction.state = .active ∧
        msg.timestamp < (w.market.auctions auctionId).auction.endTime ∧
        w.computeCancellationSlash msg auctionId (w.market.auctions auctionId) = .ok slashAmount) ∧
      Changes auctionId w next ((({ w.view auctionId with cell := { w.market.auctions auctionId with
        auction := { (w.market.auctions auctionId).auction with
          slashAmount
          state := .cancelled
          lastBlockTimestamp := toUint64 msg.timestamp } } }.emit
            (.auctionStateChanged auctionId .active .cancelled)).slashed slashAmount).opened.emit
              (.assetReleased auctionId (w.market.auctions auctionId).auction.seller)) ∧
      next.market.balance + slashAmount = w.market.balance ∧ next.unsolicited = w.unsolicited ∧
      ∀ address pot changed, w.pots address = some pot → next.pots address = some changed →
        changed.balance = pot.balance + if address = (w.snapshot auctionId).slashedPot then
          (w.view auctionId).publicSlash slashAmount else 0 := by
  simp only [cancelAuction, onlyAuctionSeller, onlyAuctionState, releaseFromEscrow, bind_eq_ok,
    auctionExists_ok, exists_revertIf, transitionState_ok, pure_eq_ok, Except.ok.injEq, ne_eq, not_not,
    ge_iff_le, Nat.not_le] at done
  obtain ⟨cell, ⟨found, rfl⟩, -, active, early, slashAmount, computed, network, -, auction, ⟨-, rfl⟩,
    registered, registers, opened, opens, outside, -, rfl⟩ := done
  obtain ⟨changes, balance, unsolicited, potBalance⟩ := slash_then_open wired found registers opens
    (.emit rfl (.setAuction rfl rfl (.setNetwork network .refl))) rfl
  exact ⟨slashAmount, ⟨found, active, early, computed⟩, .emit rfl (.setOutside outside changes), balance,
    unsolicited, potBalance⟩

theorem cancelAuction_moves (wired : w.Wired env) (done : w.cancelAuction env msg auctionId = .ok next) :
    (w.market.auctions auctionId).auction.exists_ = true ∧
      ∃ flow, Moves env msg.timestamp auctionId flow w next := by
  obtain ⟨slashAmount, ⟨found, active, early, computed⟩, changes, balance, unsolicited, potBalance⟩ :=
    cancelAuction_changes wired done
  obtain ⟨bounded, none⟩ := computeCancellationSlash_bounds wired found computed
  refine ⟨found, _, Changes.moves changes (.cancelled slashAmount found active early bounded none) ?_ ?_⟩
  · dsimp only
    omega
  · intro address pot changed before after
    have moved := potBalance address pot changed before after
    rw [moved, ite_self]
    rfl

theorem triggerFallbackVoid_moves (wired : w.Wired env)
    (done : w.triggerFallbackVoid env msg auctionId = .ok next) :
    (w.market.auctions auctionId).auction.exists_ = true ∧
      ∃ flow, Moves env msg.timestamp auctionId flow w next := by
  simp only [triggerFallbackVoid, onlyAuctionState, releaseFromEscrow, bind_eq_ok, auctionExists_ok,
    exists_revertIf, transitionState_ok, checkedSub_eq_ok, pure_eq_ok, Except.ok.injEq, ne_eq, not_not,
    Nat.not_lt] at done
  obtain ⟨cell, ⟨found, rfl⟩, resolving, timeoutWindow, -, elapsed, -, total, totals, -, network, -,
    auction, ⟨-, rfl⟩, registered, registers, opened, opens, released, ⟨outside, -, rfl⟩, rfl⟩ := done
  have fallback : fallbackSlash total (w.market.auctions auctionId).finalizationReward
      (w.market.auctions auctionId).auction.sellerDeposit =
        if (w.view auctionId).totalEscrow = 0 then 0 else
          (w.market.auctions auctionId).auction.sellerDeposit -
            (w.market.auctions auctionId).finalizationReward := by
    rw [totalEscrowIncludingShielded_ok wired found totals]
    unfold fallbackSlash
    split
    · rfl
    · split <;> omega
  obtain ⟨changes, balance, unsolicited, potBalance⟩ := slash_then_open wired found registers opens
    (.emit rfl (.setAuction rfl rfl (.setNetwork network .refl))) rfl
  refine ⟨found, _, Changes.moves (.emit rfl (.emit rfl (.setOutside outside changes)))
    (.voided _ elapsed timeoutWindow found resolving fallback) ?_ ?_⟩
  · simp only [emit, setOutside, setAuction, setNetwork] at balance unsolicited ⊢
    omega
  · intro address pot changed before after
    have moved := potBalance address pot changed before after
    rw [moved, ite_self]
    rfl

theorem rejectResolution_moves (found : (w.market.auctions auctionId).auction.exists_ = true)
    (resolving : (w.market.auctions auctionId).auction.state = .resolving) (now : ℕ) (outside : σ) :
    Moves env now auctionId {} w ((w.setOutside outside).rejectResolution auctionId
      (w.market.auctions auctionId).resolutionRequest.requestId) :=
  Changes.moves (.emit rfl (.setOutside outside .refl)) (.resolutionRejected found resolving) rfl
    (potBalance_of_eq rfl rfl rfl)

/-- Recording a resolution on a world that differs only outside. -/
theorem recordResolution_changes {outside : σ} {winner : Address}
    {winningCommitment winnerCiphertext : Bytes32} {winningAmount : ℕ}
    (done : (w.setOutside outside).recordResolution msg auctionId (w.market.auctions auctionId) winner
      winningCommitment winnerCiphertext winningAmount = .ok next) :
    Changes auctionId w next ((({ w.view auctionId with cell := { w.market.auctions auctionId with
        auction := { (w.market.auctions auctionId).auction with
          winner
          winnerCiphertext
          winningAmount
          state := .finalized
          lastBlockTimestamp := toUint64 msg.timestamp }
        winningCommitment
        resolutionRequest := {} } }.emit (.auctionStateChanged auctionId .resolving .finalized)).emit
          (.resolutionRecorded auctionId winner winnerCiphertext))) ∧
      next.market.balance = w.market.balance ∧ next.unsolicited = w.unsolicited ∧
      next.pots = w.pots ∧ next.vaults = w.vaults := by
  simp only [recordResolution, bind_eq_ok, transitionState_ok, pure_eq_ok, Except.ok.injEq] at done
  obtain ⟨network, -, auction, ⟨-, rfl⟩, rfl⟩ := done
  exact ⟨.emit rfl (.emit rfl (.setAuction rfl rfl (.setNetwork network (.setOutside outside .refl)))),
    rfl, rfl, rfl, rfl⟩

theorem validatePublicWinner_ok {cell : AuctionStorage} {winner : Address} {winnerCiphertext : Bytes32}
    {winningAmount : ℕ} {passed : Unit}
    (valid : w.validatePublicWinner env auctionId cell winner winnerCiphertext winningAmount =
      .ok passed) :
    winner = 0 ∧ winningAmount = 0 ∨
      winner ≠ 0 ∧ winningAmount ≠ 0 ∧ winningAmount ≤ cell.escrowBalances winner := by
  unfold validatePublicWinner at valid
  split at valid
  · rename_i zero
    simp only [revertIf_eq_ok, ne_eq, not_not] at valid
    exact .inl ⟨zero, valid⟩
  · rename_i nonzero
    simp only [bind_eq_ok, Nat.not_lt, gt_iff_lt, revertIf_eq_ok] at valid
    obtain ⟨-, positive, -, -, -, -, -, -, -, -, backed⟩ := valid
    exact .inr ⟨nonzero, positive, backed⟩

theorem submitResolution_moves (wired : w.Wired env) {winner : Address} {winnerCiphertext : Bytes32}
    {winningAmount : ℕ} {avsProof : Proof} {accepted : Bool}
    (done : w.submitResolution env msg auctionId winner winnerCiphertext winningAmount avsProof =
      .ok (accepted, next)) :
    (w.market.auctions auctionId).auction.exists_ = true ∧ Moves env msg.timestamp auctionId {} w next := by
  simp only [submitResolution, onlyAuctionState, bind_eq_ok, auctionExists_ok, exists_revertIf,
    requireSome_eq_ok, Prod.exists, ne_eq, not_not] at done
  obtain ⟨cell, ⟨found, rfl⟩, resolving, -, -, passed, valid, engine, -, proofAccepted, outside, -,
    done⟩ := done
  refine ⟨found, ?_⟩
  split at done
  · cases done
    exact rejectResolution_moves found resolving _ outside
  · simp only [bind_eq_ok, pure_eq_ok, Except.ok.injEq, Prod.mk.injEq] at done
    obtain ⟨recorded, records, opened, opens, rfl, rfl⟩ := done
    obtain ⟨first, balance, unsolicited, pots, -⟩ := recordResolution_changes records
    obtain ⟨second, sameBalance, sameUnsolicited, samePots⟩ := openShieldedRefundPath_changes
      (wired.of_frame first.frame found) (first.frame.found.trans found) opens
    refine Changes.moves (.congr (first.trans second) (by rw [first.view]; rfl))
      (.resolved winner winnerCiphertext winningAmount found resolving (validatePublicWinner_ok valid))
      ?_ (potBalance_of_eq (samePots.trans pots) rfl rfl)
    rw [sameBalance, balance, sameUnsolicited, unsolicited]

theorem validateShieldedResolutionBid_ok {winnerIdentityHash winnerCiphertext commitmentHash : Bytes32}
    {winningAmount startingPrice : ℕ} {cell : AuctionStorage}
    (valid : w.validateShieldedResolutionBid auctionId cell winnerIdentityHash winnerCiphertext
      winningAmount startingPrice = .ok commitmentHash) :
    winnerIdentityHash ≠ 0 ∧ winningAmount ≠ 0 ∧
      w.resolveShieldedCommitment auctionId cell winnerIdentityHash = .ok commitmentHash := by
  simp only [validateShieldedResolutionBid, bind_eq_ok, exists_revertIf, requireSome_eq_ok, pure_eq_ok,
    Except.ok.injEq, ne_eq] at valid
  obtain ⟨identity, nonzero, -, resolved, resolves, -, -, vault, -, -, rfl⟩ := valid
  exact ⟨identity, nonzero, resolves⟩

/-- The vault pays the winning amount into the market. -/
theorem settleWinningCommitment_changes (wired : w.Wired env)
    (found : (w.market.auctions auctionId).auction.exists_ = true) {commitmentHash : Bytes32}
    {winningAmount : ℕ}
    (done : w.settleWinningCommitment env auctionId commitmentHash winningAmount = .ok next) :
    ∃ lane, (w.view auctionId).lane = some lane ∧ winningAmount ≤ lane.total ∧
      Changes auctionId w next { w.view auctionId with lane := some { lane with
        total := lane.total - winningAmount
        winningCommitment := commitmentHash } } ∧
      next.market.balance = w.market.balance + winningAmount ∧ next.unsolicited = w.unsolicited ∧
      next.pots = w.pots := by
  simp only [settleWinningCommitment, bind_eq_ok, requireSome_eq_ok, pure_eq_ok, Except.ok.injEq,
    Prod.exists] at done
  rw [wired.auctionVault found] at done
  obtain ⟨vault, deployed, remaining, settled, settles, rfl⟩ := done
  obtain ⟨backed, lane⟩ := ShieldedEscrowVault.settleWinningCommitment_lane settles
  exact ⟨vault.lane auctionId, view_lane deployed, backed,
    .credit _ (.setVault rfl deployed lane .refl), rfl, rfl, rfl⟩

theorem markWinningIdentity_changes {winnerIdentityHash : Bytes32}
    (done : w.markWinningIdentity env auctionId winnerIdentityHash = .ok next) :
    Changes auctionId w next (w.view auctionId) ∧ next.market.balance = w.market.balance ∧
      next.unsolicited = w.unsolicited ∧ next.pots = w.pots := by
  simp only [markWinningIdentity, bind_eq_ok, requireSome_eq_ok, pure_eq_ok, Except.ok.injEq] at done
  obtain ⟨registry, deployed, marked, marks, rfl⟩ := done
  simp only [ShieldedIdentityRegistry.markWinningIdentity, bind_eq_ok, exists_revertIf, pure_eq_ok,
    Except.ok.injEq] at marks
  obtain ⟨-, -, -, -, -, rfl⟩ := marks
  exact ⟨.setRegistry deployed rfl .refl, rfl, rfl, rfl⟩

theorem submitShieldedResolution_moves (wired : w.Wired env)
    {winnerIdentityHash winnerCiphertext : Bytes32} {winningAmount : ℕ} {avsProof : Proof}
    {accepted : Bool}
    (done : w.submitShieldedResolution env msg auctionId winnerIdentityHash winnerCiphertext
      winningAmount avsProof = .ok (accepted, next)) :
    (w.market.auctions auctionId).auction.exists_ = true ∧
      ∃ flow, Moves env msg.timestamp auctionId flow w next := by
  simp only [submitShieldedResolution, onlyAuctionState, bind_eq_ok, auctionExists_ok, exists_revertIf,
    requireSome_eq_ok, Prod.exists, ne_eq, not_not] at done
  obtain ⟨cell, ⟨found, rfl⟩, resolving, -, -, commitmentHash, valid, engine, -, proofAccepted, outside,
    -, done⟩ := done
  refine ⟨found, ?_⟩
  split at done
  · cases done
    exact ⟨_, rejectResolution_moves found resolving _ outside⟩
  · simp only [bind_eq_ok, pure_eq_ok, Except.ok.injEq, Prod.mk.injEq] at done
    obtain ⟨recorded, records, settled, settles, opened, opens, marked, marks, rfl, rfl⟩ := done
    obtain ⟨identity, nonzero, -⟩ := validateShieldedResolutionBid_ok valid
    obtain ⟨first, balance, unsolicited, pots, -⟩ := recordResolution_changes records
    have recordedFound := first.frame.found.trans found
    have recordedWired := wired.of_frame first.frame found
    obtain ⟨lane, present, backed, second, balance₂, unsolicited₂, pots₂⟩ :=
      settleWinningCommitment_changes recordedWired recordedFound settles
    have settledFound := second.frame.found.trans recordedFound
    obtain ⟨third, balance₃, unsolicited₃, pots₃⟩ := openShieldedRefundPath_changes
      (recordedWired.of_frame second.frame recordedFound) settledFound opens
    obtain ⟨fourth, balance₄, unsolicited₄, pots₄⟩ := markWinningIdentity_changes marks
    rw [first.view] at present second
    refine ⟨_, Changes.moves
      (.congr (first.trans (second.trans (third.trans fourth))) (by rw [third.view, second.view]; rfl))
      (.shieldedResolved lane winnerIdentityHash commitmentHash winnerCiphertext winningAmount found
        resolving present identity nonzero backed) ?_ (potBalance_of_eq ?_ rfl rfl)⟩
    · rw [balance₄, balance₃, balance₂, balance, unsolicited₄, unsolicited₃, unsolicited₂, unsolicited]
      rfl
    · rw [pots₄, pots₃, pots₂, pots]

end World

end FairMarket
