import FairMarket.Market.Wired

/-! Each entry point of an auction's bidding phase and its settlement helpers, read
as one step of that auction. -/

namespace FairMarket

variable {σ : Type}

namespace World

/-- From `w` to `next` only one auction changes, to the given view. -/
structure Changes (auctionId : AuctionId) (w next : World σ) (after : AuctionView) : Prop where
  frame : Frame auctionId w next
  view : next.view auctionId = after

namespace Changes

variable {auctionId : AuctionId} {w middle : World σ} {v : AuctionView}

theorem refl : Changes auctionId w w (w.view auctionId) := ⟨.refl auctionId w, rfl⟩

theorem setNetwork (network : NetworkObservation) (changes : Changes auctionId w middle v) :
    Changes auctionId w (middle.setNetwork network) v :=
  ⟨changes.frame.trans (.setNetwork network), changes.view⟩

theorem setOutside (outside : σ) (changes : Changes auctionId w middle v) :
    Changes auctionId w (middle.setOutside outside) v :=
  ⟨changes.frame.trans (.setOutside outside), changes.view⟩

theorem credit (amount : ℕ) (changes : Changes auctionId w middle v) :
    Changes auctionId w (middle.credit amount) v :=
  ⟨changes.frame.trans (.credit amount), changes.view⟩

theorem debit (amount : ℕ) (changes : Changes auctionId w middle v) :
    Changes auctionId w (middle.debit amount) v :=
  ⟨changes.frame.trans (.debit amount), changes.view⟩

theorem receiveEther (amount : ℕ) (changes : Changes auctionId w middle v) :
    Changes auctionId w (middle.receiveEther amount) v :=
  ⟨changes.frame.trans (.receiveEther amount), changes.view⟩

theorem emit {event : Event} (about : event.auctionId = auctionId)
    (changes : Changes auctionId w middle v) :
    Changes auctionId w (middle.emit event) (v.emit event) :=
  ⟨changes.frame.trans (.emit about), (view_emit _ _ about).trans (congrArg (·.emit event) changes.view)⟩

theorem setAuction {cell : AuctionStorage}
    (found : cell.auction.exists_ = (w.market.auctions auctionId).auction.exists_)
    (same : cell.dependencySnapshot = w.snapshot auctionId)
    (changes : Changes auctionId w middle v) :
    Changes auctionId w (middle.setAuction auctionId cell) { v with cell } := by
  rw [← changes.frame.found] at found
  rw [← changes.frame.snapshot] at same
  exact ⟨changes.frame.trans (.setAuction found same),
    (view_setAuction _ _ same).trans (by rw [changes.view])⟩

theorem setVault {address : Address} {vault changed : ShieldedEscrowVault} {lane : Lane}
    (own : (w.snapshot auctionId).shieldedEscrowVault = address)
    (deployed : middle.vaults address = some vault)
    (moves : ShieldedEscrowVault.MovesLane auctionId vault changed lane)
    (changes : Changes auctionId w middle v) :
    Changes auctionId w (middle.setVault address changed) { v with lane := some lane } := by
  rw [← changes.frame.snapshot] at own
  exact ⟨changes.frame.trans (.setVault own deployed moves.market moves.others),
    (view_setVault _ _ own changed).trans (by rw [changes.view, moves.lane])⟩

theorem setPot {address : Address} {pot changed : SlashedPot}
    (own : (w.snapshot auctionId).slashedPot = address)
    (deployed : middle.pots address = some pot) (market : changed.market = pot.market)
    (pots : ∀ other, other ≠ auctionId → changed.pots other = pot.pots other)
    (changes : Changes auctionId w middle v) :
    Changes auctionId w (middle.setPot address changed) { v with pot := changed.pots auctionId } := by
  rw [← changes.frame.snapshot] at own
  exact ⟨changes.frame.trans (.setPot own deployed market pots),
    (view_setPot _ _ own changed).trans (by rw [changes.view])⟩

theorem setRegistry {address : Address} {registry changed : ShieldedIdentityRegistry}
    (deployed : middle.registries address = some registry) (market : changed.market = registry.market)
    (changes : Changes auctionId w middle v) :
    Changes auctionId w (middle.setRegistry address changed) v :=
  ⟨changes.frame.trans (.setRegistry deployed market), changes.view⟩

theorem congr {after : AuctionView} (changes : Changes auctionId w middle v) (same : v = after) :
    Changes auctionId w middle after := same ▸ changes

/-- Changes one after the other. -/
theorem trans {next : World σ} {after : AuctionView} (first : Changes auctionId w middle v)
    (second : Changes auctionId middle next after) : Changes auctionId w next after :=
  ⟨first.frame.trans second.frame, second.view⟩

end Changes

/-- A transaction on one auction: a step of its view, a frame around it, and the
money that step moves. -/
structure Moves (env : External σ) (now : ℕ) (auctionId : AuctionId) (flow : Flow) (w next : World σ) : Prop where
  frame : Frame auctionId w next
  step : AuctionStep env.refundKey auctionId now flow (w.view auctionId) (next.view auctionId)
  balance : next.market.balance + flow.paid + w.unsolicited =
    w.market.balance + flow.received + next.unsolicited
  potBalance : ∀ address pot changed, w.pots address = some pot → next.pots address = some changed →
    changed.balance + (if address = (w.snapshot auctionId).slashedPot then flow.potPaid else 0) =
      pot.balance + if address = (w.snapshot auctionId).slashedPot then flow.potReceived else 0

theorem Changes.moves {now : ℕ} {auctionId : AuctionId} {flow : Flow} {w next : World σ}
    {after : AuctionView} (changes : Changes auctionId w next after)
    (step : AuctionStep env.refundKey auctionId now flow (w.view auctionId) after)
    (balance : next.market.balance + flow.paid + w.unsolicited =
      w.market.balance + flow.received + next.unsolicited)
    (potBalance : ∀ address pot changed, w.pots address = some pot →
      next.pots address = some changed →
      changed.balance + (if address = (w.snapshot auctionId).slashedPot then flow.potPaid else 0) =
        pot.balance + if address = (w.snapshot auctionId).slashedPot then flow.potReceived else 0) :
    Moves env now auctionId flow w next :=
  ⟨changes.frame, changes.view ▸ step, balance, potBalance⟩

/-- A step that leaves the pots alone moves no money of theirs. -/
theorem potBalance_of_eq {w next : World σ} {auctionId : AuctionId} {flow : Flow}
    (same : next.pots = w.pots) (unpaid : flow.potPaid = 0) (unreceived : flow.potReceived = 0) :
    ∀ address pot changed, w.pots address = some pot → next.pots address = some changed →
      changed.balance + (if address = (w.snapshot auctionId).slashedPot then flow.potPaid else 0) =
        pot.balance + if address = (w.snapshot auctionId).slashedPot then flow.potReceived else 0 := by
  intro address pot changed before after
  rw [same, before] at after
  cases after
  rw [unpaid, unreceived]

theorem auctionExists_ok {w : World σ} {auctionId : AuctionId} {cell : AuctionStorage} :
    w.auctionExists auctionId = .ok cell ↔
      (w.market.auctions auctionId).auction.exists_ = true ∧ w.market.auctions auctionId = cell := by
  simp only [auctionExists, bind_eq_ok, exists_revertIf, pure_eq_ok, Except.ok.injEq, not_not]

theorem transitionState_ok {auction next : Auction} {timestamp : ℕ} {nextState : AuctionState} :
    auction.transitionState timestamp nextState = .ok next ↔
      validTransition auction.state nextState = true ∧
      { auction with state := nextState, lastBlockTimestamp := toUint64 timestamp } = next := by
  simp only [Auction.transitionState, bind_eq_ok, exists_revertIf, pure_eq_ok, Except.ok.injEq, not_not]

section

variable {env : External σ} {w next : World σ} {msg : Msg} {auctionId : AuctionId}

/-- Only an auction that was created has a state. -/
theorem Wired.found_of_state (wired : w.Wired env) {state : AuctionState}
    (same : (w.market.auctions auctionId).auction.state = state) (real : state ≠ .created) :
    (w.market.auctions auctionId).auction.exists_ = true := by
  by_contra absent
  rw [(wired.blank auctionId (Bool.eq_false_iff.mpr absent)).1] at same
  exact real same.symm

/-- The vault an existing auction uses is the one snapshotted with it. -/
theorem Wired.auctionVault (wired : w.Wired env)
    (found : (w.market.auctions auctionId).auction.exists_ = true) :
    w.auctionShieldedEscrowVault (w.market.auctions auctionId) =
      (w.snapshot auctionId).shieldedEscrowVault :=
  if_pos (wired.initialized auctionId found)

theorem Wired.auctionAdapter (wired : w.Wired env)
    (found : (w.market.auctions auctionId).auction.exists_ = true) :
    w.auctionCofheAdapter (w.market.auctions auctionId) = (w.snapshot auctionId).cofheAdapter :=
  if_pos (wired.initialized auctionId found)

theorem Wired.auctionPot (wired : w.Wired env)
    (found : (w.market.auctions auctionId).auction.exists_ = true) :
    w.auctionSlashedPot (w.market.auctions auctionId) = (w.snapshot auctionId).slashedPot :=
  if_pos (wired.initialized auctionId found)

theorem Wired.auctionRegistry (wired : w.Wired env)
    (found : (w.market.auctions auctionId).auction.exists_ = true) :
    w.auctionShieldedIdentityRegistry (w.market.auctions auctionId) =
      (w.snapshot auctionId).shieldedIdentityRegistry :=
  if_pos (wired.initialized auctionId found)

theorem lockEscrow_moves (known : msg.sender ≠ 0) (done : w.lockEscrow msg auctionId = .ok next) :
    (w.market.auctions auctionId).auction.exists_ = true ∧
      Moves env msg.timestamp auctionId { received := msg.value } w next := by
  simp only [lockEscrow, onlyAuctionState, bind_eq_ok, auctionExists_ok, exists_revertIf,
    checkedAdd_eq_ok, pure_eq_ok, Except.ok.injEq, ne_eq, not_not, ge_iff_le, Nat.not_le] at done
  obtain ⟨cell, ⟨found, rfl⟩, active, nonzero, early, escrow, ⟨-, rfl⟩, total, ⟨-, rfl⟩, network, -,
    rfl⟩ := done
  refine ⟨found, Changes.moves (.emit rfl (.credit _ (.setAuction rfl rfl (.setNetwork _ .refl))))
    (.escrowLocked msg.sender msg.value found active early nonzero known) ?_
    (potBalance_of_eq rfl rfl rfl)⟩
  simp only [emit, credit, setAuction, setNetwork]
  omega

theorem view_lane {vault : ShieldedEscrowVault}
    (deployed : w.vaults (w.snapshot auctionId).shieldedEscrowVault = some vault) :
    (w.view auctionId).lane = some (vault.lane auctionId) := by
  simp only [view, deployed, Option.map_some]

theorem bindIdentity_market {registry changed : ShieldedIdentityRegistry} {sender : Address}
    {identityHash commitmentHash : Bytes32}
    (bound : registry.bindIdentity sender auctionId identityHash commitmentHash = .ok changed) :
    changed.market = registry.market := by
  simp only [ShieldedIdentityRegistry.bindIdentity, bind_eq_ok, exists_revertIf, pure_eq_ok,
    Except.ok.injEq] at bound
  obtain ⟨-, -, -, -, -, -, rfl⟩ := bound
  split <;> rfl

theorem lockShieldedEscrow_moves (wired : w.Wired env) {identityHash commitmentHash : Bytes32}
    {claimAuthority : Address}
    (done : w.lockShieldedEscrow env msg auctionId identityHash commitmentHash claimAuthority =
      .ok next) :
    (w.market.auctions auctionId).auction.exists_ = true ∧ Moves env msg.timestamp auctionId {} w next := by
  simp only [lockShieldedEscrow, onlyAuctionState, bind_eq_ok, auctionExists_ok, exists_revertIf,
    requireSome_eq_ok, pure_eq_ok, Except.ok.injEq, ne_eq, not_not, ge_iff_le, Nat.not_le] at done
  obtain ⟨cell, ⟨found, rfl⟩, active, nonzero, -, -, early, vault, deployed, registry, registered,
    network, -, bound, bindsIdentity, locked, locks, rfl⟩ := done
  rw [wired.auctionVault found] at deployed ⊢
  have lane := ShieldedEscrowVault.lockEscrow_lane locks
  refine ⟨found, Changes.moves (.emit rfl (.emit rfl (.setVault rfl deployed lane
    (.setRegistry registered (bindIdentity_market bindsIdentity)
      (.setAuction rfl rfl (.setNetwork network .refl))))))
    (.shieldedEscrowLocked (vault.lane auctionId) commitmentHash claimAuthority msg.value found active
      early nonzero (view_lane deployed)) rfl (potBalance_of_eq rfl rfl rfl)⟩

theorem placeBid_moves {encryptedBid : Bytes32}
    (done : w.placeBid env msg auctionId encryptedBid = .ok next) :
    (w.market.auctions auctionId).auction.exists_ = true ∧ Moves env msg.timestamp auctionId {} w next := by
  simp only [placeBid, onlyAuctionState, bind_eq_ok, auctionExists_ok, exists_revertIf,
    requireSome_eq_ok, pure_eq_ok, Except.ok.injEq, ne_eq, not_not, ge_iff_le, Nat.not_le] at done
  obtain ⟨cell, ⟨found, rfl⟩, active, early, -, -, -, -, -, -, bidCount, -, network, -, rfl⟩ := done
  exact ⟨found, Changes.moves (.emit rfl (.setAuction rfl rfl (.setNetwork network .refl)))
    (.bidPlaced msg.sender encryptedBid bidCount found active early) rfl (potBalance_of_eq rfl rfl rfl)⟩

theorem placeShieldedBid_moves {commitmentHash encryptedBid : Bytes32} {coverageDeadline : ℕ}
    {coverageProof : List UInt8}
    (done : w.placeShieldedBid env msg auctionId commitmentHash encryptedBid coverageDeadline
      coverageProof = .ok next) :
    (w.market.auctions auctionId).auction.exists_ = true ∧ Moves env msg.timestamp auctionId {} w next := by
  simp only [placeShieldedBid, onlyAuctionState, bind_eq_ok, auctionExists_ok, exists_revertIf,
    requireSome_eq_ok, pure_eq_ok, Except.ok.injEq, ne_eq, not_not, ge_iff_le, Nat.not_le] at done
  obtain ⟨cell, ⟨found, rfl⟩, active, early, -, vault, -, -, -, -, -, -, -, bidCount, -, network, -,
    rfl⟩ := done
  exact ⟨found, Changes.moves (.emit rfl (.setAuction rfl rfl (.setNetwork network .refl)))
    (.shieldedBidPlaced commitmentHash encryptedBid bidCount found active early) rfl
    (potBalance_of_eq rfl rfl rfl)⟩

theorem triggerFinalize_moves (known : msg.sender ≠ 0)
    (done : w.triggerFinalize env msg auctionId = .ok next) :
    (w.market.auctions auctionId).auction.exists_ = true ∧ Moves env msg.timestamp auctionId {} w next := by
  simp only [triggerFinalize, onlyAuctionState, computeFinalizeReward, bind_eq_ok, auctionExists_ok,
    exists_revertIf, transitionState_ok, checkedAdd_eq_ok, checkedMul_eq_ok, pure_eq_ok,
    Except.ok.injEq, ne_eq, not_not, Nat.not_lt] at done
  obtain ⟨cell, ⟨found, rfl⟩, active, late, -, network, -, auction, ⟨-, rfl⟩, nonce, ⟨-, rfl⟩, reward,
    ⟨scaled, ⟨-, rfl⟩, rfl⟩, request, -, rfl⟩ := done
  exact ⟨found, Changes.moves (.emit rfl (.emit rfl (.setAuction rfl rfl (.setNetwork network .refl))))
    (.finalizeTriggered msg.sender _ _ _ found active late known rfl) rfl (potBalance_of_eq rfl rfl rfl)⟩

end

end World

end FairMarket
