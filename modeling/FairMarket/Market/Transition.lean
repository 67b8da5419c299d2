import FairMarket.Market.Claiming

/-! Every transaction is a step of at most one auction and keeps the wiring. -/

namespace FairMarket

variable {σ : Type}

namespace World

/-- What an accepted transaction does: one auction may take a step, all others
look the same, and the balances move by the money of that step. -/
structure Transition (env : External σ) (now : ℕ) (auctionId : AuctionId) (flow : Flow)
    (w next : World σ) : Prop where
  others : ∀ other, other ≠ auctionId → next.view other = w.view other
  step : flow = {} ∧ next.view auctionId = w.view auctionId ∨
    AuctionStep env.refundKey auctionId now flow (w.view auctionId) (next.view auctionId)
  balance : next.market.balance + flow.paid + w.unsolicited =
    w.market.balance + flow.received + next.unsolicited
  pots : Tables (fun address pot changed =>
    changed.balance + (if address = (w.snapshot auctionId).slashedPot then flow.potPaid else 0) =
      pot.balance + if address = (w.snapshot auctionId).slashedPot then flow.potReceived else 0)
    w.pots next.pots

theorem Moves.transition {now : ℕ} {auctionId : AuctionId} {flow : Flow} {w next : World σ}
    (moves : Moves env now auctionId flow w next) : Transition env now auctionId flow w next where
  others := fun _ different => moves.frame.view_eq different
  step := .inr moves.step
  balance := moves.balance
  pots := by
    intro address
    have near := moves.frame.pots address
    have balance := moves.potBalance address
    generalize w.pots address = x, next.pots address = y at near balance
    cases near with
    | none => exact .none
    | some near => exact .some (balance _ _ rfl rfl)

/-- No auction is touched; settings of the market or of its dependencies may be. -/
structure Quiet (w next : World σ) : Prop where
  auctions : next.market.auctions = w.market.auctions
  counter : next.market.auctionCounter = w.market.auctionCounter
  vaults : Tables (fun _ vault changed => changed.market = vault.market ∧
    ∀ auctionId, changed.lane auctionId = vault.lane auctionId) w.vaults next.vaults
  pots : next.pots = w.pots
  registries : next.registries = w.registries
  engines : Tables (fun _ _ _ => True) w.engines next.engines
  log : next.log = w.log
  balance : next.market.balance + w.unsolicited = w.market.balance + next.unsolicited

namespace Quiet

variable {env : External σ} {w next : World σ}

theorem view_eq (quiet : Quiet w next) (auctionId : AuctionId) :
    next.view auctionId = w.view auctionId := by
  have lane : (next.vaults (w.snapshot auctionId).shieldedEscrowVault).map (·.lane auctionId) =
      (w.vaults (w.snapshot auctionId).shieldedEscrowVault).map (·.lane auctionId) := by
    have near := quiet.vaults (w.snapshot auctionId).shieldedEscrowVault
    generalize w.vaults _ = x, next.vaults _ = y at near
    cases near with
    | none => rfl
    | some near => exact congrArg some (near.2 auctionId)
  have dependencies : next.snapshot auctionId = w.snapshot auctionId := by
    rw [snapshot, snapshot, quiet.auctions]
  simp only [view, dependencies, lane, quiet.auctions, quiet.pots, quiet.log]

theorem transition (quiet : Quiet w next) (now : ℕ) (auctionId : AuctionId) :
    Transition env now auctionId {} w next where
  others := fun other _ => quiet.view_eq other
  step := .inl ⟨rfl, quiet.view_eq auctionId⟩
  balance := quiet.balance
  pots := by
    rw [quiet.pots]
    refine .refl fun address pot => ?_
    simp only [ite_self]

theorem wired (quiet : Quiet w next) (wired : w.Wired env) : next.Wired env := by
  have snapshots : next.snapshot = w.snapshot := by
    funext auctionId
    rw [snapshot, snapshot, quiet.auctions]
  have deployed : ∀ {pot vault registry engine}, w.Deployed pot vault registry engine →
      next.Deployed pot vault registry engine := fun before =>
    before.transfer (by rw [quiet.pots]) (quiet.vaults.isSome_eq _) (by rw [quiet.registries])
      (quiet.engines.isSome_eq _)
  constructor
  · intro address changed present
    obtain ⟨vault, before, market, -⟩ := quiet.vaults.exists_before present
    exact market.trans (wired.vaultMarket address vault before)
  · intro address changed auctionId present away
    obtain ⟨vault, before, -, lanes⟩ := quiet.vaults.exists_before present
    rw [quiet.auctions, snapshots] at away
    exact (lanes auctionId).trans (wired.lanes address vault auctionId before away)
  · rw [quiet.pots]
    exact wired.potMarket
  · rw [quiet.pots, quiet.auctions, snapshots]
    exact wired.pots
  · rw [quiet.registries]
    exact wired.registryMarket
  · obtain ⟨vaults, registries, pots, engines⟩ := wired.zero
    exact ⟨quiet.vaults.eq_none vaults, by rw [quiet.registries, registries],
      by rw [quiet.pots, pots], quiet.engines.eq_none engines⟩
  · rw [quiet.auctions, quiet.counter]
    exact wired.counted
  · rw [quiet.auctions, quiet.log]
    exact wired.blank
  · rw [quiet.auctions, snapshots]
    exact wired.initialized
  · rw [quiet.auctions, snapshots]
    exact fun auctionId found => deployed (wired.snapshots auctionId found)

end Quiet

/-- A world in which only the clock has moved. -/
theorem quiet_clock (w : World σ) (timestamp : ℕ) : Quiet w { w with timestamp } where
  auctions := rfl
  counter := rfl
  vaults := .refl fun _ _ => ⟨rfl, fun _ => rfl⟩
  pots := rfl
  registries := rfl
  engines := .refl fun _ _ => trivial
  log := rfl
  balance := rfl

section Settings

variable {env : External σ} {w next : World σ} {sender : Address}

theorem receiveEther_quiet (amount : ℕ) : Quiet w (w.receiveEther amount) :=
  { quiet_clock w w.timestamp with
    balance := by
      simp only [receiveEther, credit]
      omega }

theorem setOutside_quiet (outside : σ) : Quiet w (w.setOutside outside) :=
  { quiet_clock w w.timestamp with }

theorem setAVS_quiet {address newAVS : Address}
    (done : w.setAVS sender address newAVS = .ok next) : Quiet w next := by
  simp only [setAVS, bind_eq_ok, requireSome_eq_ok, pure_eq_ok, Except.ok.injEq] at done
  obtain ⟨engine, deployed, changed, -, rfl⟩ := done
  exact { quiet_clock w w.timestamp with
    engines := .update (fun _ _ => trivial) deployed trivial }

/-- Writing a vault with the same market and lanes. -/
theorem setVault_quiet {address : Address} {vault changed : ShieldedEscrowVault}
    (deployed : w.vaults address = some vault) (market : changed.market = vault.market)
    (lanes : ∀ auctionId, changed.lane auctionId = vault.lane auctionId) :
    Quiet w (w.setVault address changed) :=
  { quiet_clock w w.timestamp with
    vaults := .update (fun _ _ => ⟨rfl, fun _ => rfl⟩) deployed ⟨market, lanes⟩ }

theorem setShieldedBidVerifier_quiet {address newVerifier : Address}
    (done : w.setShieldedBidVerifier sender address newVerifier = .ok next) : Quiet w next := by
  simp only [setShieldedBidVerifier, ShieldedEscrowVault.setShieldedBidVerifier, bind_eq_ok,
    requireSome_eq_ok, exists_revertIf, pure_eq_ok, Except.ok.injEq] at done
  obtain ⟨vault, deployed, changed, ⟨-, rfl⟩, rfl⟩ := done
  exact setVault_quiet deployed rfl fun _ => rfl

theorem setPreviewReader_quiet {address newPreviewReader : Address}
    (done : w.setPreviewReader sender address newPreviewReader = .ok next) : Quiet w next := by
  simp only [setPreviewReader, ShieldedEscrowVault.setPreviewReader, bind_eq_ok, requireSome_eq_ok,
    exists_revertIf, pure_eq_ok, Except.ok.injEq] at done
  obtain ⟨vault, deployed, changed, ⟨-, -, rfl⟩, rfl⟩ := done
  exact setVault_quiet deployed rfl fun _ => rfl

end Settings

section Creation

variable {env : External σ} {w next : World σ} {msg : Msg} {nftContract : Address}
  {tokenId duration startingPrice sellerDeposit : ℕ} {isVickrey : Bool}

/-- The id the next auction gets. -/
def nextAuctionId (w : World σ) : AuctionId := BitVec.ofNat 256 (w.market.auctionCounter + 1)

/-- What `createAuction` checks and writes when it returns, besides the network observation. -/
theorem createAuction_ok
    (done : w.createAuction env msg nftContract tokenId duration startingPrice sellerDeposit isVickrey =
      .ok next) :
    FitsUint256 (w.market.auctionCounter + 1) ∧ sellerDeposit ≠ 0 ∧ msg.value = sellerDeposit ∧
      env.ownerOf w.outside nftContract tokenId = some msg.sender ∧
      ∃ network outside,
        env.safeTransferFrom w.outside nftContract msg.sender env.market tokenId = .ok outside ∧
        next = ((((({ w with market.auctionCounter := w.market.auctionCounter + 1 }.setNetwork
          network).setAuction w.nextAuctionId { w.market.auctions w.nextAuctionId with
            auction := { (w.market.auctions w.nextAuctionId).auction with
              exists_ := true
              nftContract
              tokenId
              seller := msg.sender
              endTime := toUint64 (msg.timestamp + duration)
              sellerDeposit
              state := .active
              isVickrey
              lastBlockTimestamp := toUint64 msg.timestamp
              createdAt := toUint64 msg.timestamp
              startingPrice }
            dependencySnapshot := {
              initialized := true
              cofheAdapter := w.market.cofheAdapter
              settlementEngine := w.market.settlementEngine
              slashedPot := w.market.slashedPot
              shieldedEscrowVault := w.market.shieldedEscrowVault
              shieldedIdentityRegistry := w.market.shieldedIdentityRegistry } }).setOutside
                outside).credit sellerDeposit).emit
                  (.auctionStateChanged w.nextAuctionId .created .active)).emit
                    (.auctionCreated w.nextAuctionId msg.sender nftContract tokenId sellerDeposit) := by
  simp only [createAuction, bind_eq_ok, exists_revertIf, requireSome_eq_ok, checkedAdd_eq_ok,
    transitionState_ok, pure_eq_ok, Except.ok.injEq, ne_eq, not_or, not_not] at done
  obtain ⟨-, -, -, ⟨nonzero, funded⟩, tokenOwner, owner, rfl, -, -, -, -, -, counter, ⟨fits, rfl⟩,
    endTime, ⟨-, rfl⟩, network, -, auction, ⟨-, rfl⟩, outside, transferred, rfl⟩ := done
  rw [funded] at nonzero
  refine ⟨fits, nonzero, funded, owner, network, outside, transferred, ?_⟩
  rw [funded]
  rfl

theorem Wired.nextAuctionId_absent (wired : w.Wired env)
    (fits : FitsUint256 (w.market.auctionCounter + 1)) :
    (w.market.auctions w.nextAuctionId).auction.exists_ = false := by
  rw [← Bool.not_eq_true]
  intro found
  have bounded := (wired.counted _ found).2
  rw [nextAuctionId, BitVec.toNat_ofNat, Nat.mod_eq_of_lt fits] at bounded
  omega

/-- The snapshot a new auction takes of the market's dependencies. -/
def dependencies (w : World σ) : AuctionDependencySnapshot where
  initialized := true
  cofheAdapter := w.market.cofheAdapter
  settlementEngine := w.market.settlementEngine
  slashedPot := w.market.slashedPot
  shieldedEscrowVault := w.market.shieldedEscrowVault
  shieldedIdentityRegistry := w.market.shieldedIdentityRegistry

/-- From `w` to `next` one new auction appears and no contract changes. -/
structure Creates (w next : World σ) (auction : Auction) (log : List Event) : Prop where
  fits : FitsUint256 (w.market.auctionCounter + 1)
  own : next.market.auctions w.nextAuctionId = { auction, dependencySnapshot := w.dependencies }
  found : auction.exists_ = true
  others : ∀ other, other ≠ w.nextAuctionId → next.market.auctions other = w.market.auctions other
  ownLog : (next.log.filter fun event => event.auctionId = w.nextAuctionId) = log
  otherLogs : ∀ other, other ≠ w.nextAuctionId →
    (next.log.filter fun event => event.auctionId = other) =
      w.log.filter fun event => event.auctionId = other
  settings : next.market.settings =
    { w.market.settings with auctionCounter := w.market.auctionCounter + 1 }
  vaults : next.vaults = w.vaults
  pots : next.pots = w.pots
  registries : next.registries = w.registries
  engines : next.engines = w.engines

namespace Creates

variable {auction : Auction} {log : List Event}

theorem snapshot_own (creates : Creates w next auction log) :
    next.snapshot w.nextAuctionId = w.dependencies := by
  rw [snapshot, creates.own]

theorem snapshot_other (creates : Creates w next auction log) {other : AuctionId}
    (different : other ≠ w.nextAuctionId) : next.snapshot other = w.snapshot other := by
  rw [snapshot, snapshot, creates.others other different]

theorem view_other (creates : Creates w next auction log) {other : AuctionId}
    (different : other ≠ w.nextAuctionId) : next.view other = w.view other := by
  simp only [view, creates.snapshot_other different, creates.others other different, creates.vaults,
    creates.pots, creates.otherLogs other different]

/-- The vault knew nothing of the new auction, and neither did the pot. -/
theorem view_own (wired : w.Wired env) (creates : Creates w next auction log) :
    ∃ lane, (lane = none ∨ lane = some {}) ∧ next.view w.nextAuctionId =
      { cell := { auction, dependencySnapshot := w.dependencies }, lane, log } := by
  have absent := wired.nextAuctionId_absent creates.fits
  refine ⟨(w.vaults w.market.shieldedEscrowVault).map (·.lane w.nextAuctionId), ?_, ?_⟩
  · cases deployed : w.vaults w.market.shieldedEscrowVault with
    | none => exact .inl rfl
    | some vault =>
      refine .inr (congrArg some (wired.lanes _ vault _ deployed fun found => ?_))
      rw [absent] at found
      cases found
  · have pot : ((w.pots w.market.slashedPot).map (·.pots w.nextAuctionId)).getD {} = {} := by
      cases deployed : w.pots w.market.slashedPot with
      | none => rfl
      | some pot =>
        refine wired.pots _ pot _ deployed fun found => ?_
        rw [absent] at found
        cases found
    simp only [view, creates.snapshot_own, creates.own, creates.vaults, creates.pots, creates.ownLog]
    exact congrArg (fun pot => AuctionView.mk _ _ pot log) pot

theorem wired (wired : w.Wired env) (configured : w.Configured) (creates : Creates w next auction log) :
    next.Wired env := by
  have absent := wired.nextAuctionId_absent creates.fits
  have counter : next.market.auctionCounter = w.market.auctionCounter + 1 :=
    congrArg Settings.auctionCounter creates.settings
  have deployed : ∀ {pot vault registry engine}, w.Deployed pot vault registry engine →
      next.Deployed pot vault registry engine := fun before =>
    before.transfer (by rw [creates.pots]) (by rw [creates.vaults]) (by rw [creates.registries])
      (by rw [creates.engines])
  have before : ∀ {other}, (w.market.auctions other).auction.exists_ = true →
      (next.market.auctions other).auction.exists_ = true ∧ next.snapshot other = w.snapshot other := by
    intro other found
    have different : other ≠ w.nextAuctionId := by
      rintro rfl
      rw [absent] at found
      cases found
    rw [creates.others other different]
    exact ⟨found, creates.snapshot_other different⟩
  constructor
  · rw [creates.vaults]
    exact wired.vaultMarket
  · intro address vault other present away
    rw [creates.vaults] at present
    refine wired.lanes address vault other present fun found => ?_
    obtain ⟨kept, pinned⟩ := before found
    rw [← pinned]
    exact away kept
  · rw [creates.pots]
    exact wired.potMarket
  · intro address pot other present away
    rw [creates.pots] at present
    refine wired.pots address pot other present fun found => ?_
    obtain ⟨kept, pinned⟩ := before found
    rw [← pinned]
    exact away kept
  · rw [creates.registries]
    exact wired.registryMarket
  · rw [creates.vaults, creates.registries, creates.pots, creates.engines]
    exact wired.zero
  · intro other found
    rw [counter]
    by_cases same : other = w.nextAuctionId
    · subst same
      have number : w.nextAuctionId.toNat = w.market.auctionCounter + 1 :=
        (BitVec.toNat_ofNat ..).trans (Nat.mod_eq_of_lt creates.fits)
      refine ⟨fun zero => ?_, number.le⟩
      rw [zero] at number
      exact absurd number (Nat.succ_ne_zero _).symm
    · rw [creates.others other same] at found
      obtain ⟨nonzero, bounded⟩ := wired.counted other found
      exact ⟨nonzero, bounded.trans (Nat.le_succ _)⟩
  · intro other missing
    have different : other ≠ w.nextAuctionId := by
      rintro rfl
      rw [creates.own] at missing
      exact absurd (creates.found.symm.trans missing) Bool.noConfusion
    rw [creates.others other different] at missing ⊢
    rw [creates.otherLogs other different]
    exact wired.blank other missing
  · intro other found
    by_cases same : other = w.nextAuctionId
    · rw [same, creates.snapshot_own]
      rfl
    · rw [creates.others other same] at found
      rw [creates.snapshot_other same]
      exact wired.initialized other found
  · intro other found
    by_cases same : other = w.nextAuctionId
    · rw [same, creates.snapshot_own]
      exact deployed configured
    · rw [creates.others other same] at found
      rw [creates.snapshot_other same]
      exact deployed (wired.snapshots other found)

end Creates

theorem filter_about {event : Event} {auctionId : AuctionId} {log : List Event}
    (about : event.auctionId = auctionId) :
    ((event :: log).filter fun event => event.auctionId = auctionId) =
      event :: log.filter fun event => event.auctionId = auctionId := by
  simp [about]

theorem createAuction_creates (wired : w.Wired env)
    (done : w.createAuction env msg nftContract tokenId duration startingPrice sellerDeposit isVickrey =
      .ok next) :
    Creates w next
      (newAuction nftContract tokenId msg.sender (toUint64 (msg.timestamp + duration)) sellerDeposit
        startingPrice msg.timestamp isVickrey)
      [.auctionCreated w.nextAuctionId msg.sender nftContract tokenId sellerDeposit,
        .auctionStateChanged w.nextAuctionId .created .active] := by
  obtain ⟨fits, -, -, -, network, outside, -, rfl⟩ := createAuction_ok done
  obtain ⟨empty, silent⟩ := wired.blank _ (wired.nextAuctionId_absent fits)
  constructor
  · exact fits
  · simp only [emit, credit, setOutside, setAuction, setNetwork, Function.update_self, empty]
    rfl
  · rfl
  · exact fun other different => Function.update_of_ne different ..
  · simp only [emit, credit, setOutside, setAuction, setNetwork]
    refine (filter_about ?_).trans (congrArg (List.cons _)
      ((filter_about ?_).trans (congrArg (List.cons _) silent)))
    all_goals rfl
  · intro other different
    simp [emit, credit, setOutside, setAuction, setNetwork, Event.auctionId, different.symm]
  all_goals rfl

theorem createAuction_transition (wired : w.Wired env) (known : msg.sender ≠ 0) (configured : w.Configured)
    (done : w.createAuction env msg nftContract tokenId duration startingPrice sellerDeposit isVickrey =
      .ok next) :
    next.Wired env ∧
      Transition env msg.timestamp w.nextAuctionId { received := sellerDeposit } w next := by
  have creates := createAuction_creates wired done
  obtain ⟨lane, vacant, after⟩ := creates.view_own wired
  obtain ⟨fits, nonzero, -, -, network, outside, -, rfl⟩ := createAuction_ok done
  refine ⟨creates.wired wired configured, fun other different => creates.view_other different, .inr ?_, ?_, ?_⟩
  · rw [after]
    exact .created nftContract tokenId msg.sender _ sellerDeposit startingPrice isVickrey w.dependencies
      lane (wired.view_blank (wired.nextAuctionId_absent fits)) nonzero known rfl vacant
  · simp only [emit, credit, setOutside, setAuction, setNetwork]
    omega
  · refine .refl fun address pot => ?_
    simp only [ite_self]

end Creation

/-- No auction appears. -/
def SameAuctions (w next : World σ) : Prop :=
  ∀ auctionId, (next.market.auctions auctionId).auction.exists_ =
    (w.market.auctions auctionId).auction.exists_

theorem Frame.sameAuctions {auctionId : AuctionId} {w next : World σ} (frame : Frame auctionId w next) :
    SameAuctions w next := by
  intro other
  by_cases same : other = auctionId
  · rw [same]
    exact frame.found
  · rw [frame.cells other same]

/-- What every transaction keeps. Only a creation adds an auction. -/
structure Keeps (env : External σ) (now : ℕ) (creates : Bool) (w next : World σ) : Prop where
  wired : next.Wired env
  transition : ∃ auctionId flow, Transition env now auctionId flow w next
  sameAuctions : creates = false → SameAuctions w next

theorem Moves.keeps {env : External σ} {now : ℕ} {auctionId : AuctionId} {flow : Flow} {w next : World σ}
    {creates : Bool} (wired : w.Wired env)
    (moves : (w.market.auctions auctionId).auction.exists_ = true ∧ Moves env now auctionId flow w next) :
    Keeps env now creates w next :=
  ⟨wired.of_frame moves.2.frame moves.1, ⟨auctionId, flow, moves.2.transition⟩,
    fun _ => moves.2.frame.sameAuctions⟩

theorem Moves.keeps_some {env : External σ} {now : ℕ} {auctionId : AuctionId} {w next : World σ}
    {creates : Bool} (wired : w.Wired env)
    (moves : (w.market.auctions auctionId).auction.exists_ = true ∧
      ∃ flow, Moves env now auctionId flow w next) : Keeps env now creates w next := by
  obtain ⟨found, flow, moved⟩ := moves
  exact Moves.keeps wired ⟨found, moved⟩

theorem Quiet.keeps {env : External σ} {w next : World σ} {creates : Bool} (wired : w.Wired env)
    (now : ℕ) (quiet : Quiet w next) : Keeps env now creates w next :=
  ⟨quiet.wired wired, ⟨0, {}, quiet.transition now 0⟩, fun _ auctionId => by rw [quiet.auctions]⟩

theorem afterResolution_ok {outcome : Except Revert (Bool × World σ)} {next : World σ} :
    afterResolution outcome = .ok next ↔ ∃ accepted, outcome = .ok (accepted, next) := by
  simp [afterResolution, bind_eq_ok]

theorem execute_transition {env : External σ} {w next : World σ} {msg : Msg} (wired : w.Wired env)
    (known : msg.sender ≠ 0) {tx : Tx σ} (configured : tx.creates = true → w.Configured)
    (done : w.execute env msg tx = .ok next) : Keeps env msg.timestamp tx.creates w next := by
  cases tx with
  | createAuction =>
    obtain ⟨kept, transition⟩ := createAuction_transition wired known (configured rfl) done
    exact ⟨kept, ⟨_, _, transition⟩, nofun⟩
  | lockEscrow => exact Moves.keeps wired (lockEscrow_moves known done)
  | lockShieldedEscrow => exact Moves.keeps wired (lockShieldedEscrow_moves wired done)
  | placeBid => exact Moves.keeps wired (placeBid_moves done)
  | placeShieldedBid => exact Moves.keeps wired (placeShieldedBid_moves done)
  | triggerFinalize => exact Moves.keeps wired (triggerFinalize_moves known done)
  | submitResolution =>
    obtain ⟨accepted, submitted⟩ := afterResolution_ok.mp done
    exact Moves.keeps wired (submitResolution_moves wired submitted)
  | submitShieldedResolution =>
    obtain ⟨accepted, submitted⟩ := afterResolution_ok.mp done
    exact Moves.keeps_some wired (submitShieldedResolution_moves wired submitted)
  | cancelAuction => exact Moves.keeps_some wired (cancelAuction_moves wired done)
  | triggerFallbackVoid => exact Moves.keeps_some wired (triggerFallbackVoid_moves wired done)
  | claimRefund =>
    obtain ⟨found, -, moves⟩ := claimRefund_moves wired known done
    exact Moves.keeps wired ⟨found, moves⟩
  | claimSellerProceeds =>
    obtain ⟨found, -, moves⟩ := claimSellerProceeds_moves wired done
    exact Moves.keeps wired ⟨found, moves⟩
  | claimFinalizeReward =>
    obtain ⟨found, -, moves⟩ := claimFinalizeReward_moves done
    exact Moves.keeps wired ⟨found, moves⟩
  | claimAsset => exact Moves.keeps wired (claimAsset_moves done)
  | claimShieldedAssetWithAuthorization =>
    exact Moves.keeps wired (claimShieldedAsset_moves wired done)
  | claimRefundWithAuthorization =>
    obtain ⟨auctionId, moves⟩ := claimRefundWithAuthorization_moves wired done
    exact Moves.keeps wired moves
  | receive =>
    obtain rfl := Except.ok.inj done
    exact (receiveEther_quiet msg.value).keeps wired _
  | setCofheAdapter | setSettlementEngine | setSlashedPot | setShieldedEscrowVault
  | setShieldedIdentityRegistry =>
    simp only [execute, setCofheAdapter, setSettlementEngine, setSlashedPot, setShieldedEscrowVault,
      setShieldedIdentityRegistry, bind_eq_ok, pure_eq_ok, Except.ok.injEq] at done
    obtain ⟨-, -, -, -, rfl⟩ := done
    refine Quiet.keeps wired _ ?_
    exact { quiet_clock w w.timestamp with }
  | setAVS => exact (setAVS_quiet done).keeps wired _
  | setShieldedBidVerifier => exact (setShieldedBidVerifier_quiet done).keeps wired _
  | setPreviewReader => exact (setPreviewReader_quiet done).keeps wired _
  | outside outside =>
    simp only [execute, bind_eq_ok, exists_revertIf, pure_eq_ok, Except.ok.injEq] at done
    obtain ⟨-, rfl⟩ := done
    exact (setOutside_quiet outside).keeps wired _

/-- What an accepted transaction checks before its entry point runs. -/
theorem transact_ok {env : External σ} {w next : World σ} {msg : Msg} {tx : Tx σ} :
    w.transact env (msg, tx) = .ok next ↔
      (msg.sender ≠ 0 ∧ w.isSystem env msg.sender = false ∧ w.timestamp ≤ msg.timestamp ∧
        (tx.creates = true → w.Configured) ∧ (msg.value ≠ 0 → tx.payable = true)) ∧
      ∃ executed, w.execute env msg tx = .ok executed ∧
        { executed with timestamp := msg.timestamp } = next := by
  simp only [transact, bind_eq_ok, exists_revertIf, not_or, not_and, not_not, Bool.not_eq_true,
    Bool.not_eq_false, Nat.not_lt, ne_eq, and_assoc, pure_eq_ok, Except.ok.injEq]

/-- A call without value that is in time, of an account and about what exists, does what its body does. -/
theorem transact_unpaid {env : External σ} {w executed : World σ} {msg : Msg} {tx : Tx σ}
    (existing : tx.creates = false) (known : msg.sender ≠ 0) (stranger : w.isSystem env msg.sender = false)
    (timely : w.timestamp ≤ msg.timestamp) (unpaid : msg.value = 0) (executes : w.execute env msg tx = .ok executed) :
    w.transact env (msg, tx) = .ok { executed with timestamp := msg.timestamp } := by
  refine transact_ok.mpr ⟨⟨known, stranger, timely, ?_, fun paid => absurd unpaid paid⟩, executed, executes, rfl⟩
  exact fun creates => absurd (existing.symm.trans creates) Bool.false_ne_true

/-- Every accepted transaction keeps the wiring and is a step of one auction at most. -/
theorem transact_transition {env : External σ} {w next : World σ} {msg : Msg} {tx : Tx σ}
    (wired : w.Wired env) (done : w.transact env (msg, tx) = .ok next) :
    next.Wired env ∧ w.timestamp ≤ msg.timestamp ∧ next.timestamp = msg.timestamp ∧
      ∃ auctionId flow, Transition env msg.timestamp auctionId flow w next := by
  obtain ⟨⟨known, -, monotone, configured, -⟩, executed, executes, rfl⟩ := transact_ok.mp done
  obtain ⟨kept, ⟨auctionId, flow, transition⟩, -⟩ := execute_transition wired known configured executes
  exact ⟨(quiet_clock executed msg.timestamp).wired kept, monotone, rfl, auctionId, flow,
    ⟨transition.others, transition.step, transition.balance, transition.pots⟩⟩

theorem transact_sameAuctions {env : External σ} {w next : World σ} {msg : Msg} {tx : Tx σ}
    (wired : w.Wired env) (creates : tx.creates = false) (done : w.transact env (msg, tx) = .ok next) :
    SameAuctions w next := by
  obtain ⟨⟨known, -, -, configured, -⟩, executed, executes, rfl⟩ := transact_ok.mp done
  exact (execute_transition wired known configured executes).sameAuctions creates

end World

end FairMarket
