import FairMarket.Keeper.CollectedBook
import FairMarket.Keeper.Retirement

/-! The bids of an auction that awaits its resolution stand still, so a job that was
collected once stays the job of its auction. -/

namespace FairMarket

open Keeper

variable {σ : Type}

/-- The auction awaits its resolution, or has ended. -/
def AuctionView.Waited (v : AuctionView) : Prop :=
  v.cell.auction.state = .resolving ∨ v.cell.auction.state.terminal = true

section Step

variable {refundKey : Bytes32 → Bytes32} {auctionId : AuctionId} {now : ℕ} {flow : Flow} {v next : AuctionView}

theorem AuctionStep.waited (step : AuctionStep refundKey auctionId now flow v next) (before : v.Waited) :
    next.Waited := by
  cases step with
  | created _ _ _ _ _ _ _ _ _ fresh =>
    subst fresh
    exact before.elim (absurd · (by decide)) (absurd · (by decide))
  | escrowLocked _ _ _ active =>
    rw [AuctionView.Waited, active] at before
    exact before.elim (absurd · (by decide)) (absurd · (by decide))
  | shieldedEscrowLocked _ _ _ _ _ active =>
    rw [AuctionView.Waited, active] at before
    exact before.elim (absurd · (by decide)) (absurd · (by decide))
  | bidPlaced _ _ _ _ active =>
    rw [AuctionView.Waited, active] at before
    exact before.elim (absurd · (by decide)) (absurd · (by decide))
  | shieldedBidPlaced _ _ _ _ active =>
    rw [AuctionView.Waited, active] at before
    exact before.elim (absurd · (by decide)) (absurd · (by decide))
  | finalizeTriggered => exact .inl rfl
  | resolved => exact .inr (by simp [AuctionState.terminal])
  | shieldedResolved => exact .inr (by simp [AuctionState.terminal])
  | cancelled => exact .inr (by simp [AuctionState.terminal])
  | voided => exact .inr (by simp [AuctionState.terminal])
  | _ => exact before

/-- All that can happen to it before it ends is that a resolution is rejected. -/
theorem AuctionStep.resolving_cell (step : AuctionStep refundKey auctionId now flow v next)
    (resolving : v.cell.auction.state = .resolving) (still : next.cell.auction.state = .resolving) :
    next.cell = v.cell := by
  have early : v.cell.auction.state.terminal = false := by
    rw [resolving]
    rfl
  cases step with
  | created _ _ _ _ _ _ _ _ _ fresh =>
    rw [fresh] at resolving
    cases resolving
  | escrowLocked _ _ _ active => cases resolving.symm.trans active
  | shieldedEscrowLocked _ _ _ _ _ active => cases resolving.symm.trans active
  | bidPlaced _ _ _ _ active => cases resolving.symm.trans active
  | shieldedBidPlaced _ _ _ _ active => cases resolving.symm.trans active
  | finalizeTriggered _ _ _ _ _ active => cases resolving.symm.trans active
  | resolutionRejected => rfl
  | resolved => simp at still
  | shieldedResolved => simp at still
  | cancelled => simp at still
  | voided => simp at still
  | refundClaimed claimant _ _ _ some =>
    simp [AuctionView.refundOf, AuctionView.compensationOf, AuctionStorage.refundOf, AuctionStorage.compensationOf,
      resolving] at some
  | sellerProceedsClaimed _ _ nonzero => simp [AuctionView.sellerPayout, resolving] at nonzero
  | finalizeRewardClaimed _ _ settled =>
    rw [resolving] at settled
    exact settled.elim (absurd · (by decide)) (absurd · (by decide))
  | assetClaimed _ _ finalized => cases resolving.symm.trans finalized
  | shieldedRefunded _ _ _ _ _ terminal => cases early.symm.trans terminal

end Step

namespace World

/-- Nothing has changed in an auction that a keeper reads for its job. -/
structure StandsStill (auctionId : AuctionId) (w next : World σ) : Prop where
  cell : next.market.auctions auctionId = w.market.auctions auctionId
  names : ∀ c ∈ (w.market.auctions auctionId).shieldedCommitments,
    next.pinnedIdentity auctionId c = w.pinnedIdentity auctionId c
  escrows : ∀ c ∈ (w.market.auctions auctionId).shieldedCommitments,
    next.pinnedEscrow auctionId c = w.pinnedEscrow auctionId c
  vaults : ∀ address, (next.vaults address).isSome = (w.vaults address).isSome
  registries : ∀ address, (next.registries address).isSome = (w.registries address).isSome

/-- The same vault and registry are set, and the account reads the auction's deposits from them, or does not,
as before. -/
structure AskedAlike (account : Address) (auctionId : AuctionId) (w next : World σ) : Prop where
  vault : next.market.shieldedEscrowVault = w.market.shieldedEscrowVault
  registry : next.market.shieldedIdentityRegistry = w.market.shieldedIdentityRegistry
  reads : next.ReadsDeposits account auctionId ↔ w.ReadsDeposits account auctionId

variable {env : External σ} {w middle next : World σ} {account : Address} {auctionId : AuctionId} {msg : Msg}
  {tx : Tx σ}

namespace StandsStill

theorem refl (w : World σ) : StandsStill auctionId w w :=
  ⟨rfl, fun _ _ => rfl, fun _ _ => rfl, fun _ => rfl, fun _ => rfl⟩

theorem trans (first : StandsStill auctionId w middle) (second : StandsStill auctionId middle next) :
    StandsStill auctionId w next where
  cell := second.cell.trans first.cell
  names := fun c listed => (second.names c (first.cell ▸ listed)).trans (first.names c listed)
  escrows := fun c listed => (second.escrows c (first.cell ▸ listed)).trans (first.escrows c listed)
  vaults := fun address => (second.vaults address).trans (first.vaults address)
  registries := fun address => (second.registries address).trans (first.registries address)

theorem snapshot (same : StandsStill auctionId w next) : next.snapshot auctionId = w.snapshot auctionId :=
  congrArg AuctionStorage.dependencySnapshot same.cell

theorem publicEntries (same : StandsStill auctionId w next) :
    next.publicEntries auctionId = w.publicEntries auctionId := by
  unfold World.publicEntries publicEntry
  rw [same.cell]

/-- The shielded half, under names that have not changed. -/
theorem shieldedEntries (same : StandsStill auctionId w next) {used before : Bytes32 → Bytes32}
    (names : ∀ c ∈ (w.market.auctions auctionId).shieldedCommitments, used c = before c) :
    next.shieldedEntries auctionId used = w.shieldedEntries auctionId before := by
  unfold World.shieldedEntries
  rw [same.cell]
  apply List.map_congr_left
  intro c listed
  unfold shieldedEntry
  rw [same.cell, names c listed, same.escrows c listed]

theorem bidBook (same : StandsStill auctionId w next) : next.bidBook auctionId = w.bidBook auctionId :=
  congrArg₂ (· ++ ·) same.publicEntries (same.shieldedEntries same.names)

theorem jobOf_iff (same : StandsStill auctionId w next) {job : Keeper.CoFheDispatchJob} :
    JobOf next auctionId job ↔ JobOf w auctionId job := by
  constructor
  · intro of
    exact ⟨of.about, of.price.trans (by rw [same.cell]), by rw [← same.bidBook]; exact of.book⟩
  · intro of
    exact ⟨of.about, of.price.trans (by rw [same.cell]), by rw [same.bidBook]; exact of.book⟩

theorem asksOwn (same : StandsStill auctionId w next) (alike : AskedAlike account auctionId w next)
    (asks : w.AsksOwn) : next.AsksOwn := by
  constructor
  · rw [alike.vault, same.vaults]
    exact asks.vault
  · rw [alike.registry, same.registries]
    exact asks.registry

/-- A registry names the commitments as before, if it is set as before. -/
theorem currentName (same : StandsStill auctionId w next) (alike : AskedAlike account auctionId w next)
    (asks : w.AsksOwn) (before : w.Coherent env auctionId) (after : next.Coherent env auctionId)
    (running : (w.market.auctions auctionId).auction.state.running = true) {c : Bytes32}
    (listed : c ∈ (w.market.auctions auctionId).shieldedCommitments) :
    next.currentName env account auctionId c = w.currentName env account auctionId c := by
  by_cases pinned : w.market.shieldedIdentityRegistry = (w.snapshot auctionId).shieldedIdentityRegistry
  · obtain ⟨_, _, standing⟩ := before.standing running listed
    obtain ⟨_, _, still⟩ := after.standing (by rw [same.cell]; exact running) (by rw [same.cell]; exact listed)
    rw [standing.currentName_pinned before.wired pinned,
      still.currentName_pinned after.wired (by rw [alike.registry, same.snapshot, pinned]), same.names c listed]
  · rw [before.aliased.currentName_rotated asks c pinned,
      after.aliased.currentName_rotated (same.asksOwn alike asks) c (by rwa [alike.registry, same.snapshot])]

/-- Who asks as before gets what it got before. -/
theorem collect (same : StandsStill auctionId w next) (alike : AskedAlike account auctionId w next) (asks : w.AsksOwn)
    (before : w.Coherent env auctionId) (after : next.Coherent env auctionId)
    (running : (w.market.auctions auctionId).auction.state.running = true) :
    next.collectEncryptedBidsFromChain env account auctionId =
      w.collectEncryptedBidsFromChain env account auctionId := by
  have still : (next.market.auctions auctionId).auction.state.running = true := by rwa [same.cell]
  by_cases reads : w.ReadsDeposits account auctionId
  · rw [before.collect_reads running asks reads,
      after.collect_reads still (same.asksOwn alike asks) (alike.reads.mpr reads), same.publicEntries,
      same.shieldedEntries fun c listed => same.currentName alike asks before after running listed]
  · rw [before.collect_unread running asks reads,
      after.collect_unread still (same.asksOwn alike asks) (mt alike.reads.mp reads), same.publicEntries]

end StandsStill

/-- A commitment that has a name keeps it. -/
theorem Coherent.pinnedIdentity_kept (coherent : w.Coherent env auctionId) (aliased : next.Aliased)
    (done : w.transact env (msg, tx) = .ok next) (same : next.snapshot auctionId = w.snapshot auctionId)
    {c : Bytes32} {vault : ShieldedEscrowVault} {registry : ShieldedIdentityRegistry}
    (standing : w.Standing auctionId c vault registry) :
    next.pinnedIdentity auctionId c = w.pinnedIdentity auctionId c := by
  obtain ⟨changed, deployed, binds⟩ := (transact_effects coherent.wired done).bindings.exists_after standing.registered
  have before := coherent.aliased.paired _ registry standing.registered
  have after := aliased.paired _ changed deployed
  obtain ⟨nonzero, bound⟩ := before.identity auctionId _ c standing.named rfl
  have kept : changed.identityToCommitment auctionId (registry.commitmentToIdentity auctionId c) = c := by
    rcases binds auctionId (registry.commitmentToIdentity auctionId c) with same | ⟨vacant, -⟩
    · exact same.trans bound
    · exact absurd (bound.symm.trans vacant) nonzero
  unfold pinnedIdentity
  rw [same, deployed, standing.registered]
  exact (after.commitment auctionId _ c nonzero kept).2

theorem Coherent.pinnedEscrow_kept (coherent : w.Coherent env auctionId)
    (done : w.transact env (msg, tx) = .ok next) (same : next.snapshot auctionId = w.snapshot auctionId)
    (found : (w.market.auctions auctionId).auction.exists_ = true)
    (running : (next.market.auctions auctionId).auction.state.running = true)
    {c : Bytes32} {vault : ShieldedEscrowVault} {registry : ShieldedIdentityRegistry}
    (standing : w.Standing auctionId c vault registry) :
    next.pinnedEscrow auctionId c = w.pinnedEscrow auctionId c := by
  have about := standing.about
  obtain ⟨changed, deployed, -⟩ := (transact_effects coherent.wired done).vaults.exists_after standing.deployed
  have slot := transact_running_slot coherent.wired done standing.deployed deployed (about ▸ found) (about ▸ running)
    standing.funded
  unfold pinnedEscrow
  rw [same, deployed, standing.deployed]
  exact congrArg CommitmentDeposit.amount slot

/-- A transaction after which the auction still awaits its resolution. -/
theorem Coherent.standsStill (coherent : w.Coherent env auctionId) (aliased : next.Aliased)
    (done : w.transact env (msg, tx) = .ok next)
    (resolving : (w.market.auctions auctionId).auction.state = .resolving)
    (still : (next.market.auctions auctionId).auction.state = .resolving) : StandsStill auctionId w next := by
  have running : (w.market.auctions auctionId).auction.state.running = true := by
    rw [resolving]
    rfl
  have found := coherent.wired.found_of_running running
  have cell : next.market.auctions auctionId = w.market.auctions auctionId := by
    obtain ⟨-, -, -, touched, flow, transition⟩ := transact_transition coherent.wired done
    by_cases own : auctionId = touched
    · subst own
      rcases transition.step with ⟨-, kept⟩ | step
      · exact congrArg AuctionView.cell kept
      · exact step.resolving_cell resolving still
    · exact congrArg AuctionView.cell (transition.others auctionId own)
  have same : next.snapshot auctionId = w.snapshot auctionId := congrArg AuctionStorage.dependencySnapshot cell
  constructor
  · exact cell
  · intro c listed
    obtain ⟨vault, registry, standing⟩ := coherent.standing running listed
    exact coherent.pinnedIdentity_kept aliased done same standing
  · intro c listed
    obtain ⟨vault, registry, standing⟩ := coherent.standing running listed
    refine coherent.pinnedEscrow_kept done same found ?_ standing
    rw [still]
    rfl
  · exact (transact_effects coherent.wired done).vaults.isSome_eq
  · exact (transact_effects coherent.wired done).bindings.isSome_eq

end World

/-- While an auction awaits its resolution nothing that a keeper reads of it changes. -/
theorem Deployment.standsStill (deployment : Deployment) (env : External σ) (outside : σ)
    (before later : List (Msg × Tx σ)) (auctionId : AuctionId) :
    ((deployment.run env outside before).market.auctions auctionId).auction.state = .resolving →
    ((deployment.run env outside (before ++ later)).market.auctions auctionId).auction.state = .resolving →
      World.StandsStill auctionId (deployment.run env outside before)
        (deployment.run env outside (before ++ later)) := by
  intro resolving
  induction later using List.reverseRecOn with
  | nil =>
    intro _
    rw [List.append_nil]
    exact .refl _
  | append_singleton later input ih =>
    intro still
    rw [← List.append_assoc, deployment.run_append_eq, play_cons, play_nil] at still ⊢
    rcases advance_cases (World.transact env) (deployment.run env outside (before ++ later)) input with kept | done
    · rw [kept] at still ⊢
      exact ih still
    · have coherent := deployment.run_coherent env outside (before ++ later) auctionId
      have waited : ((deployment.run env outside (before ++ later)).view auctionId).Waited :=
        (deployment.run_append env outside before later auctionId).preserves
          (fun _ _ _ _ step => step.waited) (.inl resolving)
      rcases waited with waits | terminal
      · refine (ih waits).trans (coherent.standsStill ?_ done waits still)
        rw [← deployment.run_accepted done]
        exact deployment.run_aliased env outside _
      · have ended := World.terminal_kept coherent.wired done terminal
        rw [still] at ended
        cases ended

/-- From the moment an auction awaits its resolution until it is settled everybody reads the
same of it: its storage with price, request and pinned contracts, and its bid book. So a job
is its job at one time of these if and only if at any other. What a keeper collects is also
the same, where it asks contracts of this repository and is set to ask as it did before. -/
theorem book_frozen (deployment : Deployment) (env : External σ) (outside : σ) (before later : List (Msg × Tx σ))
    (auctionId : AuctionId) :
    let w := deployment.run env outside before
    let next := deployment.run env outside (before ++ later)
    (w.market.auctions auctionId).auction.state = .resolving →
    (next.market.auctions auctionId).auction.state = .resolving →
      next.market.auctions auctionId = w.market.auctions auctionId ∧ next.bidBook auctionId = w.bidBook auctionId ∧
        (∀ job, JobOf next auctionId job ↔ JobOf w auctionId job) ∧
        ∀ account, w.AsksOwn → World.AskedAlike account auctionId w next →
          next.collectEncryptedBidsFromChain env account auctionId =
            w.collectEncryptedBidsFromChain env account auctionId := by
  intro w next resolving still
  have same := deployment.standsStill env outside before later auctionId resolving still
  have running : (w.market.auctions auctionId).auction.state.running = true := by
    rw [resolving]
    rfl
  refine ⟨same.cell, same.bidBook, fun job => same.jobOf_iff, fun account asks alike => ?_⟩
  exact same.collect alike asks (deployment.run_coherent env outside before auctionId)
    (deployment.run_coherent env outside (before ++ later) auctionId) running

/-- While a shielded bid waits another auction is created, and then somebody bids too late. -/
def meanwhile : List (Msg × Tx (ℕ → Address)) :=
  [({ sender := 9, value := 10, timestamp := 1200 }, .createAuction 5 8 100 0 10 false),
    ({ sender := 7, value := 100, timestamp := 1201 }, .lockEscrow 1)]

set_option maxRecDepth 4000 in
/-- The owner of the vault collects the same book before and after. -/
theorem meanwhile_frozen :
    let w := twoVaults.run zkChain (fun _ => 9) shieldedOnly
    let next := twoVaults.run zkChain (fun _ => 9) (shieldedOnly ++ meanwhile)
    (next.market.auctions 2).auction.exists_ = true ∧ (∀ job, JobOf next 1 job ↔ JobOf w 1 job) ∧
      next.collectEncryptedBidsFromChain zkChain 1 1 = w.collectEncryptedBidsFromChain zkChain 1 1 := by
  obtain ⟨-, -, same, collected⟩ := book_frozen twoVaults zkChain (fun _ => 9) shieldedOnly meanwhile 1
    (by decide +kernel) (by decide +kernel)
  refine ⟨by decide +kernel, same, collected 1 ⟨by decide +kernel, by decide +kernel⟩ ?_⟩
  exact ⟨by decide +kernel, by decide +kernel,
    iff_of_true (World.readsDeposits_of_owner (by decide +kernel) (by decide +kernel))
      (World.readsDeposits_of_owner (by decide +kernel) (by decide +kernel))⟩

end FairMarket
