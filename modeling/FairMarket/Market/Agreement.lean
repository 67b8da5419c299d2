import FairMarket.Attestation.Slashing
import FairMarket.Market.Runs

/-! Two worlds that differ only in the market's current dependencies, in parts of the
outside, in the record of events and in the clock. Every operation on an auction that has
its dependencies pinned does the same in both. -/

namespace FairMarket

variable {σ : Type}

/-- What two worlds may differ in: their outsides, their records of events and the current
dependencies of the market, each by a relation. -/
structure Difference (σ : Type) where
  outsides : σ → σ → Prop
  records : List Event → List Event → Prop
  dependencies : AuctionDependencySnapshot → AuctionDependencySnapshot → Prop

/-- An event on both sides keeps the records related. -/
def Difference.Recording (difference : Difference σ) : Prop :=
  ∀ event left right, difference.records left right → difference.records (event :: left) (event :: right)

/-- Each part of the difference is an equivalence. -/
structure Difference.Symmetric (difference : Difference σ) : Prop where
  outsides : Equivalence difference.outsides
  records : Equivalence difference.records
  dependencies : Equivalence difference.dependencies

/-- No contract outside, the attestation service apart, sees the difference of two outsides. -/
structure External.Blind (env : External σ) (outsides : σ → σ → Prop) : Prop where
  isContract : ∀ {s t}, outsides s t → env.isContract t = env.isContract s
  gt : ∀ {s t}, outsides s t → env.gt t = env.gt s
  lte : ∀ {s t}, outsides s t → env.lte t = env.lte s
  verifyBidCoverage : ∀ {s t}, outsides s t → env.verifyBidCoverage t = env.verifyBidCoverage s
  ownerOf : ∀ {s t}, outsides s t → env.ownerOf t = env.ownerOf s
  getApproved : ∀ {s t}, outsides s t → env.getApproved t = env.getApproved s
  isApprovedForAll : ∀ {s t}, outsides s t → env.isApprovedForAll t = env.isApprovedForAll s
  safeTransferFrom : ∀ {s t}, outsides s t → ∀ nft sender recipient tokenId,
    SameOutcome outsides (env.safeTransferFrom s nft sender recipient tokenId)
      (env.safeTransferFrom t nft sender recipient tokenId)
  receiveEther : ∀ {s t}, outsides s t → ∀ recipient amount,
    Option.Rel outsides (env.receiveEther s recipient amount) (env.receiveEther t recipient amount)

namespace World

/-- Two worlds that differ at most in what is left open, and in the clock. -/
structure Agree (difference : Difference σ) (w v : World σ) : Prop where
  auctions : v.market.auctions = w.market.auctions
  auctionCounter : v.market.auctionCounter = w.market.auctionCounter
  owner : v.market.owner = w.market.owner
  network : v.market.network = w.market.network
  balance : v.market.balance = w.market.balance
  vaults : v.vaults = w.vaults
  registries : v.registries = w.registries
  pots : v.pots = w.pots
  engines : v.engines = w.engines
  unsolicited : v.unsolicited = w.unsolicited
  dependencies : difference.dependencies w.dependencies v.dependencies
  outside : difference.outsides w.outside v.outside
  log : difference.records w.log v.log

/-- The auction has its dependencies pinned. -/
def Pinned (auctionId : AuctionId) (w : World σ) : Prop :=
  (w.market.auctions auctionId).dependencySnapshot.initialized = true

/-- The worlds agree, and the auction has its dependencies pinned. -/
structure AgreeOn (difference : Difference σ) (auctionId : AuctionId) (w v : World σ) : Prop extends
    Agree difference w v where
  pinned : Pinned auctionId w

variable {env : External σ} {difference : Difference σ} {w v : World σ} {msg : Msg} {auctionId : AuctionId}

namespace Agree

theorem refl (symmetric : difference.Symmetric) (w : World σ) : Agree difference w w :=
  ⟨rfl, rfl, rfl, rfl, rfl, rfl, rfl, rfl, rfl, rfl, symmetric.dependencies.refl _,
    symmetric.outsides.refl _, symmetric.records.refl _⟩

theorem symm (symmetric : difference.Symmetric) (agree : Agree difference w v) : Agree difference v w :=
  ⟨agree.auctions.symm, agree.auctionCounter.symm, agree.owner.symm, agree.network.symm,
    agree.balance.symm, agree.vaults.symm, agree.registries.symm, agree.pots.symm, agree.engines.symm,
    agree.unsolicited.symm, symmetric.dependencies.symm agree.dependencies,
    symmetric.outsides.symm agree.outside, symmetric.records.symm agree.log⟩

theorem trans (symmetric : difference.Symmetric) {u : World σ} (near : Agree difference w v)
    (far : Agree difference v u) : Agree difference w u :=
  ⟨far.auctions.trans near.auctions, far.auctionCounter.trans near.auctionCounter,
    far.owner.trans near.owner, far.network.trans near.network, far.balance.trans near.balance,
    far.vaults.trans near.vaults, far.registries.trans near.registries, far.pots.trans near.pots,
    far.engines.trans near.engines, far.unsolicited.trans near.unsolicited,
    symmetric.dependencies.trans near.dependencies far.dependencies,
    symmetric.outsides.trans near.outside far.outside, symmetric.records.trans near.log far.log⟩

end Agree

namespace AgreeOn

theorem setNetwork (agree : AgreeOn difference auctionId w v) (network : NetworkObservation) :
    AgreeOn difference auctionId (w.setNetwork network) (v.setNetwork network) :=
  { agree with network := rfl }

theorem setOutside (agree : AgreeOn difference auctionId w v) {s t : σ} (near : difference.outsides s t) :
    AgreeOn difference auctionId (w.setOutside s) (v.setOutside t) :=
  { agree with outside := near }

theorem credit (agree : AgreeOn difference auctionId w v) (amount : ℕ) :
    AgreeOn difference auctionId (w.credit amount) (v.credit amount) :=
  { agree with balance := congrArg (· + amount) agree.balance }

theorem debit (agree : AgreeOn difference auctionId w v) (amount : ℕ) :
    AgreeOn difference auctionId (w.debit amount) (v.debit amount) :=
  { agree with balance := congrArg (· - amount) agree.balance }

theorem emit (agree : AgreeOn difference auctionId w v) (recording : difference.Recording)
    (event : Event) : AgreeOn difference auctionId (w.emit event) (v.emit event) :=
  { agree with log := recording event _ _ agree.log }

theorem setAuction (agree : AgreeOn difference auctionId w v) {cell : AuctionStorage}
    (pinned : cell.dependencySnapshot.initialized = true) :
    AgreeOn difference auctionId (w.setAuction auctionId cell) (v.setAuction auctionId cell) :=
  { agree with
    auctions := by
      dsimp only [World.setAuction]
      rw [agree.auctions]
    pinned := by
      dsimp only [World.setAuction, Pinned]
      rw [Function.update_self]
      exact pinned }

theorem setVault (agree : AgreeOn difference auctionId w v) (address : Address)
    (vault : ShieldedEscrowVault) :
    AgreeOn difference auctionId (w.setVault address vault) (v.setVault address vault) :=
  { agree with
    vaults := by
      dsimp only [World.setVault]
      rw [agree.vaults] }

theorem setRegistry (agree : AgreeOn difference auctionId w v) (address : Address)
    (registry : ShieldedIdentityRegistry) :
    AgreeOn difference auctionId (w.setRegistry address registry) (v.setRegistry address registry) :=
  { agree with
    registries := by
      dsimp only [World.setRegistry]
      rw [agree.registries] }

theorem setPot (agree : AgreeOn difference auctionId w v) (address : Address) (pot : SlashedPot) :
    AgreeOn difference auctionId (w.setPot address pot) (v.setPot address pot) :=
  { agree with
    pots := by
      dsimp only [World.setPot]
      rw [agree.pots] }

/-- A pinned dependency is the same whatever the current one is. -/
theorem dependency (agree : AgreeOn difference auctionId w v)
    (snapshotted : AuctionDependencySnapshot → Address) (first second : Address) :
    auctionDependency (w.market.auctions auctionId) snapshotted first =
      auctionDependency (w.market.auctions auctionId) snapshotted second := by
  have pinned : (w.market.auctions auctionId).dependencySnapshot.initialized = true := agree.pinned
  rw [auctionDependency, auctionDependency, if_pos pinned, if_pos pinned]

theorem auctionCofheAdapter (agree : AgreeOn difference auctionId w v) :
    v.auctionCofheAdapter (w.market.auctions auctionId) =
      w.auctionCofheAdapter (w.market.auctions auctionId) := agree.dependency ..

theorem auctionSettlementEngine (agree : AgreeOn difference auctionId w v) :
    v.auctionSettlementEngine (w.market.auctions auctionId) =
      w.auctionSettlementEngine (w.market.auctions auctionId) := agree.dependency ..

theorem auctionSlashedPot (agree : AgreeOn difference auctionId w v) :
    v.auctionSlashedPot (w.market.auctions auctionId) =
      w.auctionSlashedPot (w.market.auctions auctionId) := agree.dependency ..

theorem auctionShieldedEscrowVault (agree : AgreeOn difference auctionId w v) :
    v.auctionShieldedEscrowVault (w.market.auctions auctionId) =
      w.auctionShieldedEscrowVault (w.market.auctions auctionId) := agree.dependency ..

theorem auctionShieldedIdentityRegistry (agree : AgreeOn difference auctionId w v) :
    v.auctionShieldedIdentityRegistry (w.market.auctions auctionId) =
      w.auctionShieldedIdentityRegistry (w.market.auctions auctionId) := agree.dependency ..

end AgreeOn

theorem sendValue_agrees (blind : env.Blind difference.outsides) (agree : AgreeOn difference auctionId w v)
    (recipient : Address) (amount : ℕ) : SameOutcome (AgreeOn difference auctionId) (w.sendValue env recipient amount)
      (v.sendValue env recipient amount) := by
  unfold sendValue
  rw [agree.balance]
  refine .bind_same fun _ _ => ?_
  have received := blind.receiveEther agree.outside recipient amount
  generalize env.receiveEther w.outside recipient amount = x,
    env.receiveEther v.outside recipient amount = y at received
  cases received with
  | none => exact .error _
  | some near => exact .ok ((agree.setOutside near).debit amount)

theorem releaseFromEscrow_agrees (blind : env.Blind difference.outsides) (recording : difference.Recording)
    (agree : AgreeOn difference auctionId w v) (recipient : Address) :
    SameOutcome (AgreeOn difference auctionId) (w.releaseFromEscrow env auctionId recipient)
      (v.releaseFromEscrow env auctionId recipient) := by
  unfold releaseFromEscrow
  rw [agree.auctions]
  refine .bind (blind.safeTransferFrom agree.outside ..) fun s t _ _ near => ?_
  exact .ok ((agree.setOutside near).emit recording _)

theorem openShieldedRefundPath_agrees (agree : AgreeOn difference auctionId w v) :
    SameOutcome (AgreeOn difference auctionId) (w.openShieldedRefundPath env auctionId)
      (v.openShieldedRefundPath env auctionId) := by
  unfold openShieldedRefundPath
  rw [agree.auctions]
  dsimp only
  rw [agree.auctionShieldedEscrowVault, agree.vaults]
  by_cases already : (w.market.auctions auctionId).shieldedRefundsUnlocked = true
  · rw [if_pos already, if_pos already]
    exact .ok agree
  · rw [if_neg already, if_neg already]
    cases w.vaults (w.auctionShieldedEscrowVault (w.market.auctions auctionId)) with
    | none => exact .ok agree
    | some vault =>
      refine .bind_same fun unlocked _ => .ok ?_
      refine AgreeOn.setVault (AgreeOn.setAuction agree ?_) _ _
      exact agree.pinned

theorem allocateSlash_agrees (agree : AgreeOn difference auctionId w v) (totalEscrow slashAmount : ℕ) :
    SameOutcome (fun x y => x.1 = y.1 ∧ AgreeOn difference auctionId x.2 y.2)
      (w.allocateSlash env auctionId totalEscrow slashAmount)
      (v.allocateSlash env auctionId totalEscrow slashAmount) := by
  unfold allocateSlash
  rw [agree.auctions]
  dsimp only
  rw [agree.auctionShieldedEscrowVault, agree.vaults, agree.balance]
  cases w.vaults (w.auctionShieldedEscrowVault (w.market.auctions auctionId)) with
  | none => exact .ok ⟨rfl, agree⟩
  | some vault =>
    refine .bind_same fun _ _ => .bind_same fun allocated _ => .ok ⟨rfl, ?_⟩
    exact ((agree.debit _).setVault _ _).credit _

theorem registerSlash_agrees (agree : AgreeOn difference auctionId w v) (totalEscrow slashAmount : ℕ) :
    SameOutcome (AgreeOn difference auctionId) (w.registerSlash env auctionId totalEscrow slashAmount)
      (v.registerSlash env auctionId totalEscrow slashAmount) := by
  unfold registerSlash
  rw [agree.auctions]
  split
  · exact .ok agree
  · refine .bind (allocateSlash_agrees agree ..) fun x y _ _ same => ?_
    obtain ⟨share, left⟩ := x
    obtain ⟨other, right⟩ := y
    obtain ⟨rfl, near⟩ := same
    dsimp only
    rw [agree.auctionSlashedPot, near.pots, near.balance]
    split
    · exact .ok near
    · refine .bind_same fun pot _ => .bind_same fun _ _ => .bind_same fun registered _ => .ok ?_
      exact (near.setPot _ _).debit _

theorem payEscrowRefund_agrees (blind : env.Blind difference.outsides) (agree : AgreeOn difference auctionId w v)
    {cell : AuctionStorage} (pinned : cell.dependencySnapshot.initialized = true) (claimant : Address) (escrowRefund : ℕ) :
    SameOutcome (AgreeOn difference auctionId)
      (w.payEscrowRefund env auctionId cell claimant escrowRefund)
      (v.payEscrowRefund env auctionId cell claimant escrowRefund) := by
  unfold payEscrowRefund
  split
  · exact .ok agree
  · refine sendValue_agrees blind (AgreeOn.setAuction agree ?_) ..
    exact pinned

theorem payCompensation_agrees (blind : env.Blind difference.outsides) (agree : AgreeOn difference auctionId w v)
    (claimant : Address) (escrowRefund compensation : ℕ) :
    SameOutcome (fun x y => x.1 = y.1 ∧ AgreeOn difference auctionId x.2 y.2)
      (w.payCompensation env auctionId claimant escrowRefund compensation)
      (v.payCompensation env auctionId claimant escrowRefund compensation) := by
  unfold payCompensation
  rw [agree.auctions]
  dsimp only
  rw [agree.auctionSlashedPot, agree.pots]
  split
  · exact .ok ⟨rfl, agree⟩
  · refine .bind_same fun pot _ => .bind_same fun paid _ => ?_
    obtain ⟨amount, claimed⟩ := paid
    dsimp only
    split
    · exact .ok ⟨rfl, agree.setPot _ _⟩
    · have received := blind.receiveEther agree.outside claimant amount
      generalize env.receiveEther w.outside claimant amount = x,
        env.receiveEther v.outside claimant amount = y at received
      cases received with
      | none => exact .error _
      | some near => exact .ok ⟨rfl, (agree.setPot _ _).setOutside near⟩

theorem payReward_agrees (blind : env.Blind difference.outsides) (agree : AgreeOn difference auctionId w v)
    (recipient : Address) (reward : ℕ) : SameOutcome (AgreeOn difference auctionId) (w.payReward env recipient reward)
      (v.payReward env recipient reward) := by
  unfold payReward
  split
  · exact .ok agree
  · exact sendValue_agrees blind agree ..

/-- Both worlds look an auction up alike, and one they find has its dependencies pinned. -/
theorem Agree.onAuction_compared (agree : Agree difference w v) (wired : w.Wired env) {α β : Type}
    {compared : Except Revert α → Except Revert β → Prop}
    (failed : ∀ raised, compared (.error raised) (.error raised))
    {first : AuctionStorage → Except Revert α} {second : AuctionStorage → Except Revert β}
    (rest : AgreeOn difference auctionId w v →
      compared (first (w.market.auctions auctionId)) (second (w.market.auctions auctionId))) :
    compared (w.auctionExists auctionId >>= first) (v.auctionExists auctionId >>= second) := by
  have same : v.auctionExists auctionId = w.auctionExists auctionId := by
    rw [auctionExists, auctionExists, agree.auctions]
  rw [same]
  cases found : w.auctionExists auctionId with
  | error raised => exact failed raised
  | ok cell =>
    obtain ⟨known, rfl⟩ := auctionExists_ok.mp found
    exact rest { agree with pinned := wired.initialized auctionId known }

theorem Agree.onAuction (agree : Agree difference w v) (wired : w.Wired env) {α β : Type}
    {related : α → β → Prop} {first : AuctionStorage → Except Revert α}
    {second : AuctionStorage → Except Revert β}
    (rest : AgreeOn difference auctionId w v →
      SameOutcome related (first (w.market.auctions auctionId)) (second (w.market.auctions auctionId))) :
    SameOutcome related (w.auctionExists auctionId >>= first) (v.auctionExists auctionId >>= second) :=
  agree.onAuction_compared wired .error rest

namespace AgreeOn

theorem withEngine (agree : AgreeOn difference auctionId w v) {α : Type}
    (ownDefault : Except Revert α) (call : SettlementEngine → Except Revert α) :
    v.withEngine (w.market.auctions auctionId) ownDefault call =
      w.withEngine (w.market.auctions auctionId) ownDefault call := by
  unfold World.withEngine
  rw [agree.auctionSettlementEngine, agree.engines]

theorem totalEscrowIncludingShielded (agree : AgreeOn difference auctionId w v) :
    v.totalEscrowIncludingShielded auctionId (w.market.auctions auctionId) =
      w.totalEscrowIncludingShielded auctionId (w.market.auctions auctionId) := by
  unfold World.totalEscrowIncludingShielded shieldedEscrowTotal
  rw [agree.auctionShieldedEscrowVault, agree.vaults]

theorem computeCancellationSlash (agree : AgreeOn difference auctionId w v) :
    v.computeCancellationSlash msg auctionId (w.market.auctions auctionId) =
      w.computeCancellationSlash msg auctionId (w.market.auctions auctionId) := by
  unfold World.computeCancellationSlash
  rw [agree.totalEscrowIncludingShielded]
  simp only [agree.withEngine]

theorem previewDynamicTimeout (agree : AgreeOn difference auctionId w v) :
    v.previewDynamicTimeout (w.market.auctions auctionId) =
      w.previewDynamicTimeout (w.market.auctions auctionId) := by
  unfold World.previewDynamicTimeout
  rw [agree.withEngine, agree.network]

theorem prepareResolutionRequest (agree : AgreeOn difference auctionId w v) (finalizeNonce : ℕ)
    (raceSalt : Bytes32) :
    World.prepareResolutionRequest env v auctionId (w.market.auctions auctionId) finalizeNonce raceSalt =
      World.prepareResolutionRequest env w auctionId (w.market.auctions auctionId) finalizeNonce raceSalt := by
  unfold World.prepareResolutionRequest
  rw [agree.withEngine, agree.auctionSettlementEngine]

theorem requireStartingPrice (agree : AgreeOn difference auctionId w v) (blind : env.Blind difference.outsides)
    (sender : Address) (encryptedBid : Bytes32) :
    World.requireStartingPrice env v sender auctionId (w.market.auctions auctionId) encryptedBid =
      World.requireStartingPrice env w sender auctionId (w.market.auctions auctionId) encryptedBid := by
  unfold World.requireStartingPrice
  rw [agree.auctionCofheAdapter, blind.gt agree.outside]

theorem validatePublicWinner (agree : AgreeOn difference auctionId w v) (blind : env.Blind difference.outsides)
    (winner : Address) (winnerCiphertext : Bytes32) (winningAmount : ℕ) :
    World.validatePublicWinner env v auctionId (w.market.auctions auctionId) winner winnerCiphertext
        winningAmount =
      World.validatePublicWinner env w auctionId (w.market.auctions auctionId) winner winnerCiphertext
        winningAmount := by
  unfold World.validatePublicWinner
  rw [agree.auctionCofheAdapter, blind.lte agree.outside]

theorem resolveShieldedCommitment (agree : AgreeOn difference auctionId w v) (identityHash : Bytes32) :
    v.resolveShieldedCommitment auctionId (w.market.auctions auctionId) identityHash =
      w.resolveShieldedCommitment auctionId (w.market.auctions auctionId) identityHash := by
  unfold World.resolveShieldedCommitment
  rw [agree.auctionShieldedIdentityRegistry, agree.registries]

theorem validateShieldedResolutionBid (agree : AgreeOn difference auctionId w v)
    (winnerIdentityHash winnerCiphertext : Bytes32) (winningAmount startingPrice : ℕ) :
    v.validateShieldedResolutionBid auctionId (w.market.auctions auctionId) winnerIdentityHash
        winnerCiphertext winningAmount startingPrice =
      w.validateShieldedResolutionBid auctionId (w.market.auctions auctionId) winnerIdentityHash
        winnerCiphertext winningAmount startingPrice := by
  unfold World.validateShieldedResolutionBid
  rw [agree.resolveShieldedCommitment, agree.auctionShieldedEscrowVault, agree.vaults]

theorem previewCompensation (agree : AgreeOn difference auctionId w v) (escrowContribution : ℕ) :
    v.previewCompensation auctionId (w.market.auctions auctionId) escrowContribution =
      w.previewCompensation auctionId (w.market.auctions auctionId) escrowContribution := by
  unfold World.previewCompensation
  rw [agree.auctionSlashedPot, agree.pots]

end AgreeOn

/-- The refund a claimant sees. -/
theorem Agree.previewRefund (agree : Agree difference w v) (wired : w.Wired env)
    (auctionId : AuctionId) (claimant : Address) :
    v.previewRefund auctionId claimant = w.previewRefund auctionId claimant := by
  have same : SameOutcome Eq (w.previewRefund auctionId claimant) (v.previewRefund auctionId claimant) := by
    unfold World.previewRefund
    refine agree.onAuction wired fun on => ?_
    simp only [World.computeWinningRefund, on.withEngine, on.previewCompensation]
    exact .refl (fun _ => rfl) _
  exact same.eq.symm

/-- The proceeds a seller sees. -/
theorem Agree.previewSellerPayout (agree : Agree difference w v) (wired : w.Wired env)
    (auctionId : AuctionId) : v.previewSellerPayout auctionId = w.previewSellerPayout auctionId := by
  have same : SameOutcome Eq (w.previewSellerPayout auctionId) (v.previewSellerPayout auctionId) := by
    unfold World.previewSellerPayout
    refine agree.onAuction wired fun on => ?_
    simp only [World.computeSellerPayout, World.computeSellerCancellationPayout, on.withEngine,
      on.totalEscrowIncludingShielded]
    exact .refl (fun _ => rfl) _
  exact same.eq.symm

theorem lockEscrow_agrees (recording : difference.Recording) (wired : w.Wired env)
    (agree : Agree difference w v) :
    SameOutcome (Agree difference) (w.lockEscrow msg auctionId) (v.lockEscrow msg auctionId) := by
  unfold lockEscrow
  refine agree.onAuction wired fun on => ?_
  rw [agree.network]
  refine .bind_same fun _ _ => .bind_same fun _ _ => .bind_same fun _ _ => .bind_same fun _ _ =>
    .bind_same fun _ _ => .bind_same fun network _ => .ok ?_
  refine AgreeOn.toAgree (AgreeOn.emit (AgreeOn.credit (AgreeOn.setAuction (on.setNetwork network) ?_) _)
    recording _)
  exact on.pinned

theorem lockShieldedEscrow_agrees (recording : difference.Recording) (wired : w.Wired env)
    (agree : Agree difference w v) (identityHash commitmentHash : Bytes32) (claimAuthority : Address) :
    SameOutcome (Agree difference)
      (w.lockShieldedEscrow env msg auctionId identityHash commitmentHash claimAuthority)
      (v.lockShieldedEscrow env msg auctionId identityHash commitmentHash claimAuthority) := by
  unfold lockShieldedEscrow
  refine agree.onAuction wired fun on => ?_
  dsimp only
  rw [agree.network, on.auctionShieldedEscrowVault, on.auctionShieldedIdentityRegistry, agree.vaults,
    agree.registries]
  refine .bind_same fun _ _ => .bind_same fun _ _ => .bind_same fun _ _ => .bind_same fun _ _ =>
    .bind_same fun _ _ => .bind_same fun vault _ => .bind_same fun registry _ =>
    .bind_same fun network _ => .bind_same fun bound _ => .bind_same fun locked _ => .ok ?_
  refine AgreeOn.toAgree (AgreeOn.emit (AgreeOn.emit (AgreeOn.setVault (AgreeOn.setRegistry
    (AgreeOn.setAuction (on.setNetwork network) ?_) _ _) _ _) recording _) recording _)
  exact on.pinned

theorem placeBid_agrees (blind : env.Blind difference.outsides) (recording : difference.Recording)
    (wired : w.Wired env) (agree : Agree difference w v) (encryptedBid : Bytes32) :
    SameOutcome (Agree difference) (w.placeBid env msg auctionId encryptedBid)
      (v.placeBid env msg auctionId encryptedBid) := by
  unfold placeBid
  refine agree.onAuction wired fun on => ?_
  dsimp only
  rw [agree.network, on.requireStartingPrice blind, on.auctionCofheAdapter, blind.lte agree.outside]
  refine .bind_same fun _ _ => .bind_same fun _ _ => .bind_same fun _ _ => .bind_same fun _ _ =>
    .bind_same fun covered _ => .bind_same fun _ _ => .bind_same fun bidCount _ =>
    .bind_same fun network _ => .ok ?_
  refine AgreeOn.toAgree (AgreeOn.emit (AgreeOn.setAuction (on.setNetwork network) ?_) recording _)
  exact on.pinned

theorem placeShieldedBid_agrees (blind : env.Blind difference.outsides) (recording : difference.Recording)
    (wired : w.Wired env) (agree : Agree difference w v) (commitmentHash encryptedBid : Bytes32)
    (coverageDeadline : ℕ) (coverageProof : List UInt8) :
    SameOutcome (Agree difference)
      (w.placeShieldedBid env msg auctionId commitmentHash encryptedBid coverageDeadline coverageProof)
      (v.placeShieldedBid env msg auctionId commitmentHash encryptedBid coverageDeadline
        coverageProof) := by
  unfold placeShieldedBid
  refine agree.onAuction wired fun on => ?_
  dsimp only
  rw [agree.network, on.requireStartingPrice blind, on.auctionShieldedEscrowVault, agree.vaults,
    blind.verifyBidCoverage agree.outside]
  refine .bind_same fun _ _ => .bind_same fun _ _ => .bind_same fun _ _ => .bind_same fun vault _ =>
    .bind_same fun _ _ => .bind_same fun _ _ => .bind_same fun _ _ => .bind_same fun _ _ =>
    .bind_same fun bidCount _ => .bind_same fun network _ => .ok ?_
  refine AgreeOn.toAgree (AgreeOn.emit (AgreeOn.setAuction (on.setNetwork network) ?_) recording _)
  exact on.pinned

theorem triggerFinalize_agrees (recording : difference.Recording) (wired : w.Wired env)
    (agree : Agree difference w v) :
    SameOutcome (Agree difference) (w.triggerFinalize env msg auctionId)
      (v.triggerFinalize env msg auctionId) := by
  unfold triggerFinalize
  refine agree.onAuction wired fun on => ?_
  simp only [agree.network, on.prepareResolutionRequest]
  refine .bind_same fun _ _ => .bind_same fun _ _ => .bind_same fun _ _ => .bind_same fun network _ =>
    .bind_same fun auction _ => .bind_same fun nonce _ => .bind_same fun reward _ =>
    .bind_same fun request _ => .ok ?_
  refine AgreeOn.toAgree (AgreeOn.emit (AgreeOn.emit
    (AgreeOn.setAuction (on.setNetwork network) ?_) recording _) recording _)
  exact on.pinned

theorem cancelAuction_agrees (blind : env.Blind difference.outsides) (recording : difference.Recording)
    (wired : w.Wired env) (agree : Agree difference w v) :
    SameOutcome (Agree difference) (w.cancelAuction env msg auctionId)
      (v.cancelAuction env msg auctionId) := by
  unfold cancelAuction
  refine agree.onAuction wired fun on => ?_
  simp only [agree.network, on.computeCancellationSlash]
  refine .bind_same fun _ _ => .bind_same fun _ _ => .bind_same fun _ _ =>
    .bind_same fun slashAmount _ => .bind_same fun network _ => .bind_same fun auction _ => ?_
  have cancelled := AgreeOn.emit (AgreeOn.setAuction (on.setNetwork network)
    (show ({ w.market.auctions auctionId with auction } : AuctionStorage).dependencySnapshot.initialized = true
      from on.pinned)) recording (.auctionStateChanged auctionId .active .cancelled)
  refine .bind (registerSlash_agrees cancelled ..) fun registered other _ _ registers => ?_
  refine .bind (openShieldedRefundPath_agrees registers) fun opened another _ _ opens => ?_
  exact (releaseFromEscrow_agrees blind recording opens _).mono fun _ _ near => near.toAgree

theorem triggerFallbackVoid_agrees (blind : env.Blind difference.outsides) (recording : difference.Recording)
    (wired : w.Wired env) (agree : Agree difference w v) :
    SameOutcome (Agree difference) (w.triggerFallbackVoid env msg auctionId)
      (v.triggerFallbackVoid env msg auctionId) := by
  unfold triggerFallbackVoid
  refine agree.onAuction wired fun on => ?_
  simp only [agree.network, on.previewDynamicTimeout, on.totalEscrowIncludingShielded]
  refine .bind_same fun _ _ => .bind_same fun timeoutWindow _ => .bind_same fun elapsed _ =>
    .bind_same fun total _ => .bind_same fun _ _ => .bind_same fun network _ =>
    .bind_same fun auction _ => ?_
  have voided := AgreeOn.emit (AgreeOn.setAuction (on.setNetwork network)
    (show ({ w.market.auctions auctionId with auction, resolutionRequest := {} } :
      AuctionStorage).dependencySnapshot.initialized = true from on.pinned)) recording
      (.auctionStateChanged auctionId .resolving .voided)
  refine .bind (registerSlash_agrees voided ..) fun registered other _ _ registers => ?_
  refine .bind (openShieldedRefundPath_agrees registers) fun opened another _ _ opens => ?_
  refine .bind (releaseFromEscrow_agrees blind recording opens _) fun released last _ _ releases => .ok ?_
  exact (releases.emit recording _).toAgree

theorem claimRefund_agrees (blind : env.Blind difference.outsides) (recording : difference.Recording)
    (wired : w.Wired env) (agree : Agree difference w v) :
    SameOutcome (Agree difference) (w.claimRefund env msg auctionId)
      (v.claimRefund env msg auctionId) := by
  unfold claimRefund
  refine agree.onAuction wired fun on => ?_
  rw [agree.previewRefund wired]
  refine .bind_same fun _ _ => .bind_same fun preview _ => ?_
  obtain ⟨escrowRefund, compensation⟩ := preview
  refine .bind_same fun _ _ => ?_
  have pinned : ({ w.market.auctions auctionId with
      hasWithdrawn := Function.update (w.market.auctions auctionId).hasWithdrawn msg.sender true } :
        AuctionStorage).dependencySnapshot.initialized = true := on.pinned
  refine .bind (payEscrowRefund_agrees blind (on.setAuction pinned) pinned ..)
    fun refunded other _ _ refunds => ?_
  refine .bind (payCompensation_agrees blind refunds ..) fun x y _ _ same => ?_
  obtain ⟨paid, compensated⟩ := x
  obtain ⟨_, last⟩ := y
  obtain ⟨rfl, near⟩ := same
  exact .ok (near.emit recording _).toAgree

theorem claimSellerProceeds_agrees (blind : env.Blind difference.outsides) (recording : difference.Recording)
    (wired : w.Wired env) (agree : Agree difference w v) :
    SameOutcome (Agree difference) (w.claimSellerProceeds env msg auctionId)
      (v.claimSellerProceeds env msg auctionId) := by
  unfold claimSellerProceeds
  refine agree.onAuction wired fun on => ?_
  rw [agree.previewSellerPayout wired]
  refine .bind_same fun _ _ => .bind_same fun _ _ => .bind_same fun payout _ => .bind_same fun _ _ => ?_
  have claimed := AgreeOn.setAuction on
    (show ({ w.market.auctions auctionId with auction.sellerClaimed := true } :
      AuctionStorage).dependencySnapshot.initialized = true from on.pinned)
  refine .bind (sendValue_agrees blind claimed ..) fun sent other _ _ sends => .ok ?_
  exact (sends.emit recording _).toAgree

theorem claimFinalizeReward_agrees (blind : env.Blind difference.outsides) (recording : difference.Recording)
    (wired : w.Wired env) (agree : Agree difference w v) :
    SameOutcome (Agree difference) (w.claimFinalizeReward env msg auctionId)
      (v.claimFinalizeReward env msg auctionId) := by
  unfold claimFinalizeReward
  refine agree.onAuction wired fun on => ?_
  dsimp only
  refine .bind_same fun _ _ => .bind_same fun _ _ => .bind_same fun _ _ => ?_
  have claimed := AgreeOn.setAuction on
    (show ({ w.market.auctions auctionId with finalizationRewardClaimed := true } :
      AuctionStorage).dependencySnapshot.initialized = true from on.pinned)
  refine .bind (payReward_agrees blind claimed ..) fun sent other _ _ sends => .ok ?_
  exact (sends.emit recording _).toAgree

theorem claimAsset_agrees (blind : env.Blind difference.outsides) (recording : difference.Recording)
    (wired : w.Wired env) (agree : Agree difference w v) :
    SameOutcome (Agree difference) (w.claimAsset env msg auctionId)
      (v.claimAsset env msg auctionId) := by
  unfold claimAsset
  refine agree.onAuction wired fun on => ?_
  dsimp only
  refine .bind_same fun _ _ => .bind_same fun _ _ => .bind_same fun _ _ => .bind_same fun _ _ => ?_
  have claimed := AgreeOn.setAuction on
    (show ({ w.market.auctions auctionId with auction.assetClaimed := true } :
      AuctionStorage).dependencySnapshot.initialized = true from on.pinned)
  exact (releaseFromEscrow_agrees blind recording claimed _).mono fun _ _ near => near.toAgree

theorem claimShieldedAsset_agrees (blind : env.Blind difference.outsides) (recording : difference.Recording)
    (wired : w.Wired env) (agree : Agree difference w v) (winnerIdentityHash : Bytes32)
    (recipient : Address) (deadline : ℕ) (signature : Signature) :
    SameOutcome (Agree difference)
      (w.claimShieldedAssetWithAuthorization env msg auctionId winnerIdentityHash recipient deadline signature)
      (v.claimShieldedAssetWithAuthorization env msg auctionId winnerIdentityHash recipient deadline
        signature) := by
  unfold claimShieldedAssetWithAuthorization
  refine agree.onAuction wired fun on => ?_
  dsimp only
  rw [on.auctionShieldedEscrowVault, agree.vaults, on.resolveShieldedCommitment]
  refine .bind_same fun _ _ => .bind_same fun _ _ => .bind_same fun _ _ => .bind_same fun vault _ =>
    .bind_same fun _ _ => .bind_same fun commitmentHash _ => .bind_same fun authorized _ => ?_
  have claimed := AgreeOn.setVault (AgreeOn.setAuction on
    (show ({ w.market.auctions auctionId with auction.assetClaimed := true } :
      AuctionStorage).dependencySnapshot.initialized = true from on.pinned))
      (w.auctionShieldedEscrowVault (w.market.auctions auctionId)) authorized.2
  exact (releaseFromEscrow_agrees blind recording claimed _).mono fun _ _ near => near.toAgree

/-- Flagged results of a resolution: the same flag, and worlds that agree. -/
def SameFlag (difference : Difference σ) (x y : Bool × World σ) : Prop :=
  x.1 = y.1 ∧ Agree difference x.2 y.2

theorem recordResolution_agrees (recording : difference.Recording)
    (agree : AgreeOn difference auctionId w v) {cell : AuctionStorage}
    (pinned : cell.dependencySnapshot.initialized = true) (winner : Address)
    (winningCommitment winnerCiphertext : Bytes32) (winningAmount : ℕ) :
    SameOutcome (AgreeOn difference auctionId)
      (w.recordResolution msg auctionId cell winner winningCommitment winnerCiphertext winningAmount)
      (v.recordResolution msg auctionId cell winner winningCommitment winnerCiphertext winningAmount) := by
  unfold recordResolution
  rw [agree.network]
  refine .bind_same fun network _ => .bind_same fun auction _ => .ok ?_
  refine AgreeOn.emit (AgreeOn.emit (AgreeOn.setAuction (agree.setNetwork network) ?_) recording _) recording _
  exact pinned

theorem settleWinningCommitment_agrees (agree : AgreeOn difference auctionId w v)
    (commitmentHash : Bytes32) (winningAmount : ℕ) :
    SameOutcome (AgreeOn difference auctionId)
      (w.settleWinningCommitment env auctionId commitmentHash winningAmount)
      (v.settleWinningCommitment env auctionId commitmentHash winningAmount) := by
  unfold settleWinningCommitment
  rw [agree.auctions]
  dsimp only
  rw [agree.auctionShieldedEscrowVault, agree.vaults]
  refine .bind_same fun vault _ => .bind_same fun settled _ => .ok ?_
  exact (agree.setVault _ _).credit _

theorem markWinningIdentity_agrees (agree : AgreeOn difference auctionId w v)
    (winnerIdentityHash : Bytes32) :
    SameOutcome (AgreeOn difference auctionId)
      (w.markWinningIdentity env auctionId winnerIdentityHash)
      (v.markWinningIdentity env auctionId winnerIdentityHash) := by
  unfold markWinningIdentity
  rw [agree.auctions]
  dsimp only
  rw [agree.auctionShieldedIdentityRegistry, agree.registries]
  exact .bind_same fun registry _ => .bind_same fun marked _ => .ok (agree.setRegistry _ _)

/-- The services judge a public and a shielded proof alike in both worlds, unless a counter
is full in one of them. -/
structure SameVerdicts (env : External σ) (difference : Difference σ) (full fullToo : Proof → Prop)
    (w v : World σ) : Prop where
  open_ : ∀ service market auctionId requestId winner winnerCiphertext winningAmount proof,
    SameReply (fun x y => x.1 = y.1 ∧ difference.outsides x.2 y.2) (full proof) (fullToo proof)
      (env.verifyAttestation w.outside service market auctionId requestId winner winnerCiphertext
        winningAmount proof)
      (env.verifyAttestation v.outside service market auctionId requestId winner winnerCiphertext
        winningAmount proof)
  shielded : ∀ service market auctionId requestId winnerIdentity winnerCiphertext winningAmount proof,
    SameReply (fun x y => x.1 = y.1 ∧ difference.outsides x.2 y.2) (full proof) (fullToo proof)
      (env.verifyShieldedAttestation w.outside service market auctionId requestId winnerIdentity
        winnerCiphertext winningAmount proof)
      (env.verifyShieldedAttestation v.outside service market auctionId requestId winnerIdentity
        winnerCiphertext winningAmount proof)

/-- What happens to a public resolution once its proof is judged. -/
theorem decided_agrees (recording : difference.Recording) (agree : AgreeOn difference auctionId w v)
    (winner : Address) (winnerCiphertext : Bytes32) (winningAmount : ℕ) {x y : Bool × σ}
    (same : x.1 = y.1 ∧ difference.outsides x.2 y.2) :
    SameOutcome (SameFlag difference)
      (if ¬ x.1 then pure (false, (w.setOutside x.2).rejectResolution auctionId
          (w.market.auctions auctionId).resolutionRequest.requestId)
        else do
          let recorded ← (w.setOutside x.2).recordResolution msg auctionId (w.market.auctions auctionId)
            winner (w.market.auctions auctionId).winningCommitment winnerCiphertext winningAmount
          let opened ← recorded.openShieldedRefundPath env auctionId
          return (true, opened) : Except Revert (Bool × World σ))
      (if ¬ y.1 then pure (false, (v.setOutside y.2).rejectResolution auctionId
          (w.market.auctions auctionId).resolutionRequest.requestId)
        else do
          let recorded ← (v.setOutside y.2).recordResolution msg auctionId (w.market.auctions auctionId)
            winner (w.market.auctions auctionId).winningCommitment winnerCiphertext winningAmount
          let opened ← recorded.openShieldedRefundPath env auctionId
          return (true, opened)) := by
  obtain ⟨accepted, s⟩ := x
  obtain ⟨_, t⟩ := y
  obtain ⟨rfl, near⟩ := same
  have called := agree.setOutside near
  dsimp only
  split
  · exact .ok ⟨rfl, (called.emit recording _).toAgree⟩
  · refine .bind (recordResolution_agrees recording called agree.pinned ..) fun recorded other _ _ records => ?_
    exact .bind (openShieldedRefundPath_agrees records) fun _ _ _ _ opens => .ok ⟨rfl, opens.toAgree⟩

theorem submitResolution_agrees (blind : env.Blind difference.outsides) (recording : difference.Recording)
    (wired : w.Wired env) (agree : Agree difference w v) {full fullToo : Proof → Prop}
    (verdicts : SameVerdicts env difference full fullToo w v) (winner : Address)
    (winnerCiphertext : Bytes32) (winningAmount : ℕ) (avsProof : Proof) :
    SameReply (SameFlag difference) (full avsProof) (fullToo avsProof)
      (w.submitResolution env msg auctionId winner winnerCiphertext winningAmount avsProof)
      (v.submitResolution env msg auctionId winner winnerCiphertext winningAmount avsProof) := by
  unfold submitResolution
  refine agree.onAuction_compared wired (fun raised => .same (.error raised)) fun on => ?_
  dsimp only
  rw [on.auctionSettlementEngine, on.validatePublicWinner blind, agree.engines]
  refine .bind_same fun _ _ => .bind_same fun _ _ => .bind_same fun _ _ => .bind_same fun _ _ =>
    .bind_same fun engine _ => ?_
  unfold SettlementEngine.verifyResolutionProof SettlementEngine.verifyProof
  refine .bind (.bind_same fun _ _ => verdicts.open_ ..) ?_ ?_ ?_
  · intro x y _ _ same
    exact .same (decided_agrees recording on winner winnerCiphertext winningAmount same)
  · rintro raised ⟨accepted, t⟩ ⟨overflow, rejected, counted⟩
    obtain rfl : accepted = false := rejected
    exact ⟨_, rfl, overflow, rfl, counted⟩
  · rintro ⟨accepted, s⟩ raised ⟨overflow, rejected, counted⟩
    obtain rfl : accepted = false := rejected
    exact ⟨_, rfl, overflow, rfl, counted⟩

theorem submitShieldedResolution_agrees (recording : difference.Recording) (wired : w.Wired env)
    (agree : Agree difference w v) {full fullToo : Proof → Prop}
    (verdicts : SameVerdicts env difference full fullToo w v)
    (winnerIdentityHash winnerCiphertext : Bytes32) (winningAmount : ℕ) (avsProof : Proof) :
    SameReply (SameFlag difference) (full avsProof) (fullToo avsProof)
      (w.submitShieldedResolution env msg auctionId winnerIdentityHash winnerCiphertext winningAmount
        avsProof)
      (v.submitShieldedResolution env msg auctionId winnerIdentityHash winnerCiphertext winningAmount
        avsProof) := by
  unfold submitShieldedResolution
  refine agree.onAuction_compared wired (fun raised => .same (.error raised)) fun on => ?_
  dsimp only
  rw [on.auctionSettlementEngine, on.validateShieldedResolutionBid, agree.engines]
  refine .bind_same fun _ _ => .bind_same fun _ _ => .bind_same fun _ _ =>
    .bind_same fun commitmentHash _ => .bind_same fun engine _ => ?_
  unfold SettlementEngine.verifyShieldedResolutionProof SettlementEngine.verifyProof
  refine .bind (.bind_same fun _ _ => verdicts.shielded ..) ?_ ?_ ?_
  · rintro ⟨accepted, s⟩ ⟨_, t⟩ _ _ ⟨rfl, near⟩
    have called := on.setOutside near
    dsimp only
    split
    · exact .same (.ok ⟨rfl, (called.emit recording _).toAgree⟩)
    · refine .same (.bind (recordResolution_agrees recording called on.pinned ..) fun _ _ _ _ recorded => ?_)
      refine .bind (settleWinningCommitment_agrees recorded ..) fun _ _ _ _ settled => ?_
      refine .bind (openShieldedRefundPath_agrees settled) fun _ _ _ _ opened => ?_
      exact .bind (markWinningIdentity_agrees opened _) fun _ _ _ _ marked => .ok ⟨rfl, marked.toAgree⟩
  · rintro raised ⟨accepted, t⟩ ⟨overflow, rejected, counted⟩
    obtain rfl : accepted = false := rejected
    exact ⟨_, rfl, overflow, rfl, counted⟩
  · rintro ⟨accepted, s⟩ raised ⟨overflow, rejected, counted⟩
    obtain rfl : accepted = false := rejected
    exact ⟨_, rfl, overflow, rfl, counted⟩

/-- A vault releases the same refund for two markets that settle it alike. -/
theorem releaseRefund_agrees {Source : Type} {related : Source → Source → Prop} {vault : ShieldedEscrowVault}
    {first second : AuctionId → Bytes32 → Address → ℕ → Except Revert Source}
    (settle : ∀ auctionId key recipient amount, SameOutcome related (first auctionId key recipient amount)
      (second auctionId key recipient amount)) (commitmentHash key : Bytes32) (recipient : Address) :
    SameOutcome (fun x y => related x.source y.source ∧ y = { x with source := y.source })
      (vault.releaseRefund first commitmentHash key recipient)
      (vault.releaseRefund second commitmentHash key recipient) := by
  unfold ShieldedEscrowVault.releaseRefund
  refine .bind_same fun commitment _ => .bind_same fun _ _ => .bind_same fun consumed _ =>
    .bind_same fun total _ => .bind (settle ..) fun source other _ _ near =>
    .bind_same fun payment _ => .bind_same fun _ _ => .ok ⟨near, rfl⟩

theorem payRefund_agrees (blind : env.Blind difference.outsides) (agree : Agree difference w v)
    (recipient : Address) (amount : ℕ) :
    SameOutcome (Agree difference) (w.payRefund env recipient amount)
      (v.payRefund env recipient amount) := by
  unfold payRefund isSystem
  rw [agree.vaults, agree.registries, agree.pots, agree.engines]
  split
  · exact .ok { agree with
      balance := congrArg (· + amount) agree.balance
      unsolicited := congrArg (· + amount) agree.unsolicited }
  · split
    · exact .error _
    · have received := blind.receiveEther agree.outside recipient amount
      generalize env.receiveEther w.outside recipient amount = x,
        env.receiveEther v.outside recipient amount = y at received
      cases received with
      | none => exact .error _
      | some near => exact .ok { agree with outside := near }

theorem claimRefundWithAuthorization_agrees (blind : env.Blind difference.outsides) (recording : difference.Recording)
    (wired : w.Wired env) (agree : Agree difference w v) (address : Address)
    (commitmentHash : Bytes32) (recipient : Address) (deadline : ℕ) (signature : Signature) :
    SameOutcome (Agree difference)
      (w.claimRefundWithAuthorization env msg address commitmentHash recipient deadline signature)
      (v.claimRefundWithAuthorization env msg address commitmentHash recipient deadline signature) := by
  have settle : ∀ auctionId key recipient amount,
      SameOutcome (fun left right => Agree difference { w with market := left } { v with market := right })
        (w.market.settleShieldedRefund address auctionId key recipient amount)
        (v.market.settleShieldedRefund address auctionId key recipient amount) := by
    intro auctionId key recipient amount
    unfold FhenixFairMarket.settleShieldedRefund
    rw [agree.auctions]
    refine .bind_same fun _ found => ?_
    have known : (w.market.auctions auctionId).auction.exists_ = true :=
      not_not.mp (revertIf_eq_ok.mp found)
    have on : AgreeOn difference auctionId w v := { agree with pinned := wired.initialized auctionId known }
    rw [on.dependency _ v.market.shieldedEscrowVault w.market.shieldedEscrowVault]
    refine .bind_same fun _ _ => .bind_same fun _ _ => .bind_same fun _ _ => .bind_same fun _ _ => .ok ?_
    exact { agree with auctions := rfl }
  unfold claimRefundWithAuthorization
  rw [congrFun agree.vaults address]
  refine .bind_same fun vault _ => ?_
  unfold ShieldedEscrowVault.claimRefundWithAuthorization
  refine .bind (.bind_same fun commitment _ => .bind_same fun consumed _ =>
    releaseRefund_agrees settle ..) fun x y _ _ same => ?_
  obtain ⟨near, same⟩ := same
  rw [same]
  dsimp only
  have released : Agree difference ({ w with market := x.source }.setVault address x.vault)
      ({ v with market := y.source }.setVault address x.vault) :=
    { near with
      vaults := by
        dsimp only [setVault]
        rw [agree.vaults] }
  refine .bind (payRefund_agrees blind released ..) fun paid other _ _ pays => .ok ?_
  exact { pays with log := recording _ _ _ pays.log }

/-- Worlds with the same current dependencies create the same auction. -/
theorem createAuction_agrees (blind : env.Blind difference.outsides) (recording : difference.Recording)
    (agree : Agree difference w v) (settled : v.dependencies = w.dependencies) (nftContract : Address)
    (tokenId duration startingPrice sellerDeposit : ℕ) (isVickrey : Bool) :
    SameOutcome (Agree difference)
      (w.createAuction env msg nftContract tokenId duration startingPrice sellerDeposit isVickrey)
      (v.createAuction env msg nftContract tokenId duration startingPrice sellerDeposit isVickrey) := by
  simp only [dependencies, AuctionDependencySnapshot.mk.injEq, true_and] at settled
  obtain ⟨cofheAdapter, settlementEngine, slashedPot, shieldedEscrowVault, registry⟩ := settled
  unfold createAuction
  rw [blind.ownerOf agree.outside, blind.getApproved agree.outside,
    blind.isApprovedForAll agree.outside, agree.auctionCounter, agree.auctions, agree.network,
    cofheAdapter, settlementEngine, slashedPot, shieldedEscrowVault, registry]
  refine .bind_same fun _ _ => .bind_same fun _ _ => .bind_same fun _ _ => .bind_same fun _ _ =>
    .bind_same fun tokenOwner _ => .bind_same fun _ _ => .bind_same fun approvedAddress _ =>
    .bind_same fun approvedForAll _ => .bind_same fun _ _ => .bind_same fun auctionCounter _ =>
    .bind_same fun endTime _ => .bind_same fun network _ => .bind_same fun auction _ => ?_
  refine .bind (blind.safeTransferFrom agree.outside ..) fun s t _ _ near => .ok ?_
  exact { agree with
    auctions := congrArg (Function.update · _ _) agree.auctions
    auctionCounter := rfl
    network := rfl
    balance := congrArg (· + msg.value) agree.balance
    outside := near
    log := recording _ _ _ (recording _ _ _ agree.log) }

/-- What a transaction leaves behind and what it returns: a resolution says whether its proof
was accepted. -/
def reply (env : External σ) (w : World σ) (msg : Msg) : Tx σ → Except Revert (Bool × World σ)
  | .submitResolution auctionId winner winnerCiphertext winningAmount avsProof =>
    w.submitResolution env msg auctionId winner winnerCiphertext winningAmount avsProof
  | .submitShieldedResolution auctionId winnerIdentityHash winnerCiphertext winningAmount avsProof =>
    w.submitShieldedResolution env msg auctionId winnerIdentityHash winnerCiphertext winningAmount avsProof
  | tx => do
    let next ← w.execute env msg tx
    return (true, next)

theorem execute_eq_reply (tx : Tx σ) : w.execute env msg tx = afterResolution (w.reply env msg tx) := by
  have dropped : ∀ outcome : Except Revert (World σ),
      outcome = afterResolution (outcome >>= fun next => pure (true, next)) := by
    intro outcome
    cases outcome <;> rfl
  cases tx with
  | submitResolution => rfl
  | submitShieldedResolution => rfl
  | _ => exact dropped _

theorem afterResolution_agrees {x y : Except Revert (Bool × World σ)}
    (same : SameOutcome (SameFlag difference) x y) :
    SameOutcome (Agree difference) (afterResolution x) (afterResolution y) :=
  .bind same fun _ _ _ _ near => .ok near.2

/-- `transact` with what it returns. -/
def respond (env : External σ) (w : World σ) (input : Msg × Tx σ) : Except Revert (Bool × World σ) := do
  let (msg, tx) := input
  revertIf (msg.sender = 0 ∨ w.isSystem env msg.sender ∨ msg.timestamp < w.timestamp ∨
      tx.creates ∧ ¬ w.Configured) .invalidTransaction
  revertIf (msg.value ≠ 0 ∧ ¬ tx.payable) .nonPayable
  let (returned, next) ← w.reply env msg tx
  return (returned, { next with timestamp := msg.timestamp })

/-- `transact_unpaid`, with what is returned. -/
theorem respond_unpaid {tx : Tx σ} {returned : Bool} {next : World σ} (existing : tx.creates = false)
    (known : msg.sender ≠ 0) (stranger : w.isSystem env msg.sender = false) (timely : w.timestamp ≤ msg.timestamp)
    (unpaid : msg.value = 0) (replied : w.reply env msg tx = .ok (returned, next)) :
    w.respond env (msg, tx) = .ok (returned, { next with timestamp := msg.timestamp }) := by
  have passes : ¬ (msg.sender = 0 ∨ w.isSystem env msg.sender = true ∨ msg.timestamp < w.timestamp ∨
      tx.creates = true ∧ ¬ w.Configured) := by
    rw [stranger, existing]
    refine not_or.mpr ⟨known, not_or.mpr ⟨Bool.false_ne_true, not_or.mpr ⟨not_lt.mpr timely, ?_⟩⟩⟩
    exact fun creates => Bool.false_ne_true creates.1
  simp only [respond, bind_eq_ok, exists_revertIf]
  exact ⟨passes, fun paid => paid.1 unpaid, _, replied, rfl⟩

theorem transact_eq_respond (input : Msg × Tx σ) :
    w.transact env input = afterResolution (w.respond env input) := by
  obtain ⟨msg, tx⟩ := input
  simp only [transact, respond, execute_eq_reply, afterResolution, bind_assoc, pure_bind]

end World

/-- The proof a resolution is submitted with. -/
def Tx.proof : Tx σ → Proof
  | .submitResolution _ _ _ _ avsProof | .submitShieldedResolution _ _ _ _ avsProof => avsProof
  | _ => none

/-- The owner changes one of the market's current dependencies. -/
def Tx.rotates : Tx σ → Bool
  | .setCofheAdapter .. | .setSettlementEngine .. | .setSlashedPot .. | .setShieldedEscrowVault ..
  | .setShieldedIdentityRegistry .. => true
  | _ => false

/-- The transaction neither uses the market's current dependencies nor changes them, and is
one of the contracts' own. -/
def Tx.ordinary : Tx σ → Bool
  | .createAuction .. | .outside .. => false
  | tx => ¬ tx.rotates

namespace World

variable {env : External σ} {difference : Difference σ} {w v : World σ} {msg : Msg}

theorem executed_agrees {x y : Except Revert (World σ)} (same : SameOutcome (Agree difference) x y)
    {full fullToo : Prop} :
    SameReply (SameFlag difference) full fullToo (x >>= fun next => pure (true, next))
      (y >>= fun next => pure (true, next)) :=
  .same (.bind same fun _ _ _ _ near => .ok ⟨rfl, near⟩)

theorem setAVS_agrees (agree : Agree difference w v) (sender address newAVS : Address) :
    SameOutcome (Agree difference) (w.setAVS sender address newAVS) (v.setAVS sender address newAVS) := by
  unfold setAVS
  rw [agree.engines]
  exact .bind_same fun engine _ => .bind_same fun changed _ => .ok { agree with engines := rfl }

theorem setShieldedBidVerifier_agrees (agree : Agree difference w v) (sender address newVerifier : Address) :
    SameOutcome (Agree difference) (w.setShieldedBidVerifier sender address newVerifier)
      (v.setShieldedBidVerifier sender address newVerifier) := by
  unfold setShieldedBidVerifier
  rw [congrFun agree.vaults address]
  refine .bind_same fun vault _ => .bind_same fun changed _ => .ok { agree with vaults := ?_ }
  dsimp only [setVault]
  rw [agree.vaults]

theorem setPreviewReader_agrees (agree : Agree difference w v) (sender address newPreviewReader : Address) :
    SameOutcome (Agree difference) (w.setPreviewReader sender address newPreviewReader)
      (v.setPreviewReader sender address newPreviewReader) := by
  unfold setPreviewReader
  rw [congrFun agree.vaults address]
  refine .bind_same fun vault _ => .bind_same fun changed _ => .ok { agree with vaults := ?_ }
  dsimp only [setVault]
  rw [agree.vaults]

/-- Ordinary transactions do the same in both worlds, and return the same. -/
theorem reply_agrees (blind : env.Blind difference.outsides) (recording : difference.Recording)
    (wired : w.Wired env) (agree : Agree difference w v) {full fullToo : Proof → Prop}
    (verdicts : SameVerdicts env difference full fullToo w v) {tx : Tx σ}
    (ordinary : tx.ordinary = true) :
    SameReply (SameFlag difference) (full tx.proof) (fullToo tx.proof) (w.reply env msg tx)
      (v.reply env msg tx) := by
  cases tx with
  | lockEscrow => exact executed_agrees (lockEscrow_agrees recording wired agree)
  | lockShieldedEscrow => exact executed_agrees (lockShieldedEscrow_agrees recording wired agree ..)
  | placeBid => exact executed_agrees (placeBid_agrees blind recording wired agree _)
  | placeShieldedBid => exact executed_agrees (placeShieldedBid_agrees blind recording wired agree ..)
  | triggerFinalize => exact executed_agrees (triggerFinalize_agrees recording wired agree)
  | submitResolution => exact submitResolution_agrees blind recording wired agree verdicts ..
  | submitShieldedResolution => exact submitShieldedResolution_agrees recording wired agree verdicts ..
  | cancelAuction => exact executed_agrees (cancelAuction_agrees blind recording wired agree)
  | triggerFallbackVoid => exact executed_agrees (triggerFallbackVoid_agrees blind recording wired agree)
  | claimRefund => exact executed_agrees (claimRefund_agrees blind recording wired agree)
  | claimSellerProceeds => exact executed_agrees (claimSellerProceeds_agrees blind recording wired agree)
  | claimFinalizeReward => exact executed_agrees (claimFinalizeReward_agrees blind recording wired agree)
  | claimAsset => exact executed_agrees (claimAsset_agrees blind recording wired agree)
  | claimShieldedAssetWithAuthorization =>
    exact executed_agrees (claimShieldedAsset_agrees blind recording wired agree ..)
  | claimRefundWithAuthorization =>
    exact executed_agrees (claimRefundWithAuthorization_agrees blind recording wired agree ..)
  | receive =>
    have received : Agree difference (w.receiveEther msg.value) (v.receiveEther msg.value) :=
      { agree with
        balance := congrArg (· + msg.value) agree.balance
        unsolicited := congrArg (· + msg.value) agree.unsolicited }
    exact executed_agrees (.ok received)
  | setAVS => exact executed_agrees (setAVS_agrees agree ..)
  | setShieldedBidVerifier => exact executed_agrees (setShieldedBidVerifier_agrees agree ..)
  | setPreviewReader => exact executed_agrees (setPreviewReader_agrees agree ..)
  | _ => cases ordinary

/-- The same addresses have code. -/
theorem requireDependency_agrees (blind : env.Blind difference.outsides) (agree : Agree difference w v)
    (dependency : Address) : v.requireDependency env dependency = w.requireDependency env dependency := by
  have system : v.isSystem env dependency = w.isSystem env dependency := by
    unfold isSystem
    rw [agree.vaults, agree.registries, agree.pots, agree.engines]
  unfold requireDependency hasCode
  rw [blind.isContract agree.outside, system]

/-- With the same dependencies set, both worlds give a new auction contracts of this repository. -/
theorem configured_agrees (agree : Agree difference w v) (same : v.dependencies = w.dependencies) :
    v.Configured ↔ w.Configured := by
  have deployed : ∀ {pot vault registry engine}, v.Deployed pot vault registry engine ↔
      w.Deployed pot vault registry engine := by
    intro pot vault registry engine
    constructor
    · exact fun before => before.transfer (by rw [agree.pots]) (by rw [agree.vaults]) (by rw [agree.registries])
        (by rw [agree.engines])
    · exact fun before => before.transfer (by rw [agree.pots]) (by rw [agree.vaults]) (by rw [agree.registries])
        (by rw [agree.engines])
  simp only [dependencies, AuctionDependencySnapshot.mk.injEq] at same
  obtain ⟨-, -, engine, pot, vault, registry⟩ := same
  rw [Configured, Configured, engine, pot, vault, registry, deployed]

/-- What holds of the bodies of two transactions holds of them, in worlds where both are in time. -/
theorem respond_agrees (agree : Agree difference w v) {tx other : Tx σ} (payable : other.payable = tx.payable)
    (creates : other.creates = tx.creates) (configured : tx.creates = true → (v.Configured ↔ w.Configured))
    (timely : w.timestamp ≤ msg.timestamp) (timelyToo : v.timestamp ≤ msg.timestamp) {full fullToo : Prop}
    (same : SameReply (SameFlag difference) full fullToo (w.reply env msg tx) (v.reply env msg other)) :
    SameReply (SameFlag difference) full fullToo (w.respond env (msg, tx)) (v.respond env (msg, other)) := by
  have early : ¬ msg.timestamp < w.timestamp := Nat.not_lt.mpr timely
  have earlyToo : ¬ msg.timestamp < v.timestamp := Nat.not_lt.mpr timelyToo
  have system : v.isSystem env msg.sender = w.isSystem env msg.sender := by
    unfold isSystem
    rw [agree.vaults, agree.registries, agree.pots, agree.engines]
  have given : other.creates = true ∧ ¬ v.Configured ↔ tx.creates = true ∧ ¬ w.Configured := by
    rw [creates]
    exact and_congr_right fun created => not_congr (configured created)
  simp only [respond, system, payable, early, earlyToo, given, false_or]
  refine .bind_same fun _ _ => .bind_same fun _ _ => .bind same ?_ ?_ ?_
  · intro x y _ _ near
    exact .same (.ok ⟨near.1, { near.2 with }⟩)
  · intro raised y excuse
    exact ⟨_, rfl, excuse⟩
  · intro x raised excuse
    exact ⟨_, rfl, excuse⟩

/-- Both worlds are wired and agree. -/
structure Twins (env : External σ) (difference : Difference σ) (w v : World σ) : Prop where
  left : w.Wired env
  right : v.Wired env
  agree : Agree difference w v

namespace Twins

theorem advance_wired (wired : w.Wired env) (input : Msg × Tx σ) :
    (advance (World.transact env) w input).Wired env := by
  obtain ⟨msg, tx⟩ := input
  rcases advance_cases (World.transact env) w (msg, tx) with kept | taken
  · rw [kept]
    exact wired
  · exact (transact_transition wired taken).1

theorem ownLeft (symmetric : difference.Symmetric) (twins : Twins env difference w v) {input : Msg × Tx σ}
    (own : Agree difference w (advance (World.transact env) w input)) :
    Twins env difference (advance (World.transact env) w input) v :=
  ⟨advance_wired twins.left input, twins.right, .trans symmetric (.symm symmetric own) twins.agree⟩

theorem ownRight (symmetric : difference.Symmetric) (twins : Twins env difference w v) {input : Msg × Tx σ}
    (own : Agree difference v (advance (World.transact env) v input)) :
    Twins env difference w (advance (World.transact env) v input) :=
  ⟨twins.left, advance_wired twins.right input, .trans symmetric twins.agree own⟩

theorem both (twins : Twins env difference w v) {x y : Msg × Tx σ}
    (agree : Agree difference (advance (World.transact env) w x) (advance (World.transact env) v y)) :
    Twins env difference (advance (World.transact env) w x) (advance (World.transact env) v y) :=
  ⟨advance_wired twins.left x, advance_wired twins.right y, agree⟩

end Twins

end World

end FairMarket
