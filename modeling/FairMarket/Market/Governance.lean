import FairMarket.Contracts.IdentityBindings
import FairMarket.Market.Accounted

/-! Who decides about the settings of the contracts: each has an owner, and nobody else's
transaction changes what is set in it. -/

namespace FairMarket

variable {σ : Type}

/-- The contracts with an owner. -/
inductive OwnedContract where
  | market
  | vault (address : Address)
  | registry (address : Address)
  | pot (address : Address)
  | engine (address : Address)
  deriving DecidableEq

structure MarketSettings where
  owner : Address
  cofheAdapter : Address
  settlementEngine : Address
  slashedPot : Address
  shieldedEscrowVault : Address
  shieldedIdentityRegistry : Address

structure VaultSettings where
  owner : Address
  market : Address
  shieldedBidVerifier : Address
  previewReader : Address

/-- The settings of a registry or of a pot. -/
structure MarketLink where
  owner : Address
  market : Address

inductive OwnedSettings where
  | market (settings : MarketSettings)
  | vault (settings : Option VaultSettings)
  | registry (settings : Option MarketLink)
  | pot (settings : Option MarketLink)
  | engine (settings : Option SettlementEngine)

def FhenixFairMarket.owned (market : FhenixFairMarket) : MarketSettings where
  owner := market.owner
  cofheAdapter := market.cofheAdapter
  settlementEngine := market.settlementEngine
  slashedPot := market.slashedPot
  shieldedEscrowVault := market.shieldedEscrowVault
  shieldedIdentityRegistry := market.shieldedIdentityRegistry

def ShieldedEscrowVault.owned (vault : ShieldedEscrowVault) : VaultSettings where
  owner := vault.owner
  market := vault.market
  shieldedBidVerifier := vault.shieldedBidVerifier
  previewReader := vault.previewReader

def ShieldedIdentityRegistry.owned (registry : ShieldedIdentityRegistry) : MarketLink where
  owner := registry.owner
  market := registry.market

def SlashedPot.owned (pot : SlashedPot) : MarketLink where
  owner := pot.owner
  market := pot.market

theorem SlashedPot.registerSlash_owned {pot registered : SlashedPot} {sender : Address} {value : ℕ}
    {auctionId : AuctionId} {totalEscrow : ℕ}
    (done : pot.registerSlash sender value auctionId totalEscrow = .ok registered) : registered.owned = pot.owned := by
  simp only [SlashedPot.registerSlash, bind_eq_ok, pure_eq_ok, Except.ok.injEq] at done
  obtain ⟨-, -, totalSlash, -, rfl⟩ := done
  rfl

theorem ShieldedIdentityRegistry.bindIdentity_owned {registry bound : ShieldedIdentityRegistry} {sender : Address}
    {auctionId : AuctionId} {identityHash commitmentHash : Bytes32}
    (binds : registry.bindIdentity sender auctionId identityHash commitmentHash = .ok bound) :
    bound.owned = registry.owned := by
  obtain ⟨-, -, ⟨rfl, -⟩ | ⟨-, -, rfl⟩⟩ := bindIdentity_cases binds
  · rfl
  · rfl

/-- The contract whose settings the transaction is about. -/
def Tx.configures : Tx σ → Option OwnedContract
  | .setCofheAdapter _ | .setSettlementEngine _ | .setSlashedPot _ => some .market
  | .setShieldedEscrowVault _ | .setShieldedIdentityRegistry _ => some .market
  | .setAVS engine _ => some (.engine engine)
  | .setShieldedBidVerifier vault _ | .setPreviewReader vault _ => some (.vault vault)
  | _ => none

namespace World

def settingsOf (w : World σ) : OwnedContract → OwnedSettings
  | .market => .market w.market.owned
  | .vault address => .vault ((w.vaults address).map ShieldedEscrowVault.owned)
  | .registry address => .registry ((w.registries address).map ShieldedIdentityRegistry.owned)
  | .pot address => .pot ((w.pots address).map SlashedPot.owned)
  | .engine address => .engine (w.engines address)

def contractOwner (w : World σ) : OwnedContract → Option Address
  | .market => some w.market.owner
  | .vault address => (w.vaults address).map (·.owner)
  | .registry address => (w.registries address).map (·.owner)
  | .pot address => (w.pots address).map (·.owner)
  | .engine address => (w.engines address).map (·.owner)

variable {env : External σ} {w middle next : World σ} {msg : Msg} {auctionId : AuctionId}

theorem contractOwner_eq {contract : OwnedContract} (same : next.settingsOf contract = w.settingsOf contract) :
    next.contractOwner contract = w.contractOwner contract := by
  cases contract with
  | market => exact congrArg some (congrArg MarketSettings.owner (OwnedSettings.market.inj same))
  | vault address =>
    have owners := congrArg (Option.map VaultSettings.owner) (OwnedSettings.vault.inj same)
    rw [Option.map_map, Option.map_map] at owners
    exact owners
  | registry address =>
    have owners := congrArg (Option.map MarketLink.owner) (OwnedSettings.registry.inj same)
    rw [Option.map_map, Option.map_map] at owners
    exact owners
  | pot address =>
    have owners := congrArg (Option.map MarketLink.owner) (OwnedSettings.pot.inj same)
    rw [Option.map_map, Option.map_map] at owners
    exact owners
  | engine address => exact congrArg (Option.map SettlementEngine.owner) (OwnedSettings.engine.inj same)

/-- No auction has come into being, and each has the contracts it had. -/
def Pins (w next : World σ) : Prop :=
  ∀ auctionId, (next.market.auctions auctionId).auction.exists_ = (w.market.auctions auctionId).auction.exists_ ∧
    next.snapshot auctionId = w.snapshot auctionId

theorem Pins.trans (first : w.Pins middle) (second : middle.Pins next) : w.Pins next := fun auctionId =>
  ⟨(second auctionId).1.trans (first auctionId).1, (second auctionId).2.trans (first auctionId).2⟩

/-- All that has changed in the auctions is the rest of one of them. -/
theorem Pins.set {cell : AuctionStorage}
    (auctions : next.market.auctions = Function.update w.market.auctions auctionId cell)
    (exists_ : cell.auction.exists_ = (w.market.auctions auctionId).auction.exists_)
    (same : cell.dependencySnapshot = w.snapshot auctionId) : w.Pins next := by
  intro other
  unfold snapshot
  rw [auctions]
  by_cases own : other = auctionId
  · rw [own, Function.update_self]
    exact ⟨exists_, same⟩
  · rw [Function.update_of_ne own]
    exact ⟨rfl, rfl⟩

/-- A table is as it was but for one contract, in which something else has changed. -/
theorem map_update {Contract Settings : Type} {owned : Contract → Settings} {before after : Address → Option Contract}
    {address : Address} {contract changed : Contract} (deployed : before address = some contract)
    (table : after = Function.update before address (some changed)) (same : owned changed = owned contract)
    (other : Address) : (after other).map owned = (before other).map owned := by
  rw [table]
  by_cases own : other = address
  · rw [own, Function.update_self, deployed, Option.map_some, Option.map_some, same]
  · rw [Function.update_of_ne own]

/-- No setting has changed, and the market has handed out no id. -/
structure Retains (w next : World σ) : Prop where
  counter : next.market.auctionCounter = w.market.auctionCounter
  market : next.market.owned = w.market.owned
  vaults : ∀ address, (next.vaults address).map ShieldedEscrowVault.owned =
    (w.vaults address).map ShieldedEscrowVault.owned
  registries : ∀ address, (next.registries address).map ShieldedIdentityRegistry.owned =
    (w.registries address).map ShieldedIdentityRegistry.owned
  pots : ∀ address, (next.pots address).map SlashedPot.owned = (w.pots address).map SlashedPot.owned
  engines : next.engines = w.engines
  pins : w.Pins next

namespace Retains

theorem refl (w : World σ) : w.Retains w :=
  ⟨rfl, rfl, fun _ => rfl, fun _ => rfl, fun _ => rfl, rfl, fun _ => ⟨rfl, rfl⟩⟩

theorem trans (first : w.Retains middle) (second : middle.Retains next) : w.Retains next where
  counter := second.counter.trans first.counter
  market := second.market.trans first.market
  vaults address := (second.vaults address).trans (first.vaults address)
  registries address := (second.registries address).trans (first.registries address)
  pots address := (second.pots address).trans (first.pots address)
  engines := second.engines.trans first.engines
  pins := first.pins.trans second.pins

theorem settingsOf_eq (retains : w.Retains next) (contract : OwnedContract) :
    next.settingsOf contract = w.settingsOf contract := by
  cases contract with
  | market => exact congrArg _ retains.market
  | vault address => exact congrArg _ (retains.vaults address)
  | registry address => exact congrArg _ (retains.registries address)
  | pot address => exact congrArg _ (retains.pots address)
  | engine address => exact congrArg _ (congrFun retains.engines address)

end Retains

theorem setAuction_retains {cell : AuctionStorage}
    (found : cell.auction.exists_ = (w.market.auctions auctionId).auction.exists_)
    (same : cell.dependencySnapshot = w.snapshot auctionId) : w.Retains (w.setAuction auctionId cell) :=
  { Retains.refl w with pins := .set rfl found same }

theorem sendValue_retains {recipient : Address} {amount : ℕ} (done : w.sendValue env recipient amount = .ok next) :
    w.Retains next := by
  obtain ⟨-, outside, -, rfl⟩ := sendValue_ok.mp done
  exact { Retains.refl w with }

theorem payReward_retains {recipient : Address} {reward : ℕ} (done : w.payReward env recipient reward = .ok next) :
    w.Retains next := by
  obtain ⟨-, outside, rfl⟩ := payReward_ok done
  exact { Retains.refl w with }

theorem openShieldedRefundPath_retains (done : w.openShieldedRefundPath env auctionId = .ok next) :
    w.Retains next := by
  unfold openShieldedRefundPath at done
  dsimp only at done
  split at done
  · cases done
    exact .refl w
  · split at done
    · cases done
      exact { Retains.refl w with }
    · rename_i vault deployed
      simp only [bind_eq_ok, pure_eq_ok, Except.ok.injEq] at done
      obtain ⟨unlocked, unlocks, rfl⟩ := done
      obtain ⟨-, rfl⟩ := ShieldedEscrowVault.unlockRefunds_ok.mp unlocks
      exact { Retains.refl w with vaults := map_update deployed rfl rfl, pins := .set rfl rfl rfl }

theorem allocateSlash_retains {totalEscrow slashAmount share : ℕ}
    (done : w.allocateSlash env auctionId totalEscrow slashAmount = .ok (share, next)) : w.Retains next := by
  unfold allocateSlash at done
  dsimp only at done
  split at done
  · cases done
    exact .refl w
  · rename_i vault deployed
    simp only [bind_eq_ok, exists_revertIf, Prod.exists, pure_eq_ok, Except.ok.injEq, Prod.mk.injEq] at done
    obtain ⟨-, _, changed, allocation, -, rfl⟩ := done
    obtain ⟨-, rfl⟩ := ShieldedEscrowVault.allocateSlash_ok allocation
    exact { Retains.refl w with vaults := map_update deployed rfl rfl }

theorem registerSlash_retains {totalEscrow slashAmount : ℕ}
    (done : w.registerSlash env auctionId totalEscrow slashAmount = .ok next) : w.Retains next := by
  unfold registerSlash at done
  split at done
  · cases done
    exact .refl w
  · simp only [bind_eq_ok, Prod.exists] at done
    obtain ⟨share, allocated, allocates, done⟩ := done
    have first := allocateSlash_retains allocates
    split at done
    · cases done
      exact first
    · simp only [bind_eq_ok, exists_revertIf, requireSome_eq_ok, pure_eq_ok, Except.ok.injEq] at done
      obtain ⟨pot, deployed, -, registered, registers, rfl⟩ := done
      exact first.trans { Retains.refl allocated with
        pots := map_update deployed rfl (SlashedPot.registerSlash_owned registers) }

theorem settleWinningCommitment_retains {commitmentHash : Bytes32} {winningAmount : ℕ}
    (done : w.settleWinningCommitment env auctionId commitmentHash winningAmount = .ok next) :
    w.Retains next := by
  simp only [settleWinningCommitment, bind_eq_ok, requireSome_eq_ok, pure_eq_ok, Except.ok.injEq,
    Prod.exists] at done
  obtain ⟨vault, deployed, remaining, settled, settles, rfl⟩ := done
  obtain ⟨-, -, rfl⟩ := ShieldedEscrowVault.settleWinningCommitment_ok.mp settles
  exact { Retains.refl w with vaults := map_update deployed rfl rfl }

theorem payEscrowRefund_retains {cell : AuctionStorage} {claimant : Address} {escrowRefund : ℕ}
    (own : w.market.auctions auctionId = cell)
    (done : w.payEscrowRefund env auctionId cell claimant escrowRefund = .ok next) : w.Retains next := by
  subst own
  unfold payEscrowRefund at done
  split at done
  · cases done
    exact .refl w
  · refine Retains.trans (setAuction_retains ?_ ?_) (sendValue_retains done)
    · rfl
    · rfl

theorem payCompensation_retains {claimant : Address} {escrowRefund compensation paid : ℕ}
    (done : w.payCompensation env auctionId claimant escrowRefund compensation = .ok (paid, next)) :
    w.Retains next := by
  unfold payCompensation at done
  split at done
  · cases done
    exact .refl w
  · simp only [bind_eq_ok, requireSome_eq_ok, Prod.exists] at done
    obtain ⟨pot, deployed, amount, claimed, claims, done⟩ := done
    obtain ⟨-, rfl⟩ := SlashedPot.claimFor_ok.mp claims
    split at done
    · cases done
      exact { Retains.refl w with pots := map_update deployed rfl rfl }
    · simp only [bind_eq_ok, pure_eq_ok, Except.ok.injEq, Prod.mk.injEq] at done
      obtain ⟨outside, -, -, rfl⟩ := done
      exact { Retains.refl w with pots := map_update deployed rfl rfl }

theorem payRefund_retains {recipient : Address} {amount : ℕ}
    (done : w.payRefund env recipient amount = .ok next) : w.Retains next := by
  unfold payRefund at done
  split at done
  · cases done
    exact { Retains.refl w with }
  · split at done
    · cases done
    · simp only [bind_eq_ok, pure_eq_ok, Except.ok.injEq] at done
      obtain ⟨outside, -, rfl⟩ := done
      exact { Retains.refl w with }

/-- Recording an outcome keeps what an auction is. -/
theorem recordResolution_retains {winner : Address} {winningCommitment winnerCiphertext : Bytes32} {winningAmount : ℕ}
    (done : w.recordResolution msg auctionId (w.market.auctions auctionId) winner winningCommitment winnerCiphertext
      winningAmount = .ok next) : w.Retains next := by
  simp only [recordResolution, bind_eq_ok, transitionState_ok, pure_eq_ok, Except.ok.injEq] at done
  obtain ⟨network, -, auction, ⟨-, rfl⟩, rfl⟩ := done
  exact { Retains.refl w with pins := .set rfl rfl rfl }

theorem submitResolution_retains {winner : Address} {winnerCiphertext : Bytes32} {winningAmount : ℕ}
    {avsProof : Proof} {accepted : Bool}
    (done : w.submitResolution env msg auctionId winner winnerCiphertext winningAmount avsProof =
      .ok (accepted, next)) : w.Retains next := by
  simp only [submitResolution, bind_eq_ok, auctionExists_ok, exists_revertIf, Prod.exists] at done
  obtain ⟨cell, ⟨-, rfl⟩, -, -, -, -, -, -, engine, -, proofAccepted, outside, -, done⟩ := done
  split at done
  · cases done
    exact { Retains.refl w with }
  · simp only [bind_eq_ok, pure_eq_ok, Except.ok.injEq, Prod.mk.injEq] at done
    obtain ⟨recorded, records, opened, opens, -, rfl⟩ := done
    exact (show w.Retains (w.setOutside outside) from { Retains.refl w with }).trans
      ((recordResolution_retains records).trans (openShieldedRefundPath_retains opens))

theorem submitShieldedResolution_retains {winnerIdentityHash winnerCiphertext : Bytes32}
    {winningAmount : ℕ} {avsProof : Proof} {accepted : Bool}
    (done : w.submitShieldedResolution env msg auctionId winnerIdentityHash winnerCiphertext winningAmount
      avsProof = .ok (accepted, next)) : w.Retains next := by
  simp only [submitShieldedResolution, bind_eq_ok, auctionExists_ok, exists_revertIf, Prod.exists] at done
  obtain ⟨cell, ⟨-, rfl⟩, -, -, -, -, commitmentHash, -, engine, -, proofAccepted, outside, -, done⟩ := done
  split at done
  · cases done
    exact { Retains.refl w with }
  · simp only [markWinningIdentity, bind_eq_ok, requireSome_eq_ok, pure_eq_ok, Except.ok.injEq, Prod.mk.injEq] at done
    obtain ⟨recorded, records, settled, settles, opened, opens, marked, ⟨registry, deployed, bound, marks, rfl⟩, -,
      rfl⟩ := done
    obtain ⟨-, -, rfl⟩ := ShieldedIdentityRegistry.markWinningIdentity_reads marks
    exact (show w.Retains (w.setOutside outside) from { Retains.refl w with }).trans
      ((recordResolution_retains records).trans ((settleWinningCommitment_retains settles).trans
        ((openShieldedRefundPath_retains opens).trans
          { Retains.refl opened with registries := map_update deployed rfl rfl })))

theorem claimRefund_retains (done : w.claimRefund env msg auctionId = .ok next) : w.Retains next := by
  simp only [claimRefund, bind_eq_ok, auctionExists_ok, exists_revertIf, Prod.exists, pure_eq_ok,
    Except.ok.injEq] at done
  obtain ⟨cell, ⟨-, rfl⟩, -, escrowRefund, compensation, -, -, refunded, refunds, paid, compensated,
    compensates, rfl⟩ := done
  have paid := (payEscrowRefund_retains (Function.update_self ..) refunds).trans (payCompensation_retains compensates)
  have retains : w.Retains compensated := by
    refine Retains.trans (setAuction_retains ?_ ?_) paid
    · rfl
    · rfl
  exact { retains with }

/-- What the market notes when a vault pays a refund. -/
theorem settleShieldedRefund_retains {vaultAddress recipient : Address} {nullifierHash : Bytes32}
    {escrowContribution : ℕ} {market : FhenixFairMarket}
    (done : w.market.settleShieldedRefund vaultAddress auctionId nullifierHash recipient escrowContribution =
      .ok market) : w.Retains { w with market } := by
  simp only [FhenixFairMarket.settleShieldedRefund, bind_eq_ok, exists_revertIf, pure_eq_ok, Except.ok.injEq] at done
  obtain ⟨-, -, -, -, -, rfl⟩ := done
  exact { Retains.refl w with pins := .set rfl rfl rfl }

theorem claimRefundWithAuthorization_retains {vaultAddress recipient : Address} {commitmentHash : Bytes32}
    {deadline : ℕ} {signature : Signature}
    (done : w.claimRefundWithAuthorization env msg vaultAddress commitmentHash recipient deadline signature =
      .ok next) : w.Retains next := by
  simp only [claimRefundWithAuthorization, bind_eq_ok, requireSome_eq_ok, pure_eq_ok, Except.ok.injEq] at done
  obtain ⟨vault, deployed, released, releases, paid, pays, rfl⟩ := done
  obtain ⟨digest, consumed, -, authorized, refunds⟩ :=
    ShieldedEscrowVault.claimRefundWithAuthorization_ok.mp releases
  obtain ⟨⟨-, -, -, -, -, settles⟩, same⟩ := ShieldedEscrowVault.releaseRefund_ok refunds
  obtain ⟨-, -, rfl⟩ := ShieldedEscrowVault.consumeClaimAuthorization_ok.mp authorized
  have released : w.Retains ({ w with market := released.source }.setVault vaultAddress released.vault) := by
    rw [same]
    exact (settleShieldedRefund_retains settles).trans
      { Retains.refl { w with market := released.source } with vaults := map_update deployed rfl rfl }
  have retains := released.trans (payRefund_retains pays)
  exact { retains with }

theorem lockEscrow_retains (done : w.lockEscrow msg auctionId = .ok next) : w.Retains next := by
  simp only [lockEscrow, bind_eq_ok, auctionExists_ok, exists_revertIf, pure_eq_ok, Except.ok.injEq] at done
  obtain ⟨cell, ⟨-, rfl⟩, -, -, -, -, escrow, -, total, -, network, -, rfl⟩ := done
  exact { Retains.refl w with pins := .set rfl rfl rfl }

theorem lockShieldedEscrow_retains {identityHash commitmentHash : Bytes32} {claimAuthority : Address}
    (done : w.lockShieldedEscrow env msg auctionId identityHash commitmentHash claimAuthority = .ok next) :
    w.Retains next := by
  simp only [lockShieldedEscrow, bind_eq_ok, auctionExists_ok, exists_revertIf, requireSome_eq_ok,
    pure_eq_ok, Except.ok.injEq] at done
  obtain ⟨cell, ⟨-, rfl⟩, -, -, -, -, -, -, vault, deployed, registry, registered, network, -, bound, binds, locked,
    locks, rfl⟩ := done
  obtain ⟨-, rfl⟩ := ShieldedEscrowVault.lockEscrow_ok.mp locks
  exact { Retains.refl w with
    vaults := map_update deployed rfl rfl
    registries := map_update registered rfl (ShieldedIdentityRegistry.bindIdentity_owned binds)
    pins := .set rfl rfl rfl }

theorem placeBid_retains {encryptedBid : Bytes32} (done : w.placeBid env msg auctionId encryptedBid = .ok next) :
    w.Retains next := by
  simp only [placeBid, bind_eq_ok, auctionExists_ok, exists_revertIf, pure_eq_ok, Except.ok.injEq] at done
  obtain ⟨cell, ⟨-, rfl⟩, -, -, -, -, -, -, covered, -, -, bidCount, -, network, -, rfl⟩ := done
  exact { Retains.refl w with pins := .set rfl rfl rfl }

theorem placeShieldedBid_retains {commitmentHash encryptedBid : Bytes32} {coverageDeadline : ℕ}
    {coverageProof : List UInt8}
    (done : w.placeShieldedBid env msg auctionId commitmentHash encryptedBid coverageDeadline coverageProof =
      .ok next) : w.Retains next := by
  simp only [placeShieldedBid, bind_eq_ok, auctionExists_ok, exists_revertIf, pure_eq_ok,
    Except.ok.injEq] at done
  obtain ⟨cell, ⟨-, rfl⟩, -, -, -, -, vault, -, -, -, -, -, -, -, bidCount, -, network, -, rfl⟩ := done
  exact { Retains.refl w with pins := .set rfl rfl rfl }

theorem triggerFinalize_retains (done : w.triggerFinalize env msg auctionId = .ok next) : w.Retains next := by
  simp only [triggerFinalize, bind_eq_ok, auctionExists_ok, exists_revertIf, transitionState_ok, pure_eq_ok,
    Except.ok.injEq] at done
  obtain ⟨cell, ⟨-, rfl⟩, -, -, -, -, network, -, auction, ⟨-, rfl⟩, nonce, -, reward, -, request, -, rfl⟩ := done
  exact { Retains.refl w with pins := .set rfl rfl rfl }

theorem cancelAuction_retains (done : w.cancelAuction env msg auctionId = .ok next) : w.Retains next := by
  simp only [cancelAuction, releaseFromEscrow, bind_eq_ok, auctionExists_ok, transitionState_ok, pure_eq_ok,
    Except.ok.injEq, exists_revertIf] at done
  obtain ⟨cell, ⟨-, rfl⟩, -, -, -, -, -, slashAmount, -, network, -, auction, ⟨-, rfl⟩, registered,
    registers, opened, opens, outside, -, rfl⟩ := done
  have retains : w.Retains opened := by
    refine Retains.trans ?_ ((registerSlash_retains registers).trans (openShieldedRefundPath_retains opens))
    exact { Retains.refl w with pins := .set rfl rfl rfl }
  exact { retains with }

theorem triggerFallbackVoid_retains (done : w.triggerFallbackVoid env msg auctionId = .ok next) : w.Retains next := by
  simp only [triggerFallbackVoid, releaseFromEscrow, bind_eq_ok, auctionExists_ok, transitionState_ok,
    pure_eq_ok, Except.ok.injEq, exists_revertIf] at done
  obtain ⟨cell, ⟨-, rfl⟩, -, -, timeoutWindow, -, elapsed, -, total, -, -, network, -, auction, ⟨-, rfl⟩,
    registered, registers, opened, opens, released, ⟨outside, -, rfl⟩, rfl⟩ := done
  have retains : w.Retains opened := by
    refine Retains.trans ?_ ((registerSlash_retains registers).trans (openShieldedRefundPath_retains opens))
    exact { Retains.refl w with pins := .set rfl rfl rfl }
  exact { retains with }

theorem claimSellerProceeds_retains (done : w.claimSellerProceeds env msg auctionId = .ok next) : w.Retains next := by
  simp only [claimSellerProceeds, bind_eq_ok, auctionExists_ok, exists_revertIf, pure_eq_ok,
    Except.ok.injEq] at done
  obtain ⟨cell, ⟨-, rfl⟩, -, -, -, payout, -, -, sent, sends, rfl⟩ := done
  have retains : w.Retains sent := by
    refine Retains.trans ?_ (sendValue_retains sends)
    exact { Retains.refl w with pins := .set rfl rfl rfl }
  exact { retains with }

theorem claimFinalizeReward_retains (done : w.claimFinalizeReward env msg auctionId = .ok next) : w.Retains next := by
  simp only [claimFinalizeReward, bind_eq_ok, auctionExists_ok, exists_revertIf, pure_eq_ok,
    Except.ok.injEq] at done
  obtain ⟨cell, ⟨-, rfl⟩, -, -, -, sent, sends, rfl⟩ := done
  have retains : w.Retains sent := by
    refine Retains.trans ?_ (payReward_retains sends)
    exact { Retains.refl w with pins := .set rfl rfl rfl }
  exact { retains with }

theorem claimAsset_retains (done : w.claimAsset env msg auctionId = .ok next) : w.Retains next := by
  simp only [claimAsset, releaseFromEscrow, bind_eq_ok, auctionExists_ok, exists_revertIf, pure_eq_ok,
    Except.ok.injEq] at done
  obtain ⟨cell, ⟨-, rfl⟩, -, -, -, -, -, outside, -, rfl⟩ := done
  exact { Retains.refl w with pins := .set rfl rfl rfl }

theorem claimShieldedAssetWithAuthorization_retains {winnerIdentityHash : Bytes32} {recipient : Address}
    {deadline : ℕ} {signature : Signature}
    (done : w.claimShieldedAssetWithAuthorization env msg auctionId winnerIdentityHash recipient deadline signature =
      .ok next) : w.Retains next := by
  simp only [claimShieldedAssetWithAuthorization, releaseFromEscrow, bind_eq_ok, auctionExists_ok,
    exists_revertIf, requireSome_eq_ok, Prod.exists, pure_eq_ok, Except.ok.injEq] at done
  obtain ⟨cell, ⟨-, rfl⟩, -, -, -, -, vault, deployed, -, commitmentHash, -, digest, authorized, authorizes,
    outside, -, rfl⟩ := done
  obtain ⟨-, -, consumes⟩ := ShieldedEscrowVault.authorizeAssetClaim_ok.mp authorizes
  obtain ⟨-, -, rfl⟩ := ShieldedEscrowVault.consumeClaimAuthorization_ok.mp consumes
  exact { Retains.refl w with vaults := map_update deployed rfl rfl, pins := .set rfl rfl rfl }

theorem execute_retains {tx : Tx σ} (ordinary : tx.configures = none) (existing : tx.creates = false)
    (done : w.execute env msg tx = .ok next) : w.Retains next := by
  cases tx with
  | createAuction => cases existing
  | lockEscrow => exact lockEscrow_retains done
  | lockShieldedEscrow => exact lockShieldedEscrow_retains done
  | placeBid => exact placeBid_retains done
  | placeShieldedBid => exact placeShieldedBid_retains done
  | triggerFinalize => exact triggerFinalize_retains done
  | submitResolution =>
    obtain ⟨accepted, submitted⟩ := afterResolution_ok.mp done
    exact submitResolution_retains submitted
  | submitShieldedResolution =>
    obtain ⟨accepted, submitted⟩ := afterResolution_ok.mp done
    exact submitShieldedResolution_retains submitted
  | cancelAuction => exact cancelAuction_retains done
  | triggerFallbackVoid => exact triggerFallbackVoid_retains done
  | claimRefund => exact claimRefund_retains done
  | claimSellerProceeds => exact claimSellerProceeds_retains done
  | claimFinalizeReward => exact claimFinalizeReward_retains done
  | claimAsset => exact claimAsset_retains done
  | claimShieldedAssetWithAuthorization => exact claimShieldedAssetWithAuthorization_retains done
  | claimRefundWithAuthorization => exact claimRefundWithAuthorization_retains done
  | receive =>
    obtain rfl := Except.ok.inj done
    exact { Retains.refl w with }
  | outside outside =>
    simp only [execute, bind_eq_ok, exists_revertIf, pure_eq_ok, Except.ok.injEq] at done
    obtain ⟨-, rfl⟩ := done
    exact { Retains.refl w with }
  | _ => cases ordinary

/-- What a setter of a contract does: it comes from the owner, and changes no other contract and no auction. -/
structure Configures (sender : Address) (contract : OwnedContract) (w next : World σ) : Prop where
  owner : w.contractOwner contract = some sender
  counter : next.market.auctionCounter = w.market.auctionCounter
  others : ∀ other, other ≠ contract → next.settingsOf other = w.settingsOf other
  pins : w.Pins next

section Others

variable {other : OwnedContract} {address : Address}

/-- In a table only the contract at the address has changed. -/
theorem settingsOf_vaults {vault : Option ShieldedEscrowVault} (different : other ≠ .vault address) :
    ({ w with vaults := Function.update w.vaults address vault } : World σ).settingsOf other = w.settingsOf other := by
  cases other with
  | vault other =>
    have away : other ≠ address := fun own => different (own ▸ rfl)
    exact congrArg (fun found => OwnedSettings.vault (Option.map _ found)) (Function.update_of_ne away ..)
  | _ => rfl

theorem settingsOf_registries {registry : Option ShieldedIdentityRegistry} (different : other ≠ .registry address) :
    ({ w with registries := Function.update w.registries address registry } : World σ).settingsOf other =
      w.settingsOf other := by
  cases other with
  | registry other =>
    have away : other ≠ address := fun own => different (own ▸ rfl)
    exact congrArg (fun found => OwnedSettings.registry (Option.map _ found)) (Function.update_of_ne away ..)
  | _ => rfl

theorem settingsOf_pots {pot : Option SlashedPot} (different : other ≠ .pot address) :
    ({ w with pots := Function.update w.pots address pot } : World σ).settingsOf other = w.settingsOf other := by
  cases other with
  | pot other =>
    have away : other ≠ address := fun own => different (own ▸ rfl)
    exact congrArg (fun found => OwnedSettings.pot (Option.map _ found)) (Function.update_of_ne away ..)
  | _ => rfl

theorem settingsOf_engines {engine : Option SettlementEngine} (different : other ≠ .engine address) :
    ({ w with engines := Function.update w.engines address engine } : World σ).settingsOf other =
      w.settingsOf other := by
  cases other with
  | engine other =>
    have away : other ≠ address := fun own => different (own ▸ rfl)
    exact congrArg OwnedSettings.engine (Function.update_of_ne away ..)
  | _ => rfl

end Others

theorem setVault_configures {address sender : Address} {vault changed : ShieldedEscrowVault}
    (deployed : w.vaults address = some vault) (owner : sender = vault.owner) :
    Configures sender (.vault address) w (w.setVault address changed) where
  owner := by
    rw [contractOwner, deployed, owner]
    rfl
  counter := rfl
  others _ := settingsOf_vaults
  pins _ := ⟨rfl, rfl⟩

/-- A setter is called by the owner of its contract, which has the same owner after it. -/
theorem execute_configures {tx : Tx σ} {contract : OwnedContract} (configures : tx.configures = some contract)
    (done : w.execute env msg tx = .ok next) :
    Configures msg.sender contract w next ∧ next.contractOwner contract = w.contractOwner contract := by
  cases tx with
  | setCofheAdapter | setSettlementEngine | setSlashedPot | setShieldedEscrowVault
  | setShieldedIdentityRegistry =>
    cases configures
    simp only [execute, setCofheAdapter, setSettlementEngine, setSlashedPot, setShieldedEscrowVault,
      setShieldedIdentityRegistry, onlyOwner, revertIf_eq_ok, not_not, bind_eq_ok, pure_eq_ok, ne_eq,
      Except.ok.injEq] at done
    obtain ⟨-, owner, -, -, rfl⟩ := done
    refine ⟨⟨congrArg some owner.symm, rfl, ?_, fun _ => ⟨rfl, rfl⟩⟩, rfl⟩
    intro other different
    cases other with
    | market => exact absurd rfl different
    | _ => rfl
  | setAVS address newAVS =>
    cases configures
    simp only [execute, setAVS, SettlementEngine.setAVS, bind_eq_ok, requireSome_eq_ok, exists_revertIf,
      not_not, pure_eq_ok, ne_eq, Except.ok.injEq] at done
    obtain ⟨engine, deployed, changed, ⟨owner, -, rfl⟩, rfl⟩ := done
    refine ⟨⟨?_, rfl, fun _ => settingsOf_engines, fun _ => ⟨rfl, rfl⟩⟩, ?_⟩
    · rw [contractOwner, deployed, owner]
      rfl
    · simp [contractOwner, deployed]
  | setShieldedBidVerifier address newVerifier =>
    cases configures
    simp only [execute, setShieldedBidVerifier, ShieldedEscrowVault.setShieldedBidVerifier, bind_eq_ok,
      exists_revertIf, requireSome_eq_ok, not_not, pure_eq_ok, ne_eq, Except.ok.injEq] at done
    obtain ⟨vault, deployed, changed, ⟨owner, rfl⟩, rfl⟩ := done
    exact ⟨setVault_configures deployed owner, by simp [contractOwner, setVault, deployed]⟩
  | setPreviewReader address newPreviewReader =>
    cases configures
    simp only [execute, setPreviewReader, ShieldedEscrowVault.setPreviewReader, bind_eq_ok,
      exists_revertIf, requireSome_eq_ok, not_not, pure_eq_ok, ne_eq, Except.ok.injEq] at done
    obtain ⟨vault, deployed, changed, ⟨owner, -, rfl⟩, rfl⟩ := done
    exact ⟨setVault_configures deployed owner, by simp [contractOwner, setVault, deployed]⟩
  | _ => cases configures

/-- A transaction that is about no settings leaves them all. -/
theorem execute_settings {tx : Tx σ} (ordinary : tx.configures = none) (done : w.execute env msg tx = .ok next)
    (contract : OwnedContract) : next.settingsOf contract = w.settingsOf contract := by
  cases creates : tx.creates with
  | false => exact (execute_retains ordinary creates done).settingsOf_eq contract
  | true =>
    cases tx with
    | createAuction =>
      obtain ⟨-, -, -, -, network, outside, -, rfl⟩ := createAuction_ok done
      cases contract with
      | _ => rfl
    | _ => cases creates

/-- The settings of a contract are what they were, or its owner has called one of its setters. -/
theorem transact_settings {tx : Tx σ} (done : w.transact env (msg, tx) = .ok next) (contract : OwnedContract) :
    next.contractOwner contract = w.contractOwner contract ∧
      (next.settingsOf contract = w.settingsOf contract ∨
        tx.configures = some contract ∧ w.contractOwner contract = some msg.sender) := by
  obtain ⟨-, executed, executes, rfl⟩ := transact_ok.mp done
  cases configures : tx.configures with
  | none =>
    have same := execute_settings configures executes contract
    exact ⟨contractOwner_eq same, .inl same⟩
  | some configured =>
    obtain ⟨sets, kept⟩ := execute_configures configures executes
    by_cases own : contract = configured
    · subst own
      exact ⟨kept, .inr ⟨rfl, sets.owner⟩⟩
    · have same := sets.others contract own
      exact ⟨contractOwner_eq same, .inl same⟩

/-- Ids are handed out by creations only. -/
theorem transact_counter {tx : Tx σ} (existing : tx.creates = false)
    (done : w.transact env (msg, tx) = .ok next) : next.market.auctionCounter = w.market.auctionCounter := by
  obtain ⟨-, executed, executes, rfl⟩ := transact_ok.mp done
  cases configures : tx.configures with
  | none => exact (execute_retains configures existing executes).counter
  | some configured => exact (execute_configures configures executes).1.counter

/-- An auction has the contracts it had, or is new and is given those that are set. -/
theorem transact_snapshot {tx : Tx σ} (done : w.transact env (msg, tx) = .ok next) (auctionId : AuctionId) :
    (next.market.auctions auctionId).auction.exists_ = (w.market.auctions auctionId).auction.exists_ ∧
        next.snapshot auctionId = w.snapshot auctionId ∨
      tx.creates = true ∧ next.snapshot auctionId = w.dependencies := by
  obtain ⟨-, executed, executes, rfl⟩ := transact_ok.mp done
  cases configures : tx.configures with
  | some configured => exact .inl ((execute_configures configures executes).1.pins auctionId)
  | none =>
    cases creates : tx.creates with
    | false => exact .inl ((execute_retains configures creates executes).pins auctionId)
    | true =>
      cases tx with
      | createAuction =>
        obtain ⟨-, -, -, -, network, outside, -, reached⟩ := createAuction_ok executes
        by_cases own : auctionId = w.nextAuctionId
        · subst own
          right
          refine ⟨rfl, ?_⟩
          rw [reached]
          exact (congrArg AuctionStorage.dependencySnapshot (Function.update_self ..)).trans rfl
        · have kept : executed.market.auctions auctionId = w.market.auctions auctionId := by
            rw [reached]
            exact Function.update_of_ne own ..
          exact .inl ⟨congrArg (·.auction.exists_) kept, congrArg AuctionStorage.dependencySnapshot kept⟩
      | _ => cases creates

theorem dependencies_eq (same : next.settingsOf .market = w.settingsOf .market) :
    next.dependencies = w.dependencies := by
  have owned := OwnedSettings.market.inj same
  simp only [FhenixFairMarket.owned, MarketSettings.mk.injEq] at owned
  obtain ⟨-, cofheAdapter, settlementEngine, slashedPot, shieldedEscrowVault, registry⟩ := owned
  rw [dependencies, dependencies, cofheAdapter, settlementEngine, slashedPot, shieldedEscrowVault, registry]

end World

end FairMarket
