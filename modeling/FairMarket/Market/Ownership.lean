import FairMarket.Market.Governance
import FairMarket.Market.Rotation
import FairMarket.Vault.Calls

/-! The contracts with everything that their owners may do: besides the settings they may wire a
contract to another market, hand it over or give it up, and have the market run other code. -/

namespace FairMarket

variable {σ : Type}

/-- A call of a pot by the market it is wired to. `accepts` tells whether the recipient takes the payment. -/
inductive PotCall where
  | registerSlash (value : ℕ) (auctionId : AuctionId) (totalEscrow : ℕ)
  | claimFor (auctionId : AuctionId) (recipient : Address) (escrowContribution : ℕ) (accepts : Bool)
  | claimForKey (auctionId : AuctionId) (claimKey : Bytes32) (recipient : Address) (escrowContribution : ℕ)
      (accepts : Bool)

namespace SlashedPot

def call (keccak : List Word → Bytes32) (pot : SlashedPot) : PotCall → Except Revert SlashedPot
  | .registerSlash value auctionId totalEscrow => pot.registerSlash pot.market value auctionId totalEscrow
  | .claimFor auctionId recipient escrowContribution accepts => do
    let (amount, claimed) ← pot.claimFor keccak pot.market auctionId recipient escrowContribution
    revertIf (amount ≠ 0 ∧ accepts = false) (.nativeTransferFailed recipient amount)
    return claimed
  | .claimForKey auctionId claimKey recipient escrowContribution accepts => do
    let (amount, claimed) ← pot.claimForKey pot.market auctionId claimKey recipient escrowContribution
    revertIf (amount ≠ 0 ∧ accepts = false) (.nativeTransferFailed recipient amount)
    return claimed

end SlashedPot

/-- What may be sent to the contracts. A contract that is wired to another market is called by
whoever that is. -/
inductive GovernedTx (σ : Type) where
  | call (tx : Tx σ)
  | setMarket (contract : OwnedContract) (newMarket : Address)
  | transferOwnership (contract : OwnedContract) (newOwner : Address)
  | renounceOwnership (contract : OwnedContract)
  | upgradeToAndCall
  | vaultCall (vault : Address) (request : VaultCall)
  | registryCall (registry : Address) (request : IdentityCall)
  | potCall (pot : Address) (request : PotCall)

namespace GovernedTx

/-- The contract about which only its owner may decide so. -/
def governs : GovernedTx σ → Option OwnedContract
  | .call tx => tx.configures
  | .setMarket contract _ | .transferOwnership contract _ | .renounceOwnership contract => some contract
  | .upgradeToAndCall => some .market
  | _ => none

def upgrades : GovernedTx σ → Bool
  | .upgradeToAndCall => true
  | _ => false

/-- A call that a contract's own market makes, where this is another one. -/
def foreign : GovernedTx σ → Bool
  | .vaultCall .. | .registryCall .. | .potCall .. => true
  | _ => false

def payable : GovernedTx σ → Bool
  | .setMarket .. | .transferOwnership .. | .renounceOwnership _ => false
  | _ => true

end GovernedTx

namespace World

/-- `_checkOwner` of the contract. -/
def checkOwner (w : World σ) (sender : Address) (contract : OwnedContract) : Except Revert Unit := do
  let owner ← requireSome (w.contractOwner contract) .callFailed
  revertIf (sender ≠ owner) (.ownableUnauthorizedAccount sender)

/-- `_transferOwnership` of the contract. -/
def setOwner (w : World σ) (owner : Address) : OwnedContract → World σ
  | .market => { w with market.owner := owner }
  | .vault address => { w with
      vaults := Function.update w.vaults address ((w.vaults address).map fun vault => { vault with owner }) }
  | .registry address => { w with
      registries := Function.update w.registries address
        ((w.registries address).map fun registry => { registry with owner }) }
  | .pot address => { w with
      pots := Function.update w.pots address ((w.pots address).map fun pot => { pot with owner }) }
  | .engine address => { w with
      engines := Function.update w.engines address ((w.engines address).map fun engine => { engine with owner }) }

def transferOwnership (w : World σ) (sender : Address) (contract : OwnedContract) (newOwner : Address) :
    Except Revert (World σ) := do
  w.checkOwner sender contract
  revertIf (newOwner = 0) (.ownableInvalidOwner newOwner)
  return w.setOwner newOwner contract

def renounceOwnership (w : World σ) (sender : Address) (contract : OwnedContract) : Except Revert (World σ) := do
  w.checkOwner sender contract
  return w.setOwner 0 contract

/-- The market and an engine have no such function. -/
def setMarket (w : World σ) (sender newMarket : Address) : OwnedContract → Except Revert (World σ)
  | .vault address => do
    let vault ← requireSome (w.vaults address) .callFailed
    let changed ← vault.setMarket sender newMarket
    return w.setVault address changed
  | .registry address => do
    let registry ← requireSome (w.registries address) .callFailed
    let changed ← registry.setMarket sender newMarket
    return w.setRegistry address changed
  | .pot address => do
    let pot ← requireSome (w.pots address) .callFailed
    let changed ← pot.setMarket sender newMarket
    return w.setPot address changed
  | .market | .engine _ => .error .callFailed

def vaultCall (env : External σ) (w : World σ) (address : Address) (request : VaultCall) :
    Except Revert (World σ) := do
  let vault ← requireSome (w.vaults address) .callFailed
  revertIf (vault.market = env.market) .invalidTransaction
  let changed ← vault.call env.toChain address request
  return w.setVault address changed

def registryCall (env : External σ) (w : World σ) (address : Address) (request : IdentityCall) :
    Except Revert (World σ) := do
  let registry ← requireSome (w.registries address) .callFailed
  revertIf (registry.market = env.market) .invalidTransaction
  let changed ← registry.call request
  return w.setRegistry address changed

def potCall (env : External σ) (w : World σ) (address : Address) (request : PotCall) : Except Revert (World σ) := do
  let pot ← requireSome (w.pots address) .callFailed
  revertIf (pot.market = env.market) .invalidTransaction
  let changed ← pot.call env.keccak request
  return w.setPot address changed

/-- A refund of a vault that asks another market about it. -/
def asksElsewhere (env : External σ) (w : World σ) : Tx σ → Bool
  | .claimRefundWithAuthorization vault .. => (w.vaults vault).any fun found => found.market ≠ env.market
  | _ => false

def administer (env : External σ) (w : World σ) (msg : Msg) : GovernedTx σ → Except Revert (World σ)
  | .call tx => do
    revertIf (w.asksElsewhere env tx) .invalidTransaction
    w.transact env (msg, tx)
  | .setMarket contract newMarket => w.setMarket msg.sender newMarket contract
  | .transferOwnership contract newOwner => w.transferOwnership msg.sender contract newOwner
  | .renounceOwnership contract => w.renounceOwnership msg.sender contract
  | .upgradeToAndCall => do
    w.checkOwner msg.sender .market
    return w
  | .vaultCall vault request => w.vaultCall env vault request
  | .registryCall registry request => w.registryCall env registry request
  | .potCall pot request => w.potCall env pot request

end World

/-- The contracts, and whether the market has been upgraded. -/
structure Governed (σ : Type) where
  world : World σ
  upgraded : Bool := false

/-- With an upgrade a run is over: what the market's new code does is not known here. -/
def Governed.govern (env : External σ) (g : Governed σ) (input : Msg × GovernedTx σ) :
    Except Revert (Governed σ) := do
  let (msg, tx) := input
  revertIf (g.upgraded ∨ msg.sender = 0 ∨ g.world.isSystem env msg.sender ∨ msg.timestamp < g.world.timestamp)
    .invalidTransaction
  revertIf (msg.value ≠ 0 ∧ ¬ tx.payable) .nonPayable
  let next ← g.world.administer env msg tx
  return { world := { next with timestamp := msg.timestamp }, upgraded := tx.upgrades }

def Deployment.governed (deployment : Deployment) (env : External σ) (outside : σ)
    (inputs : List (Msg × GovernedTx σ)) : Governed σ :=
  play (Governed.govern env) { world := deployment.genesis env outside } inputs

/-- No call that only the contract's owner may make comes from that account. -/
def Unruled (owner : Option Address) (contract : OwnedContract) (inputs : List (Msg × GovernedTx σ)) : Prop :=
  ∀ input ∈ inputs, input.2.governs = some contract → owner ≠ some input.1.sender

theorem SlashedPot.payClaim_owned {pot next : SlashedPot} {auctionId : AuctionId} {recipient : Address}
    {escrowContribution amount : ℕ} (done : pot.payClaim auctionId recipient escrowContribution = .ok (amount, next)) :
    next.owned = pot.owned := by
  simp only [payClaim, bind_eq_ok] at done
  obtain ⟨share, -, done⟩ := done
  split at done
  · cases done
    rfl
  · simp only [bind_eq_ok, exists_revertIf, pure_eq_ok, Except.ok.injEq, Prod.mk.injEq] at done
    obtain ⟨-, -, rfl⟩ := done
    rfl

/-- Calls of a market change none of a pot's settings. -/
theorem SlashedPot.call_owned {keccak : List Word → Bytes32} {pot next : SlashedPot} {request : PotCall}
    (done : pot.call keccak request = .ok next) : next.owned = pot.owned := by
  cases request with
  | registerSlash => exact registerSlash_owned done
  | claimFor =>
    simp only [call, claimFor, bind_eq_ok, Prod.exists, exists_revertIf, pure_eq_ok, Except.ok.injEq] at done
    obtain ⟨amount, claimed, ⟨_, -, -, -, pays⟩, -, rfl⟩ := done
    exact (payClaim_owned pays).trans rfl
  | claimForKey =>
    simp only [call, claimForKey, bind_eq_ok, Prod.exists, exists_revertIf, pure_eq_ok, Except.ok.injEq] at done
    obtain ⟨amount, claimed, ⟨_, -, -, pays⟩, -, rfl⟩ := done
    exact (payClaim_owned pays).trans rfl

theorem ShieldedIdentityRegistry.call_owned {registry next : ShieldedIdentityRegistry} {request : IdentityCall}
    (done : registry.call request = .ok next) : next.owned = registry.owned := by
  cases request with
  | bindIdentity => exact bindIdentity_owned done
  | markWinningIdentity =>
    obtain ⟨-, -, rfl⟩ := markWinningIdentity_reads done
    rfl

theorem ShieldedEscrowVault.call_owned {chain : Chain} {self : Address} {vault next : ShieldedEscrowVault}
    {request : VaultCall} (done : vault.call chain self request = .ok next) : next.owned = vault.owned := by
  cases request with
  | lockEscrow =>
    obtain ⟨-, rfl⟩ := lockEscrow_ok.mp done
    rfl
  | allocateSlash =>
    simp only [call, bind_eq_ok, Prod.exists, pure_eq_ok, Except.ok.injEq] at done
    obtain ⟨allocation, changed, allocates, rfl⟩ := done
    obtain ⟨-, rfl⟩ := allocateSlash_ok allocates
    rfl
  | settleWinningCommitment =>
    simp only [call, bind_eq_ok, Prod.exists, pure_eq_ok, Except.ok.injEq] at done
    obtain ⟨remaining, changed, settles, rfl⟩ := done
    obtain ⟨-, -, rfl⟩ := settleWinningCommitment_ok.mp settles
    rfl
  | unlockRefunds =>
    obtain ⟨-, rfl⟩ := unlockRefunds_ok.mp done
    rfl
  | authorizeAssetClaim =>
    simp only [call, bind_eq_ok, Prod.exists, pure_eq_ok, Except.ok.injEq] at done
    obtain ⟨digest, changed, authorizes, rfl⟩ := done
    obtain ⟨-, -, consumes⟩ := authorizeAssetClaim_ok.mp authorizes
    obtain ⟨-, -, rfl⟩ := consumeClaimAuthorization_ok.mp consumes
    rfl
  | claimRefundWithAuthorization =>
    simp only [call, bind_eq_ok, exists_revertIf, pure_eq_ok, Except.ok.injEq] at done
    obtain ⟨released, releases, -, rfl⟩ := done
    obtain ⟨digest, consumed, -, authorized, refunds⟩ := claimRefundWithAuthorization_ok.mp releases
    obtain ⟨-, same⟩ := releaseRefund_ok refunds
    obtain ⟨-, -, rfl⟩ := consumeClaimAuthorization_ok.mp authorized
    rw [same]
    rfl

namespace World

variable {env : External σ} {w next : World σ} {sender : Address} {contract : OwnedContract}

theorem checkOwner_ok {passed : Unit} : w.checkOwner sender contract = .ok passed ↔
    w.contractOwner contract = some sender := by
  simp only [checkOwner, bind_eq_ok, requireSome_eq_ok, revertIf_eq_ok, ne_eq, not_not]
  constructor
  · rintro ⟨owner, known, rfl⟩
    exact known
  · intro known
    exact ⟨sender, known, rfl⟩

theorem transferOwnership_ok {newOwner : Address} : w.transferOwnership sender contract newOwner = .ok next ↔
    w.contractOwner contract = some sender ∧ newOwner ≠ 0 ∧ next = w.setOwner newOwner contract := by
  simp only [transferOwnership, bind_eq_ok, checkOwner_ok, exists_revertIf, pure_eq_ok, Except.ok.injEq]
  constructor
  · rintro ⟨-, known, given, rfl⟩
    exact ⟨known, given, rfl⟩
  · rintro ⟨known, given, rfl⟩
    exact ⟨(), known, given, rfl⟩

theorem renounceOwnership_ok : w.renounceOwnership sender contract = .ok next ↔
    w.contractOwner contract = some sender ∧ next = w.setOwner 0 contract := by
  simp only [renounceOwnership, bind_eq_ok, checkOwner_ok, pure_eq_ok, Except.ok.injEq]
  constructor
  · rintro ⟨-, known, rfl⟩
    exact ⟨known, rfl⟩
  · rintro ⟨known, rfl⟩
    exact ⟨(), known, rfl⟩

theorem administer_call {msg : Msg} {tx : Tx σ} : w.administer env msg (.call tx) = .ok next ↔
    w.asksElsewhere env tx = false ∧ w.transact env (msg, tx) = .ok next := by
  simp only [administer, bind_eq_ok, exists_revertIf, Bool.not_eq_true]

theorem administer_upgradeToAndCall {msg : Msg} : w.administer env msg .upgradeToAndCall = .ok next ↔
    w.contractOwner .market = some msg.sender ∧ next = w := by
  simp only [administer, bind_eq_ok, checkOwner_ok, pure_eq_ok, Except.ok.injEq]
  constructor
  · rintro ⟨-, known, rfl⟩
    exact ⟨known, rfl⟩
  · rintro ⟨known, rfl⟩
    exact ⟨(), known, rfl⟩

/-- A new owner of one contract is none of another. -/
theorem setOwner_others {owner : Address} {other : OwnedContract} (different : other ≠ contract) :
    (w.setOwner owner contract).settingsOf other = w.settingsOf other := by
  cases contract with
  | market =>
    cases other with
    | market => exact absurd rfl different
    | _ => rfl
  | vault address => exact settingsOf_vaults different
  | registry address => exact settingsOf_registries different
  | pot address => exact settingsOf_pots different
  | engine address => exact settingsOf_engines different

theorem setOwner_pins {owner : Address} : w.Pins (w.setOwner owner contract) := by
  intro auctionId
  cases contract with
  | _ => exact ⟨rfl, rfl⟩

theorem setMarket_configures {newMarket : Address} (done : w.setMarket sender newMarket contract = .ok next) :
    Configures sender contract w next := by
  cases contract with
  | market => cases done
  | engine => cases done
  | vault address =>
    simp only [setMarket, ShieldedEscrowVault.setMarket, bind_eq_ok, requireSome_eq_ok, exists_revertIf, ne_eq,
      not_not, pure_eq_ok, Except.ok.injEq] at done
    obtain ⟨vault, deployed, changed, ⟨owner, -, rfl⟩, rfl⟩ := done
    exact setVault_configures deployed owner
  | registry address =>
    simp only [setMarket, ShieldedIdentityRegistry.setMarket, bind_eq_ok, requireSome_eq_ok, exists_revertIf, ne_eq,
      not_not, pure_eq_ok, Except.ok.injEq] at done
    obtain ⟨registry, deployed, changed, ⟨owner, -, rfl⟩, rfl⟩ := done
    refine ⟨?_, rfl, fun _ => settingsOf_registries, fun _ => ⟨rfl, rfl⟩⟩
    rw [contractOwner, deployed, owner]
    rfl
  | pot address =>
    simp only [setMarket, SlashedPot.setMarket, bind_eq_ok, requireSome_eq_ok, exists_revertIf, ne_eq,
      not_not, pure_eq_ok, Except.ok.injEq] at done
    obtain ⟨pot, deployed, changed, ⟨owner, -, rfl⟩, rfl⟩ := done
    refine ⟨?_, rfl, fun _ => settingsOf_pots, fun _ => ⟨rfl, rfl⟩⟩
    rw [contractOwner, deployed, owner]
    rfl

/-- The calls of other markets are about no settings. -/
theorem foreign_retains {msg : Msg} {tx : GovernedTx σ} (foreign : tx.foreign = true)
    (done : w.administer env msg tx = .ok next) : w.Retains next := by
  cases tx with
  | vaultCall address request =>
    simp only [administer, vaultCall, bind_eq_ok, requireSome_eq_ok, exists_revertIf, pure_eq_ok,
      Except.ok.injEq] at done
    obtain ⟨vault, deployed, -, changed, called, rfl⟩ := done
    exact { Retains.refl w with vaults := map_update deployed rfl (ShieldedEscrowVault.call_owned called) }
  | registryCall address request =>
    simp only [administer, registryCall, bind_eq_ok, requireSome_eq_ok, exists_revertIf, pure_eq_ok,
      Except.ok.injEq] at done
    obtain ⟨registry, deployed, -, changed, called, rfl⟩ := done
    exact { Retains.refl w with registries := map_update deployed rfl (ShieldedIdentityRegistry.call_owned called) }
  | potCall address request =>
    simp only [administer, potCall, bind_eq_ok, requireSome_eq_ok, exists_revertIf, pure_eq_ok,
      Except.ok.injEq] at done
    obtain ⟨pot, deployed, -, changed, called, rfl⟩ := done
    exact { Retains.refl w with pots := map_update deployed rfl (SlashedPot.call_owned called) }
  | _ => cases foreign

/-- What an accepted call does to the settings: nothing, or it comes from the owner of the only contract
it is about. -/
theorem administer_settings {msg : Msg} {tx : GovernedTx σ} (done : w.administer env msg tx = .ok next)
    (contract : OwnedContract) :
    next.settingsOf contract = w.settingsOf contract ∨
      tx.governs = some contract ∧ w.contractOwner contract = some msg.sender := by
  cases governed : tx.governs with
  | none =>
    left
    cases tx with
    | call tx =>
      rcases (transact_settings (administer_call.mp done).2 contract).2 with same | ⟨configures, -⟩
      · exact same
      · cases governed.symm.trans configures
    | vaultCall | registryCall | potCall => exact (foreign_retains rfl done).settingsOf_eq contract
    | _ => cases governed
  | some about =>
    have owned : w.contractOwner about = some msg.sender ∧
        ∀ other, other ≠ about → next.settingsOf other = w.settingsOf other := by
      cases tx with
      | call tx =>
        obtain ⟨-, executed, executes, rfl⟩ := transact_ok.mp (administer_call.mp done).2
        obtain ⟨sets, -⟩ := execute_configures governed executes
        exact ⟨sets.owner, sets.others⟩
      | setMarket contract newMarket =>
        cases governed
        have sets := setMarket_configures done
        exact ⟨sets.owner, sets.others⟩
      | transferOwnership contract newOwner =>
        cases governed
        obtain ⟨known, -, rfl⟩ := transferOwnership_ok.mp done
        exact ⟨known, fun _ different => setOwner_others different⟩
      | renounceOwnership contract =>
        cases governed
        obtain ⟨known, rfl⟩ := renounceOwnership_ok.mp done
        exact ⟨known, fun _ different => setOwner_others different⟩
      | upgradeToAndCall =>
        cases governed
        obtain ⟨known, rfl⟩ := administer_upgradeToAndCall.mp done
        exact ⟨known, fun _ _ => rfl⟩
      | _ => cases governed
    by_cases own : contract = about
    · subst own
      exact .inr ⟨rfl, owned.1⟩
    · exact .inl (owned.2 contract own)

/-- An auction has the contracts it had, or is given those that are set. -/
theorem administer_snapshot {msg : Msg} {tx : GovernedTx σ} (done : w.administer env msg tx = .ok next)
    (auctionId : AuctionId) :
    (next.market.auctions auctionId).auction.exists_ = (w.market.auctions auctionId).auction.exists_ ∧
        next.snapshot auctionId = w.snapshot auctionId ∨ next.snapshot auctionId = w.dependencies := by
  cases tx with
  | call tx =>
    exact (transact_snapshot (administer_call.mp done).2 auctionId).imp_right And.right
  | setMarket contract newMarket => exact .inl ((setMarket_configures done).pins auctionId)
  | transferOwnership contract newOwner =>
    obtain ⟨-, -, rfl⟩ := transferOwnership_ok.mp done
    exact .inl (setOwner_pins auctionId)
  | renounceOwnership contract =>
    obtain ⟨-, rfl⟩ := renounceOwnership_ok.mp done
    exact .inl (setOwner_pins auctionId)
  | upgradeToAndCall =>
    obtain ⟨-, rfl⟩ := administer_upgradeToAndCall.mp done
    exact .inl ⟨rfl, rfl⟩
  | vaultCall | registryCall | potCall => exact .inl ((foreign_retains rfl done).pins auctionId)

end World

namespace Governed

variable {env : External σ} {g next : Governed σ} {msg : Msg} {tx : GovernedTx σ} {contract : OwnedContract}

theorem govern_ok (done : g.govern env (msg, tx) = .ok next) :
    g.upgraded = false ∧ ∃ administered, g.world.administer env msg tx = .ok administered ∧
      next = { world := { administered with timestamp := msg.timestamp }, upgraded := tx.upgrades } := by
  simp only [govern, bind_eq_ok, exists_revertIf, not_or, Bool.not_eq_true, pure_eq_ok, Except.ok.injEq] at done
  obtain ⟨⟨running, -⟩, -, administered, administers, rfl⟩ := done
  exact ⟨running, administered, administers, rfl⟩

/-- A contract is what it was, or its owner has called what only the owner may call. -/
theorem govern_settings (done : g.govern env (msg, tx) = .ok next) (contract : OwnedContract) :
    next.world.settingsOf contract = g.world.settingsOf contract ∧ (contract = .market → next.upgraded = g.upgraded) ∨
      tx.governs = some contract ∧ g.world.contractOwner contract = some msg.sender := by
  obtain ⟨running, administered, administers, rfl⟩ := govern_ok done
  rcases World.administer_settings administers contract with same | owned
  · by_cases upgrades : tx.upgrades = true ∧ contract = .market
    · obtain ⟨upgrades, rfl⟩ := upgrades
      cases tx with
      | upgradeToAndCall =>
        exact .inr ⟨rfl, (World.administer_upgradeToAndCall.mp administers).1⟩
      | _ => cases upgrades
    · refine .inl ⟨same, fun own => ?_⟩
      rw [running]
      exact Bool.eq_false_iff.mpr fun does => upgrades ⟨does, own⟩
  · exact .inr owned

theorem play_settings {inputs : List (Msg × GovernedTx σ)}
    (unruled : Unruled (g.world.contractOwner contract) contract inputs) :
    (play (govern env) g inputs).world.settingsOf contract = g.world.settingsOf contract ∧
      (contract = .market → (play (govern env) g inputs).upgraded = g.upgraded ∧
        ∀ auctionId, (g.world.market.auctions auctionId).auction.exists_ = false →
          ((play (govern env) g inputs).world.market.auctions auctionId).auction.exists_ = true →
            (play (govern env) g inputs).world.snapshot auctionId = g.world.dependencies) := by
  induction inputs using List.reverseRecOn with
  | nil =>
    refine ⟨rfl, fun _ => ⟨rfl, fun auctionId absent found => ?_⟩⟩
    cases absent.symm.trans found
  | append_singleton earlier input ih =>
    obtain ⟨same, pinned⟩ := ih fun other member => unruled other (List.mem_append_left _ member)
    have owner := World.contractOwner_eq same
    rw [play_append, play_cons, play_nil]
    rcases advance_cases (govern env) (play (govern env) g earlier) input with refused | taken
    · rw [refused]
      exact ⟨same, pinned⟩
    · rcases govern_settings taken contract with ⟨kept, running⟩ | ⟨governs, own⟩
      · refine ⟨kept.trans same, fun about => ?_⟩
        obtain ⟨upgraded, given⟩ := pinned about
        refine ⟨(running about).trans upgraded, fun auctionId absent found => ?_⟩
        subst about
        obtain ⟨-, administered, administers, reached⟩ := govern_ok taken
        rw [reached] at found ⊢
        rcases World.administer_snapshot administers auctionId with ⟨before, snapshot⟩ | snapshot
        · exact snapshot.trans (given auctionId absent (before.symm.trans found))
        · exact snapshot.trans (World.dependencies_eq same)
      · rw [owner] at own
        exact absurd own (unruled input (List.mem_append_right _ (List.mem_singleton_self _)) governs)

/-- A transaction of a run does what it does there, unless a vault asks another market about it. -/
theorem advance_call {w : World σ} {tx : Tx σ} (own : w.asksElsewhere env tx = false) :
    advance (govern env) { world := w } (msg, .call tx) =
      { world := advance (World.transact env) w (msg, tx) } := by
  cases done : w.transact env (msg, tx) with
  | error raised =>
    rw [show advance (World.transact env) w (msg, tx) = w by rw [advance, done]]
    rcases advance_cases (govern env) { world := w } (msg, .call tx) with refused | taken
    · exact refused
    · obtain ⟨-, administered, administers, -⟩ := govern_ok taken
      cases done.symm.trans (World.administer_call.mp administers).2
  | ok next =>
    rw [advance_ok done]
    obtain ⟨⟨known, stranger, timely, -, -⟩, executed, -, rfl⟩ := World.transact_ok.mp done
    refine advance_ok ?_
    simp only [govern, bind_eq_ok, exists_revertIf, pure_eq_ok, Except.ok.injEq]
    refine ⟨?_, ?_, _, World.administer_call.mpr ⟨own, done⟩, rfl⟩
    · rintro (upgraded | zero | system | early)
      · cases upgraded
      · exact known zero
      · cases stranger.symm.trans system
      · exact absurd timely (not_le.mpr early)
    · exact fun unpayable => unpayable.2 rfl

end Governed

/-- Transactions without the calls above are runs of this machine too: in them every contract stays with
the market. -/
theorem Deployment.governed_call (deployment : Deployment) (env : External σ) (outside : σ)
    (inputs : List (Msg × Tx σ)) :
    deployment.governed env outside (inputs.map fun input => (input.1, .call input.2)) =
      { world := deployment.run env outside inputs } := by
  induction inputs using List.reverseRecOn with
  | nil => rfl
  | append_singleton earlier input ih =>
    obtain ⟨msg, tx⟩ := input
    unfold governed at ih ⊢
    rw [List.map_append, play_append, ih, deployment.run_append_eq]
    have wired := deployment.run_wired env outside earlier
    generalize deployment.run env outside earlier = w at wired ⊢
    have own : w.asksElsewhere env tx = false := by
      cases tx with
      | claimRefundWithAuthorization vault =>
        simp only [World.asksElsewhere, Option.any_eq_false, decide_eq_false_iff_not, ne_eq, not_not]
        exact fun found deployed => wired.vaultMarket vault found deployed
      | _ => rfl
    exact Governed.advance_call own

/-- As long as its owner makes no call that is the owner's alone, a contract keeps its owner and its
settings, whatever anyone else does and whatever the owners of other contracts do with these. Every auction
created meanwhile is given the dependencies that were set. -/
theorem settings_need_owner {deployment : Deployment} {env : External σ} {outside : σ}
    {before after : List (Msg × GovernedTx σ)} {contract : OwnedContract}
    (unruled : Unruled ((deployment.governed env outside before).world.contractOwner contract) contract after) :
    let g := deployment.governed env outside before
    let last := deployment.governed env outside (before ++ after)
    last.world.settingsOf contract = g.world.settingsOf contract ∧
      (contract = .market → last.upgraded = g.upgraded ∧
        ∀ auctionId, (g.world.market.auctions auctionId).auction.exists_ = false →
          (last.world.market.auctions auctionId).auction.exists_ = true →
            last.world.snapshot auctionId = g.world.dependencies) := by
  intro g last
  have reached : last = play (Governed.govern env) g after := play_append ..
  rw [reached]
  exact Governed.play_settings unruled

/-- The owner of the market sets another pot and hands the market over. -/
def handedOver : List (Msg × GovernedTx (ℕ → Address)) :=
  [({ sender := 1, timestamp := 999 }, .call (.setSlashedPot 12)),
    ({ sender := 1, timestamp := 999 }, .transferOwnership .market 2)]

/-- Now it would rather have the old pot, and other code. -/
def rotateBack : List (Msg × GovernedTx (ℕ → Address)) :=
  [({ sender := 1, timestamp := 1000 }, .call (.setSlashedPot 11)),
    ({ sender := 1, timestamp := 1000 }, .upgradeToAndCall),
    ({ sender := 9, value := 10, timestamp := 1000 }, .call (.createAuction 5 7 100 0 10 false))]

set_option maxRecDepth 4000 in
theorem rotateBack_pinned :
    let last := twoPots.governed tokenChain (fun _ => 9) (handedOver ++ rotateBack)
    last.world.market.owner = 2 ∧ last.world.market.slashedPot = 12 ∧ last.upgraded = false ∧
      (last.world.snapshot 1).slashedPot = 12 := by
  intro last
  obtain ⟨same, pinned⟩ := @settings_need_owner _ twoPots tokenChain (fun _ => 9) handedOver rotateBack .market (by
    intro input member _ own
    have sender : input.1.sender = 1 ∨ input.1.sender = 9 := by
      simp only [rotateBack, List.mem_cons, List.not_mem_nil, or_false] at member
      rcases member with rfl | rfl | rfl
      · exact .inl rfl
      · exact .inl rfl
      · exact .inr rfl
    rcases sender with sender | sender
    · rw [sender] at own
      exact absurd own (by decide +kernel)
    · rw [sender] at own
      exact absurd own (by decide +kernel))
  obtain ⟨running, given⟩ := pinned rfl
  have settings := OwnedSettings.market.inj same
  refine ⟨congrArg MarketSettings.owner settings, congrArg MarketSettings.slashedPot settings, running, ?_⟩
  exact congrArg AuctionDependencySnapshot.slashedPot (given 1 rfl (by decide +kernel))

end FairMarket
