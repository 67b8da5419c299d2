import FairMarket.Lib.Run
import FairMarket.Market.Operations

/-! Transactions by users, in any order and at any times that do not run backwards,
from the wiring the deployment leaves behind.

A call from outside code back into the contracts during a transaction either is
refused by the reentrancy guard or touches nothing the rest of the transaction
reads, so it appears in a run as a transaction of its own right after. -/

namespace FairMarket

variable {σ : Type}

/-- The entry points of the market, of its vaults and of their owners, plus a
step for whatever else happens outside. The five-argument `createAuction` is the
six-argument one with a starting price of zero. -/
inductive Tx (σ : Type) where
  | createAuction (nftContract : Address) (tokenId duration startingPrice sellerDeposit : ℕ)
      (isVickrey : Bool)
  | lockEscrow (auctionId : AuctionId)
  | lockShieldedEscrow (auctionId : AuctionId) (identityHash commitmentHash : Bytes32)
      (claimAuthority : Address)
  | placeBid (auctionId : AuctionId) (encryptedBid : Bytes32)
  | placeShieldedBid (auctionId : AuctionId) (commitmentHash encryptedBid : Bytes32)
      (coverageDeadline : ℕ) (coverageProof : List UInt8)
  | triggerFinalize (auctionId : AuctionId)
  | submitResolution (auctionId : AuctionId) (winner : Address) (winnerCiphertext : Bytes32)
      (winningAmount : ℕ) (avsProof : Proof)
  | submitShieldedResolution (auctionId : AuctionId) (winnerIdentityHash winnerCiphertext : Bytes32)
      (winningAmount : ℕ) (avsProof : Proof)
  | cancelAuction (auctionId : AuctionId)
  | triggerFallbackVoid (auctionId : AuctionId)
  | claimRefund (auctionId : AuctionId)
  | claimSellerProceeds (auctionId : AuctionId)
  | claimFinalizeReward (auctionId : AuctionId)
  | claimAsset (auctionId : AuctionId)
  | claimShieldedAssetWithAuthorization (auctionId : AuctionId) (winnerIdentityHash : Bytes32)
      (recipient : Address) (deadline : ℕ) (signature : Signature)
  | claimRefundWithAuthorization (vault : Address) (commitmentHash : Bytes32) (recipient : Address)
      (deadline : ℕ) (signature : Signature)
  | receive
  | setCofheAdapter (newAdapter : Address)
  | setSettlementEngine (newSettlementEngine : Address)
  | setSlashedPot (newSlashedPot : Address)
  | setShieldedEscrowVault (newVault : Address)
  | setShieldedIdentityRegistry (newRegistry : Address)
  | setAVS (engine newAVS : Address)
  | setShieldedBidVerifier (vault newVerifier : Address)
  | setPreviewReader (vault newPreviewReader : Address)
  | outside (next : σ)

def Tx.payable : Tx σ → Bool
  | .createAuction .. | .lockEscrow .. | .lockShieldedEscrow .. | .receive => true
  | _ => false

def Tx.creates : Tx σ → Bool
  | .createAuction .. => true
  | _ => false

namespace World

def onlyOwner (w : World σ) (sender : Address) : Except Revert Unit :=
  revertIf (sender ≠ w.market.owner) (.ownableUnauthorizedAccount sender)

/-- There is code at the address, of this repository or not. -/
def hasCode (env : External σ) (w : World σ) (address : Address) : Bool :=
  env.isContract w.outside address || w.isSystem env address

/-- `_requireDependency`. Any contract will do. -/
def requireDependency (env : External σ) (w : World σ) (dependency : Address) : Except Revert Unit := do
  revertIf (dependency = 0) .zeroAddress
  revertIf (¬ w.hasCode env dependency) (.invalidDependency dependency)

def setCofheAdapter (env : External σ) (w : World σ) (sender newAdapter : Address) :
    Except Revert (World σ) := do
  w.onlyOwner sender
  w.requireDependency env newAdapter
  return { w with market.cofheAdapter := newAdapter }

def setSettlementEngine (env : External σ) (w : World σ) (sender newSettlementEngine : Address) :
    Except Revert (World σ) := do
  w.onlyOwner sender
  w.requireDependency env newSettlementEngine
  return { w with market.settlementEngine := newSettlementEngine }

def setSlashedPot (env : External σ) (w : World σ) (sender newSlashedPot : Address) :
    Except Revert (World σ) := do
  w.onlyOwner sender
  w.requireDependency env newSlashedPot
  return { w with market.slashedPot := newSlashedPot }

def setShieldedEscrowVault (env : External σ) (w : World σ) (sender newVault : Address) :
    Except Revert (World σ) := do
  w.onlyOwner sender
  w.requireDependency env newVault
  return { w with market.shieldedEscrowVault := newVault }

def setShieldedIdentityRegistry (env : External σ) (w : World σ) (sender newRegistry : Address) :
    Except Revert (World σ) := do
  w.onlyOwner sender
  w.requireDependency env newRegistry
  return { w with market.shieldedIdentityRegistry := newRegistry }

def setAVS (w : World σ) (sender address newAVS : Address) : Except Revert (World σ) := do
  let engine ← requireSome (w.engines address) .callFailed
  let changed ← engine.setAVS sender newAVS
  return { w with engines := Function.update w.engines address (some changed) }

def setShieldedBidVerifier (w : World σ) (sender address newVerifier : Address) :
    Except Revert (World σ) := do
  let vault ← requireSome (w.vaults address) .callFailed
  let changed ← vault.setShieldedBidVerifier sender newVerifier
  return w.setVault address changed

def setPreviewReader (w : World σ) (sender address newPreviewReader : Address) :
    Except Revert (World σ) := do
  let vault ← requireSome (w.vaults address) .callFailed
  let changed ← vault.setPreviewReader sender newPreviewReader
  return w.setVault address changed

/-- Drop the flag a resolution returns. -/
def afterResolution (outcome : Except Revert (Bool × World σ)) : Except Revert (World σ) := do
  let (_, next) ← outcome
  return next

def execute (env : External σ) (w : World σ) (msg : Msg) : Tx σ → Except Revert (World σ)
  | .createAuction nftContract tokenId duration startingPrice sellerDeposit isVickrey =>
    w.createAuction env msg nftContract tokenId duration startingPrice sellerDeposit isVickrey
  | .lockEscrow auctionId => w.lockEscrow msg auctionId
  | .lockShieldedEscrow auctionId identityHash commitmentHash claimAuthority =>
    w.lockShieldedEscrow env msg auctionId identityHash commitmentHash claimAuthority
  | .placeBid auctionId encryptedBid => w.placeBid env msg auctionId encryptedBid
  | .placeShieldedBid auctionId commitmentHash encryptedBid coverageDeadline coverageProof =>
    w.placeShieldedBid env msg auctionId commitmentHash encryptedBid coverageDeadline coverageProof
  | .triggerFinalize auctionId => w.triggerFinalize env msg auctionId
  | .submitResolution auctionId winner winnerCiphertext winningAmount avsProof =>
    afterResolution
      (w.submitResolution env msg auctionId winner winnerCiphertext winningAmount avsProof)
  | .submitShieldedResolution auctionId winnerIdentityHash winnerCiphertext winningAmount avsProof =>
    afterResolution (w.submitShieldedResolution env msg auctionId winnerIdentityHash winnerCiphertext
      winningAmount avsProof)
  | .cancelAuction auctionId => w.cancelAuction env msg auctionId
  | .triggerFallbackVoid auctionId => w.triggerFallbackVoid env msg auctionId
  | .claimRefund auctionId => w.claimRefund env msg auctionId
  | .claimSellerProceeds auctionId => w.claimSellerProceeds env msg auctionId
  | .claimFinalizeReward auctionId => w.claimFinalizeReward env msg auctionId
  | .claimAsset auctionId => w.claimAsset env msg auctionId
  | .claimShieldedAssetWithAuthorization auctionId winnerIdentityHash recipient deadline signature =>
    w.claimShieldedAssetWithAuthorization env msg auctionId winnerIdentityHash recipient deadline
      signature
  | .claimRefundWithAuthorization vault commitmentHash recipient deadline signature =>
    w.claimRefundWithAuthorization env msg vault commitmentHash recipient deadline signature
  | .receive => .ok (w.receiveEther msg.value)
  | .setCofheAdapter newAdapter => w.setCofheAdapter env msg.sender newAdapter
  | .setSettlementEngine newSettlementEngine => w.setSettlementEngine env msg.sender newSettlementEngine
  | .setSlashedPot newSlashedPot => w.setSlashedPot env msg.sender newSlashedPot
  | .setShieldedEscrowVault newVault => w.setShieldedEscrowVault env msg.sender newVault
  | .setShieldedIdentityRegistry newRegistry => w.setShieldedIdentityRegistry env msg.sender newRegistry
  | .setAVS engine newAVS => w.setAVS msg.sender engine newAVS
  | .setShieldedBidVerifier vault newVerifier => w.setShieldedBidVerifier msg.sender vault newVerifier
  | .setPreviewReader vault newPreviewReader => w.setPreviewReader msg.sender vault newPreviewReader
  | .outside next => do
    revertIf (¬ env.admits w.outside next) .invalidTransaction
    return w.setOutside next

/-- The pot is deployed, and the optional dependencies are unset or deployed. -/
structure Deployed (w : World σ) (pot vault registry engine : Address) : Prop where
  pot : (w.pots pot).isSome = true
  vault : vault = 0 ∨ (w.vaults vault).isSome = true
  registry : registry = 0 ∨ (w.registries registry).isSome = true
  engine : engine = 0 ∨ (w.engines engine).isSome = true

instance (w : World σ) (pot vault registry engine : Address) : Decidable (w.Deployed pot vault registry engine) :=
  decidable_of_iff ((w.pots pot).isSome = true ∧ (vault = 0 ∨ (w.vaults vault).isSome = true) ∧
      (registry = 0 ∨ (w.registries registry).isSome = true) ∧ (engine = 0 ∨ (w.engines engine).isSome = true))
    ⟨fun ⟨pot, vault, registry, engine⟩ => ⟨pot, vault, registry, engine⟩,
      fun deployed => ⟨deployed.pot, deployed.vault, deployed.registry, deployed.engine⟩⟩

/-- What a new auction would be given are contracts of this repository. -/
def Configured (w : World σ) : Prop :=
  w.Deployed w.market.slashedPot w.market.shieldedEscrowVault w.market.shieldedIdentityRegistry
    w.market.settlementEngine

instance (w : World σ) : Decidable w.Configured :=
  inferInstanceAs (Decidable (w.Deployed _ _ _ _))

/-- A transaction comes from an account other than zero and the contracts of this world, at a
time no earlier than the last one, with value only where it is accepted. The owner may set any
contracts, but a run has the auctions only that are given those of this repository: what
another one does is not known here. -/
def transact (env : External σ) (w : World σ) (input : Msg × Tx σ) : Except Revert (World σ) := do
  let (msg, tx) := input
  revertIf (msg.sender = 0 ∨ w.isSystem env msg.sender ∨ msg.timestamp < w.timestamp ∨
      tx.creates ∧ ¬ w.Configured) .invalidTransaction
  revertIf (msg.value ≠ 0 ∧ ¬ tx.payable) .nonPayable
  let next ← w.execute env msg tx
  return { next with timestamp := msg.timestamp }

end World

/-- The deployment: which addresses hold which dependency, and their owners. -/
structure Deployment where
  vaultOwner : Address → Option Address := fun _ => none
  registries : Address → Bool := fun _ => false
  registryOwner : Address → Address := fun _ => 0
  pots : Address → Bool
  potOwner : Address → Address := fun _ => 0
  engineOwner : Address → Option Address := fun _ => none
  /-- What `initialize` is given. -/
  owner : Address
  cofheAdapter : Address
  slashedPot : Address
  noneAtZero : vaultOwner 0 = none ∧ registries 0 = false ∧ pots 0 = false ∧ engineOwner 0 = none

/-- The initialised market and its wired dependencies, before any transaction. -/
def Deployment.genesis (deployment : Deployment) (env : External σ) (outside : σ) : World σ where
  market := {
    owner := deployment.owner
    slashedPot := deployment.slashedPot
    cofheAdapter := deployment.cofheAdapter }
  vaults := fun address => (deployment.vaultOwner address).map fun owner => { owner, market := env.market }
  registries := fun address =>
    if deployment.registries address then some { owner := deployment.registryOwner address, market := env.market }
    else none
  pots := fun address =>
    if deployment.pots address then some { owner := deployment.potOwner address, market := env.market } else none
  engines := fun address => (deployment.engineOwner address).map fun owner => { owner }
  outside

/-- The world a list of attempted transactions leaves behind. -/
def Deployment.run (deployment : Deployment) (env : External σ) (outside : σ)
    (inputs : List (Msg × Tx σ)) : World σ :=
  play (World.transact env) (deployment.genesis env outside) inputs

end FairMarket
