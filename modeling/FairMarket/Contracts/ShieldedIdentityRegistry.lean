import FairMarket.Evm.Types
import Mathlib.Logic.Function.Basic

/-! The per-auction registry that binds alias identities to shielded commitments. -/

namespace FairMarket

structure ShieldedIdentityRegistry where
  identityToCommitment : AuctionId → Bytes32 → Bytes32 := fun _ _ => 0
  commitmentToIdentity : AuctionId → Bytes32 → Bytes32 := fun _ _ => 0
  winningIdentity : AuctionId → Bytes32 := fun _ => 0
  owner : Address := 0
  market : Address

namespace ShieldedIdentityRegistry

def setMarket (registry : ShieldedIdentityRegistry) (sender newMarket : Address) :
    Except Revert ShieldedIdentityRegistry := do
  revertIf (sender ≠ registry.owner) (.ownableUnauthorizedAccount sender)
  revertIf (newMarket = 0) .zeroAddress
  return { registry with market := newMarket }

def onlyMarket (registry : ShieldedIdentityRegistry) (sender : Address) : Except Revert Unit :=
  revertIf (sender ≠ registry.market) (.notMarket sender)

def bindIdentity (registry : ShieldedIdentityRegistry) (sender : Address) (auctionId : AuctionId)
    (identityHash commitmentHash : Bytes32) : Except Revert ShieldedIdentityRegistry := do
  registry.onlyMarket sender
  revertIf (identityHash = 0) .invalidIdentityHash
  revertIf (commitmentHash = 0) .invalidCommitmentHash
  let existingCommitmentHash := registry.identityToCommitment auctionId identityHash
  revertIf (existingCommitmentHash ≠ 0 ∧ existingCommitmentHash ≠ commitmentHash)
    (.identityAlreadyBound auctionId identityHash existingCommitmentHash)
  let existingIdentityHash := registry.commitmentToIdentity auctionId commitmentHash
  revertIf (existingIdentityHash ≠ 0 ∧ existingIdentityHash ≠ identityHash)
    (.commitmentAlreadyBound auctionId commitmentHash existingIdentityHash)
  return if existingCommitmentHash = 0 then { registry with
      identityToCommitment := Function.update registry.identityToCommitment auctionId
        (Function.update (registry.identityToCommitment auctionId) identityHash commitmentHash)
      commitmentToIdentity := Function.update registry.commitmentToIdentity auctionId
        (Function.update (registry.commitmentToIdentity auctionId) commitmentHash identityHash) }
    else registry

def markWinningIdentity (registry : ShieldedIdentityRegistry) (sender : Address)
    (auctionId : AuctionId) (identityHash : Bytes32) : Except Revert ShieldedIdentityRegistry := do
  registry.onlyMarket sender
  revertIf (identityHash = 0) .invalidIdentityHash
  revertIf (registry.identityToCommitment auctionId identityHash = 0)
    (.identityNotBound auctionId identityHash)
  let existingWinningIdentity := registry.winningIdentity auctionId
  revertIf (existingWinningIdentity ≠ 0 ∧ existingWinningIdentity ≠ identityHash)
    (.winningIdentityAlreadyMarked auctionId existingWinningIdentity)
  return { registry with
    winningIdentity := Function.update registry.winningIdentity auctionId identityHash }

def commitmentForIdentity (registry : ShieldedIdentityRegistry) (auctionId : AuctionId)
    (identityHash : Bytes32) : Bytes32 :=
  registry.identityToCommitment auctionId identityHash

def identityForCommitment (registry : ShieldedIdentityRegistry) (auctionId : AuctionId)
    (commitmentHash : Bytes32) : Bytes32 :=
  registry.commitmentToIdentity auctionId commitmentHash

end ShieldedIdentityRegistry

end FairMarket
