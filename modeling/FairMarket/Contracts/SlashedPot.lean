import FairMarket.Contracts.SettlementEngine
import Mathlib.Logic.Function.Basic

/-! The pot that receives the public share of a seller's penalty and pays it out
pro rata to the public escrow of an auction. -/

namespace FairMarket

structure Pot where
  exists_ : Bool := false
  totalEscrow : ℕ := 0
  totalSlash : ℕ := 0

structure SlashedPot where
  pots : AuctionId → Pot := fun _ => {}
  hasClaimedCompensation : AuctionId → Address → Bool := fun _ _ => false
  hasClaimedCompensationByKey : AuctionId → Bytes32 → Bool := fun _ _ => false
  owner : Address := 0
  market : Address
  balance : ℕ := 0

namespace SlashedPot

def setMarket (pot : SlashedPot) (sender newMarket : Address) : Except Revert SlashedPot := do
  revertIf (sender ≠ pot.owner) (.ownableUnauthorizedAccount sender)
  revertIf (newMarket = 0) .zeroAddress
  return { pot with market := newMarket }

def onlyMarket (pot : SlashedPot) (sender : Address) : Except Revert Unit :=
  revertIf (sender ≠ pot.market) (.notMarket sender)

def registerSlash (pot : SlashedPot) (sender : Address) (value : ℕ) (auctionId : AuctionId)
    (totalEscrow : ℕ) : Except Revert SlashedPot := do
  pot.onlyMarket sender
  let entry := pot.pots auctionId
  let opened := if entry.exists_ then entry else { entry with exists_ := true, totalEscrow }
  let totalSlash ← checkedAdd opened.totalSlash value
  return { pot with
    pots := Function.update pot.pots auctionId { opened with totalSlash }
    balance := pot.balance + value }

/-- The engine a pot is built with is a `SettlementEngine`, whose pro-rata share is pure. -/
def previewClaim (pot : SlashedPot) (auctionId : AuctionId) (escrowContribution : ℕ) :
    Except Revert ℕ :=
  SettlementEngine.computeProRataShare escrowContribution (pot.pots auctionId).totalEscrow
    (pot.pots auctionId).totalSlash

/-- Compute the compensation and take it out of the pot. The recipient's own code
runs only after every write of the pot and is left to the caller. -/
def payClaim (pot : SlashedPot) (auctionId : AuctionId) (recipient : Address)
    (escrowContribution : ℕ) : Except Revert (ℕ × SlashedPot) := do
  let amount ← pot.previewClaim auctionId escrowContribution
  if amount = 0 then return (0, pot)
  else
    revertIf (pot.balance < amount) (.nativeTransferFailed recipient amount)
    return (amount, { pot with balance := pot.balance - amount })

def claimFor (pot : SlashedPot) (keccak : List Word → Bytes32) (sender : Address)
    (auctionId : AuctionId) (recipient : Address) (escrowContribution : ℕ) :
    Except Revert (ℕ × SlashedPot) := do
  pot.onlyMarket sender
  let claimKey := keccak [.ofAddress recipient]
  revertIf (pot.hasClaimedCompensation auctionId recipient)
    (.compensationAlreadyClaimed auctionId recipient)
  revertIf (pot.hasClaimedCompensationByKey auctionId claimKey)
    (.compensationKeyAlreadyClaimed auctionId claimKey)
  let marked := { pot with
    hasClaimedCompensation := Function.update pot.hasClaimedCompensation auctionId
      (Function.update (pot.hasClaimedCompensation auctionId) recipient true)
    hasClaimedCompensationByKey := Function.update pot.hasClaimedCompensationByKey auctionId
      (Function.update (pot.hasClaimedCompensationByKey auctionId) claimKey true) }
  marked.payClaim auctionId recipient escrowContribution

def claimForKey (pot : SlashedPot) (sender : Address) (auctionId : AuctionId) (claimKey : Bytes32)
    (recipient : Address) (escrowContribution : ℕ) : Except Revert (ℕ × SlashedPot) := do
  pot.onlyMarket sender
  revertIf (pot.hasClaimedCompensationByKey auctionId claimKey)
    (.compensationKeyAlreadyClaimed auctionId claimKey)
  let marked := { pot with
    hasClaimedCompensationByKey := Function.update pot.hasClaimedCompensationByKey auctionId
      (Function.update (pot.hasClaimedCompensationByKey auctionId) claimKey true) }
  marked.payClaim auctionId recipient escrowContribution

end SlashedPot

end FairMarket
