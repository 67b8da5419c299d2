import FairMarket.Market.Terms
import FairMarket.Market.Listed

/-! A public bid stands until its bidder places another one. -/

namespace FairMarket

open CofheCiphertextEncoding

variable {σ : Type}

/-- The transaction places a public bid in the auction. -/
def Tx.placesBid (auctionId : AuctionId) : Tx σ → Bool
  | .placeBid other _ => other == auctionId
  | _ => false

/-- The account sends a public bid for the auction. -/
def bidsIn (auctionId : AuctionId) (account : Address) (input : Msg × Tx σ) : Bool :=
  input.1.sender == account && input.2.placesBid auctionId

namespace World

variable {env : External σ} {w next : World σ} {msg : Msg} {tx : Tx σ} {auctionId : AuctionId}
  {terms : AuctionTerms} {bidder : Address} {encryptedBid : Bytes32}

/-- The bid is stored for the bidder, and it was not below the starting price. -/
structure StandingBid (env : External σ) (w : World σ) (auctionId : AuctionId) (terms : AuctionTerms)
    (bidder : Address) (encryptedBid : Bytes32) : Prop where
  offered : w.Offered env auctionId terms
  known : (w.market.auctions auctionId).knownBidders bidder = true
  stored : (w.market.auctions auctionId).encryptedBids bidder = encryptedBid
  floor : env.HostsAdapter (w.snapshot auctionId).cofheAdapter → terms.startingPrice ≤ payloadOf encryptedBid

/-- Others write their own entries. -/
theorem Writes.other_bid {record : BidRecord} (writes : Writes env w msg tx auctionId record)
    (other : bidsIn auctionId bidder (msg, tx) = false) :
    record.encryptedBids bidder = (w.market.auctions auctionId).encryptedBids bidder ∧
      record.knownBidders bidder = (w.market.auctions auctionId).knownBidders bidder := by
  cases writes with
  | placeBid =>
    have stranger : bidder ≠ msg.sender := by
      rintro rfl
      simp [bidsIn, Tx.placesBid] at other
    exact ⟨Function.update_of_ne stranger .., Function.update_of_ne stranger ..⟩
  | placeShieldedBid => exact ⟨rfl, rfl⟩
  | submitResolution => exact ⟨rfl, rfl⟩
  | submitShieldedResolution => exact ⟨rfl, rfl⟩

theorem StandingBid.step (stands : StandingBid env w auctionId terms bidder encryptedBid)
    (other : bidsIn auctionId bidder (msg, tx) = false) (done : w.transact env (msg, tx) = .ok next) :
    StandingBid env next auctionId terms bidder encryptedBid := by
  obtain ⟨-, -, -, touched, flow, transition⟩ := transact_transition stands.offered.wired done
  have same : next.snapshot auctionId = w.snapshot auctionId :=
    (transition.kept auctionId).snapshot stands.offered.found
  have entry : (next.market.auctions auctionId).record.encryptedBids bidder =
        (w.market.auctions auctionId).encryptedBids bidder ∧
      (next.market.auctions auctionId).record.knownBidders bidder =
        (w.market.auctions auctionId).knownBidders bidder := by
    rcases (transact_effects stands.offered.wired done).records auctionId with unwritten | writes
    · rw [unwritten]
      exact ⟨rfl, rfl⟩
    · exact writes.other_bid other
  exact {
    offered := stands.offered.transact done
    known := entry.2.trans stands.known
    stored := entry.1.trans stands.stored
    floor := by rw [same]; exact stands.floor }

theorem StandingBid.play (stands : StandingBid env w auctionId terms bidder encryptedBid)
    {inputs : List (Msg × Tx σ)} (others : ∀ input ∈ inputs, bidsIn auctionId bidder input = false) :
    StandingBid env (play (World.transact env) w inputs) auctionId terms bidder encryptedBid :=
  @play_preserves_along _ _ _ (World.transact env)
    (fun w => StandingBid env w auctionId terms bidder encryptedBid)
    (fun _ input => bidsIn auctionId bidder input = false)
    (fun _ _ _ before other done => before.step other done) w stands inputs (.of_mem w others)

end World

end FairMarket
