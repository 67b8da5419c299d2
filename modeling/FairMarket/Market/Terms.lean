import FairMarket.Market.Accounted

/-! What a seller fixes of an auction, and nothing changes. -/

namespace FairMarket

variable {σ : Type}

/-- What a seller fixes once and for all. -/
structure AuctionTerms where
  nftContract : Address
  tokenId : ℕ
  seller : Address
  endTime : ℕ
  sellerDeposit : ℕ
  isVickrey : Bool
  createdAt : ℕ
  startingPrice : ℕ

def Auction.terms (auction : Auction) : AuctionTerms where
  nftContract := auction.nftContract
  tokenId := auction.tokenId
  seller := auction.seller
  endTime := auction.endTime
  sellerDeposit := auction.sellerDeposit
  isVickrey := auction.isVickrey
  createdAt := auction.createdAt
  startingPrice := auction.startingPrice

theorem AuctionStep.terms {refundKey : Bytes32 → Bytes32} {auctionId : AuctionId} {now : ℕ} {flow : Flow}
    {v next : AuctionView} (step : AuctionStep refundKey auctionId now flow v next)
    (found : v.cell.auction.exists_ = true) : next.cell.auction.terms = v.cell.auction.terms := by
  cases step with
  | created _ _ _ _ _ _ _ _ _ fresh =>
    rw [fresh] at found
    cases found
  | resolved => simp [Auction.terms]
  | shieldedResolved => simp [Auction.terms]
  | cancelled => simp [Auction.terms]
  | voided => simp [Auction.terms]
  | _ => rfl

namespace World

variable {env : External σ} {w next : World σ} {auctionId : AuctionId} {terms : AuctionTerms}

/-- An auction of the market has the terms. -/
structure Offered (env : External σ) (w : World σ) (auctionId : AuctionId) (terms : AuctionTerms) : Prop where
  wired : w.Wired env
  found : (w.market.auctions auctionId).auction.exists_ = true
  terms : (w.market.auctions auctionId).auction.terms = terms

theorem Offered.transact (offered : Offered env w auctionId terms) {msg : Msg} {tx : Tx σ}
    (done : w.transact env (msg, tx) = .ok next) : Offered env next auctionId terms := by
  obtain ⟨wired, -, -, touched, flow, transition⟩ := transact_transition offered.wired done
  refine ⟨wired, (transition.kept auctionId).found offered.found, Eq.trans ?_ offered.terms⟩
  have kept : (next.view auctionId).cell.auction.terms = (w.view auctionId).cell.auction.terms := by
    by_cases own : auctionId = touched
    · subst own
      rcases transition.step with ⟨-, unchanged⟩ | step
      · rw [unchanged]
      · exact step.terms offered.found
    · rw [transition.others auctionId own]
  exact kept

theorem Offered.play (offered : Offered env w auctionId terms) (inputs : List (Msg × Tx σ)) :
    Offered env (play (World.transact env) w inputs) auctionId terms :=
  @play_preserves _ _ _ (World.transact env) (fun w => Offered env w auctionId terms)
    (fun _ _ _ before done => before.transact done) w offered inputs

end World

end FairMarket
