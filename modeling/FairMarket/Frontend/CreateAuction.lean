import FairMarket.Frontend.Wallet
import FairMarket.Market.Terms
import FairMarket.Market.Custody
import FairMarket.Keeper.ChainMirror

/-! The page on which a seller lists a token. What it reports as created is on the chain as the
seller asked for it. -/

namespace FairMarket

variable {σ : Type}

namespace Frontend

structure CreateAuctionParams where
  account : Address
  nftContract : Address
  tokenId : ℕ
  durationSeconds : ℕ
  sellerDepositWei : ℕ
  isVickrey : Bool

/-- What is shown of a creation, and whether an approval was sent before it. -/
structure CreateAuctionResult where
  approved : Bool
  auctionId : Option String

/-- What the page's calls meet, and how the logs of the token contract read to it. -/
structure CreateAuctionTurns (σ : Type) where
  ownerOf : CallTurn σ
  getApproved : CallTurn σ
  isApprovedForAll : CallTurn σ
  approve : SendTurn σ
  create : SendTurn σ
  tokenLogs : List (Option AuctionId)

/-- An event as `parseLog` reads it with the page's interface. -/
def createdAuction : Event → Option AuctionId
  | .auctionCreated auctionId .. => some auctionId
  | _ => none

/-- The first log that reads as `AuctionCreated`, whoever emitted it. The token is transferred
before the market emits its own. -/
def extractAuctionId (tokenLogs : List (Option AuctionId)) (events : List Event) : Option String :=
  ((tokenLogs ++ events.map createdAuction).findSome? id).map fun auctionId => toString auctionId.toNat

section Flow

variable (env : External σ)

/-- `IERC721.approve`, by the owner of the token. -/
abbrev Approve (σ : Type) := σ → Address → Address → Address → ℕ → Except Revert σ

/-- Have the market approved for the token if it is not, with whether that was needed. -/
def approveMarket (approve : Approve σ) (turns : CreateAuctionTurns σ) (params : CreateAuctionParams) :
    WalletProgram σ Bool := do
  let approvedAddress ← callContract env turns.getApproved fun w =>
    requireSome (env.getApproved w.outside params.nftContract params.tokenId) .callFailed
  let approvedForAll ← callContract env turns.isApprovedForAll fun w =>
    requireSome (env.isApprovedForAll w.outside params.nftContract params.account env.market) .callFailed
  if approvedForAll = false ∧ approvedAddress ≠ env.market then
    let _ ← confirm env turns.approve params.account 0 (fun w => do
      let outside ← approve w.outside params.nftContract params.account env.market params.tokenId
      return .outside outside) "NFT approval did not complete successfully."
    return true
  else return false

def createAuctionWithWallet (approve : Approve σ) (turns : CreateAuctionTurns σ) (params : CreateAuctionParams) :
    Guest (World σ) String CreateAuctionResult := .rethrowing (normalizeErrorMessage fun _ => none) do
  let owner ← callContract env turns.ownerOf fun w =>
    requireSome (env.ownerOf w.outside params.nftContract params.tokenId) .callFailed
  insist (owner = params.account) "This wallet does not own the selected NFT."
  let approved ← approveMarket env approve turns params
  let events ← confirm env turns.create params.account params.sellerDepositWei
    (fun _ => .ok (.createAuction params.nftContract params.tokenId params.durationSeconds 0
      params.sellerDepositWei params.isVickrey)) "Auction creation did not complete successfully."
  return { approved, auctionId := extractAuctionId turns.tokenLogs events }

end Flow

section Returned

variable {env : External σ} {approve : Approve σ} {turns : CreateAuctionTurns σ} {params : CreateAuctionParams}
  {w last : World σ} {result : CreateAuctionResult}

theorem approveMarket_returns {needed : Bool}
    (returned : (approveMarket env approve turns params).Returns w needed last) :
    ∃ before, last = play (World.transact env) w before := by
  simp only [approveMarket, Guest.bind_returns] at returned
  obtain ⟨approvedAddress, first, asks, approvedForAll, second, asksAll, sends⟩ := returned
  obtain ⟨rfl, -⟩ := callContract_returns asks
  obtain ⟨rfl, -⟩ := callContract_returns asksAll
  split at sends
  · obtain ⟨events, middle, confirms, done⟩ := Guest.bind_returns.mp sends
    obtain ⟨-, rfl⟩ := Guest.pure_returns.mp done
    obtain ⟨earlier, msg, sent, confirmed⟩ := confirm_returns confirms
    refine ⟨turns.getApproved.earlier ++ (turns.isApprovedForAll.earlier ++ (earlier ++ [(msg, sent)])), ?_⟩
    rw [confirmed.last_eq, play_append _ turns.getApproved.earlier, play_append _ turns.isApprovedForAll.earlier]
  · obtain ⟨-, rfl⟩ := Guest.pure_returns.mp sends
    exact ⟨turns.getApproved.earlier ++ turns.isApprovedForAll.earlier, (play_append ..).symm⟩

/-- A flow that returns has sent the creation last, after whatever came before. -/
theorem createAuctionWithWallet_returns
    (returned : (createAuctionWithWallet env approve turns params).Returns w result last) :
    ∃ before msg, msg.sender = params.account ∧
      (play (World.transact env) w before).transact env (msg, .createAuction params.nftContract params.tokenId
        params.durationSeconds 0 params.sellerDepositWei params.isVickrey) = .ok last ∧
      result.auctionId =
        extractAuctionId turns.tokenLogs ((play (World.transact env) w before).eventsUntil last) := by
  unfold createAuctionWithWallet at returned
  rw [Guest.rethrowing_returns] at returned
  simp only [Guest.bind_returns] at returned
  obtain ⟨owner, first, asks, _, _, insists, approved, second, approves, events, _, confirms, done⟩ := returned
  obtain ⟨rfl, rfl⟩ := Guest.pure_returns.mp done
  obtain ⟨rfl, -⟩ := callContract_returns asks
  obtain ⟨-, rfl⟩ := insist_returns insists
  obtain ⟨before, rfl⟩ := approveMarket_returns approves
  obtain ⟨earlier, msg, sent, confirmed⟩ := confirm_returns confirms
  obtain rfl := Except.ok.inj confirmed.names
  refine ⟨turns.ownerOf.earlier ++ (before ++ earlier), msg, confirmed.sender, ?_, ?_⟩
  · rw [play_append, play_append]
    exact confirmed.accepted
  · rw [play_append, play_append, ← confirmed.emitted]

theorem createAuction_eventsUntil {msg : Msg} {nftContract : Address} {tokenId duration startingPrice sellerDeposit : ℕ}
    {isVickrey : Bool} (done : w.transact env (msg, .createAuction nftContract tokenId duration startingPrice
      sellerDeposit isVickrey) = .ok last) :
    w.eventsUntil last = [.auctionStateChanged w.nextAuctionId .created .active,
      .auctionCreated w.nextAuctionId msg.sender nftContract tokenId sellerDeposit] := by
  obtain ⟨-, executed, executes, rfl⟩ := World.transact_ok.mp done
  obtain ⟨-, -, -, -, network, outside, -, rfl⟩ := World.createAuction_ok executes
  exact @World.eventsUntil_eq _ _ _ [_, _] rfl

theorem extractAuctionId_created (tokenLogs : List (Option AuctionId)) (auctionId : AuctionId)
    (seller nftContract : Address) (tokenId sellerDeposit : ℕ) :
    extractAuctionId tokenLogs [.auctionStateChanged auctionId .created .active,
      .auctionCreated auctionId seller nftContract tokenId sellerDeposit] =
        some (toString ((tokenLogs.findSome? id).getD auctionId).toNat) := by
  unfold extractAuctionId
  rw [List.findSome?_append]
  cases tokenLogs.findSome? id with
  | none => rfl
  | some other => rfl

end Returned

end Frontend

/-- What the page reports as created is a new auction of the account's, on the terms it asked for,
whatever others did while it was at work. It keeps them for good, and holds its token as long
as it should. Its id is the one reported, unless a log of the token contract read like one of
the market's. -/
theorem reported_auction_created (deployment : Deployment) (env : External σ) (outside : σ)
    (inputs : List (Msg × Tx σ)) (approve : Frontend.Approve σ) (turns : Frontend.CreateAuctionTurns σ)
    (params : Frontend.CreateAuctionParams) (result : Frontend.CreateAuctionResult) (last : World σ) :
    let start := deployment.run env outside inputs
    (Frontend.createAuctionWithWallet env approve turns params).Returns start result last →
      ∃ auctionId, (start.market.auctions auctionId).auction.exists_ = false ∧
        (last.market.auctions auctionId).auction.state = .active ∧
        result.auctionId = some (toString ((turns.tokenLogs.findSome? id).getD auctionId).toNat) ∧
        ∀ later,
          let w := play (World.transact env) last later
          let auction := (w.market.auctions auctionId).auction
          auction.exists_ = true ∧
            auction.terms = {
              nftContract := params.nftContract
              tokenId := params.tokenId
              seller := params.account
              endTime := toUint64 (last.timestamp + params.durationSeconds)
              sellerDeposit := params.sellerDepositWei
              isVickrey := params.isVickrey
              createdAt := toUint64 last.timestamp
              startingPrice := 0 } ∧
            (LawfulERC721 env params.nftContract → Unapproved env params.nftContract outside →
              auction.inCustody = true →
                env.ownerOf w.outside params.nftContract params.tokenId = some env.market) := by
  intro start returned
  obtain ⟨before, msg, sender, created, reported⟩ := Frontend.createAuctionWithWallet_returns returned
  have reached := deployment.run_append_eq env outside inputs before
  rw [← reached] at created reported
  have wired := deployment.run_wired env outside (inputs ++ before)
  have run := deployment.run_accepted created
  rw [Frontend.createAuction_eventsUntil created, Frontend.extractAuctionId_created] at reported
  obtain ⟨-, executed, executes, rfl⟩ := World.transact_ok.mp created
  have creates := World.createAuction_creates wired executes
  have absent := wired.nextAuctionId_absent creates.fits
  have own := creates.own
  generalize (deployment.run env outside (inputs ++ before)).nextAuctionId = auctionId at *
  have offered : World.Offered env { executed with timestamp := msg.timestamp } auctionId {
      nftContract := params.nftContract
      tokenId := params.tokenId
      seller := params.account
      endTime := toUint64 (msg.timestamp + params.durationSeconds)
      sellerDeposit := params.sellerDepositWei
      isVickrey := params.isVickrey
      createdAt := toUint64 msg.timestamp
      startingPrice := 0 } := by
    refine ⟨run ▸ deployment.run_wired env outside _, ?_, ?_⟩
    · dsimp only
      rw [own]
      rfl
    · dsimp only
      rw [own, ← sender]
      rfl
  refine ⟨auctionId, ?_, ?_, reported, fun later => ?_⟩
  · rw [← Bool.not_eq_true]
    intro found
    have still := (World.Offered.play ⟨deployment.run_wired env outside inputs, found, rfl⟩ before).found
    rw [← reached, absent] at still
    cases still
  · dsimp only
    rw [own]
    rfl
  · have after := offered.play later
    refine ⟨after.found, after.terms, fun lawful unapproved inCustody => ?_⟩
    have custody := deployment.run_custody lawful unapproved
      (inputs ++ before ++ [(msg, .createAuction params.nftContract params.tokenId params.durationSeconds 0
        params.sellerDepositWei params.isVickrey)] ++ later)
    rw [deployment.run_append_eq, run] at custody
    have same := congrArg AuctionTerms.tokenId after.terms
    have owned := (custody.held auctionId inCustody (congrArg AuctionTerms.nftContract after.terms)).1
    dsimp only [Auction.terms] at same
    rwa [same] at owned

/-- Another auction comes in before the seller's own is mined. -/
def overtaken : Frontend.CreateAuctionTurns (ℕ → Address) where
  ownerOf := {}
  getApproved := {}
  isApprovedForAll := {}
  approve := .unconfirmed
  create := .mined [({ sender := 9, value := 10, timestamp := 1000 }, .createAuction 5 8 100 0 10 false)] 1001 0
  tokenLogs := [none]

set_option maxRecDepth 4000 in
theorem overtaken_reported :
    ∃ result last, result.auctionId = some "2" ∧
      (Frontend.createAuctionWithWallet tokenChain (fun owners _ _ _ _ => .ok owners) overtaken
        ⟨9, 5, 7, 100, 10, false⟩).Returns (tokenDeployment.run tokenChain (fun _ => 9) []) result last ∧
      ∃ auctionId, (last.market.auctions auctionId).auction.seller = 9 ∧
        some "2" = some (toString auctionId.toNat) := by
  let program := Frontend.createAuctionWithWallet tokenChain (fun owners _ _ _ _ => .ok owners) overtaken
    ⟨9, 5, 7, 100, 10, false⟩
  have returned : program.Returns (tokenDeployment.run tokenChain (fun _ => 9) []) ⟨false, some "2"⟩
      (program (tokenDeployment.run tokenChain (fun _ => 9) [])).2 := Prod.ext rfl rfl
  obtain ⟨auctionId, -, -, reported, kept⟩ := reported_auction_created tokenDeployment tokenChain (fun _ => 9) []
    (fun owners _ _ _ _ => .ok owners) overtaken ⟨9, 5, 7, 100, 10, false⟩ _ _ returned
  exact ⟨_, _, rfl, returned, auctionId, congrArg AuctionTerms.seller (kept []).2.1, reported⟩

end FairMarket
