import FairMarket.Frontend.Wallet
import FairMarket.Keeper.Retirement
import FairMarket.Market.Proceeds

/-! The page on which a seller takes an auction back. The payout that it shows is what the claim pays. -/

namespace FairMarket

variable {σ : Type}

namespace Frontend

/-- What the page says of the errors that it knows. -/
def sellerError : Revert → Option String
  | .auctionAlreadyEnded .. => some "The closing time already passed, so cancellation is no longer available."
  | .auctionDoesNotExist _ => some "This auction no longer exists on the market contract."
  | .noClaimableBalance .. => some "There is no seller payout available to claim for this auction."
  | .notAuctionSeller .. => some "Only the seller wallet can manage this auction."
  | .slashedPotNotConfigured =>
    some "Cancellation with bidder escrow is blocked because the slashed pot is not configured."
  | .unexpectedAuctionState .. => some "This auction is no longer in the correct state for that seller action."
  | _ => none

structure TxActionParams where
  account : Address
  auctionId : AuctionId
  nftContract : Option Address := none
  tokenId : Option ℕ := none
  sellerAddress : Option Address := none

/-- What a round of the wait meets: its two calls, and which of them is answered first. -/
structure PollTurn (σ : Type) where
  getAuction : CallTurn σ := {}
  ownerOf : CallTurn σ := {}
  ownerFirst : Bool := false

section Flow

variable (env : External σ)

/-- The state of `getAuction`, as a number. -/
def readAuctionState (turn : CallTurn σ) (auctionId : AuctionId) : WalletProgram σ ℤ :=
  callContract env turn fun w => do
    let cell ← w.auctionExists auctionId
    return cell.auction.state.ordinal

def readTokenOwner (turn : CallTurn σ) (nftContract : Address) (tokenId : ℕ) : WalletProgram σ Address :=
  callContract env turn fun w => requireSome (env.ownerOf w.outside nftContract tokenId) .callFailed

/-- The auction's state and the token's owner, asked for at once. -/
def readCancellation (turn : PollTurn σ) (auctionId : AuctionId) (nftContract : Address) (tokenId : ℕ) :
    WalletProgram σ (ℤ × Address) :=
  if turn.ownerFirst then do
    let owner ← readTokenOwner env turn.ownerOf nftContract tokenId
    let auctionState ← readAuctionState env turn.getAuction auctionId
    return (auctionState, owner)
  else do
    let auctionState ← readAuctionState env turn.getAuction auctionId
    let owner ← readTokenOwner env turn.ownerOf nftContract tokenId
    return (auctionState, owner)

/-- The rounds there is time for. -/
def waitForAuctionCancellation (auctionId : AuctionId) (nftContract : Address) (tokenId : ℕ)
    (sellerAddress : Address) : List (PollTurn σ) → WalletProgram σ Unit
  | [] =>
    throwNew "Cancellation transaction was mined, but the auction state did not settle into CANCELLED yet."
  | turn :: later => do
    let (auctionState, owner) ← readCancellation env turn auctionId nftContract tokenId
    if auctionState = 4 ∧ owner = sellerAddress then return ()
    else waitForAuctionCancellation auctionId nftContract tokenId sellerAddress later

/-- The wait, if the page knows what to wait for. -/
def verifyCancellation (polls : List (PollTurn σ)) (params : TxActionParams) : WalletProgram σ Unit :=
  match params.nftContract, params.tokenId, params.sellerAddress with
  | some nftContract, some tokenId, some sellerAddress =>
    waitForAuctionCancellation env params.auctionId nftContract tokenId sellerAddress polls
  | _, _, _ => pure ()

def previewSellerPayoutWithWallet (turn : CallTurn σ) (auctionId : AuctionId) : WalletProgram σ String := do
  let sellerPayoutWei ← callContract env turn fun w => w.previewSellerPayout auctionId
  return toString sellerPayoutWei

/-- What the calls of a cancellation meet. -/
structure CancelTurns (σ : Type) where
  cancelAuction : SendTurn σ
  polls : List (PollTurn σ) := []
  previewSellerPayout : CallTurn σ := {}

/-- Cancel, with the payout in wei if it can be read. -/
def cancelAuctionWithWallet (turns : CancelTurns σ) (params : TxActionParams) :
    Guest (World σ) String (Option String) := .rethrowing (normalizeErrorMessage sellerError) do
  let _ ← confirm env turns.cancelAuction params.account 0 (fun _ => .ok (.cancelAuction params.auctionId))
    "Auction cancellation did not complete successfully."
  verifyCancellation env turns.polls params
  .caught (previewSellerPayoutWithWallet env turns.previewSellerPayout params.auctionId)

def claimSellerProceedsWithWallet (claim : SendTurn σ) (params : TxActionParams) :
    Guest (World σ) String Unit := .rethrowing (normalizeErrorMessage sellerError) do
  let _ ← confirm env claim params.account 0 (fun _ => .ok (.claimSellerProceeds params.auctionId))
    "Seller payout claim did not complete successfully."
  return ()

end Flow

section Returned

variable {env : External σ} {w last : World σ} {auctionId : AuctionId} {nftContract sellerAddress : Address}
  {tokenId : ℕ}

theorem readAuctionState_returns {turn : CallTurn σ} {auctionState : ℤ}
    (returned : (readAuctionState env turn auctionId).Returns w auctionState last) :
    last = play (World.transact env) w turn.earlier ∧
      auctionState = (last.market.auctions auctionId).auction.state.ordinal := by
  obtain ⟨reached, reads⟩ := callContract_returns returned
  obtain ⟨cell, exists_, same⟩ := bind_eq_ok.mp reads
  obtain ⟨-, rfl⟩ := World.auctionExists_ok.mp exists_
  exact ⟨reached, (Except.ok.inj same).symm⟩

theorem readTokenOwner_returns {turn : CallTurn σ} {owner : Address}
    (returned : (readTokenOwner env turn nftContract tokenId).Returns w owner last) :
    last = play (World.transact env) w turn.earlier ∧ env.ownerOf last.outside nftContract tokenId = some owner := by
  obtain ⟨reached, reads⟩ := callContract_returns returned
  exact ⟨reached, requireSome_eq_ok.mp reads⟩

theorem readCancellation_returns {turn : PollTurn σ} {auctionState : ℤ} {owner : Address}
    (returned : (readCancellation env turn auctionId nftContract tokenId).Returns w (auctionState, owner) last) :
    ∃ asked rest, env.ownerOf (play (World.transact env) w asked).outside nftContract tokenId = some owner ∧
      last = play (World.transact env) w (asked ++ rest) := by
  unfold readCancellation at returned
  split at returned
  · simp only [Guest.bind_returns, Guest.pure_returns] at returned
    obtain ⟨_, _, asks, _, _, reads, same, rfl⟩ := returned
    obtain ⟨rfl, rfl⟩ := Prod.mk.inj same
    obtain ⟨rfl, owned⟩ := readTokenOwner_returns asks
    obtain ⟨rfl, -⟩ := readAuctionState_returns reads
    exact ⟨_, _, owned, (play_append ..).symm⟩
  · simp only [Guest.bind_returns, Guest.pure_returns] at returned
    obtain ⟨_, _, reads, _, _, asks, same, rfl⟩ := returned
    obtain ⟨rfl, rfl⟩ := Prod.mk.inj same
    obtain ⟨rfl, -⟩ := readAuctionState_returns reads
    obtain ⟨rfl, owned⟩ := readTokenOwner_returns asks
    rw [← play_append] at owned
    exact ⟨_, [], owned, by rw [List.append_nil, play_append]⟩

/-- A wait that ends has seen the token with its seller. -/
theorem waitForAuctionCancellation_returns {polls : List (PollTurn σ)} {answer : Unit}
    (returned : (waitForAuctionCancellation env auctionId nftContract tokenId sellerAddress polls).Returns w answer
      last) :
    ∃ seen rest, env.ownerOf (play (World.transact env) w seen).outside nftContract tokenId = some sellerAddress ∧
      last = play (World.transact env) w (seen ++ rest) := by
  induction polls generalizing w with
  | nil => exact absurd returned Guest.raise_returns
  | cons turn later ih =>
    obtain ⟨⟨auctionState, owner⟩, middle, reads, ends⟩ := Guest.bind_returns.mp returned
    obtain ⟨asked, rest, owned, rfl⟩ := readCancellation_returns reads
    dsimp only at ends
    split at ends
    · rename_i settled
      obtain ⟨-, rfl⟩ := Guest.pure_returns.mp ends
      rw [settled.2] at owned
      exact ⟨asked, rest, owned, rfl⟩
    · obtain ⟨seen, after, found, rfl⟩ := ih ends
      rw [← play_append] at found
      refine ⟨asked ++ rest ++ seen, after, found, ?_⟩
      rw [← play_append, List.append_assoc (asked ++ rest)]

/-- What has gone on until the page knows of the cancellation as much as it can ask for. -/
theorem verifyCancellation_returns {polls : List (PollTurn σ)} {params : TxActionParams} {answer : Unit}
    (returned : (verifyCancellation env polls params).Returns w answer last) :
    ∃ waited, last = play (World.transact env) w waited ∧
      ∀ nftContract tokenId sellerAddress, params.nftContract = some nftContract → params.tokenId = some tokenId →
        params.sellerAddress = some sellerAddress → ∃ seen rest, waited = seen ++ rest ∧
          env.ownerOf (play (World.transact env) w seen).outside nftContract tokenId = some sellerAddress := by
  unfold verifyCancellation at returned
  split at returned
  · rename_i nftContract tokenId sellerAddress contract token address
    obtain ⟨seen, rest, owned, reached⟩ := waitForAuctionCancellation_returns returned
    refine ⟨seen ++ rest, reached, fun _ _ _ sameContract sameToken sameAddress => ⟨seen, rest, rfl, ?_⟩⟩
    obtain rfl := Option.some.inj (contract.symm.trans sameContract)
    obtain rfl := Option.some.inj (token.symm.trans sameToken)
    obtain rfl := Option.some.inj (address.symm.trans sameAddress)
    exact owned
  · rename_i untold
    obtain ⟨-, rfl⟩ := Guest.pure_returns.mp returned
    refine ⟨[], rfl, fun _ _ _ contract token address => ?_⟩
    exact (untold _ _ _ contract token address).elim

theorem previewSellerPayoutWithWallet_after (turn : CallTurn σ) :
    (previewSellerPayoutWithWallet env turn auctionId w).2 = play (World.transact env) w turn.earlier := by
  unfold previewSellerPayoutWithWallet
  rw [Guest.after_bind_pure, callContract_after]

/-- A flow that returns has had the auction cancelled, and shows what it read last. -/
theorem cancelAuctionWithWallet_returns {turns : CancelTurns σ} {params : TxActionParams} {shown : Option String}
    (returned : (cancelAuctionWithWallet env turns params).Returns w shown last) :
    ∃ before msg cancelled waited, msg.sender = params.account ∧
      (play (World.transact env) w before).transact env (msg, .cancelAuction params.auctionId) = .ok cancelled ∧
      last = play (World.transact env) cancelled waited ∧
      (∀ nftContract tokenId sellerAddress, params.nftContract = some nftContract → params.tokenId = some tokenId →
        params.sellerAddress = some sellerAddress → ∃ seen rest, waited = seen ++ rest ∧
          env.ownerOf (play (World.transact env) cancelled seen).outside nftContract tokenId = some sellerAddress) ∧
      ∀ text, shown = some text → ∃ payout, last.previewSellerPayout params.auctionId = .ok payout ∧
        text = toString payout := by
  unfold cancelAuctionWithWallet at returned
  rw [Guest.rethrowing_returns] at returned
  simp only [Guest.bind_returns] at returned
  obtain ⟨events, cancelled, confirms, _, middle, verifies, previews⟩ := returned
  obtain ⟨before, msg, sent, confirmed⟩ := confirm_returns confirms
  obtain rfl := Except.ok.inj confirmed.names
  obtain ⟨waited, rfl, saw⟩ := verifyCancellation_returns verifies
  have reached := (Guest.caught_returns.mp previews).2
  rw [previewSellerPayoutWithWallet_after, ← play_append] at reached
  refine ⟨before, msg, cancelled, _, confirmed.sender, confirmed.accepted, reached.symm, ?_, ?_⟩
  · intro nftContract tokenId sellerAddress contract token address
    obtain ⟨seen, rest, rfl, owned⟩ := saw nftContract tokenId sellerAddress contract token address
    exact ⟨seen, _, List.append_assoc .., owned⟩
  · rintro text rfl
    obtain ⟨payout, _, reads, done⟩ := Guest.bind_returns.mp (Guest.returns_of_caught previews)
    obtain ⟨rfl, rfl⟩ := Guest.pure_returns.mp done
    exact ⟨payout, (callContract_returns reads).2, rfl⟩

theorem claimSellerProceedsWithWallet_accepted {earlier : List (Msg × Tx σ)} {timestamp : ℕ}
    {priorBlockhash : Bytes32} {params : TxActionParams}
    (accepted : (play (World.transact env) w earlier).transact env
      ({ sender := params.account, timestamp, priorBlockhash }, .claimSellerProceeds params.auctionId) = .ok last) :
    (claimSellerProceedsWithWallet env (.mined earlier timestamp priorBlockhash) params).Returns w () last := by
  refine Guest.rethrowing_returns.mpr (Guest.bind_returns.mpr ⟨_, last, confirm_accepted rfl accepted, ?_⟩)
  exact Guest.pure_returns.mpr ⟨rfl, rfl⟩

end Returned

end Frontend

/-- The payout that the page shows a seller who cancels is the one that its claim pays. Once the
cancellation returns, the auction is the account's own and is cancelled, with the token seen
back at its seller at a moment since, if the page was told of both; and from then on, whatever
anybody does, the market quotes what was shown, more than nothing and with the penalty the whole
deposit. The log holds no payment or just that one, and until then the claim of the page returns
with the payout made, if the account takes transfers. -/
theorem shown_payout_kept (deployment : Deployment) (env : External σ) (outside : σ) (inputs : List (Msg × Tx σ))
    (turns : Frontend.CancelTurns σ) (params : Frontend.TxActionParams) (shown : Option String) (last : World σ) :
    (Frontend.cancelAuctionWithWallet env turns params).Returns (deployment.run env outside inputs) shown last →
    (∀ nftContract tokenId sellerAddress, params.nftContract = some nftContract → params.tokenId = some tokenId →
      params.sellerAddress = some sellerAddress → ∃ since rest : List (Msg × Tx σ),
        last = deployment.run env outside (inputs ++ since ++ rest) ∧
        let seen := deployment.run env outside (inputs ++ since)
        (seen.market.auctions params.auctionId).auction.state = .cancelled ∧
          env.ownerOf seen.outside nftContract tokenId = some sellerAddress) ∧
    ∃ payout, payout ≠ 0 ∧ (∀ text, shown = some text → text = toString payout) ∧
      ∀ later,
        let w := play (World.transact env) last later
        let auction := (w.market.auctions params.auctionId).auction
        auction.state = .cancelled ∧ auction.seller = params.account ∧
          auction.slashAmount + payout = auction.sellerDeposit ∧
          w.previewSellerPayout params.auctionId = .ok payout ∧
          w.log.filter (Event.isSellerProceeds params.auctionId) =
            (if auction.sellerClaimed then [.sellerProceedsClaimed params.auctionId params.account payout] else []) ∧
          (auction.sellerClaimed = false → w.AcceptsEther env params.account →
            ∀ timestamp priorBlockhash, w.timestamp ≤ timestamp →
              ∃ next, (Frontend.claimSellerProceedsWithWallet env (.mined later timestamp priorBlockhash)
                  params).Returns last () next ∧
                next.market.balance + payout = w.market.balance ∧
                (next.market.auctions params.auctionId).auction.sellerClaimed = true) := by
  intro returned
  obtain ⟨before, msg, cancelled, waited, sender, accepted, reached, saw, read⟩ :=
    Frontend.cancelAuctionWithWallet_returns returned
  rw [← deployment.run_append_eq env outside inputs before] at accepted
  have run := deployment.run_accepted accepted
  obtain ⟨payout, leaves⟩ := World.cancelAuction_leavesSeller (deployment.run_wired env outside (inputs ++ before))
    (deployment.run_reachable env outside (inputs ++ before) params.auctionId).sound accepted
  rw [sender] at leaves
  have quoted := leaves.play waited
  rw [← reached] at quoted
  refine ⟨?_, payout, leaves.positive, ?_, ?_⟩
  · intro nftContract tokenId sellerAddress contract token address
    obtain ⟨seen, rest, rfl, owned⟩ := saw nftContract tokenId sellerAddress contract token address
    rw [play_append] at reached
    have moment : deployment.run env outside (inputs ++ (before ++ [(msg, .cancelAuction params.auctionId)] ++ seen)) =
        play (World.transact env) cancelled seen := by
      rw [← List.append_assoc, ← List.append_assoc, deployment.run_append_eq, run]
    refine ⟨before ++ [(msg, .cancelAuction params.auctionId)] ++ seen, rest, ?_, ?_⟩
    · rw [deployment.run_append_eq, moment, reached]
    · rw [moment]
      exact ⟨(leaves.play seen).cancelled, owned⟩
  · intro text displayed
    obtain ⟨amount, answered, same⟩ := read text displayed
    rw [same, Except.ok.inj (answered.symm.trans quoted.preview)]
  · intro later w auction
    have stays : w.LeavesSeller env params.auctionId params.account payout := quoted.play later
    have here : deployment.run env outside (inputs ++ before ++ [(msg, .cancelAuction params.auctionId)] ++
        (waited ++ later)) = w := by
      rw [deployment.run_append_eq, run, play_append, ← reached]
    obtain ⟨-, solvent⟩ := deployment.run_solvent env outside
      (inputs ++ before ++ [(msg, .cancelAuction params.auctionId)] ++ (waited ++ later))
    have recorded := deployment.run_proceeds env outside
      (inputs ++ before ++ [(msg, .cancelAuction params.auctionId)] ++ (waited ++ later)) params.auctionId
    rw [here] at solvent recorded
    dsimp only at recorded
    rw [stays.own, stays.sellerDue] at recorded
    refine ⟨stays.cancelled, stays.own, stays.slashed, stays.preview, recorded, ?_⟩
    intro unclaimed accepts timestamp priorBlockhash timely
    obtain ⟨next, done, paid, claimed⟩ := stays.claim solvent unclaimed accepts
      (show ({ sender := params.account, timestamp, priorBlockhash } : Msg).sender = params.account from rfl) rfl timely
    exact ⟨next, Frontend.claimSellerProceedsWithWallet_accepted done, paid, claimed⟩

/-- The seller cancels halfway, just after another bid, and reads the payout after a refund. -/
def cancelling : Frontend.CancelTurns (ℕ → Address) where
  cancelAuction := .mined [({ sender := 7, value := 50, timestamp := 1040 }, .lockEscrow 1)] 1050 0
  polls := [{ ownerFirst := true }]
  previewSellerPayout := { earlier := [({ sender := 8, timestamp := 1060 }, .claimRefund 1)] }

/-- The state in which the seller has read it. -/
def payoutRead : World (ℕ → Address) :=
  (Frontend.cancelAuctionWithWallet tokenChain cancelling ⟨9, 1, some 5, some 7, some 9⟩
    (shieldedDeployment.run tokenChain (fun _ => 9) (cancelHalfway.take 3))).2

set_option maxRecDepth 4000 in
/-- Somebody else asks for the payout in between, and is refused. -/
theorem payoutRead_paid :
    ∃ next, (Frontend.claimSellerProceedsWithWallet tokenChain
        (.mined [({ sender := 8, timestamp := 1070 }, .claimSellerProceeds 1)] 1080 0)
        ⟨9, 1, some 5, some 7, some 9⟩).Returns payoutRead () next ∧
      next.market.balance + 375 = payoutRead.market.balance := by
  have returned : (Frontend.cancelAuctionWithWallet tokenChain cancelling ⟨9, 1, some 5, some 7, some 9⟩).Returns
      (shieldedDeployment.run tokenChain (fun _ => 9) (cancelHalfway.take 3)) (some "375") payoutRead :=
    Prod.ext (toOption_eq_some.mp (by decide +kernel)) (by rw [payoutRead])
  obtain ⟨-, payout, -, -, keeps⟩ := shown_payout_kept shieldedDeployment tokenChain (fun _ => 9) _ _ _ _ _ returned
  have facts : (payoutRead.market.auctions 1).auction.slashAmount = 625 ∧
      (payoutRead.market.auctions 1).auction.sellerDeposit = 1000 := by decide +kernel
  have later : play (World.transact tokenChain) payoutRead
      [({ sender := 8, timestamp := 1070 }, .claimSellerProceeds 1)] = payoutRead := by
    rw [play_cons, play_nil]
    exact advance_refused (by decide +kernel)
  obtain ⟨-, -, complete, -, -, pays⟩ := keeps [({ sender := 8, timestamp := 1070 }, .claimSellerProceeds 1)]
  rw [later] at complete pays
  obtain rfl : payout = 375 := by
    rw [facts.1, facts.2] at complete
    omega
  obtain ⟨next, claims, paid, -⟩ := pays (by decide +kernel) ⟨by decide, by decide +kernel, fun _ _ => rfl⟩ 1080 0
    (by decide +kernel)
  exact ⟨next, claims, paid⟩

end FairMarket
