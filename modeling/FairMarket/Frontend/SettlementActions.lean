import FairMarket.Frontend.SellerActions
import FairMarket.Keeper.ChainMirror
import FairMarket.Market.Exit
import FairMarket.Market.Format

/-! The page on which an auction is settled. Its two reads at the end need not meet the same state of the
chain; what it shows of a winner is never taken back. -/

namespace FairMarket

variable {σ : Type}

theorem AuctionState.resolving_leads {state : AuctionState} (leads : AuctionState.resolving.Leads state) :
    state = .resolving ∨ state = .finalized ∨ state = .voided := by
  induction leads with
  | refl => exact .inl rfl
  | @tail middle last _ edge ih =>
    rcases ih with rfl | rfl | rfl
    · cases last with
      | finalized => exact .inr (.inl rfl)
      | voided => exact .inr (.inr rfl)
      | _ => cases edge
    · cases edge
    · cases edge

/-- A token that has left custody stays out of it. -/
theorem AuctionRun.outOfCustody {refundKey : Bytes32 → Bytes32} {auctionId : AuctionId} {start now : ℕ}
    {first v : AuctionView} (run : AuctionRun refundKey auctionId start first now v)
    (found : first.cell.auction.exists_ = true) (gone : first.cell.auction.inCustody = false) :
    v.cell.auction.exists_ = true ∧ v.cell.auction.consignment = first.cell.auction.consignment ∧
      v.cell.auction.inCustody = false := by
  induction run with
  | here => exact ⟨found, rfl, gone⟩
  | wait _ _ ih => exact ih
  | @step _ _ _ _ next _ _ step ih =>
    obtain ⟨kept, consigned, back⟩ := step.consignment_eq ih.1
    refine ⟨kept, consigned.trans ih.2.1, ?_⟩
    cases held : next.cell.auction.inCustody with
    | false => rfl
    | true => exact (back held).symm.trans ih.2.2

namespace World

variable {env : External σ} {w next : World σ} {msg : Msg} {auctionId : AuctionId} {seller winner : Address}

/-- What an auction has settled with stays. -/
theorem Wired.play_outcome (wired : w.Wired env) (found : (w.market.auctions auctionId).auction.exists_ = true)
    (terminal : (w.market.auctions auctionId).auction.state.terminal = true) (inputs : List (Msg × Tx σ)) :
    ((play (World.transact env) w inputs).market.auctions auctionId).outcome =
      (w.market.auctions auctionId).outcome :=
  (((wired.play_run inputs).2 auctionId).outcome_eq found terminal).2

theorem Wired.play_advances (wired : w.Wired env) (found : (w.market.auctions auctionId).auction.exists_ = true)
    (inputs : List (Msg × Tx σ)) : Advances w (play (World.transact env) w inputs) auctionId := by
  refine (@play_preserves _ _ _ (World.transact env) (fun next => next.Wired env ∧ Advances w next auctionId) ?_ w
    ⟨wired, .refl found⟩ inputs).2
  intro middle input next before done
  exact ⟨(transact_transition before.1 done).1, before.2.trans (transact_advances before.1 done before.2.found)⟩

/-- Somebody has triggered the auction's settlement. -/
structure Triggered (env : External σ) (w : World σ) (auctionId : AuctionId) : Prop where
  wired : w.Wired env
  sound : Sound (w.view auctionId)
  found : (w.market.auctions auctionId).auction.exists_ = true
  leads : AuctionState.resolving.Leads (w.market.auctions auctionId).auction.state

namespace Triggered

theorem play (triggered : w.Triggered env auctionId) (inputs : List (Msg × Tx σ)) :
    (play (World.transact env) w inputs).Triggered env auctionId := by
  obtain ⟨wired, history⟩ := triggered.wired.play_run inputs
  have advances := triggered.wired.play_advances triggered.found inputs
  have sound := (history auctionId).preserves (fun _ _ _ _ step sound => sound.step step) triggered.sound
  exact ⟨wired, sound, advances.found, triggered.leads.trans advances.leads⟩

/-- A winner is known only of a finalized auction. -/
theorem finalized (triggered : w.Triggered env auctionId)
    (won : (w.market.auctions auctionId).auction.winner ≠ 0) :
    (w.market.auctions auctionId).auction.state = .finalized := by
  by_contra unfinalized
  rcases AuctionState.resolving_leads triggered.leads with resolving | finalized | voided
  · exact won (triggered.sound.bidding_of_resolving triggered.found resolving).undecided.1
  · exact unfinalized finalized
  · have settled := triggered.sound.settled_of_terminal triggered.found (congrArg AuctionState.terminal voided)
    exact won (settled.undecided unfinalized).1

end Triggered

theorem triggerFinalize_triggered (wired : w.Wired env) (sound : Sound (w.view auctionId))
    (done : w.transact env (msg, .triggerFinalize auctionId) = .ok next) : next.Triggered env auctionId := by
  obtain ⟨nextWired, -, -, touched, flow, transition⟩ := transact_transition wired done
  obtain ⟨-, executed, executes, rfl⟩ := transact_ok.mp done
  obtain ⟨-, changed, -⟩ := triggerFinalize_ok executes
  simp only [execute, triggerFinalize, bind_eq_ok, auctionExists_ok] at executes
  obtain ⟨cell, ⟨found, rfl⟩, -⟩ := executes
  have kept := (transition.kept auctionId).found found
  refine ⟨nextWired, ?_, kept, ?_⟩
  · have moves : AuctionRun env.refundKey auctionId _ (w.view auctionId) _ _ := transition.run (Nat.le_refl _)
    exact moves.preserves (fun _ _ _ _ step sound => sound.step step) sound
  · rw [show (executed.market.auctions auctionId).auction.state = .resolving from congrArg Auction.state changed]
    exact .refl

/-- The auction is finalized, and its asset claimed. -/
structure HandedOver (env : External σ) (w : World σ) (auctionId : AuctionId) (seller winner : Address) : Prop where
  wired : w.Wired env
  found : (w.market.auctions auctionId).auction.exists_ = true
  finalized : (w.market.auctions auctionId).auction.state = .finalized
  own : (w.market.auctions auctionId).auction.seller = seller
  won : (w.market.auctions auctionId).auction.winner = winner
  claimed : (w.market.auctions auctionId).auction.assetClaimed = true

theorem HandedOver.play (handed : w.HandedOver env auctionId seller winner) (inputs : List (Msg × Tx σ)) :
    (play (World.transact env) w inputs).HandedOver env auctionId seller winner := by
  obtain ⟨wired, history⟩ := handed.wired.play_run inputs
  have gone : (w.market.auctions auctionId).auction.inCustody = false := by
    rw [Auction.inCustody, handed.finalized]
    exact congrArg not handed.claimed
  obtain ⟨found, consigned, outside⟩ := (history auctionId).outOfCustody handed.found gone
  have outcome := handed.wired.play_outcome handed.found (congrArg AuctionState.terminal handed.finalized) inputs
  have finalized := (congrArg Outcome.state outcome).trans handed.finalized
  refine ⟨wired, found, finalized, (congrArg (·.2.2) consigned).trans handed.own,
    (congrArg Outcome.winner outcome).trans handed.won, ?_⟩
  have state : ((FairMarket.play (World.transact env) w inputs).view auctionId).cell.auction.state = .finalized :=
    finalized
  unfold Auction.inCustody at outside
  rw [state] at outside
  simpa using outside

/-- A claim is the expected recipient's, and hands the token over. -/
theorem claimAsset_handedOver (wired : w.Wired env) (done : w.transact env (msg, .claimAsset auctionId) = .ok next) :
    next.HandedOver env auctionId (w.market.auctions auctionId).auction.seller
      (w.market.auctions auctionId).auction.winner ∧
      msg.sender = expectedRecipient (w.market.auctions auctionId).auction := by
  have nextWired := (transact_transition wired done).1
  obtain ⟨-, executed, executes, rfl⟩ := transact_ok.mp done
  simp only [execute, claimAsset, onlyAuctionState, releaseFromEscrow, bind_eq_ok, auctionExists_ok,
    exists_revertIf, pure_eq_ok, Except.ok.injEq, ne_eq, not_not, Bool.not_eq_true] at executes
  obtain ⟨cell, ⟨found, rfl⟩, finalized, -, -, recipient, outside, -, rfl⟩ := executes
  refine ⟨⟨nextWired, ?_, ?_, ?_, ?_, ?_⟩, recipient⟩
  all_goals
    dsimp only [emit, setOutside, setAuction]
    rw [Function.update_self]
  · exact found
  · exact finalized

end World

namespace Frontend

/-- What the page says of the errors that it knows. -/
def settlementError : Revert → Option String
  | .assetAlreadyClaimed _ => some "The NFT was already claimed from this auction."
  | .auctionDoesNotExist _ => some "This auction no longer exists on the market contract."
  | .auctionStillRunning .. => some "The closing time has not passed yet, so settlement cannot start."
  | .unauthorizedAssetClaim .. => some "Only the recorded winner can claim this NFT."
  | .unexpectedAuctionState .. => some "This auction is no longer in the correct state for that action."
  | _ => none

structure SettlementLifecycle where
  assetClaimed : Bool
  state : ℤ
  winnerAddress : Address

structure BaseAuctionSettlementParams where
  account : Address
  auctionId : AuctionId

structure ClaimAssetParams extends BaseAuctionSettlementParams where
  nftContract : Address
  recipientAddress : Address
  tokenId : ℕ

/-- What the two reads of a lifecycle meet, and which is answered first. -/
structure LifecycleTurn (σ : Type) where
  getAuction : CallTurn σ := {}
  getAuctionPhase2Details : CallTurn σ := {}
  detailsFirst : Bool := false

def resolveExpectedClaimRecipient (sellerAddress winnerAddress : Address) : Address :=
  if winnerAddress = 0 then sellerAddress else winnerAddress

section Flow

variable (env : External σ)

/-- The winner and whether the asset is claimed, of `getAuctionPhase2Details`. -/
def readDetails (turn : CallTurn σ) (auctionId : AuctionId) : WalletProgram σ (Address × Bool) :=
  callContract env turn fun w => do
    let cell ← w.auctionExists auctionId
    return (cell.auction.winner, cell.auction.assetClaimed)

def readAuctionLifecycle (turn : LifecycleTurn σ) (auctionId : AuctionId) : WalletProgram σ SettlementLifecycle :=
  if turn.detailsFirst then do
    let (winnerAddress, assetClaimed) ← readDetails env turn.getAuctionPhase2Details auctionId
    let state ← readAuctionState env turn.getAuction auctionId
    return { assetClaimed, state, winnerAddress }
  else do
    let state ← readAuctionState env turn.getAuction auctionId
    let (winnerAddress, assetClaimed) ← readDetails env turn.getAuctionPhase2Details auctionId
    return { assetClaimed, state, winnerAddress }

/-- The rounds there is time for. -/
def waitForAssetClaim (nftContract : Address) (tokenId : ℕ) (recipientAddress : Address) :
    List (CallTurn σ) → WalletProgram σ Unit
  | [] => throwNew "The NFT claim transaction was mined, but the asset owner did not update yet."
  | turn :: later => do
    let owner ← readTokenOwner env turn nftContract tokenId
    if owner = recipientAddress then return ()
    else waitForAssetClaim nftContract tokenId recipientAddress later

def triggerFinalizeWithWallet (trigger : SendTurn σ) (reads : LifecycleTurn σ)
    (params : BaseAuctionSettlementParams) : Guest (World σ) String SettlementLifecycle :=
  .rethrowing (normalizeErrorMessage settlementError) do
    let _ ← confirm env trigger params.account 0 (fun _ => .ok (.triggerFinalize params.auctionId))
      "Settlement trigger did not complete successfully."
    readAuctionLifecycle env reads params.auctionId

def claimAssetWithWallet (claim : SendTurn σ) (polls : List (CallTurn σ)) (reads : LifecycleTurn σ)
    (params : ClaimAssetParams) : Guest (World σ) String SettlementLifecycle :=
  .rethrowing (normalizeErrorMessage settlementError) do
    let _ ← confirm env claim params.account 0 (fun _ => .ok (.claimAsset params.auctionId))
      "NFT claim did not complete successfully."
    waitForAssetClaim env params.nftContract params.tokenId params.recipientAddress polls
    readAuctionLifecycle env reads params.auctionId

end Flow

section Returned

variable {env : External σ} {w last : World σ} {auctionId : AuctionId} {lifecycle : SettlementLifecycle}

theorem readDetails_returns {turn : CallTurn σ} {details : Address × Bool}
    (returned : (readDetails env turn auctionId).Returns w details last) :
    last = play (World.transact env) w turn.earlier ∧
      details = ((last.market.auctions auctionId).auction.winner,
        (last.market.auctions auctionId).auction.assetClaimed) := by
  obtain ⟨reached, reads⟩ := callContract_returns returned
  obtain ⟨cell, exists_, same⟩ := bind_eq_ok.mp reads
  obtain ⟨-, rfl⟩ := World.auctionExists_ok.mp exists_
  exact ⟨reached, (Except.ok.inj same).symm⟩

/-- A lifecycle puts together what two moments say, of which the second is the last. -/
theorem readAuctionLifecycle_returns {reads : LifecycleTurn σ}
    (returned : (readAuctionLifecycle env reads auctionId).Returns w lifecycle last) :
    ∃ stated detailed waited, last = play (World.transact env) w waited ∧ stated <+: waited ∧ detailed <+: waited ∧
      (reads.detailsFirst = false → detailed = waited) ∧
      lifecycle = {
        state := ((play (World.transact env) w stated).market.auctions auctionId).auction.state.ordinal
        winnerAddress := ((play (World.transact env) w detailed).market.auctions auctionId).auction.winner
        assetClaimed := ((play (World.transact env) w detailed).market.auctions auctionId).auction.assetClaimed } := by
  unfold readAuctionLifecycle at returned
  split at returned
  · rename_i detailsFirst
    simp only [Guest.bind_returns, Guest.pure_returns] at returned
    obtain ⟨details, _, asks, state, _, reading, rfl, rfl⟩ := returned
    obtain ⟨rfl, rfl⟩ := readDetails_returns asks
    obtain ⟨rfl, rfl⟩ := readAuctionState_returns reading
    rw [← play_append]
    refine ⟨_, reads.getAuctionPhase2Details.earlier, _, rfl, List.prefix_rfl, List.prefix_append .., ?_, rfl⟩
    exact fun stateFirst => Bool.noConfusion (detailsFirst.symm.trans stateFirst)
  · simp only [Guest.bind_returns, Guest.pure_returns] at returned
    obtain ⟨state, _, reading, details, _, asks, rfl, rfl⟩ := returned
    obtain ⟨rfl, rfl⟩ := readAuctionState_returns reading
    obtain ⟨rfl, rfl⟩ := readDetails_returns asks
    rw [← play_append]
    exact ⟨reads.getAuction.earlier, _, _, rfl, List.prefix_append .., List.prefix_rfl, fun _ => rfl, rfl⟩

/-- A wait that ends has seen the token with its recipient. -/
theorem waitForAssetClaim_returns {polls : List (CallTurn σ)} {nftContract recipientAddress : Address}
    {tokenId : ℕ} {answer : Unit}
    (returned : (waitForAssetClaim env nftContract tokenId recipientAddress polls).Returns w answer last) :
    ∃ waited, last = play (World.transact env) w waited ∧
      env.ownerOf last.outside nftContract tokenId = some recipientAddress := by
  induction polls generalizing w with
  | nil => exact absurd returned Guest.raise_returns
  | cons turn later ih =>
    obtain ⟨owner, middle, reads, ends⟩ := Guest.bind_returns.mp returned
    obtain ⟨rfl, owned⟩ := readTokenOwner_returns reads
    split at ends
    · rename_i arrived
      obtain ⟨-, rfl⟩ := Guest.pure_returns.mp ends
      exact ⟨_, rfl, arrived ▸ owned⟩
    · obtain ⟨waited, reached, found⟩ := ih ends
      exact ⟨turn.earlier ++ waited, by rw [reached, play_append], found⟩

theorem triggerFinalizeWithWallet_returns {trigger : SendTurn σ} {reads : LifecycleTurn σ}
    {params : BaseAuctionSettlementParams}
    (returned : (triggerFinalizeWithWallet env trigger reads params).Returns w lifecycle last) :
    ∃ before msg triggered, (play (World.transact env) w before).transact env
        (msg, .triggerFinalize params.auctionId) = .ok triggered ∧
      (readAuctionLifecycle env reads params.auctionId).Returns triggered lifecycle last := by
  unfold triggerFinalizeWithWallet at returned
  rw [Guest.rethrowing_returns] at returned
  obtain ⟨events, triggered, confirms, reading⟩ := Guest.bind_returns.mp returned
  obtain ⟨before, msg, sent, confirmed⟩ := confirm_returns confirms
  obtain rfl := Except.ok.inj confirmed.names
  exact ⟨before, msg, triggered, confirmed.accepted, reading⟩

theorem claimAssetWithWallet_returns {claim : SendTurn σ} {polls : List (CallTurn σ)} {reads : LifecycleTurn σ}
    {params : ClaimAssetParams}
    (returned : (claimAssetWithWallet env claim polls reads params).Returns w lifecycle last) :
    ∃ before msg claimed waited, msg.sender = params.account ∧
      (play (World.transact env) w before).transact env (msg, .claimAsset params.auctionId) = .ok claimed ∧
      env.ownerOf (play (World.transact env) claimed waited).outside params.nftContract params.tokenId =
        some params.recipientAddress ∧
      (readAuctionLifecycle env reads params.auctionId).Returns (play (World.transact env) claimed waited)
        lifecycle last := by
  unfold claimAssetWithWallet at returned
  rw [Guest.rethrowing_returns] at returned
  simp only [Guest.bind_returns] at returned
  obtain ⟨events, claimed, confirms, _, middle, waits, reading⟩ := returned
  obtain ⟨before, msg, sent, confirmed⟩ := confirm_returns confirms
  obtain rfl := Except.ok.inj confirmed.names
  obtain ⟨waited, rfl, arrived⟩ := waitForAssetClaim_returns waits
  exact ⟨before, msg, claimed, waited, confirmed.sender, confirmed.accepted, arrived, reading⟩

end Returned

end Frontend

/-- What the page shows after a trigger stands, though its two reads may meet different states. The
auction has left its bidding for good. A final state that is shown is the auction's from then
on, and so is a winner that is shown; a zero can be relied on only if it was read last. -/
theorem trigger_report_stands (deployment : Deployment) (env : External σ) (outside : σ)
    (inputs : List (Msg × Tx σ)) (trigger : Frontend.SendTurn σ) (reads : Frontend.LifecycleTurn σ)
    (params : Frontend.BaseAuctionSettlementParams) (lifecycle : Frontend.SettlementLifecycle) (last : World σ) :
    (Frontend.triggerFinalizeWithWallet env trigger reads params).Returns (deployment.run env outside inputs)
      lifecycle last →
    (lifecycle.state = 2 ∨ lifecycle.state = 3 ∨ lifecycle.state = 5) ∧
    ∀ later,
      let auction := ((play (World.transact env) last later).market.auctions params.auctionId).auction
      (auction.state = .resolving ∨ auction.state = .finalized ∨ auction.state = .voided) ∧
      (lifecycle.state ≠ 2 → auction.state.ordinal = lifecycle.state) ∧
      (lifecycle.winnerAddress ≠ 0 → auction.state = .finalized ∧ auction.winner = lifecycle.winnerAddress) ∧
      (reads.detailsFirst = false → lifecycle.state = 3 → auction.winner = lifecycle.winnerAddress) := by
  intro returned
  obtain ⟨before, msg, triggered, accepted, reading⟩ := Frontend.triggerFinalizeWithWallet_returns returned
  obtain ⟨stated, detailed, waited, reached, stateRead, detailsRead, inOrder, rfl⟩ :=
    Frontend.readAuctionLifecycle_returns reading
  rw [← deployment.run_append_eq env outside inputs before] at accepted
  have start : triggered.Triggered env params.auctionId := World.triggerFinalize_triggered
    (deployment.run_wired env outside (inputs ++ before))
    (deployment.run_reachable env outside (inputs ++ before) params.auctionId).sound accepted
  -- Whatever has been read is read of a moment that the later one follows.
  have follows : ∀ read, read <+: waited → ∀ later, ∃ rest, play (World.transact env) last later =
      play (World.transact env) (play (World.transact env) triggered read) rest := by
    rintro read ⟨rest, rfl⟩ later
    exact ⟨rest ++ later, by rw [reached, ← play_append, ← play_append, List.append_assoc]⟩
  have final : ∀ read, read <+: waited → ∀ later,
      ((play (World.transact env) triggered read).market.auctions params.auctionId).auction.state.terminal = true →
        ((play (World.transact env) last later).market.auctions params.auctionId).outcome =
          ((play (World.transact env) triggered read).market.auctions params.auctionId).outcome := by
    intro read part later terminal
    obtain ⟨rest, same⟩ := follows read part later
    rw [same]
    exact (start.play read).wired.play_outcome (start.play read).found terminal rest
  have states := AuctionState.resolving_leads (start.play stated).leads
  refine ⟨?_, fun later => ⟨?_, ?_, ?_, ?_⟩⟩
  · rcases states with state | state | state
    all_goals simp [state, AuctionState.ordinal]
  · obtain ⟨rest, same⟩ := follows stated stateRead later
    rw [same, ← play_append]
    exact AuctionState.resolving_leads (start.play (stated ++ rest)).leads
  · intro decided
    have terminal : ((play (World.transact env) triggered stated).market.auctions
        params.auctionId).auction.state.terminal = true := by
      rcases states with state | state | state
      · exact absurd (congrArg AuctionState.ordinal state) decided
      · exact congrArg AuctionState.terminal state
      · exact congrArg AuctionState.terminal state
    exact congrArg (·.state.ordinal) (final stated stateRead later terminal)
  · intro won
    have finalized := (start.play detailed).finalized won
    have outcome := final detailed detailsRead later (congrArg AuctionState.terminal finalized)
    exact ⟨(congrArg Outcome.state outcome).trans finalized, congrArg Outcome.winner outcome⟩
  · intro stateFirst shown
    obtain rfl := inOrder stateFirst
    have terminal : ((play (World.transact env) triggered detailed).market.auctions
        params.auctionId).auction.state.terminal = true := by
      obtain ⟨rest, rfl⟩ := stateRead
      rcases states with state | state | state
      · rw [state] at shown
        cases shown
      · have outcome := (start.play stated).wired.play_outcome (start.play stated).found
          (congrArg AuctionState.terminal state) rest
        rw [← play_append] at outcome
        exact congrArg AuctionState.terminal ((congrArg Outcome.state outcome).trans state)
      · rw [state] at shown
        cases shown
    exact congrArg Outcome.winner (final detailed detailsRead later terminal)

/-- The resolution is mined between the two reads, and the winner is read first. -/
def tornRead : Frontend.LifecycleTurn (ℕ → Address) where
  getAuction := { earlier := [({ sender := 7, timestamp := 1101 },
    .submitResolution 1 8 (CofheCiphertextEncoding.encodeEuint96 90) 90 none)] }
  detailsFirst := true

/-- The state after both, and what is shown of it. -/
def readTorn : Except String Frontend.SettlementLifecycle × World (ℕ → Address) :=
  Frontend.triggerFinalizeWithWallet tokenChain (.mined [] 1100 0) tornRead ⟨7, 1⟩
    (hostDeployment.run tokenChain (fun _ => 9) ((ninetyAndSixty false).take 7))

set_option maxRecDepth 4000 in
/-- The page shows a finalized auction without a winner, and the seller for the token's recipient.
That it is finalized stands. -/
theorem readTorn_stands :
    ∃ lifecycle, readTorn.1 = .ok lifecycle ∧
      Frontend.resolveExpectedClaimRecipient 9 lifecycle.winnerAddress = 9 ∧
      (readTorn.2.market.auctions 1).auction.state.ordinal = lifecycle.state ∧
      (readTorn.2.market.auctions 1).auction.winner = 8 := by
  have returned : (Frontend.triggerFinalizeWithWallet tokenChain (.mined [] 1100 0) tornRead ⟨7, 1⟩).Returns
      (hostDeployment.run tokenChain (fun _ => 9) ((ninetyAndSixty false).take 7)) ⟨false, 3, 0⟩ readTorn.2 :=
    Prod.ext rfl rfl
  obtain ⟨-, stands⟩ := trigger_report_stands hostDeployment tokenChain (fun _ => 9) _ _ _ _ _ _ returned
  obtain ⟨-, final, -⟩ := stands []
  exact ⟨⟨false, 3, 0⟩, congrArg Prod.fst returned, rfl, final (by decide), by decide +kernel⟩

/-- What the page shows after a claim is final. The account was the one that the page expects, the
token has been seen with the recipient at a moment after the claim, and from then on the auction
is finalized with the winner that is shown, and its asset claimed and released once. -/
theorem claim_report_final (deployment : Deployment) (env : External σ) (outside : σ)
    (inputs : List (Msg × Tx σ)) (claim : Frontend.SendTurn σ) (polls : List (Frontend.CallTurn σ))
    (reads : Frontend.LifecycleTurn σ) (params : Frontend.ClaimAssetParams)
    (lifecycle : Frontend.SettlementLifecycle) (last : World σ) :
    (Frontend.claimAssetWithWallet env claim polls reads params).Returns (deployment.run env outside inputs)
      lifecycle last →
    lifecycle.state = 3 ∧ lifecycle.assetClaimed = true ∧
    (∃ since rest : List (Msg × Tx σ), last = deployment.run env outside (inputs ++ since ++ rest) ∧
      let seen := deployment.run env outside (inputs ++ since)
      (seen.market.auctions params.auctionId).auction.assetClaimed = true ∧
        env.ownerOf seen.outside params.nftContract params.tokenId = some params.recipientAddress) ∧
    ∀ later,
      let w := play (World.transact env) last later
      let auction := (w.market.auctions params.auctionId).auction
      auction.state = .finalized ∧ auction.winner = lifecycle.winnerAddress ∧ auction.assetClaimed = true ∧
      params.account = Frontend.resolveExpectedClaimRecipient auction.seller lifecycle.winnerAddress ∧
      w.log.countP (Event.isAssetRelease params.auctionId) = 1 := by
  intro returned
  obtain ⟨before, msg, claimed, waited, sender, accepted, arrived, reading⟩ :=
    Frontend.claimAssetWithWallet_returns returned
  obtain ⟨stated, detailed, read, reached, -, -, -, rfl⟩ := Frontend.readAuctionLifecycle_returns reading
  rw [← deployment.run_append_eq env outside inputs before] at accepted
  obtain ⟨handed, recipient⟩ := World.claimAsset_handedOver
    (deployment.run_wired env outside (inputs ++ before)) accepted
  have run := deployment.run_accepted accepted
  have atState := (handed.play waited).play stated
  have atDetails := (handed.play waited).play detailed
  have moment : deployment.run env outside (inputs ++ (before ++ [(msg, .claimAsset params.auctionId)] ++ waited)) =
      play (World.transact env) claimed waited := by
    rw [← List.append_assoc, ← List.append_assoc, deployment.run_append_eq, run]
  refine ⟨congrArg AuctionState.ordinal atState.finalized, atDetails.claimed,
    ⟨before ++ [(msg, .claimAsset params.auctionId)] ++ waited, read, ?_, ?_⟩, ?_⟩
  · rw [deployment.run_append_eq, moment, reached]
  · rw [moment]
    exact ⟨(handed.play waited).claimed, arrived⟩
  intro later w auction
  have here : deployment.run env outside (inputs ++ before ++ [(msg, .claimAsset params.auctionId)] ++
      (waited ++ (read ++ later))) = w := by
    rw [deployment.run_append_eq, run, play_append, play_append, ← reached]
  have stays := (handed.play waited).play (read ++ later)
  rw [play_append, ← reached] at stays
  refine ⟨stays.finalized, stays.won.trans atDetails.won.symm, stays.claimed, ?_, ?_⟩
  · rw [← sender, recipient, World.expectedRecipient, Frontend.resolveExpectedClaimRecipient]
    dsimp only
    rw [atDetails.won, stays.own]
  · have reachable := deployment.run_reachable env outside (inputs ++ before ++
      [(msg, .claimAsset params.auctionId)] ++ (waited ++ (read ++ later))) params.auctionId
    rw [here] at reachable
    have gone : (w.view params.auctionId).assetGone = true :=
      decide_eq_true (.inr (.inr stays.claimed))
    rw [World.countP_view w params.auctionId Event.isAssetRelease_about, reachable.counted.assetRelease, gone]
    rfl

/-- The state in which the winner of the ninety has claimed the token. -/
def claimShown : World (ℕ → Address) :=
  (Frontend.claimAssetWithWallet tokenChain (.mined [] 1102 0) [{}] {} ⟨⟨8, 1⟩, 5, 8, 7⟩
    (hostDeployment.run tokenChain (fun _ => 9) ((ninetyAndSixty false).take 9))).2

set_option maxRecDepth 4000 in
/-- It does not help to claim again. -/
theorem claimShown_final :
    let w := play (World.transact tokenChain) claimShown [({ sender := 8, timestamp := 1103 }, .claimAsset 1)]
    (w.market.auctions 1).auction.winner = 8 ∧ w.log.countP (Event.isAssetRelease 1) = 1 := by
  have returned : (Frontend.claimAssetWithWallet tokenChain (.mined [] 1102 0) [{}] {} ⟨⟨8, 1⟩, 5, 8, 7⟩).Returns
      (hostDeployment.run tokenChain (fun _ => 9) ((ninetyAndSixty false).take 9)) ⟨true, 3, 8⟩ claimShown :=
    Prod.ext rfl rfl
  obtain ⟨-, -, -, final⟩ := claim_report_final hostDeployment tokenChain (fun _ => 9) _ _ _ _ _ _ _ returned
  obtain ⟨-, winner, -, -, once⟩ := final [({ sender := 8, timestamp := 1103 }, .claimAsset 1)]
  exact ⟨winner, once⟩

end FairMarket
