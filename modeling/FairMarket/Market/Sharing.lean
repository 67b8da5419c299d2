import FairMarket.Lib.RunningShare
import FairMarket.Market.Authority
import FairMarket.Market.Deposits
import FairMarket.Market.Payout

/-! How a vault shares a penalty among the commitments of a settled auction. Their claims
draw on one reserve, in whatever order they come and whatever else happens between them. -/

namespace FairMarket

variable {σ : Type}

/-- What a commitment drew, on its principal. -/
def Event.receipt : Event → Option (Receipt Bytes32)
  | .shieldedRefundClaimed _ commitmentHash _ principalAmount compensationAmount =>
    some ⟨commitmentHash, principalAmount, compensationAmount⟩
  | _ => none

namespace AuctionView

/-- The shielded claims of an auction, the first one first. -/
def shieldedClaims (v : AuctionView) : List (Receipt Bytes32) := v.log.reverse.filterMap Event.receipt

theorem shieldedClaims_emit (v : AuctionView) (event : Event) :
    (v.emit event).shieldedClaims = v.shieldedClaims ++ event.receipt.toList := by
  unfold shieldedClaims
  rw [emit_log, List.reverse_cons, List.filterMap_append]
  cases received : event.receipt with
  | none => simp [received]
  | some receipt => simp [received]

theorem shieldedClaims_silent {v : AuctionView} {event : Event} (silent : event.receipt = none) :
    (v.emit event).shieldedClaims = v.shieldedClaims := by
  rw [shieldedClaims_emit, silent]
  exact List.append_nil _

end AuctionView

namespace World

variable {env : External σ} {w next : World σ} {msg : Msg} {tx : Tx σ} {auctionId : AuctionId}

/-- The auction's part of its vault: the reserve and what each commitment holds. -/
def fund (w : World σ) (auctionId : AuctionId) : Fund Bytes32 where
  reserve := (w.view auctionId).reserve
  holdings := w.shieldedAmount auctionId

/-- A world of a run in which an auction is settled. -/
structure Closed (env : External σ) (w : World σ) (auctionId : AuctionId) : Prop where
  wired : w.Wired env
  accounted : w.Accounted env
  conserved : Conserved (w.view auctionId)
  settled : FairMarket.Settled (w.view auctionId)

theorem Closed.of_run {deployment : Deployment} {outside : σ} {inputs : List (Msg × Tx σ)}
    (ended : ((deployment.run env outside inputs).market.auctions auctionId).auction.state.terminal = true) :
    (deployment.run env outside inputs).Closed env auctionId := by
  have wired := deployment.run_wired env outside inputs
  have conserved := (deployment.run_reachable env outside inputs auctionId).conserved
  have found : ((deployment.run env outside inputs).market.auctions auctionId).auction.exists_ = true := by
    by_contra absent
    rw [(wired.blank auctionId (Bool.eq_false_iff.mpr absent)).1] at ended
    cases ended
  exact ⟨wired, deployment.run_accounted env outside inputs, conserved,
    conserved.sound.settled_of_terminal found ended⟩

/-- The vault's total for an auction is what its commitments hold. -/
theorem fund_total (accounted : w.Accounted env) (auctionId : AuctionId) :
    (w.fund auctionId).total = (w.view auctionId).shieldedTotal := by
  unfold fund Fund.total
  dsimp only
  cases deployed : w.vaults (w.snapshot auctionId).shieldedEscrowVault with
  | none =>
    have nothing : ∀ c, w.shieldedAmount auctionId c = 0 := by
      intro c
      rw [shieldedAmount, deployed, Option.elim_none]
    have empty : (w.view auctionId).shieldedTotal = 0 := by
      simp [AuctionView.shieldedTotal, view, deployed]
    rw [empty]
    exact Finset.sum_eq_zero fun c _ => nothing c
  | some vault =>
    have amounts : w.shieldedAmount auctionId = fun c => (vault.commitments c).amountIn auctionId := by
      funext c
      rw [shieldedAmount, deployed, Option.elim_some]
    have total := (accounted.backed _ vault deployed).totals auctionId
    rw [AuctionView.shieldedTotal, view_lane deployed, amounts]
    exact total.symm

theorem submitShieldedResolution_resolving {winnerIdentityHash winnerCiphertext : Bytes32}
    {winningAmount : ℕ} {avsProof : Proof}
    (done : w.transact env (msg, .submitShieldedResolution auctionId winnerIdentityHash winnerCiphertext
      winningAmount avsProof) = .ok next) : (w.market.auctions auctionId).auction.state = .resolving := by
  obtain ⟨-, executed, executes, -⟩ := transact_ok.mp done
  obtain ⟨accepted, submitted⟩ := afterResolution_ok.mp executes
  simp only [submitShieldedResolution, onlyAuctionState, bind_eq_ok, auctionExists_ok, exists_revertIf,
    ne_eq, not_not] at submitted
  obtain ⟨cell, ⟨-, rfl⟩, resolving, -⟩ := submitted
  exact resolving

namespace Closed

/-- Only a claim of one of its commitments changes what the commitments of a settled
auction hold. -/
theorem shieldedAmount_eq (closed : w.Closed env auctionId) (done : w.transact env (msg, tx) = .ok next)
    (other : ∀ address c recipient deadline signature vault,
      tx = .claimRefundWithAuthorization address c recipient deadline signature →
        w.vaults address = some vault → (vault.commitments c).auctionId ≠ auctionId) :
    next.shieldedAmount auctionId = w.shieldedAmount auctionId := by
  have effects := transact_effects closed.wired done
  obtain ⟨-, -, -, touched, flow, transition⟩ := transact_transition closed.wired done
  have terminal := closed.settled.terminal
  rw [view_cell] at terminal
  have snapshot : next.snapshot auctionId = w.snapshot auctionId :=
    (transition.kept auctionId).snapshot closed.settled.found
  funext c
  unfold shieldedAmount
  rw [snapshot]
  cases deployed : w.vaults (w.snapshot auctionId).shieldedEscrowVault with
  | none => rw [effects.vaults.eq_none deployed]
  | some vault =>
    obtain ⟨changed, present, move⟩ := effects.vaults.exists_after deployed
    rw [present, Option.elim_some, Option.elim_some]
    unfold CommitmentDeposit.amountIn
    have slot := move.slot c
    have foreign := other (w.snapshot auctionId).shieldedEscrowVault c
    generalize changed.commitments c = after at slot
    cases slot with
    | kept => rfl
    | @locked otherAuction _ _ _ _ active vacant =>
      have different : otherAuction ≠ auctionId := by
        rintro rfl
        rw [active] at terminal
        cases terminal
      rw [vacant, ite_self]
      exact if_neg different
    | settled amount same =>
      by_cases own : (vault.commitments c).auctionId = auctionId
      · rw [own] at same
        subst same
        rw [submitShieldedResolution_resolving done] at terminal
        cases terminal
      · exact (if_neg own).trans (if_neg own).symm
    | refunded same =>
      have own := foreign _ _ _ vault same deployed
      exact (if_neg own).trans (if_neg own).symm

/-- Where the commitments hold what they held, no claim was paid from the reserve. -/
theorem kept (closed : w.Closed env auctionId) (done : w.transact env (msg, tx) = .ok next)
    (amounts : next.shieldedAmount auctionId = w.shieldedAmount auctionId) :
    next.fund auctionId = w.fund auctionId ∧
      (next.view auctionId).shieldedClaims = (w.view auctionId).shieldedClaims := by
  have totals : (next.view auctionId).shieldedTotal = (w.view auctionId).shieldedTotal := by
    have held : (next.fund auctionId).holdings = (w.fund auctionId).holdings := amounts
    rw [← fund_total (closed.accounted.step closed.wired done), ← fund_total closed.accounted,
      Fund.total, Fund.total, held]
  suffices same : (next.view auctionId).reserve = (w.view auctionId).reserve ∧
      (next.view auctionId).shieldedClaims = (w.view auctionId).shieldedClaims by
    refine ⟨?_, same.2⟩
    unfold fund
    rw [same.1, amounts]
  obtain ⟨-, -, -, touched, flow, transition⟩ := transact_transition closed.wired done
  have terminal := closed.settled.terminal
  have found := closed.settled.found
  by_cases own : auctionId = touched
  · subst own
    rcases transition.step with ⟨-, unchanged⟩ | step
    · rw [unchanged]
      exact ⟨rfl, rfl⟩
    · generalize next.view auctionId = after at step totals ⊢
      generalize w.view auctionId = v at step totals terminal found ⊢
      cases step with
      | created _ _ _ _ _ _ _ _ _ fresh =>
        rw [fresh] at found
        cases found
      | escrowLocked _ _ _ active => rw [active] at terminal; cases terminal
      | shieldedEscrowLocked _ _ _ _ _ active => rw [active] at terminal; cases terminal
      | bidPlaced _ _ _ _ active => rw [active] at terminal; cases terminal
      | shieldedBidPlaced _ _ _ _ active => rw [active] at terminal; cases terminal
      | finalizeTriggered _ _ _ _ _ active => rw [active] at terminal; cases terminal
      | resolutionRejected _ resolving => rw [resolving] at terminal; cases terminal
      | resolved _ _ _ _ resolving => rw [resolving] at terminal; cases terminal
      | shieldedResolved _ _ _ _ _ _ resolving => rw [resolving] at terminal; cases terminal
      | cancelled _ _ active => rw [active] at terminal; cases terminal
      | voided _ _ _ _ resolving => rw [resolving] at terminal; cases terminal
      | refundClaimed => exact ⟨rfl, AuctionView.shieldedClaims_silent rfl⟩
      | sellerProceedsClaimed => exact ⟨rfl, AuctionView.shieldedClaims_silent rfl⟩
      | finalizeRewardClaimed => exact ⟨rfl, AuctionView.shieldedClaims_silent rfl⟩
      | assetClaimed => exact ⟨rfl, AuctionView.shieldedClaims_silent rfl⟩
      | shieldedRefunded lane _ _ principal _ _ vault _ _ nonzero bounded =>
        -- the total would have gone down
        have before : v.shieldedTotal = lane.total := by rw [AuctionView.shieldedTotal, vault]; rfl
        rw [before] at totals
        change lane.total - principal = lane.total at totals
        omega
  · rw [transition.others auctionId own]
    exact ⟨rfl, rfl⟩

end Closed

/-- A released refund is a draw of its commitment. -/
theorem RefundReleased.draws {vault changed : ShieldedEscrowVault} {commitmentHash : Bytes32}
    {recipient : Address} (closed : w.Closed env auctionId)
    (released : RefundReleased env w next auctionId vault changed commitmentHash recipient) :
    (w.fund auctionId).holdings commitmentHash ≠ 0 ∧
      next.fund auctionId = (w.fund auctionId).draw commitmentHash ∧
      (next.view auctionId).shieldedClaims = (w.view auctionId).shieldedClaims ++
        [⟨commitmentHash, (w.fund auctionId).holdings commitmentHash,
          (w.fund auctionId).share commitmentHash⟩] := by
  have holding : (w.fund auctionId).holdings commitmentHash = (vault.commitments commitmentHash).amount := by
    change w.shieldedAmount auctionId commitmentHash = _
    rw [shieldedAmount, released.deployed, Option.elim_some, CommitmentDeposit.amountIn,
      if_pos released.about]
  have reserve : (w.fund auctionId).reserve = (vault.lane auctionId).reserve := by
    change (w.view auctionId).reserve = _
    rw [AuctionView.reserve, view_lane released.deployed, Option.elim_some]
  have total : (w.fund auctionId).total = (vault.lane auctionId).total := by
    rw [fund_total closed.accounted, AuctionView.shieldedTotal, view_lane released.deployed,
      Option.elim_some]
  have share : (w.fund auctionId).share commitmentHash = ShieldedEscrowVault.compensationShare
      (vault.commitments commitmentHash).amount (vault.lane auctionId).reserve
        (vault.lane auctionId).total := by
    rw [Fund.share, holding, reserve, total]
    rfl
  refine ⟨by rw [holding]; exact released.funded, ?_, ?_⟩
  · unfold Fund.draw
    rw [reserve, share]
    unfold fund
    rw [released.shieldedAmount_eq, released.changes.view]
    rfl
  · rw [released.changes.view, AuctionView.shieldedClaims_emit, holding, share]
    rfl

theorem Closed.transact (closed : w.Closed env auctionId) {input : Msg × Tx σ}
    (done : w.transact env input = .ok next) : next.Closed env auctionId ∧
      (next.fund auctionId = w.fund auctionId ∧
          (next.view auctionId).shieldedClaims = (w.view auctionId).shieldedClaims ∨
        ∃ c, (w.fund auctionId).holdings c ≠ 0 ∧ next.fund auctionId = (w.fund auctionId).draw c ∧
          (next.view auctionId).shieldedClaims = (w.view auctionId).shieldedClaims ++
            [⟨c, (w.fund auctionId).holdings c, (w.fund auctionId).share c⟩]) := by
  obtain ⟨msg, tx⟩ := input
  obtain ⟨wired, monotone, clock, touched, flow, transition⟩ := transact_transition closed.wired done
  have conserved := transition.conserved closed.conserved
  have history : AuctionRun env.refundKey auctionId _ (w.view auctionId) _ (next.view auctionId) :=
    transition.run monotone
  obtain ⟨found, outcome⟩ := history.outcome_eq closed.settled.found closed.settled.terminal
  have terminal := (congrArg (fun outcome : Outcome => outcome.state.terminal) outcome).trans
    closed.settled.terminal
  refine ⟨⟨wired, closed.accounted.step closed.wired done, conserved,
    conserved.sound.settled_of_terminal found terminal⟩, ?_⟩
  cases tx with
  | claimRefundWithAuthorization address c recipient deadline signature =>
    obtain ⟨-, executed, executes, rfl⟩ := transact_ok.mp done
    obtain ⟨other, vault, changed, home, released⟩ :=
      claimRefundWithAuthorization_released closed.wired executes
    by_cases same : other = auctionId
    · subst same
      have drawn := released.draws closed
      exact .inr ⟨c, drawn⟩
    · left
      apply closed.kept done
      apply closed.shieldedAmount_eq done
      rintro _ _ _ _ _ before ⟨⟩ deployed
      have own := released.deployed
      rw [home, deployed, Option.some.injEq] at own
      rw [own, released.about]
      exact same
  | _ => exact .inl (closed.kept done (closed.shieldedAmount_eq done nofun))

/-- From a settled auction on, the commitments that claim draw on the fund one by one. -/
theorem Closed.play (closed : w.Closed env auctionId) (more : List (Msg × Tx σ)) :
    ∃ order, (w.fund auctionId).Draws order ∧
      ((play (World.transact env) w more).fund auctionId) = (w.fund auctionId).after order ∧
      ((play (World.transact env) w more).view auctionId).shieldedClaims =
        (w.view auctionId).shieldedClaims ++ (w.fund auctionId).receipts order := by
  induction more generalizing w with
  | nil => exact ⟨[], trivial, rfl, (List.append_nil _).symm⟩
  | cons input more ih =>
    rcases advance_cases (World.transact env) w input with kept | taken
    · rw [play_cons, kept]
      exact ih closed
    · obtain ⟨after, move⟩ := closed.transact taken
      obtain ⟨order, draws, left, claims⟩ := ih after
      rw [play_cons]
      rcases move with ⟨same, silent⟩ | ⟨c, held, drawn, claimed⟩
      · rw [same] at draws left claims
        rw [silent] at claims
        exact ⟨order, draws, left, claims⟩
      · rw [drawn] at draws left claims
        refine ⟨c :: order, ⟨held, draws⟩, left, ?_⟩
        rw [claims, claimed, List.append_assoc]
        rfl

/-- The shielded claims of an auction between two moments of a run. -/
def shieldedClaimsSince (w later : World σ) (auctionId : AuctionId) : List (Receipt Bytes32) :=
  (later.view auctionId).shieldedClaims.drop (w.view auctionId).shieldedClaims.length

/-- How many commitments still hold something of an auction. -/
def commitmentCount (w : World σ) (auctionId : AuctionId) : ℕ := (w.fund auctionId).holders.card

end World

/-- From any reachable world in which an auction is settled, let anything happen. Every
commitment that claims its refund draws, on its whole amount, at least its share of the
reserve and at most one wei more for each claim before it; what was drawn and what is
left are the reserve, and nothing is left once all have claimed. In another course of
events each commitment draws the same, up to less than one wei for each commitment. -/
theorem shielded_compensation_exact (deployment : Deployment) (env : External σ) (outside : σ)
    (inputs : List (Msg × Tx σ)) (auctionId : AuctionId) {w : World σ}
    (reached : deployment.run env outside inputs = w)
    (ended : (w.market.auctions auctionId).auction.state.terminal = true) :
    let amount := w.shieldedAmount auctionId
    let reserve := (w.view auctionId).reserve
    let total := (w.view auctionId).shieldedTotal
    ∀ more, let later := deployment.run env outside (inputs ++ more)
      let claims := w.shieldedClaimsSince later auctionId
      total = ∑ c, amount c ∧
      (claims.map Receipt.holder).Nodup ∧
      (∀ i claim, claims[i]? = some claim → claim.holding = amount claim.holder ∧ claim.holding ≠ 0 ∧
        claim.holding * reserve / total ≤ claim.share ∧
        claim.share ≤ claim.holding * reserve / total + i) ∧
      (claims.map Receipt.share).sum + (later.view auctionId).reserve = reserve ∧
      (claims.map Receipt.holding).sum + (later.view auctionId).shieldedTotal = total ∧
      ((∀ c, amount c ≠ 0 → c ∈ claims.map Receipt.holder) → (claims.map Receipt.share).sum = reserve ∧
        (later.view auctionId).reserve = 0 ∧ (later.view auctionId).shieldedTotal = 0) ∧
      ∀ other, ∀ claim ∈ claims,
        ∀ again ∈ w.shieldedClaimsSince (deployment.run env outside (inputs ++ other)) auctionId,
          again.holder = claim.holder → claim.share ≤ again.share + (w.commitmentCount auctionId - 1) := by
  subst reached
  have closed := World.Closed.of_run ended
  generalize now : deployment.run env outside inputs = w at closed ended
  have whole := World.fund_total closed.accounted auctionId
  have drained : (w.fund auctionId).total = 0 → (w.fund auctionId).reserve = 0 := by
    rw [whole]
    exact closed.settled.drained
  have course : ∀ more, ∃ order, (w.fund auctionId).Draws order ∧
      (deployment.run env outside (inputs ++ more)).fund auctionId = (w.fund auctionId).after order ∧
      w.shieldedClaimsSince (deployment.run env outside (inputs ++ more)) auctionId =
        (w.fund auctionId).receipts order := by
    intro more
    obtain ⟨order, draws, left, claims⟩ := closed.play more
    rw [deployment.run_append_eq, now]
    refine ⟨order, draws, left, ?_⟩
    rw [World.shieldedClaimsSince, claims, List.drop_left]
  intro amount reserve total more later claims
  obtain ⟨order, draws, left, since⟩ := course more
  have later_total : (later.view auctionId).shieldedTotal = ((w.fund auctionId).after order).total := by
    rw [← left]
    exact (World.fund_total (deployment.run_accounted env outside (inputs ++ more)) auctionId).symm
  have later_reserve : (later.view auctionId).reserve = ((w.fund auctionId).after order).reserve := by
    rw [← left]
    rfl
  obtain ⟨shares, holdings⟩ := (w.fund auctionId).receipts_sum order
  have claimed : claims = (w.fund auctionId).receipts order := since
  have share : ∀ claim : Receipt Bytes32, claim.holding = amount claim.holder →
      claim.holding * reserve / total = (w.fund auctionId).share claim.holder := by
    intro claim own
    rw [own, show total = (w.fund auctionId).total from whole.symm]
    rfl
  rw [claimed, later_reserve, later_total]
  refine ⟨whole.symm, ?_, ?_, shares, holdings.trans whole, ?_, ?_⟩
  · rw [Fund.receipts_holders]
    exact draws.held.1
  · intro i claim at_
    obtain ⟨own, nonzero, least, most⟩ := draws.receipts_bounds i claim at_
    rw [share claim own]
    exact ⟨own, nonzero, least, most⟩
  · intro all
    have emptied : ((w.fund auctionId).after order).total = 0 := by
      apply Fund.total_eq_zero
      intro c
      rw [Fund.after_holdings]
      split
      · rfl
      · rename_i absent
        by_contra held
        exact absent (by simpa [Fund.receipts_holders] using all c held)
    have exhausted := draws.exhausted drained emptied
    refine ⟨?_, exhausted, emptied⟩
    rw [exhausted] at shares
    exact shares
  · intro other claim member again redrawn same
    obtain ⟨second, also, -, again_since⟩ := course other
    rw [again_since] at redrawn
    exact draws.receipts_close also member redrawn same

set_option maxRecDepth 4000 in
/-- Whoever comes second gets the wei that rounding left. -/
example :
    let since := fun claims => ((shieldedDeployment.run tokenChain (fun _ => 9)
      (bothLanes ++ [cancelBothLanes])).shieldedClaimsSince (shieldedDeployment.run tokenChain (fun _ => 9)
        (bothLanes ++ [cancelBothLanes] ++ claims)) 1).map fun claim => (claim.holding, claim.share)
    since [claimSmall, claimLarge] = [(1, 6), (2, 14)] ∧ since [claimLarge, claimSmall] = [(2, 13), (1, 7)] := by
  decide +kernel

set_option maxRecDepth 4000 in
theorem bothLanes_exact :
    let w := shieldedDeployment.run tokenChain (fun _ => 9) (bothLanes ++ [cancelBothLanes])
    let later := shieldedDeployment.run tokenChain (fun _ => 9)
      (bothLanes ++ [cancelBothLanes] ++ [claimLarge, claimSmall])
    (w.view 1).reserve = 20 ∧ (later.view 1).reserve = 0 ∧
      ((w.shieldedClaimsSince later 1).map Receipt.share).sum + (later.view 1).reserve =
        (w.view 1).reserve := by
  refine ⟨by decide +kernel, by decide +kernel, ?_⟩
  exact (shielded_compensation_exact shieldedDeployment tokenChain (fun _ => 9)
    (bothLanes ++ [cancelBothLanes]) 1 rfl (by decide +kernel) [claimLarge, claimSmall]).2.2.2.1

namespace ShieldedEscrowVault

variable {escrow penalty publicTotal shieldedTotal : ℕ}

theorem publicShare_fair (held : escrow ≤ publicTotal) :
    escrow * penalty / (publicTotal + shieldedTotal) ≤
      escrow * publicShare penalty publicTotal shieldedTotal / publicTotal + 1 := by
  unfold publicShare
  split
  · rename_i none
    rw [none, Nat.add_zero]
    exact Nat.le_succ _
  · exact Share.share_le_first held

theorem shieldedShare_fair (held : escrow ≤ shieldedTotal) :
    escrow * penalty / (publicTotal + shieldedTotal) ≤
      escrow * (penalty - publicShare penalty publicTotal shieldedTotal) / shieldedTotal := by
  unfold publicShare
  split
  · rename_i none
    have nothing : escrow = 0 := by omega
    rw [nothing, Nat.zero_mul, Nat.zero_div]
    exact Nat.zero_le _
  · exact Share.share_le_second held

end ShieldedEscrowVault

/-- An auction whose seller has just been penalised. -/
structure Penalised (v : AuctionView) : Prop where
  ended : v.cell.auction.state = .cancelled ∨ v.cell.auction.state = .voided
  pot : v.pot = AuctionView.fillPot {} v.cell.auction.totalEscrow (v.publicSlash v.cell.auction.slashAmount)
  reserve : v.reserve = v.cell.auction.slashAmount - v.publicSlash v.cell.auction.slashAmount
  escrow : ∑ p, v.cell.escrowBalances p = v.cell.auction.totalEscrow
  unwithdrawn : ∀ p, v.cell.hasWithdrawn p = false
  unrefunded : ∀ key, v.cell.shieldedRefundClaimed key = false

section Public

variable {refundKey : Bytes32 → Bytes32} {auctionId : AuctionId} {start now : ℕ} {flow : Flow}
  {first v next : AuctionView}

namespace Penalised

theorem slashed (ended : v.cell.auction.state = .cancelled ∨ v.cell.auction.state = .voided)
    (pot : v.pot = {}) (reserve : v.reserve = 0)
    (escrow : ∑ p, v.cell.escrowBalances p = v.cell.auction.totalEscrow)
    (unwithdrawn : ∀ p, v.cell.hasWithdrawn p = false)
    (unrefunded : ∀ key, v.cell.shieldedRefundClaimed key = false) :
    Penalised (v.slashed v.cell.auction.slashAmount) where
  ended := ended
  pot := by
    rw [AuctionView.slashed_pot, pot]
    simp [AuctionView.publicSlash]
  reserve := by
    rw [AuctionView.slashed_reserve, reserve]
    simp [AuctionView.publicSlash]
  escrow := escrow
  unwithdrawn := unwithdrawn
  unrefunded := unrefunded

theorem opened (penalised : Penalised v) : Penalised v.opened where
  ended := by simpa using penalised.ended
  pot := by simpa [AuctionView.publicSlash] using penalised.pot
  reserve := by simpa [AuctionView.publicSlash] using penalised.reserve
  escrow := by simpa using penalised.escrow
  unwithdrawn := by simpa using penalised.unwithdrawn
  unrefunded := by simpa using penalised.unrefunded

theorem emit (event : Event) (penalised : Penalised v) : Penalised (v.emit event) :=
  ⟨penalised.ended, penalised.pot, penalised.reserve, penalised.escrow, penalised.unwithdrawn,
    penalised.unrefunded⟩

theorem publicSlash_le (v : AuctionView) (slashAmount : ℕ) : v.publicSlash slashAmount ≤ slashAmount :=
  ShieldedEscrowVault.publicShare_le ..

/-- The pot and the reserve hold the penalty between them. -/
theorem totalSlash_add_reserve (penalised : Penalised v) :
    v.pot.totalSlash + v.reserve = v.cell.auction.slashAmount := by
  have part := publicSlash_le v v.cell.auction.slashAmount
  rw [penalised.pot, penalised.reserve, AuctionView.fillPot]
  split
  · dsimp only
    omega
  · dsimp only
    omega

theorem publicShare_fair (penalised : Penalised v) {escrow : ℕ}
    (held : escrow ≤ v.cell.auction.totalEscrow) :
    escrow * v.cell.auction.slashAmount / (v.cell.auction.totalEscrow + v.shieldedTotal) ≤
      escrow * v.pot.totalSlash / v.pot.totalEscrow + 1 := by
  have fair := @ShieldedEscrowVault.publicShare_fair _ v.cell.auction.slashAmount _ v.shieldedTotal held
  rw [penalised.pot, AuctionView.fillPot]
  change _ ≤ escrow * v.publicSlash v.cell.auction.slashAmount / _ + 1 at fair
  split
  · rename_i none
    rw [none, Nat.mul_zero, Nat.zero_div] at fair
    rw [Nat.mul_zero, Nat.zero_div]
    exact fair
  · dsimp only
    rw [Nat.zero_add, if_neg Bool.false_ne_true]
    exact fair

/-- Nobody has claimed yet. -/
theorem shieldedClaims_eq (penalised : Penalised v) (counted : Counted refundKey auctionId v)
    (about : ∀ event ∈ v.log, event.auctionId = auctionId) : v.shieldedClaims = [] := by
  rw [AuctionView.shieldedClaims, List.filterMap_eq_nil_iff]
  intro event member
  have own := about event (List.mem_reverse.mp member)
  cases event with
  | shieldedRefundClaimed other c recipient principal compensation =>
    have none := counted.shieldedRefunds c
    rw [penalised.unrefunded, Bool.toNat_false, Nat.le_zero, List.countP_eq_zero] at none
    exact absurd (decide_eq_true ⟨own, rfl⟩) (none _ (List.mem_reverse.mp member))
  | _ => rfl

end Penalised

/-- An auction ends early by one of two steps, and both register the penalty. -/
theorem AuctionStep.penalised (step : AuctionStep refundKey auctionId now flow v next)
    (bidding : Bidding v)
    (ended : next.cell.auction.state = .cancelled ∨ next.cell.auction.state = .voided) :
    Penalised next := by
  have unended : ¬ (v.cell.auction.state = .cancelled ∨ v.cell.auction.state = .voided) := by
    rcases bidding.running with active | resolving
    · rw [active]
      nofun
    · rw [resolving]
      nofun
  cases step with
  | created =>
    change AuctionState.active = .cancelled ∨ AuctionState.active = .voided at ended
    simp at ended
  | finalizeTriggered =>
    change AuctionState.resolving = .cancelled ∨ AuctionState.resolving = .voided at ended
    simp at ended
  | resolved => simp at ended
  | shieldedResolved => simp at ended
  | cancelled =>
    exact .emit _ (.opened (.slashed (.inl rfl) bidding.pot bidding.reserve bidding.escrow bidding.unwithdrawn
      bidding.unrefunded))
  | voided =>
    exact .emit _ (.emit _ (.opened (.slashed (.inr rfl) bidding.pot bidding.reserve bidding.escrow
      bidding.unwithdrawn bidding.unrefunded)))
  | _ => exact absurd ended unended

/-- Only an auction that still runs can end. -/
theorem AuctionStep.bidding (step : AuctionStep refundKey auctionId now flow v next) (sound : Sound v)
    (running : v.cell.auction.state.terminal = false)
    (terminal : next.cell.auction.state.terminal = true) : Bidding v := by
  have found : v.cell.auction.exists_ = true := by
    cases step with
    | created => cases terminal
    | _ => assumption
  rcases sound with rfl | bidding | settled
  · cases found
  · exact bidding
  · exact Bool.noConfusion (running.symm.trans settled.terminal)

/-- What holds of the public lane from the penalty on. -/
structure SharesOut (auctionId : AuctionId) (first v : AuctionView) : Prop where
  settled : Settled v
  outcome : v.cell.outcome = first.cell.outcome
  pot : v.pot = first.pot
  held : ∀ p, v.cell.hasWithdrawn p = false → v.cell.escrowBalances p = first.cell.escrowBalances p
  claims : ∀ p refund compensation, .refundClaimed auctionId p refund compensation ∈ v.log →
    refund = first.cell.escrowBalances p ∧
      compensation = first.cell.escrowBalances p * first.pot.totalSlash / first.pot.totalEscrow

/-- What a holder that has not withdrawn is due. -/
theorem SharesOut.compensationOf_eq (shares : SharesOut auctionId first v) {p : Address}
    (holds : v.cell.hasWithdrawn p = false) : v.compensationOf p =
      first.cell.escrowBalances p * first.pot.totalSlash / first.pot.totalEscrow := by
  rw [shares.settled.compensationOf_eq, shares.held p holds, shares.pot]

/-- Nobody has claimed when the penalty is registered. -/
theorem Penalised.sharesOut (penalised : Penalised first) (settled : Settled first)
    (counted : Counted refundKey auctionId first) : SharesOut auctionId first first where
  settled := settled
  outcome := rfl
  pot := rfl
  held := fun _ _ => rfl
  claims := by
    intro p refund compensation member
    have none := counted.refunds p
    rw [penalised.unwithdrawn p, Bool.toNat_false, List.countP_eq_zero] at none
    exact absurd (decide_eq_true ⟨rfl, rfl⟩) (none _ member)

theorem SharesOut.step (shares : SharesOut auctionId first v)
    (ended : first.cell.auction.state = .cancelled ∨ first.cell.auction.state = .voided)
    (step : AuctionStep refundKey auctionId now flow v next) (settled : Settled next) :
    SharesOut auctionId first next := by
  have outcome := (step.outcome_eq shares.settled.found shares.settled.terminal).2.trans shares.outcome
  have state : v.cell.auction.state = first.cell.auction.state :=
    congrArg Outcome.state shares.outcome
  have running : ∀ other, v.cell.auction.state = other → other.terminal = false → False :=
    fun other same running => Bool.noConfusion (shares.settled.terminal.symm.trans (same ▸ running))
  cases step with
  | created _ _ _ _ _ _ _ _ _ fresh =>
    have found := shares.settled.found
    rw [fresh] at found
    cases found
  | escrowLocked _ _ _ active => exact (running _ active rfl).elim
  | shieldedEscrowLocked _ _ _ _ _ active => exact (running _ active rfl).elim
  | bidPlaced _ _ _ _ active => exact (running _ active rfl).elim
  | shieldedBidPlaced _ _ _ _ active => exact (running _ active rfl).elim
  | finalizeTriggered _ _ _ _ _ active => exact (running _ active rfl).elim
  | resolutionRejected _ resolving => exact (running _ resolving rfl).elim
  | resolved _ _ _ _ resolving => exact (running _ resolving rfl).elim
  | shieldedResolved _ _ _ _ _ _ resolving => exact (running _ resolving rfl).elim
  | cancelled _ _ active => exact (running _ active rfl).elim
  | voided _ _ _ _ resolving => exact (running _ resolving rfl).elim
  | refundClaimed claimant _ _ unclaimed =>
    have refund : v.refundOf claimant = v.cell.escrowBalances claimant := by
      unfold AuctionView.refundOf AuctionStorage.refundOf
      rcases ended with cancelled | voided
      · rw [state, cancelled]
      · rw [state, voided]
    refine ⟨settled, outcome, shares.pot, ?_, ?_⟩
    · intro p unwithdrawn
      change Function.update v.cell.hasWithdrawn claimant true p = false at unwithdrawn
      have different : p ≠ claimant := by
        rintro rfl
        rw [Function.update_self] at unwithdrawn
        cases unwithdrawn
      rw [Function.update_of_ne different] at unwithdrawn
      rw [← shares.held p unwithdrawn, AuctionView.emit_cell]
      dsimp only
      split
      · rfl
      · exact Function.update_of_ne different ..
    · intro p paid compensation member
      rcases List.mem_cons.mp member with same | before
      · injection same with _ own refunded compensated
        subst own
        rw [refunded, compensated, refund, shares.compensationOf_eq unclaimed]
        exact ⟨shares.held p unclaimed, rfl⟩
      · exact shares.claims p paid compensation before
  | sellerProceedsClaimed =>
    refine ⟨settled, outcome, shares.pot, shares.held, fun p refund compensation member => ?_⟩
    exact shares.claims p refund compensation ((List.mem_cons.mp member).resolve_left nofun)
  | finalizeRewardClaimed =>
    refine ⟨settled, outcome, shares.pot, shares.held, fun p refund compensation member => ?_⟩
    exact shares.claims p refund compensation ((List.mem_cons.mp member).resolve_left nofun)
  | assetClaimed =>
    refine ⟨settled, outcome, shares.pot, shares.held, fun p refund compensation member => ?_⟩
    exact shares.claims p refund compensation ((List.mem_cons.mp member).resolve_left nofun)
  | shieldedRefunded =>
    refine ⟨settled, outcome, shares.pot, shares.held, fun p refund compensation member => ?_⟩
    exact shares.claims p refund compensation ((List.mem_cons.mp member).resolve_left nofun)

/-- In every course of events after the penalty the public lane pays the shares it fixed. -/
theorem AuctionRun.sharesOut (run : AuctionRun refundKey auctionId start first now v)
    (penalised : Penalised first) (settled : Settled first) (counted : Counted refundKey auctionId first) :
    SharesOut auctionId first v := by
  induction run with
  | here => exact penalised.sharesOut settled counted
  | wait _ _ ih => exact ih
  | step _ _ step ih =>
    have sound := Sound.step step (.inr (.inr ih.settled))
    obtain ⟨found, outcome⟩ := step.outcome_eq ih.settled.found ih.settled.terminal
    have terminal := (congrArg (fun outcome : Outcome => outcome.state.terminal) outcome).trans
      ih.settled.terminal
    exact ih.step penalised.ended step (sound.settled_of_terminal found terminal)

end Public

/-- The transaction that ends a running auction for a penalty registers the penalty. -/
theorem World.penalised_of_ended {w next : World σ} {input : Msg × Tx σ} (wired : w.Wired env)
    (reachable : Reachable env.refundKey auctionId (w.view auctionId))
    (settles : w.transact env input = .ok next)
    (running : (w.market.auctions auctionId).auction.state.terminal = false)
    (terminal : (next.market.auctions auctionId).auction.state.terminal = true)
    (ended : (next.market.auctions auctionId).auction.state = .cancelled ∨
      (next.market.auctions auctionId).auction.state = .voided) : Penalised (next.view auctionId) := by
  obtain ⟨-, -, -, touched, flow, transition⟩ := World.transact_transition wired settles
  have changed : ∀ same : next.view auctionId = w.view auctionId, False := by
    intro same
    have state := congrArg (·.cell.auction.state.terminal) same
    exact Bool.noConfusion (running.symm.trans (state.symm.trans terminal))
  have own : auctionId = touched := by
    by_contra different
    exact changed (transition.others auctionId different)
  subst own
  rcases transition.step with ⟨-, same⟩ | step
  · exact (changed same).elim
  · exact step.penalised (step.bidding reachable.conserved.sound running terminal) ended

/-- Whoever holds escrow in an auction when its seller is penalised gets a share of the
penalty in proportion to all escrow of the auction, up to one wei below, whichever lane
the escrow is in and in whatever order the claims come. Until it claims it is due as much.
Both lanes together pay no more than the penalty. -/
theorem lanes_share_alike (deployment : Deployment) (env : External σ) (outside : σ)
    (inputs : List (Msg × Tx σ)) (auctionId : AuctionId) (input : Msg × Tx σ) {w next : World σ}
    (reached : deployment.run env outside inputs = w) (settles : w.transact env input = .ok next)
    (running : (w.market.auctions auctionId).auction.state.terminal = false)
    (ended : (next.market.auctions auctionId).auction.state = .cancelled ∨
      (next.market.auctions auctionId).auction.state = .voided) :
    let penalty := (next.market.auctions auctionId).auction.slashAmount
    let total := (next.market.auctions auctionId).auction.totalEscrow + (next.view auctionId).shieldedTotal
    let escrow := (next.market.auctions auctionId).escrowBalances
    let amount := next.shieldedAmount auctionId
    ∀ more, let later := deployment.run env outside (inputs ++ input :: more)
      (∀ p refund compensation, .refundClaimed auctionId p refund compensation ∈ later.log →
        refund = escrow p ∧ refund * penalty / total ≤ compensation + 1) ∧
      (∀ claim ∈ (later.view auctionId).shieldedClaims,
        claim.holding = amount claim.holder ∧ claim.holding * penalty / total ≤ claim.share) ∧
      (∀ p, (later.market.auctions auctionId).hasWithdrawn p = false →
        escrow p * penalty / total ≤ (later.view auctionId).compensationOf p + 1) ∧
      (∀ c, later.shieldedAmount auctionId c ≠ 0 → later.shieldedAmount auctionId c = amount c ∧
        amount c * penalty / total ≤ (later.fund auctionId).share c) ∧
      Event.total Event.compensation (later.view auctionId).log +
        ((later.view auctionId).shieldedClaims.map Receipt.share).sum ≤ penalty := by
  subst reached
  have settled : deployment.run env outside (inputs ++ [input]) = next := Deployment.run_accepted settles
  have terminal : (next.market.auctions auctionId).auction.state.terminal = true := by
    rcases ended with cancelled | voided
    · rw [cancelled]
      rfl
    · rw [voided]
      rfl
  have closed : next.Closed env auctionId := by
    rw [← settled] at terminal ⊢
    exact World.Closed.of_run terminal
  -- the penalty was registered by this very transaction
  have penalised : Penalised (next.view auctionId) :=
    World.penalised_of_ended (deployment.run_wired env outside inputs)
      (deployment.run_reachable env outside inputs auctionId) settles running terminal ended
  have counted : Counted env.refundKey auctionId (next.view auctionId) := by
    rw [← settled]
    exact (deployment.run_reachable env outside (inputs ++ [input]) auctionId).counted
  have unclaimed : (next.view auctionId).shieldedClaims = [] := penalised.shieldedClaims_eq counted
    fun event member => of_decide_eq_true (List.mem_filter.mp member).2
  intro penalty total escrow amount more later
  have continued : later = play (World.transact env) next more := by
    change deployment.run env outside (inputs ++ input :: more) = _
    rw [← settled, ← deployment.run_append_eq, List.append_assoc]
    rfl
  have shares : SharesOut auctionId (next.view auctionId) (later.view auctionId) := by
    have history := (closed.wired.play_run more).2 auctionId
    rw [← continued] at history
    exact history.sharesOut penalised closed.settled counted
  obtain ⟨order, draws, left, claims⟩ := closed.play more
  rw [← continued] at left claims
  rw [unclaimed, List.nil_append] at claims
  have conserved : Conserved (later.view auctionId) :=
    (deployment.run_reachable env outside (inputs ++ input :: more) auctionId).conserved
  have whole := World.fund_total closed.accounted auctionId
  -- a public holder's share, and a commitment's
  have fair : ∀ p, escrow p * penalty / total ≤ escrow p * (next.view auctionId).pot.totalSlash /
      (next.view auctionId).pot.totalEscrow + 1 := by
    intro p
    have held : escrow p ≤ (next.market.auctions auctionId).auction.totalEscrow := by
      have part := Ledger.le_sum escrow p
      have sum : ∑ p, escrow p = (next.market.auctions auctionId).auction.totalEscrow := penalised.escrow
      omega
    exact penalised.publicShare_fair held
  have alike : ∀ c, amount c * penalty / total ≤ (next.fund auctionId).share c := by
    intro c
    have held : amount c ≤ (next.view auctionId).shieldedTotal := by
      rw [← whole]
      exact (next.fund auctionId).holding_le_total c
    have share := @ShieldedEscrowVault.shieldedShare_fair _ penalty
      (next.market.auctions auctionId).auction.totalEscrow _ held
    have reserve := penalised.reserve
    rw [Fund.share, whole]
    change _ ≤ amount c * (next.view auctionId).reserve / _
    rw [reserve]
    exact share
  refine ⟨?_, ?_, ?_, ?_, ?_⟩
  · intro p refund compensation member
    have own : .refundClaimed auctionId p refund compensation ∈ (later.view auctionId).log :=
      List.mem_filter.mpr ⟨member, decide_eq_true rfl⟩
    obtain ⟨refunded, compensated⟩ := shares.claims p refund compensation own
    refine ⟨refunded, ?_⟩
    rw [refunded, compensated]
    exact fair p
  · intro claim member
    rw [claims] at member
    obtain ⟨i, at_⟩ := List.mem_iff_getElem?.mp member
    obtain ⟨own, -, least, -⟩ := draws.receipts_bounds i claim at_
    refine ⟨own, ?_⟩
    rw [own]
    exact (alike claim.holder).trans least
  · intro p holds
    rw [shares.compensationOf_eq holds]
    exact fair p
  · intro c held
    have same : (later.fund auctionId).holdings c = later.shieldedAmount auctionId c := rfl
    rw [left] at same
    rw [← same] at held ⊢
    obtain ⟨kept, least⟩ := draws.share_le held
    rw [left]
    exact ⟨kept, (alike c).trans least⟩
  · have drawn := ((next.fund auctionId).receipts_sum order).1
    have paid := conserved.compensation_le
    have split := penalised.totalSlash_add_reserve
    rw [shares.pot] at paid
    rw [claims]
    change _ + _ = (next.view auctionId).reserve at drawn
    change _ = penalty at split
    omega

set_option maxRecDepth 4000 in
theorem cancelBothLanes_accepted :
    (shieldedDeployment.run tokenChain (fun _ => 9) bothLanes).transact tokenChain cancelBothLanes =
      .ok (shieldedDeployment.run tokenChain (fun _ => 9) (bothLanes ++ [cancelBothLanes])) := by
  have cancelled : ((shieldedDeployment.run tokenChain (fun _ => 9)
      (bothLanes ++ [cancelBothLanes])).market.auctions 1).auction.state = .cancelled := by decide +kernel
  have active : ((shieldedDeployment.run tokenChain (fun _ => 9)
      bothLanes).market.auctions 1).auction.state = .active := by decide +kernel
  rw [Deployment.run_append_eq, play_cons, play_nil] at cancelled ⊢
  rcases advance_cases (World.transact tokenChain)
    (shieldedDeployment.run tokenChain (fun _ => 9) bothLanes) cancelBothLanes with kept | taken
  · rw [kept, active] at cancelled
    cases cancelled
  · exact taken

set_option maxRecDepth 4000 in
theorem bothLanes_alike :
    let next := shieldedDeployment.run tokenChain (fun _ => 9) (bothLanes ++ [cancelBothLanes])
    let later := shieldedDeployment.run tokenChain (fun _ => 9)
      (bothLanes ++ cancelBothLanes :: [({ sender := 7, timestamp := 1003 }, .claimRefund 1), claimLarge])
    (next.market.auctions 1).auction.slashAmount = 26 ∧
      Event.total Event.compensation (later.view 1).log +
        ((later.view 1).shieldedClaims.map Receipt.share).sum ≤
          (next.market.auctions 1).auction.slashAmount := by
  refine ⟨by decide +kernel, ?_⟩
  exact (lanes_share_alike shieldedDeployment tokenChain (fun _ => 9) bothLanes 1 cancelBothLanes rfl
    cancelBothLanes_accepted (by decide +kernel) (.inl (by decide +kernel))
    [({ sender := 7, timestamp := 1003 }, .claimRefund 1), claimLarge]).2.2.2.2

end FairMarket
