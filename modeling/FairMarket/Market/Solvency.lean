import FairMarket.Market.Phases
import FairMarket.Lib.Share

/-! The market's balance is what it owes: plain transfers aside, every wei belongs
to one auction, and a claim takes only from its own. -/

namespace FairMarket

namespace AuctionView

/-- What the market still owes for an auction. -/
def owed (v : AuctionView) : ℕ :=
  match v.cell.auction.state with
  | .created => 0
  | .active | .resolving => v.cell.auction.sellerDeposit + ∑ p, v.cell.escrowBalances p
  | .finalized =>
    ∑ p, (if p = v.cell.auction.winner then v.cell.escrowBalances p - v.cell.auction.winningAmount
      else v.cell.escrowBalances p) +
    (if v.cell.auction.sellerClaimed then 0
      else v.cell.auction.sellerDeposit + v.cell.auction.winningAmount - v.cell.finalizationReward) +
    (if v.cell.finalizationRewardClaimed then 0 else v.cell.finalizationReward)
  | .cancelled =>
    ∑ p, v.cell.escrowBalances p +
    (if v.cell.auction.sellerClaimed then 0
      else v.cell.auction.sellerDeposit - v.cell.auction.slashAmount)
  | .voided =>
    ∑ p, v.cell.escrowBalances p +
    (if v.cell.auction.sellerClaimed ∨ v.cell.auction.slashAmount ≠ 0 then 0
      else v.cell.auction.sellerDeposit - v.cell.finalizationReward) +
    (if v.cell.finalizationRewardClaimed then 0 else v.cell.finalizationReward)

/-- What the auction's pot still owes for it. -/
def potOwed (v : AuctionView) : ℕ := ∑ p, v.compensationOf p

variable {v : AuctionView}

theorem owed_of_bidding (bidding : Bidding v) :
    v.owed = v.cell.auction.sellerDeposit + ∑ p, v.cell.escrowBalances p := by
  unfold owed
  rcases bidding.running with active | resolving
  · rw [active]
  · rw [resolving]

theorem potOwed_of_bidding (bidding : Bidding v) : v.potOwed = 0 :=
  Finset.sum_eq_zero fun p _ => bidding.compensationOf_eq p

theorem potOwed_of_finalized (finalized : v.cell.auction.state = .finalized) : v.potOwed = 0 :=
  Finset.sum_eq_zero fun p _ => by
    unfold compensationOf AuctionStorage.compensationOf
    rw [finalized]

/-- The refunds of a settled auction are part of what is owed. -/
theorem refunds_le_owed (terminal : v.cell.auction.state.terminal = true) :
    ∑ p, v.refundOf p ≤ v.owed := by
  unfold owed refundOf AuctionStorage.refundOf
  rcases AuctionState.terminal_cases terminal with state | state | state <;> simp only [state] <;> omega

theorem refundOf_le_owed (sound : Sound v) (claimant : Address) : v.refundOf claimant ≤ v.owed := by
  rcases sound with rfl | bidding | settled
  · exact Nat.le_refl _
  · rw [bidding.refundOf_eq]
    exact Nat.zero_le _
  · exact (Ledger.le_sum v.refundOf claimant).trans (refunds_le_owed settled.terminal)

theorem sellerPayout_le_owed (unclaimed : v.cell.auction.sellerClaimed = false) :
    v.sellerPayout ≤ v.owed := by
  unfold owed sellerPayout
  cases state : v.cell.auction.state <;> simp only [unclaimed, Bool.false_eq_true, if_false, false_or]
  case voided =>
    by_cases unslashed : v.cell.auction.slashAmount = 0
    · simp only [unslashed, true_and, ne_eq, not_true_eq_false, if_false]
      split <;> omega
    · simp [unslashed]
  all_goals omega

theorem finalizationReward_le_owed (unclaimed : v.cell.finalizationRewardClaimed = false)
    (ended : v.cell.auction.state = .finalized ∨ v.cell.auction.state = .voided) :
    v.cell.finalizationReward ≤ v.owed := by
  unfold owed
  rcases ended with state | state <;> simp only [state, unclaimed, Bool.false_eq_true, if_false] <;> omega

@[simp] theorem owed_emit (event : Event) : (v.emit event).owed = v.owed := rfl

@[simp] theorem owed_slashed (slashAmount : ℕ) : (v.slashed slashAmount).owed = v.owed := rfl

@[simp] theorem owed_opened : v.opened.owed = v.owed := opened_same v owed fun _ _ => rfl

@[simp] theorem potOwed_emit (event : Event) : (v.emit event).potOwed = v.potOwed := rfl

@[simp] theorem potOwed_opened : v.opened.potOwed = v.potOwed := opened_same v potOwed fun _ _ => rfl

end AuctionView

/-- Taking an amount out of one holding takes it off the total. -/
theorem sum_less (holdings : Address → ℕ) {holder : Address} {amount : ℕ}
    (covered : amount ≤ holdings holder) :
    ∑ p, (if p = holder then holdings p - amount else holdings p) + amount = ∑ p, holdings p := by
  have moved := Ledger.sum_agree_off holdings
    (fun p => if p = holder then holdings p - amount else holdings p) holder
    fun other different => if_neg different
  rw [if_pos rfl] at moved
  omega

section Steps

variable {v : AuctionView} {now : ℕ}

theorem Bidding.owed_resolved (bidding : Bidding v) {winner : Address} {winnerCiphertext : Bytes32}
    {winningAmount : ℕ} (resolving : v.cell.auction.state = .resolving)
    (backed : winningAmount ≤ v.cell.escrowBalances winner) :
    AuctionView.owed { v with cell := { v.cell with
      auction := { v.cell.auction with
        winner
        winnerCiphertext
        winningAmount
        state := .finalized
        lastBlockTimestamp := toUint64 now }
      resolutionRequest := {} } } = v.owed := by
  have less := sum_less v.cell.escrowBalances backed
  have reward := bidding.reward resolving
  have small := keeperReward_lt bidding.deposited
  rw [AuctionView.owed_of_bidding bidding]
  simp only [AuctionView.owed, bidding.sellerUnpaid, bidding.rewardUnpaid, Bool.false_eq_true, if_false]
  omega

theorem Bidding.owed_shieldedResolved (bidding : Bidding v) {lane : Option Lane}
    {winnerIdentityHash winnerCiphertext : Bytes32} {winningAmount : ℕ}
    (resolving : v.cell.auction.state = .resolving) :
    AuctionView.owed { v with
      cell := { v.cell with
        auction := { v.cell.auction with
          winner := 0
          winnerCiphertext
          winningAmount
          state := .finalized
          lastBlockTimestamp := toUint64 now }
        winningCommitment := winnerIdentityHash
        resolutionRequest := {} }
      lane } = v.owed + winningAmount := by
  have refunds : ∀ p : Address, (if p = 0 then v.cell.escrowBalances p - winningAmount
      else v.cell.escrowBalances p) = v.cell.escrowBalances p := by
    intro p
    by_cases zero : p = 0
    · rw [if_pos zero, zero, bidding.noEscrowAtZero, Nat.zero_sub]
    · rw [if_neg zero]
  have reward := bidding.reward resolving
  have small := keeperReward_lt bidding.deposited
  rw [AuctionView.owed_of_bidding bidding]
  simp only [AuctionView.owed, refunds, bidding.sellerUnpaid, bidding.rewardUnpaid, Bool.false_eq_true,
    if_false]
  omega

theorem Bidding.owed_cancelled (bidding : Bidding v) {slashAmount : ℕ}
    (bounded : slashAmount ≤ v.cell.auction.sellerDeposit) :
    AuctionView.owed { v with cell := { v.cell with
      auction := { v.cell.auction with
        slashAmount
        state := .cancelled
        lastBlockTimestamp := toUint64 now } } } + slashAmount = v.owed := by
  rw [AuctionView.owed_of_bidding bidding]
  simp only [AuctionView.owed, bidding.sellerUnpaid, Bool.false_eq_true, if_false]
  omega

theorem Bidding.owed_voided (bidding : Bidding v) {slashAmount : ℕ}
    (resolving : v.cell.auction.state = .resolving)
    (fallback : slashAmount = if v.totalEscrow = 0 then 0 else
      v.cell.auction.sellerDeposit - v.cell.finalizationReward) :
    AuctionView.owed { v with cell := { v.cell with
      auction := { v.cell.auction with
        slashAmount
        state := .voided
        lastBlockTimestamp := toUint64 now }
      resolutionRequest := {} } } + slashAmount = v.owed := by
  have reward := bidding.reward resolving
  have small := keeperReward_lt bidding.deposited
  rw [AuctionView.owed_of_bidding bidding]
  simp only [AuctionView.owed, bidding.sellerUnpaid, bidding.rewardUnpaid, Bool.false_eq_true, if_false,
    false_or]
  split at fallback
  · subst fallback
    simp only [ne_eq, not_true_eq_false, if_false]
    omega
  · have nonzero : slashAmount ≠ 0 := by omega
    rw [if_pos nonzero]
    omega

/-- What the seller and the keeper of a settled auction have not claimed yet. -/
def AuctionView.dues (v : AuctionView) : ℕ :=
  match v.cell.auction.state with
  | .finalized =>
    (if v.cell.auction.sellerClaimed then 0
      else v.cell.auction.sellerDeposit + v.cell.auction.winningAmount - v.cell.finalizationReward) +
    (if v.cell.finalizationRewardClaimed then 0 else v.cell.finalizationReward)
  | .cancelled =>
    if v.cell.auction.sellerClaimed then 0
      else v.cell.auction.sellerDeposit - v.cell.auction.slashAmount
  | .voided =>
    (if v.cell.auction.sellerClaimed ∨ v.cell.auction.slashAmount ≠ 0 then 0
      else v.cell.auction.sellerDeposit - v.cell.finalizationReward) +
    (if v.cell.finalizationRewardClaimed then 0 else v.cell.finalizationReward)
  | _ => 0

theorem owed_eq_refunds_add_dues (terminal : v.cell.auction.state.terminal = true) :
    v.owed = ∑ p, v.refundOf p + v.dues := by
  unfold AuctionView.owed AuctionView.dues AuctionView.refundOf AuctionStorage.refundOf
  rcases AuctionState.terminal_cases terminal with state | state | state <;> simp only [state] <;> omega

/-- What is left of an auction's escrow after a claimant has taken theirs. -/
def AuctionView.withdraw (v : AuctionView) (claimant : Address) : AuctionView :=
  { v with cell := { v.cell with
    hasWithdrawn := Function.update v.cell.hasWithdrawn claimant true
    escrowBalances := if v.refundOf claimant = 0 then v.cell.escrowBalances else
      Function.update v.cell.escrowBalances claimant 0 } }

section Withdraw

variable {claimant : Address} (due : v.refundOf claimant ≠ 0)
include due

theorem withdraw_escrowBalances :
    (v.withdraw claimant).cell.escrowBalances = Function.update v.cell.escrowBalances claimant 0 :=
  if_neg due

theorem withdraw_refundOf (p : Address) :
    (v.withdraw claimant).refundOf p = if p = claimant then 0 else v.refundOf p := by
  unfold AuctionView.refundOf AuctionStorage.refundOf
  rw [withdraw_escrowBalances due]
  by_cases same : p = claimant
  · rw [if_pos same, same, Function.update_self, Nat.zero_sub, ite_self]
    cases (v.withdraw claimant).cell.auction.state <;> rfl
  · rw [if_neg same, Function.update_of_ne same]
    rfl

theorem withdraw_compensationOf (p : Address) :
    (v.withdraw claimant).compensationOf p = if p = claimant then 0 else v.compensationOf p := by
  unfold AuctionView.compensationOf AuctionStorage.compensationOf
  rw [withdraw_escrowBalances due]
  by_cases same : p = claimant
  · rw [if_pos same, same, Function.update_self, Nat.zero_mul, Nat.zero_div, ite_self]
    cases (v.withdraw claimant).cell.auction.state <;> rfl
  · rw [if_neg same, Function.update_of_ne same]
    rfl

/-- A refund comes out of what is owed. -/
theorem owed_withdraw (terminal : v.cell.auction.state.terminal = true) :
    (v.withdraw claimant).owed + v.refundOf claimant = v.owed := by
  have moved := Ledger.sum_agree_off v.refundOf (v.withdraw claimant).refundOf claimant
    fun other different => (withdraw_refundOf due other).trans (if_neg different)
  rw [withdraw_refundOf due, if_pos rfl] at moved
  have dues : (v.withdraw claimant).dues = v.dues := rfl
  have before := owed_eq_refunds_add_dues terminal
  have after := @owed_eq_refunds_add_dues (v.withdraw claimant) terminal
  omega

/-- A compensation comes out of what the pot owes. -/
theorem potOwed_withdraw : (v.withdraw claimant).potOwed + v.compensationOf claimant = v.potOwed := by
  have moved := Ledger.sum_agree_off v.compensationOf (v.withdraw claimant).compensationOf claimant
    fun other different => (withdraw_compensationOf due other).trans (if_neg different)
  rw [withdraw_compensationOf due, if_pos rfl, Nat.add_zero] at moved
  exact moved

end Withdraw

/-- A fresh pot owes no more than it has just received. -/
theorem potOwed_slashed {u : AuctionView} (empty : u.pot = {}) (slashAmount : ℕ)
    (whole : ∑ p, u.cell.escrowBalances p = u.cell.auction.totalEscrow) :
    (u.slashed slashAmount).potOwed ≤ u.publicSlash slashAmount := by
  have drawn : ∀ p, (u.slashed slashAmount).compensationOf p ≤
      u.cell.escrowBalances p * u.publicSlash slashAmount / u.cell.auction.totalEscrow := by
    intro p
    have filled : (u.slashed slashAmount).pot = {} ∨ (u.slashed slashAmount).pot =
        { exists_ := true
          totalEscrow := u.cell.auction.totalEscrow
          totalSlash := u.publicSlash slashAmount } := by
      rw [AuctionView.slashed_pot, empty]
      unfold AuctionView.fillPot
      split
      · exact .inl rfl
      · exact .inr (by simp)
    unfold AuctionView.compensationOf AuctionStorage.compensationOf
    rw [AuctionView.slashed_cell]
    cases u.cell.auction.state <;> simp only [Nat.zero_le]
    all_goals
      split
      · exact Nat.zero_le _
      · rcases filled with nothing | filled
        · rw [nothing, Nat.mul_zero, Nat.zero_div]
          exact Nat.zero_le _
        · rw [filled]
  calc (u.slashed slashAmount).potOwed
      ≤ Share.paidOut u.cell.escrowBalances (u.publicSlash slashAmount) u.cell.auction.totalEscrow :=
        Finset.sum_le_sum fun p _ => drawn p
    _ ≤ u.publicSlash slashAmount := Share.paidOut_le whole

theorem Settled.owed_sellerProceedsClaimed (unclaimed : v.cell.auction.sellerClaimed = false)
    (nonzero : v.sellerPayout ≠ 0) :
    AuctionView.owed { v with cell := { v.cell with auction.sellerClaimed := true } } +
      v.sellerPayout = v.owed := by
  unfold AuctionView.sellerPayout at *
  unfold AuctionView.owed
  cases state : v.cell.auction.state <;>
    simp only [state, unclaimed, Bool.false_eq_true, if_false, if_true, false_or, true_or, ne_eq,
      not_true_eq_false] at nonzero ⊢
  case finalized => omega
  case cancelled => omega
  case voided =>
    split at nonzero
    · rename_i unslashed
      simp only [unslashed, not_true_eq_false, and_self, if_true, if_false]
      omega
    · exact absurd rfl nonzero

theorem Settled.owed_finalizeRewardClaimed (unclaimed : v.cell.finalizationRewardClaimed = false)
    (ended : v.cell.auction.state = .finalized ∨ v.cell.auction.state = .voided) :
    AuctionView.owed { v with cell := { v.cell with finalizationRewardClaimed := true } } +
      v.cell.finalizationReward = v.owed := by
  unfold AuctionView.owed
  rcases ended with state | state <;>
    simp only [state, unclaimed, Bool.false_eq_true, if_false, if_true] <;> omega

end Steps

section Step

variable {refundKey : Bytes32 → Bytes32} {auctionId : AuctionId} {now : ℕ} {flow : Flow}
  {v next : AuctionView}

/-- What an auction is owed moves by exactly the money of the step. -/
theorem AuctionStep.owed_eq (step : AuctionStep refundKey auctionId now flow v next) (sound : Sound v) :
    next.owed + flow.paid = v.owed + flow.received := by
  cases step with
  | created _ _ _ _ _ _ _ _ _ fresh funded _ _ vacant =>
    rw [AuctionView.owed_of_bidding (bidding_created funded vacant), fresh]
    simp [newAuction, AuctionView.owed]
  | escrowLocked bidder amount found active _ _ known =>
    have bidding := sound.bidding_of_active found active
    have moved := Ledger.sum_update v.cell.escrowBalances bidder (v.cell.escrowBalances bidder + amount)
    rw [AuctionView.owed_of_bidding bidding, AuctionView.owed_of_bidding (bidding.escrowLocked known)]
    simp only [AuctionView.emit_cell]
    omega
  | finalizeTriggered _ _ _ _ found active _ _ pending =>
    have bidding := sound.bidding_of_active found active
    rw [AuctionView.owed_of_bidding bidding,
      AuctionView.owed_of_bidding (bidding.finalizeTriggered pending _ _)]
    rfl
  | resolved _ _ _ found resolving backed =>
    have bidding := sound.bidding_of_resolving found resolving
    simp only [Nat.add_zero, AuctionView.owed_opened, AuctionView.owed_emit]
    refine bidding.owed_resolved resolving ?_
    rcases backed with ⟨-, none⟩ | ⟨-, -, backed⟩
    · exact none ▸ Nat.zero_le _
    · exact backed
  | shieldedResolved _ _ _ _ _ found resolving =>
    have bidding := sound.bidding_of_resolving found resolving
    simp only [Nat.add_zero, AuctionView.owed_opened, AuctionView.owed_emit]
    exact bidding.owed_shieldedResolved resolving
  | cancelled _ found active _ bounded =>
    have bidding := sound.bidding_of_active found active
    simp only [Nat.add_zero, AuctionView.owed_opened, AuctionView.owed_slashed, AuctionView.owed_emit]
    exact bidding.owed_cancelled bounded
  | voided _ _ _ found resolving fallback =>
    have bidding := sound.bidding_of_resolving found resolving
    simp only [Nat.add_zero, AuctionView.owed_opened, AuctionView.owed_slashed, AuctionView.owed_emit]
    exact bidding.owed_voided resolving fallback
  | refundClaimed claimant found _ _ some =>
    have due := AuctionView.refundOf_ne_zero some
    rcases sound with rfl | bidding | settled
    · cases found
    · exact absurd (bidding.refundOf_eq claimant) due
    · simp only [Nat.add_zero, AuctionView.owed_emit]
      exact owed_withdraw due settled.terminal
  | sellerProceedsClaimed _ unclaimed nonzero =>
    simp only [Nat.add_zero, AuctionView.owed_emit]
    exact Settled.owed_sellerProceedsClaimed unclaimed nonzero
  | finalizeRewardClaimed _ unclaimed ended =>
    simp only [Nat.add_zero, AuctionView.owed_emit]
    exact Settled.owed_finalizeRewardClaimed unclaimed ended
  | _ => rfl

/-- A pot never comes to owe more than it holds for the auction. -/
theorem AuctionStep.potOwed_le (step : AuctionStep refundKey auctionId now flow v next)
    (sound : Sound v) : next.potOwed + flow.potPaid ≤ v.potOwed + flow.potReceived := by
  cases step with
  | created _ _ _ _ _ _ _ _ _ _ funded _ _ vacant =>
    rw [AuctionView.potOwed_of_bidding (bidding_created funded vacant)]
    exact Nat.zero_le _
  | escrowLocked _ _ found active _ _ known =>
    rw [AuctionView.potOwed_of_bidding ((sound.bidding_of_active found active).escrowLocked known)]
    exact Nat.zero_le _
  | finalizeTriggered _ _ _ _ found active _ _ pending =>
    rw [AuctionView.potOwed_of_bidding
      ((sound.bidding_of_active found active).finalizeTriggered pending _ _)]
    exact Nat.zero_le _
  | resolved =>
    rw [AuctionView.potOwed_of_finalized (by simp)]
    exact Nat.zero_le _
  | shieldedResolved =>
    rw [AuctionView.potOwed_of_finalized (by simp)]
    exact Nat.zero_le _
  | cancelled _ found active =>
    have bidding := sound.bidding_of_active found active
    rw [AuctionView.potOwed_emit, AuctionView.potOwed_opened, Nat.add_zero]
    refine (potOwed_slashed (by exact bidding.pot) _ (by exact bidding.escrow)).trans ?_
    exact Nat.le_add_left ..
  | voided _ _ _ found resolving =>
    have bidding := sound.bidding_of_resolving found resolving
    rw [AuctionView.potOwed_emit, AuctionView.potOwed_emit, AuctionView.potOwed_opened, Nat.add_zero]
    refine (potOwed_slashed (by exact bidding.pot) _ (by exact bidding.escrow)).trans ?_
    exact Nat.le_add_left ..
  | refundClaimed _ _ _ _ some =>
    rw [AuctionView.potOwed_emit, Nat.add_zero]
    exact (potOwed_withdraw (AuctionView.refundOf_ne_zero some)).le
  | _ => exact Nat.le_refl _

/-- Only a new auction gets a snapshot, and it owes and moves nothing at a pot. -/
theorem AuctionStep.snapshot (step : AuctionStep refundKey auctionId now flow v next) :
    next.cell.dependencySnapshot = v.cell.dependencySnapshot ∨
      flow.potPaid = 0 ∧ flow.potReceived = 0 ∧ next.potOwed = 0 := by
  cases step with
  | created _ _ _ _ _ _ _ _ _ _ funded _ _ vacant =>
    exact .inr ⟨rfl, rfl, AuctionView.potOwed_of_bidding (bidding_created funded vacant)⟩
  | resolved => exact .inl (by simp)
  | shieldedResolved => exact .inl (by simp)
  | cancelled => exact .inl (by simp)
  | voided => exact .inl (by simp)
  | _ => exact .inl rfl

end Step

variable {σ : Type}

namespace World

/-- What the market owes over all auctions. -/
def owed (w : World σ) : ℕ := ∑ auctionId, (w.view auctionId).owed

/-- What an auction is owed by the pot at an address. -/
def potOwedAt (w : World σ) (address : Address) (auctionId : AuctionId) : ℕ :=
  if (w.snapshot auctionId).slashedPot = address then (w.view auctionId).potOwed else 0

/-- The market holds what it owes and every pot at least what it owes. -/
structure Solvent (w : World σ) : Prop where
  sound : ∀ auctionId, Sound (w.view auctionId)
  balance : w.market.balance = w.unsolicited + w.owed
  pots : ∀ address pot, w.pots address = some pot →
    ∑ auctionId, w.potOwedAt address auctionId ≤ pot.balance

variable {env : External σ} {w next : World σ} {now : ℕ} {auctionId : AuctionId} {flow : Flow}

theorem Transition.sound (transition : Transition env now auctionId flow w next)
    (sound : ∀ other, Sound (w.view other)) (other : AuctionId) : Sound (next.view other) := by
  by_cases same : other = auctionId
  · subst same
    rcases transition.step with ⟨-, kept⟩ | step
    · rw [kept]
      exact sound other
    · exact (sound other).step step
  · rw [transition.others other same]
    exact sound other

theorem Transition.owed_view (transition : Transition env now auctionId flow w next)
    (sound : Sound (w.view auctionId)) :
    (next.view auctionId).owed + flow.paid = (w.view auctionId).owed + flow.received := by
  rcases transition.step with ⟨rfl, kept⟩ | step
  · rw [kept]
  · exact step.owed_eq sound

/-- The total moves by the money of the step. -/
theorem Transition.owed_eq (transition : Transition env now auctionId flow w next)
    (sound : Sound (w.view auctionId)) : next.owed + flow.paid = w.owed + flow.received := by
  have moved := Ledger.sum_agree_off (fun other => (w.view other).owed)
    (fun other => (next.view other).owed) auctionId
    fun other different => by rw [transition.others other different]
  have own := transition.owed_view sound
  unfold owed
  generalize ∑ other, (w.view other).owed = before, ∑ other, (next.view other).owed = after at moved ⊢
  omega

theorem Transition.potOwedAt_le (transition : Transition env now auctionId flow w next)
    (sound : Sound (w.view auctionId)) (address : Address) :
    next.potOwedAt address auctionId +
        (if address = (w.snapshot auctionId).slashedPot then flow.potPaid else 0) ≤
      w.potOwedAt address auctionId +
        if address = (w.snapshot auctionId).slashedPot then flow.potReceived else 0 := by
  unfold potOwedAt
  rcases transition.step with ⟨rfl, kept⟩ | step
  · have same : next.snapshot auctionId = w.snapshot auctionId := congrArg (·.cell.dependencySnapshot) kept
    rw [same, kept]
  · rcases step.snapshot with same | ⟨unpaid, unreceived, nothing⟩
    · have snapshot : next.snapshot auctionId = w.snapshot auctionId := same
      rw [snapshot]
      by_cases own : address = (w.snapshot auctionId).slashedPot
      · rw [if_pos own, if_pos own.symm, if_pos own.symm, if_pos own]
        exact step.potOwed_le sound
      · rw [if_neg own, if_neg (Ne.symm own), if_neg (Ne.symm own), if_neg own]
    · rw [nothing, unpaid, unreceived, ite_self, ite_self]
      exact Nat.zero_le _

theorem Transition.solvent (transition : Transition env now auctionId flow w next)
    (solvent : w.Solvent) : next.Solvent where
  sound := transition.sound solvent.sound
  balance := by
    have total := transition.owed_eq (solvent.sound auctionId)
    have balance := transition.balance
    have before := solvent.balance
    omega
  pots := by
    intro address changed present
    obtain ⟨pot, deployed, balance⟩ := transition.pots.exists_before present
    have before := solvent.pots address pot deployed
    have own := transition.potOwedAt_le (solvent.sound auctionId) address
    have moved := Ledger.sum_agree_off (w.potOwedAt address) (next.potOwedAt address) auctionId
      fun other different => by
        have snapshot : next.snapshot other = w.snapshot other :=
          congrArg (·.cell.dependencySnapshot) (transition.others other different)
        rw [potOwedAt, potOwedAt, transition.others other different, snapshot]
    generalize ∑ other, w.potOwedAt address other = x, ∑ other, next.potOwedAt address other = y
      at before moved ⊢
    omega

end World

theorem Deployment.genesis_solvent (deployment : Deployment) (env : External σ) (outside : σ) :
    (deployment.genesis env outside).Solvent where
  sound := fun auctionId => .inl ((deployment.genesis_wired env outside).view_blank rfl)
  balance := by
    have nothing : (deployment.genesis env outside).owed = 0 := Finset.sum_eq_zero fun auctionId _ => by
      rw [(deployment.genesis_wired env outside).view_blank rfl]
      rfl
    rw [nothing]
    rfl
  pots := by
    intro address pot present
    have nothing : ∀ auctionId, (deployment.genesis env outside).potOwedAt address auctionId = 0 := by
      intro auctionId
      unfold World.potOwedAt
      rw [(deployment.genesis_wired env outside).view_blank rfl]
      split
      · exact Finset.sum_eq_zero fun _ _ => rfl
      · rfl
    rw [Finset.sum_eq_zero fun auctionId _ => nothing auctionId]
    exact Nat.zero_le _

theorem Deployment.run_solvent (deployment : Deployment) (env : External σ) (outside : σ)
    (inputs : List (Msg × Tx σ)) :
    (deployment.run env outside inputs).Wired env ∧ (deployment.run env outside inputs).Solvent := by
  have kept : ∀ (w : World σ) input next, w.Wired env ∧ w.Solvent → w.transact env input = .ok next →
      next.Wired env ∧ next.Solvent := by
    intro w input next before done
    obtain ⟨wired, -, -, auctionId, flow, transition⟩ := World.transact_transition before.1 done
    exact ⟨wired, transition.solvent before.2⟩
  exact play_preserves kept
    ⟨deployment.genesis_wired env outside, deployment.genesis_solvent env outside⟩ inputs

end FairMarket
