import FairMarket.Market.Solvency

/-! Every wei an auction takes in is either still held for it somewhere or has been
paid out, and the pot pays the shares of those who have withdrawn. -/

namespace FairMarket

namespace Event

/-- What one account locks in the open. -/
def escrowOf (claimant : Address) : Event → ℕ
  | .escrowLocked _ bidder amount => if bidder = claimant then amount else 0
  | _ => 0

def publicEscrow : Event → ℕ
  | .escrowLocked _ _ amount => amount
  | _ => 0

def shieldedEscrow : Event → ℕ
  | .shieldedEscrowLocked _ _ amount => amount
  | _ => 0

/-- What the pot pays. -/
def compensation : Event → ℕ
  | .refundClaimed _ _ _ amount => amount
  | _ => 0

/-- What anybody is paid, from the market, its pot or its vault. -/
def paid : Event → ℕ
  | .refundClaimed _ _ escrowRefund compensation => escrowRefund + compensation
  | .sellerProceedsClaimed _ _ amount | .finalizeRewardClaimed _ _ amount => amount
  | .shieldedRefundClaimed _ _ _ principalAmount compensationAmount =>
    principalAmount + compensationAmount
  | _ => 0

/-- The sum of an amount over a log. -/
def total (amount : Event → ℕ) (log : List Event) : ℕ := (log.map amount).sum

@[simp] theorem total_nil (amount : Event → ℕ) : total amount [] = 0 := rfl

@[simp] theorem total_cons (amount : Event → ℕ) (event : Event) (log : List Event) :
    total amount (event :: log) = amount event + total amount log := List.sum_cons

/-- Public escrow is the sum of what the accounts locked. -/
theorem sum_escrowOf (log : List Event) : ∑ p, total (escrowOf p) log = total publicEscrow log := by
  induction log with
  | nil => exact Finset.sum_const_zero
  | cons event rest ih =>
    have own : ∑ p, escrowOf p event = publicEscrow event := by
      cases event with
      | escrowLocked auctionId bidder amount =>
        exact (Finset.sum_ite_eq Finset.univ bidder fun _ => amount).trans (if_pos (Finset.mem_univ _))
      | _ => exact Finset.sum_const_zero
    simp only [total_cons, Finset.sum_add_distrib]
    rw [ih, own]

end Event

open Event

/-- The seller's deposit and all escrow, public and shielded. -/
def AuctionView.deposited (v : AuctionView) : ℕ :=
  v.cell.auction.sellerDeposit + total Event.publicEscrow v.log + total shieldedEscrow v.log

/-- What has come in for an auction. What the pot paid was part of it. -/
def AuctionView.takenIn (v : AuctionView) : ℕ := v.deposited + total compensation v.log

/-- What is not with the market: paid out, in the vault, or registered with the pot. -/
def AuctionView.elsewhere (v : AuctionView) : ℕ :=
  total paid v.log + v.shieldedTotal + v.reserve + v.pot.totalSlash

/-- What the pot's penalty comes to for some holdings. -/
def AuctionView.shares (v : AuctionView) (holdings : Address → ℕ) : ℕ :=
  Share.paidOut holdings v.pot.totalSlash v.pot.totalEscrow

/-- What the accounts locked, what is left of it, and what the pot has paid on it. -/
structure Shared (v : AuctionView) : Prop where
  publicEscrow : total publicEscrow v.log = v.cell.auction.totalEscrow
  holdings : ∀ p, v.cell.hasWithdrawn p = false → v.cell.escrowBalances p = total (escrowOf p) v.log
  shares : total compensation v.log + v.shares v.cell.escrowBalances =
    v.shares fun p => total (escrowOf p) v.log
  unfunded : v.cell.auction.totalEscrow = 0 → v.pot.totalSlash = 0

section Step

variable {refundKey : Bytes32 → Bytes32} {auctionId : AuctionId} {now : ℕ} {flow : Flow}
  {v next : AuctionView}

/-- An empty pot has no shares. -/
theorem shares_empty (holdings : Address → ℕ) (empty : v.pot = {}) : v.shares holdings = 0 := by
  unfold AuctionView.shares
  rw [empty]
  refine Finset.sum_eq_zero fun p _ => ?_
  rw [Nat.mul_zero, Nat.zero_div]

theorem elsewhere_emit (event : Event) : (v.emit event).elsewhere = v.elsewhere + paid event := by
  simp only [AuctionView.elsewhere, AuctionView.emit_log, total_cons, AuctionView.emit_shieldedTotal,
    AuctionView.emit_reserve, AuctionView.emit_pot]
  omega

theorem takenIn_emit (event : Event) : (v.emit event).takenIn =
    v.takenIn + Event.publicEscrow event + shieldedEscrow event + compensation event := by
  simp only [AuctionView.takenIn, AuctionView.deposited, AuctionView.emit_log, total_cons,
    AuctionView.emit_cell]
  omega

theorem elsewhere_opened : v.opened.elsewhere = v.elsewhere := by
  simp only [AuctionView.elsewhere, AuctionView.opened_log, AuctionView.opened_shieldedTotal,
    AuctionView.opened_reserve, AuctionView.opened_pot]

theorem takenIn_opened : v.opened.takenIn = v.takenIn := by
  simp only [AuctionView.takenIn, AuctionView.deposited, AuctionView.opened_log, AuctionView.opened_auction]

/-- All of a penalty ends up reserved or in the pot. -/
theorem elsewhere_slashed (slashAmount : ℕ) :
    (v.slashed slashAmount).elsewhere = v.elsewhere + slashAmount := by
  have bounded := @publicSlash_le v slashAmount
  simp only [AuctionView.elsewhere, AuctionView.slashed_log, AuctionView.slashed_shieldedTotal,
    AuctionView.slashed_reserve, AuctionView.slashed_pot, AuctionView.fillPot]
  split
  · omega
  · dsimp only
    omega

theorem takenIn_slashed (slashAmount : ℕ) : (v.slashed slashAmount).takenIn = v.takenIn := rfl

theorem lane_le_elsewhere {lane : Lane} (vault : v.lane = some lane) :
    lane.total + lane.reserve ≤ v.elsewhere := by
  simp only [AuctionView.elsewhere, AuctionView.shieldedTotal, AuctionView.reserve, vault, Option.elim_some]
  omega

/-- Writing an auction's cell and lane. -/
theorem elsewhere_lane {lane : Lane} (vault : v.lane = some lane) (cell : AuctionStorage) (after : Lane) :
    AuctionView.elsewhere { v with cell, lane := some after } =
      v.elsewhere - (lane.total + lane.reserve) + (after.total + after.reserve) := by
  simp only [AuctionView.elsewhere, AuctionView.shieldedTotal, AuctionView.reserve, vault, Option.elim_some]
  omega

/-- What comes in is what goes elsewhere and what the market keeps. -/
theorem AuctionStep.takenIn_eq (step : AuctionStep refundKey auctionId now flow v next) :
    next.takenIn + flow.paid + v.elsewhere = v.takenIn + flow.received + next.elsewhere := by
  cases step with
  | created _ _ _ _ _ _ _ _ _ fresh _ _ _ vacant =>
    subst fresh
    rcases vacant with rfl | rfl <;>
      simp [AuctionView.takenIn, AuctionView.deposited, AuctionView.elsewhere, newAuction,
        Event.publicEscrow, shieldedEscrow, compensation, paid, AuctionView.shieldedTotal,
        AuctionView.reserve]
  | escrowLocked _ amount =>
    rw [takenIn_emit, elsewhere_emit]
    change v.takenIn + amount + 0 + 0 + 0 + v.elsewhere = v.takenIn + amount + (v.elsewhere + 0)
    omega
  | shieldedEscrowLocked lane _ _ amount _ _ _ _ vault =>
    have bounded := lane_le_elsewhere vault
    rw [takenIn_emit, takenIn_emit, elsewhere_emit, elsewhere_emit, elsewhere_lane vault]
    change v.takenIn + 0 + 0 + 0 + 0 + amount + 0 + 0 + v.elsewhere = v.takenIn + 0 +
      (v.elsewhere - (lane.total + lane.reserve) + (lane.total + amount + lane.reserve) + 0 + 0)
    omega
  | finalizeTriggered =>
    rw [takenIn_emit, takenIn_emit, elsewhere_emit, elsewhere_emit]
    rfl
  | resolved =>
    rw [takenIn_opened, takenIn_emit, takenIn_emit, elsewhere_opened, elsewhere_emit, elsewhere_emit]
    rfl
  | shieldedResolved lane _ _ _ amount _ _ vault _ _ backed =>
    have bounded := lane_le_elsewhere vault
    rw [takenIn_opened, takenIn_emit, takenIn_emit, elsewhere_opened, elsewhere_emit, elsewhere_emit,
      elsewhere_lane vault]
    change v.takenIn + 0 + 0 + 0 + 0 + 0 + 0 + 0 + v.elsewhere = v.takenIn + amount +
      (v.elsewhere - (lane.total + lane.reserve) + (lane.total - amount + lane.reserve) + 0 + 0)
    omega
  | cancelled slashAmount =>
    rw [takenIn_emit, takenIn_opened, takenIn_slashed, takenIn_emit, elsewhere_emit, elsewhere_opened,
      elsewhere_slashed, elsewhere_emit]
    change v.takenIn + 0 + 0 + 0 + 0 + 0 + 0 + slashAmount + v.elsewhere =
      v.takenIn + 0 + (v.elsewhere + 0 + slashAmount + 0)
    omega
  | voided slashAmount =>
    rw [takenIn_emit, takenIn_emit, takenIn_opened, takenIn_slashed, takenIn_emit, elsewhere_emit,
      elsewhere_emit, elsewhere_opened, elsewhere_slashed, elsewhere_emit]
    change v.takenIn + 0 + 0 + 0 + 0 + 0 + 0 + 0 + 0 + 0 + slashAmount + v.elsewhere =
      v.takenIn + 0 + (v.elsewhere + 0 + slashAmount + 0 + 0)
    omega
  | refundClaimed claimant =>
    rw [takenIn_emit, elsewhere_emit]
    change v.takenIn + 0 + 0 + v.compensationOf claimant + v.refundOf claimant + v.elsewhere =
      v.takenIn + 0 + (v.elsewhere + (v.refundOf claimant + v.compensationOf claimant))
    omega
  | sellerProceedsClaimed =>
    rw [takenIn_emit, elsewhere_emit]
    change v.takenIn + 0 + 0 + 0 + v.sellerPayout + v.elsewhere = v.takenIn + 0 + (v.elsewhere + v.sellerPayout)
    omega
  | finalizeRewardClaimed =>
    rw [takenIn_emit, elsewhere_emit]
    change v.takenIn + 0 + 0 + 0 + v.cell.finalizationReward + v.elsewhere =
      v.takenIn + 0 + (v.elsewhere + v.cell.finalizationReward)
    omega
  | shieldedRefunded lane _ _ principal _ _ vault _ _ _ backed covered =>
    have bounded := lane_le_elsewhere vault
    rw [takenIn_emit, elsewhere_emit, elsewhere_lane vault]
    generalize ShieldedEscrowVault.compensationShare principal lane.reserve lane.total = share at *
    change v.takenIn + 0 + 0 + 0 + 0 + v.elsewhere = v.takenIn + 0 +
      (v.elsewhere - (lane.total + lane.reserve) + (lane.total - principal + (lane.reserve - share)) +
        (principal + share))
    omega
  | _ =>
    rw [takenIn_emit, elsewhere_emit]
    rfl

namespace Shared

/-- The events that lock nothing in the open and pay nothing from the pot. -/
def Neutral (event : Event) : Prop :=
  Event.publicEscrow event = 0 ∧ compensation event = 0 ∧ ∀ p, escrowOf p event = 0

theorem emit (shared : Shared v) {event : Event} (neutral : Neutral event) : Shared (v.emit event) := by
  obtain ⟨locked, unpaid, owner⟩ := neutral
  constructor
  · rw [AuctionView.emit_log, total_cons, locked, Nat.zero_add]
    exact shared.publicEscrow
  · intro p unwithdrawn
    rw [AuctionView.emit_log, total_cons, owner, Nat.zero_add]
    exact shared.holdings p unwithdrawn
  · simp only [AuctionView.emit_log, total_cons, unpaid, owner, Nat.zero_add]
    exact shared.shares
  · exact shared.unfunded

theorem opened (shared : Shared v) : Shared v.opened where
  publicEscrow := by simpa using shared.publicEscrow
  holdings := by simpa using shared.holdings
  shares := by simpa [AuctionView.shares] using shared.shares
  unfunded := by simpa using shared.unfunded

/-- A penalty is registered before anybody has withdrawn. -/
theorem slashed {slashAmount : ℕ} (shared : Shared v) (empty : v.pot = {})
    (unwithdrawn : ∀ p, v.cell.hasWithdrawn p = false) (none : v.totalEscrow = 0 → slashAmount = 0) :
    Shared (v.slashed slashAmount) where
  publicEscrow := shared.publicEscrow
  holdings := shared.holdings
  shares := by
    have before := shared.shares
    have held : v.cell.escrowBalances = fun p => total (escrowOf p) v.log :=
      funext fun p => shared.holdings p (unwithdrawn p)
    rw [shares_empty _ empty, shares_empty _ empty, Nat.add_zero] at before
    rw [AuctionView.slashed_log, AuctionView.slashed_cell, before, held, Nat.zero_add]
  unfunded := by
    intro unescrowed
    rw [AuctionView.slashed_cell] at unescrowed
    have share : v.publicSlash slashAmount = 0 := by
      unfold AuctionView.publicSlash ShieldedEscrowVault.publicShare
      split
      · rename_i unshielded
        exact none (by rw [AuctionView.totalEscrow, unescrowed, unshielded])
      · rw [unescrowed, Nat.mul_zero, Nat.zero_div]
    rw [AuctionView.slashed_pot, AuctionView.fillPot, share, if_pos rfl, empty]

end Shared

/-- In a settled auction a compensation is the share of what is left. -/
theorem Settled.compensationOf_eq (settled : Settled v) (claimant : Address) :
    v.compensationOf claimant =
      v.cell.escrowBalances claimant * v.pot.totalSlash / v.pot.totalEscrow := by
  have unslashed : v.cell.auction.slashAmount = 0 →
      v.cell.escrowBalances claimant * v.pot.totalSlash / v.pot.totalEscrow = 0 := by
    intro none
    rcases settled.pot with empty | ⟨slashed, -⟩
    · rw [empty, Nat.mul_zero, Nat.zero_div]
    · exact absurd none slashed
  unfold AuctionView.compensationOf AuctionStorage.compensationOf
  rcases AuctionState.terminal_cases settled.terminal with state | state | state
  · rw [state]
    exact (unslashed (settled.unslashed state)).symm
  · rw [state]
    dsimp only
    split
    · rename_i none
      exact (unslashed none).symm
    · rfl
  · rw [state]
    dsimp only
    split
    · rename_i none
      exact (unslashed none).symm
    · rfl

/-- A refund pays the claimant's share and leaves the shares of the others. -/
theorem Shared.refundClaimed (shared : Shared v) (settled : Settled v) {claimant : Address}
    (due : v.refundOf claimant ≠ 0) :
    Shared ((v.withdraw claimant).emit
      (.refundClaimed auctionId claimant (v.refundOf claimant) (v.compensationOf claimant))) where
  publicEscrow := by
    rw [AuctionView.emit_log, total_cons]
    exact (Nat.zero_add _).trans shared.publicEscrow
  holdings := by
    intro p unwithdrawn
    rw [AuctionView.emit_log, total_cons, AuctionView.emit_cell, withdraw_escrowBalances due]
    have different : p ≠ claimant := by
      rintro rfl
      simp [AuctionView.withdraw] at unwithdrawn
    rw [Function.update_of_ne different]
    have before : v.cell.hasWithdrawn p = false := by
      simpa [AuctionView.withdraw, different] using unwithdrawn
    exact (shared.holdings p before).trans (Nat.zero_add _).symm
  shares := by
    have cleared : v.shares (Function.update v.cell.escrowBalances claimant 0) +
        v.compensationOf claimant = v.shares v.cell.escrowBalances := by
      rw [settled.compensationOf_eq]
      exact Share.paidOut_clear claimant
    have before := shared.shares
    simp only [AuctionView.emit_log, total_cons, AuctionView.emit_cell, withdraw_escrowBalances due]
    change v.compensationOf claimant + total compensation v.log +
      v.shares (Function.update v.cell.escrowBalances claimant 0) =
        v.shares fun p => 0 + total (escrowOf p) v.log
    simp only [Nat.zero_add]
    rw [← before, ← cleared, Nat.add_comm (v.compensationOf claimant), Nat.add_assoc,
      Nat.add_comm (v.compensationOf claimant)]
  unfunded := shared.unfunded

/-- An account locks escrow in the open while there is nothing in the pot. -/
theorem Shared.escrowLocked (shared : Shared v) (bidding : Bidding v) (bidder : Address) (amount : ℕ) :
    Shared ({ v with cell := { v.cell with
      escrowBalances := Function.update v.cell.escrowBalances bidder
        (v.cell.escrowBalances bidder + amount)
      auction := { v.cell.auction with
        totalEscrow := v.cell.auction.totalEscrow + amount
        lastBlockTimestamp := toUint64 now } } }.emit (.escrowLocked auctionId bidder amount)) where
  publicEscrow := by
    have before := shared.publicEscrow
    rw [AuctionView.emit_log, total_cons]
    change amount + total Event.publicEscrow v.log = v.cell.auction.totalEscrow + amount
    omega
  holdings := by
    intro p unwithdrawn
    have before := shared.holdings p unwithdrawn
    rw [AuctionView.emit_log, total_cons]
    change Function.update v.cell.escrowBalances bidder (v.cell.escrowBalances bidder + amount) p =
      escrowOf p (.escrowLocked auctionId bidder amount) + total (escrowOf p) v.log
    by_cases same : p = bidder
    · subst same
      have own : escrowOf p (.escrowLocked auctionId p amount) = amount := if_pos rfl
      rw [own, Function.update_self, before]
      exact Nat.add_comm ..
    · have other : escrowOf p (.escrowLocked auctionId bidder amount) = 0 := if_neg (Ne.symm same)
      rw [other, Nat.zero_add, Function.update_of_ne same]
      exact before
  shares := by
    have before := shared.shares
    rw [shares_empty _ bidding.pot, shares_empty _ bidding.pot] at before
    rw [shares_empty _ (by exact bidding.pot), shares_empty _ (by exact bidding.pot), AuctionView.emit_log,
      total_cons]
    exact (congrArg (· + 0) (Nat.zero_add _)).trans before
  unfunded := fun _ => by
    rw [AuctionView.emit_pot]
    exact congrArg Pot.totalSlash bidding.pot

theorem Shared.step (step : AuctionStep refundKey auctionId now flow v next) (sound : Sound v)
    (shared : Shared v) : Shared next := by
  cases step with
  | created _ _ _ _ _ _ _ _ lane =>
    refine ⟨rfl, fun _ _ => rfl, ?_, fun _ => rfl⟩
    rw [shares_empty _ rfl, shares_empty _ rfl]
    rfl
  | escrowLocked bidder amount found active =>
    exact shared.escrowLocked (sound.bidding_of_active found active) bidder amount
  | shieldedEscrowLocked =>
    refine emit (emit ?_ ⟨rfl, rfl, fun _ => rfl⟩) ⟨rfl, rfl, fun _ => rfl⟩
    exact ⟨shared.1, shared.2, shared.3, shared.4⟩
  | finalizeTriggered =>
    refine emit (emit ?_ ⟨rfl, rfl, fun _ => rfl⟩) ⟨rfl, rfl, fun _ => rfl⟩
    exact ⟨shared.1, shared.2, shared.3, shared.4⟩
  | resolved =>
    refine opened (emit (emit ?_ ⟨rfl, rfl, fun _ => rfl⟩) ⟨rfl, rfl, fun _ => rfl⟩)
    exact ⟨shared.1, shared.2, shared.3, shared.4⟩
  | shieldedResolved =>
    refine opened (emit (emit ?_ ⟨rfl, rfl, fun _ => rfl⟩) ⟨rfl, rfl, fun _ => rfl⟩)
    exact ⟨shared.1, shared.2, shared.3, shared.4⟩
  | cancelled slashAmount found active _ _ none =>
    have bidding := sound.bidding_of_active found active
    refine emit (opened (slashed (emit ?_ ⟨rfl, rfl, fun _ => rfl⟩) ?_ ?_ ?_)) ⟨rfl, rfl, fun _ => rfl⟩
    exacts [⟨shared.1, shared.2, shared.3, shared.4⟩, bidding.pot, bidding.unwithdrawn, none]
  | voided slashAmount _ _ found resolving fallback =>
    have bidding := sound.bidding_of_resolving found resolving
    refine emit (emit (opened (slashed (emit ?_ ⟨rfl, rfl, fun _ => rfl⟩) ?_ ?_ ?_))
      ⟨rfl, rfl, fun _ => rfl⟩) ⟨rfl, rfl, fun _ => rfl⟩
    exacts [⟨shared.1, shared.2, shared.3, shared.4⟩, bidding.pot, bidding.unwithdrawn,
      fun none => fallback.trans (if_pos none)]
  | refundClaimed claimant found _ _ some =>
    have due := AuctionView.refundOf_ne_zero some
    have settled := sound.settled_of_terminal found (AuctionView.terminal_of_refundOf due)
    exact shared.refundClaimed settled due
  | _ =>
    refine emit ?_ ⟨rfl, rfl, fun _ => rfl⟩
    exact ⟨shared.1, shared.2, shared.3, shared.4⟩

end Step

/-- The book of an auction balances. -/
structure Conserved (v : AuctionView) : Prop where
  sound : Sound v
  value : v.takenIn = v.owed + v.elsewhere
  shared : Shared v

theorem Conserved.step {refundKey : Bytes32 → Bytes32} {auctionId : AuctionId} {now : ℕ} {flow : Flow}
    {v next : AuctionView} (conserved : Conserved v)
    (step : AuctionStep refundKey auctionId now flow v next) : Conserved next := by
  refine ⟨conserved.sound.step step, ?_, conserved.shared.step step conserved.sound⟩
  have taken := step.takenIn_eq
  have money := step.owed_eq conserved.sound
  have value := conserved.value
  generalize next.owed = owed, v.owed = before at money value ⊢
  omega

theorem Reachable.conserved {refundKey : Bytes32 → Bytes32} {auctionId : AuctionId} {v : AuctionView}
    (reachable : Reachable refundKey auctionId v) : Conserved v := by
  obtain ⟨now, run⟩ := reachable
  refine run.preserves (fun _ _ _ _ step conserved => conserved.step step)
    ⟨.inl rfl, rfl, ⟨rfl, fun _ _ => rfl, ?_, fun _ => rfl⟩⟩
  rw [shares_empty _ rfl, shares_empty _ rfl]
  rfl

/-- The accounts that locked escrow in the open. -/
def AuctionView.publicHolders (v : AuctionView) : Finset Address :=
  Share.holders fun p => total (escrowOf p) v.log

section Settled

variable {v : AuctionView}

/-- What the pot divides the penalty by is what the accounts locked. -/
theorem Conserved.pot_cases (conserved : Conserved v) :
    v.pot = {} ∨ ∑ p, total (escrowOf p) v.log = v.pot.totalEscrow := by
  rcases conserved.sound with rfl | bidding | settled
  · exact .inl rfl
  · exact .inl bidding.pot
  · refine settled.pot.imp_right fun filled => ?_
    rw [sum_escrowOf, conserved.shared.publicEscrow, filled.2]

/-- The pot never pays more for an auction than was registered for it. -/
theorem Conserved.compensation_le (conserved : Conserved v) :
    total compensation v.log ≤ v.pot.totalSlash := by
  have drawn : total compensation v.log ≤ v.shares fun p => total (escrowOf p) v.log := by
    rw [← conserved.shared.shares]
    exact Nat.le_add_right ..
  rcases conserved.pot_cases with empty | whole
  · rw [shares_empty _ empty] at drawn
    exact drawn.trans (Nat.zero_le _)
  · exact drawn.trans (Share.paidOut_le whole)

/-- Once every refund is taken the pot keeps less than one wei for each account that
locked escrow in the open. -/
theorem Conserved.dust (conserved : Conserved v) (settled : Settled v)
    (refunded : ∀ p, v.refundOf p = 0) :
    v.pot.totalSlash - total compensation v.log ≤ v.publicHolders.card - 1 := by
  rcases Nat.eq_zero_or_pos v.pot.totalSlash with none | slashed
  · rw [none, Nat.zero_sub]
    exact Nat.zero_le _
  have filled : ∑ p, total (escrowOf p) v.log = v.pot.totalEscrow := by
    rcases conserved.pot_cases with empty | whole
    · rw [empty] at slashed
      exact absurd slashed (Nat.lt_irrefl 0)
    · exact whole
  have escrowed : 0 < v.pot.totalEscrow := by
    rw [← filled, sum_escrowOf, conserved.shared.publicEscrow, Nat.pos_iff_ne_zero]
    intro unescrowed
    exact Nat.ne_of_gt slashed (conserved.shared.unfunded unescrowed)
  have unresolved : v.cell.auction.state ≠ .finalized := by
    intro finalized
    rcases settled.pot with empty | ⟨penalty, -⟩
    · rw [empty] at slashed
      exact Nat.lt_irrefl 0 slashed
    · exact penalty (settled.unslashed finalized)
  have emptied : v.cell.escrowBalances = fun _ => 0 := by
    funext p
    have refund := refunded p
    unfold AuctionView.refundOf AuctionStorage.refundOf at refund
    rcases AuctionState.terminal_cases settled.terminal with state | state | state
    · exact absurd state unresolved
    · simpa only [state] using refund
    · simpa only [state] using refund
  have nothing : v.shares v.cell.escrowBalances = 0 := by
    rw [emptied]
    unfold AuctionView.shares Share.paidOut
    refine Finset.sum_eq_zero fun p _ => ?_
    rw [Nat.zero_mul, Nat.zero_div]
  have drawn := conserved.shared.shares
  rw [nothing, Nat.add_zero] at drawn
  have bound := @Share.pot_lt_paidOut_add _ _ (fun p => total (escrowOf p) v.log) v.pot.totalSlash _ filled
    escrowed
  change v.pot.totalSlash < v.shares (fun p => total (escrowOf p) v.log) + v.publicHolders.card at bound
  rw [← drawn] at bound
  omega

/-- When all claims on a settled auction are taken, what was paid out and what is
left in the pot come to what was put in. -/
theorem Conserved.paid_out (conserved : Conserved v) (settled : Settled v)
    (refunded : ∀ p, v.refundOf p = 0) (dues : v.dues = 0) (drained : v.shieldedTotal = 0) :
    v.owed = 0 ∧ v.reserve = 0 ∧
      total paid v.log + (v.pot.totalSlash - total compensation v.log) =
        v.deposited := by
  have owed : v.owed = 0 := by
    rw [owed_eq_refunds_add_dues settled.terminal, dues, Finset.sum_eq_zero fun p _ => refunded p]
  have reserve := settled.drained drained
  have value := conserved.value
  have bounded := conserved.compensation_le
  unfold AuctionView.takenIn AuctionView.elsewhere at value
  refine ⟨owed, reserve, ?_⟩
  omega

end Settled

end FairMarket
