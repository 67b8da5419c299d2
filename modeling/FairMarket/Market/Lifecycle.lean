import FairMarket.Market.Phases
import Mathlib.Data.List.Destutter

/-! The life of an auction: the states it goes through, the book of bids that is
frozen when the auction ends, the outcome that is frozen when it settles, and the
entitlements that are released once. -/

namespace FairMarket

variable {σ : Type}

/-- The state of an auction, and nothing before there is one. -/
def World.stateOf (w : World σ) (auctionId : AuctionId) : Option AuctionState :=
  if (w.market.auctions auctionId).auction.exists_ then some (w.market.auctions auctionId).auction.state
  else none

def AuctionView.observed (v : AuctionView) : Option AuctionState :=
  if v.cell.auction.exists_ then some v.cell.auction.state else none

/-- The moves between two different states. -/
def follows : Option AuctionState → Option AuctionState → Bool
  | none, some .active => true
  | some .active, some .cancelled => true
  | some .active, some .resolving => true
  | some .resolving, some .finalized => true
  | some .resolving, some .voided => true
  | _, _ => false

/-- The sequences of different states an auction may still go through. -/
def lifecycles : Option AuctionState → List (List (Option AuctionState))
  | none => [[none], [none, some .active], [none, some .active, some .cancelled],
      [none, some .active, some .resolving], [none, some .active, some .resolving, some .finalized],
      [none, some .active, some .resolving, some .voided]]
  | some .active => [[some .active], [some .active, some .cancelled], [some .active, some .resolving],
      [some .active, some .resolving, some .finalized], [some .active, some .resolving, some .voided]]
  | some .resolving => [[some .resolving], [some .resolving, some .finalized],
      [some .resolving, some .voided]]
  | some state => [[some state]]

theorem self_mem_lifecycles (state : Option AuctionState) : [state] ∈ lifecycles state := by
  rcases state with _ | state
  · decide
  · cases state <;> decide

theorem cons_mem_lifecycles {state next : Option AuctionState} (edge : follows state next = true) :
    ∀ path ∈ lifecycles next, state :: path ∈ lifecycles state := by
  rcases state with _ | state <;> rcases next with _ | next
  · cases edge
  · cases next <;> first
      | decide
      | cases edge
  · cases state <;> cases edge
  · cases state <;> cases next <;> first
      | decide
      | cases edge

theorem lifecycles_prefix : ∀ path ∈ lifecycles none,
    path <+: [none, some .active, some .cancelled] ∨
      path <+: [none, some .active, some .resolving, some .finalized] ∨
      path <+: [none, some .active, some .resolving, some .voided] := by
  decide

/-- A sequence that repeats its state or moves along an edge goes through a lifecycle. -/
theorem destutter_mem_lifecycles (state : Option AuctionState) (rest : List (Option AuctionState))
    (chain : List.IsChain (fun before after => after = before ∨ follows before after = true)
      (state :: rest)) : rest.destutter' (· ≠ ·) state ∈ lifecycles state := by
  induction rest generalizing state with
  | nil => exact self_mem_lifecycles state
  | cons next rest ih =>
    obtain ⟨move, chain⟩ := List.isChain_cons_cons.mp chain
    have later := ih next chain
    by_cases same : state = next
    · subst same
      rw [List.destutter'_cons_neg _ (not_not.mpr rfl)]
      exact later
    · rw [List.destutter'_cons_pos _ same]
      rcases move with kept | edge
      · exact absurd kept.symm same
      · exact cons_mem_lifecycles edge _ later

/-- A step stays in its state or moves along an edge. -/
theorem AuctionStep.observed {refundKey : Bytes32 → Bytes32} {auctionId : AuctionId} {now : ℕ}
    {flow : Flow} {v next : AuctionView} (step : AuctionStep refundKey auctionId now flow v next) :
    next.observed = v.observed ∨ follows v.observed next.observed = true := by
  unfold AuctionView.observed
  cases step with
  | created _ _ _ _ _ _ _ _ _ fresh => exact .inr (by rw [fresh]; rfl)
  | finalizeTriggered _ _ _ _ found active => exact .inr (by rw [found, active]; simp [found, follows])
  | resolved _ _ _ found resolving => exact .inr (by rw [found, resolving]; simp [found, follows])
  | shieldedResolved _ _ _ _ _ found resolving =>
    exact .inr (by rw [found, resolving]; simp [found, follows])
  | cancelled _ found active => exact .inr (by rw [found, active]; simp [found, follows])
  | voided _ _ _ found resolving => exact .inr (by rw [found, resolving]; simp [found, follows])
  | _ => exact .inl rfl

theorem World.transact_stateOf {env : External σ} {w next : World σ} {input : Msg × Tx σ} (wired : w.Wired env)
    (done : w.transact env input = .ok next) (auctionId : AuctionId) :
    next.Wired env ∧ (next.stateOf auctionId = w.stateOf auctionId ∨
      follows (w.stateOf auctionId) (next.stateOf auctionId) = true) := by
  obtain ⟨kept, -, -, touched, flow, transition⟩ := World.transact_transition wired done
  refine ⟨kept, ?_⟩
  by_cases same : auctionId = touched
  · subst same
    rcases transition.step with ⟨-, unchanged⟩ | step
    · exact .inl (congrArg AuctionView.observed unchanged)
    · exact step.observed
  · exact .inl (congrArg AuctionView.observed (transition.others auctionId same))

/-- What an auction's state has been after each attempted transaction of a run. -/
def Deployment.states (deployment : Deployment) (env : External σ) (outside : σ)
    (inputs : List (Msg × Tx σ)) (auctionId : AuctionId) : List (Option AuctionState) :=
  (visited (World.transact env) (deployment.genesis env outside) inputs).map (·.stateOf auctionId)

theorem Deployment.states_lifecycle (deployment : Deployment) (env : External σ) (outside : σ)
    (inputs : List (Msg × Tx σ)) (auctionId : AuctionId) :
    (deployment.states env outside inputs auctionId).destutter (· ≠ ·) ∈ lifecycles none := by
  have preserved : ∀ (w : World σ) input next, w.Wired env → w.transact env input = .ok next →
      next.Wired env ∧ (next.stateOf auctionId = w.stateOf auctionId ∨
        follows (w.stateOf auctionId) (next.stateOf auctionId) = true) :=
    fun _ _ _ wired done => World.transact_stateOf wired done auctionId
  obtain ⟨rest, same, chain⟩ := visited_isChain (fun _ => .inl rfl) preserved
    (deployment.genesis_wired env outside) inputs
  have mapped := List.isChain_map_of_isChain (S := fun before after =>
    after = before ∨ follows before after = true) (World.stateOf · auctionId) (fun _ _ move => move) chain
  rw [states, same]
  exact destutter_mem_lifecycles _ _ mapped

/-- The bids of an auction as stored, and its public escrow total. -/
structure BidBook where
  encryptedBids : Address → Bytes32
  knownBidders : Address → Bool
  bidders : List Address
  shieldedEncryptedBids : Bytes32 → Bytes32
  knownShieldedCommitments : Bytes32 → Bool
  shieldedCommitments : List Bytes32
  bidCount : ℕ
  totalEscrow : ℕ

def AuctionStorage.bidBook (cell : AuctionStorage) : BidBook where
  encryptedBids := cell.encryptedBids
  knownBidders := cell.knownBidders
  bidders := cell.bidders
  shieldedEncryptedBids := cell.shieldedEncryptedBids
  knownShieldedCommitments := cell.knownShieldedCommitments
  shieldedCommitments := cell.shieldedCommitments
  bidCount := cell.auction.bidCount
  totalEscrow := cell.auction.totalEscrow

namespace AuctionView

/-- Bids and escrow are taken. -/
def Open (v : AuctionView) (now : ℕ) : Prop :=
  v.cell.auction.state = .active ∧ now < v.cell.auction.endTime

@[simp] theorem opened_bidBook (v : AuctionView) : v.opened.cell.bidBook = v.cell.bidBook :=
  opened_same v (·.cell.bidBook) fun _ _ => rfl

end AuctionView

section Frozen

variable {refundKey : Bytes32 → Bytes32} {auctionId : AuctionId} {start now : ℕ} {flow : Flow}
  {first v next : AuctionView}

/-- What a step of a closed auction leaves alone: its end and its book, its escrow
but for withdrawals, and all of its escrow while it is not settled. -/
structure Frozen (v next : AuctionView) : Prop where
  found : next.cell.auction.exists_ = true
  endTime : next.cell.auction.endTime = v.cell.auction.endTime
  bidBook : next.cell.bidBook = v.cell.bidBook
  escrow : ∀ p, next.cell.escrowBalances p ≤ v.cell.escrowBalances p
  shielded : next.shieldedTotal ≤ v.shieldedTotal
  unsettled : next.cell.auction.state.terminal = false → v.cell.auction.state.terminal = false ∧
    next.cell.escrowBalances = v.cell.escrowBalances ∧ next.shieldedTotal = v.shieldedTotal

theorem Frozen.trans {middle : AuctionView} (before : Frozen v middle) (after : Frozen middle next) :
    Frozen v next where
  found := after.found
  endTime := after.endTime.trans before.endTime
  bidBook := after.bidBook.trans before.bidBook
  escrow := fun p => (after.escrow p).trans (before.escrow p)
  shielded := after.shielded.trans before.shielded
  unsettled := fun running => by
    obtain ⟨stillRunning, escrow, shielded⟩ := after.unsettled running
    obtain ⟨wasRunning, sameEscrow, sameShielded⟩ := before.unsettled stillRunning
    exact ⟨wasRunning, escrow.trans sameEscrow, shielded.trans sameShielded⟩

/-- Steps that touch neither the book nor any escrow. -/
theorem Frozen.of_eq (found : next.cell.auction.exists_ = true)
    (endTime : next.cell.auction.endTime = v.cell.auction.endTime)
    (bidBook : next.cell.bidBook = v.cell.bidBook)
    (escrow : next.cell.escrowBalances = v.cell.escrowBalances)
    (shielded : next.shieldedTotal = v.shieldedTotal)
    (unsettled : next.cell.auction.state.terminal = false → v.cell.auction.state.terminal = false) :
    Frozen v next :=
  ⟨found, endTime, bidBook, fun p => (congrFun escrow p).le, shielded.le,
    fun running => ⟨unsettled running, escrow, shielded⟩⟩

theorem Frozen.emit (frozen : Frozen v next) (event : Event) : Frozen v (next.emit event) :=
  ⟨frozen.found, frozen.endTime, frozen.bidBook, frozen.escrow, frozen.shielded, frozen.unsettled⟩

theorem Frozen.opened (frozen : Frozen v next) : Frozen v next.opened where
  found := by simpa using frozen.found
  endTime := by simpa using frozen.endTime
  bidBook := by simpa using frozen.bidBook
  escrow := by simpa using frozen.escrow
  shielded := by simpa using frozen.shielded
  unsettled := by simpa using frozen.unsettled

theorem Frozen.slashed (frozen : Frozen v next) (slashAmount : ℕ) :
    Frozen v (next.slashed slashAmount) where
  found := frozen.found
  endTime := frozen.endTime
  bidBook := frozen.bidBook
  escrow := frozen.escrow
  shielded := by simpa using frozen.shielded
  unsettled := by simpa using frozen.unsettled

theorem AuctionStep.frozen (step : AuctionStep refundKey auctionId now flow v next)
    (found : v.cell.auction.exists_ = true) (closed : ¬ v.Open now) : Frozen v next := by
  cases step with
  | created _ _ _ _ _ _ _ _ _ fresh =>
    rw [fresh] at found
    cases found
  | escrowLocked _ _ _ active early => exact absurd ⟨active, early⟩ closed
  | shieldedEscrowLocked _ _ _ _ _ active early => exact absurd ⟨active, early⟩ closed
  | bidPlaced _ _ _ _ active early => exact absurd ⟨active, early⟩ closed
  | shieldedBidPlaced _ _ _ _ active early => exact absurd ⟨active, early⟩ closed
  | finalizeTriggered _ _ _ _ _ active =>
    exact .of_eq found rfl rfl rfl rfl fun _ => by rw [active]; rfl
  | resolutionRejected => exact .of_eq found rfl rfl rfl rfl id
  | resolved =>
    refine .opened (.emit (.emit (.of_eq ?_ ?_ ?_ ?_ ?_ ?_) _) _)
    exacts [found, rfl, rfl, rfl, rfl, fun running => Bool.noConfusion running]
  | shieldedResolved lane _ _ _ _ _ _ vault =>
    refine .opened (.emit (.emit ⟨?_, ?_, ?_, ?_, ?_, ?_⟩ _) _)
    exacts [found, rfl, rfl, fun _ => le_rfl, by simp [AuctionView.shieldedTotal, vault],
      fun running => Bool.noConfusion running]
  | cancelled =>
    refine .emit (.opened (.slashed (.emit (.of_eq ?_ ?_ ?_ ?_ ?_ ?_) _) _)) _
    exacts [found, rfl, rfl, rfl, rfl, fun running => Bool.noConfusion running]
  | voided =>
    refine .emit (.emit (.opened (.slashed (.emit (.of_eq ?_ ?_ ?_ ?_ ?_ ?_) _) _)) _) _
    exacts [found, rfl, rfl, rfl, rfl, fun running => Bool.noConfusion running]
  | refundClaimed claimant _ _ _ some =>
    have due := AuctionView.refundOf_ne_zero some
    refine ⟨found, rfl, rfl, fun p => ?_, le_rfl, fun running => ?_⟩
    · simp only [AuctionView.emit_cell, if_neg due]
      by_cases same : p = claimant
      · rw [same, Function.update_self]
        exact Nat.zero_le _
      · rw [Function.update_of_ne same]
    · exact absurd ((AuctionView.terminal_of_refundOf due).symm.trans running) Bool.noConfusion
  | sellerProceedsClaimed => exact .of_eq found rfl rfl rfl rfl id
  | finalizeRewardClaimed => exact .of_eq found rfl rfl rfl rfl id
  | assetClaimed => exact .of_eq found rfl rfl rfl rfl id
  | shieldedRefunded lane _ _ _ _ terminal vault =>
    refine ⟨found, rfl, rfl, fun p => le_rfl, ?_, fun running => ?_⟩
    · change lane.total - _ ≤ _
      simp [AuctionView.shieldedTotal, vault]
    · exact absurd (terminal.symm.trans running) Bool.noConfusion

/-- A history that starts at the auction's end or later. -/
theorem AuctionRun.frozen (run : AuctionRun refundKey auctionId start first now v)
    (found : first.cell.auction.exists_ = true) (late : first.cell.auction.endTime ≤ start) :
    Frozen first v := by
  induction run with
  | here => exact .of_eq found rfl rfl rfl rfl id
  | wait _ _ ih => exact ih
  | step earlier monotone step ih =>
    refine ih.trans (step.frozen ih.found fun open_ => ?_)
    have early := open_.2
    have started := earlier.start_le
    rw [ih.endTime] at early
    omega

end Frozen

/-- What a settled auction has decided. -/
structure Outcome where
  state : AuctionState
  winner : Address
  winningAmount : ℕ
  winnerCiphertext : Bytes32
  winningCommitment : Bytes32
  slashAmount : ℕ

def AuctionStorage.outcome (cell : AuctionStorage) : Outcome where
  state := cell.auction.state
  winner := cell.auction.winner
  winningAmount := cell.auction.winningAmount
  winnerCiphertext := cell.auction.winnerCiphertext
  winningCommitment := cell.winningCommitment
  slashAmount := cell.auction.slashAmount

section Outcome

variable {refundKey : Bytes32 → Bytes32} {auctionId : AuctionId} {start now : ℕ} {flow : Flow}
  {first v next : AuctionView}

theorem AuctionStep.outcome_eq (step : AuctionStep refundKey auctionId now flow v next)
    (found : v.cell.auction.exists_ = true) (terminal : v.cell.auction.state.terminal = true) :
    next.cell.auction.exists_ = true ∧ next.cell.outcome = v.cell.outcome := by
  have running : ∀ state, v.cell.auction.state = state → state.terminal = false → False :=
    fun state same running => Bool.noConfusion (terminal.symm.trans (same ▸ running))
  cases step with
  | created _ _ _ _ _ _ _ _ _ fresh =>
    rw [fresh] at found
    cases found
  | escrowLocked _ _ _ active => exact (running _ active rfl).elim
  | shieldedEscrowLocked _ _ _ _ _ active => exact (running _ active rfl).elim
  | bidPlaced _ _ _ _ active => exact (running _ active rfl).elim
  | shieldedBidPlaced _ _ _ _ active => exact (running _ active rfl).elim
  | finalizeTriggered _ _ _ _ _ active => exact (running _ active rfl).elim
  | resolutionRejected _ resolving => exact (running _ resolving rfl).elim
  | resolved _ _ _ _ resolving => exact (running _ resolving rfl).elim
  | shieldedResolved _ _ _ _ _ _ resolving => exact (running _ resolving rfl).elim
  | cancelled _ _ active => exact (running _ active rfl).elim
  | voided _ _ _ _ resolving => exact (running _ resolving rfl).elim
  | _ => exact ⟨found, rfl⟩

theorem AuctionRun.outcome_eq (run : AuctionRun refundKey auctionId start first now v)
    (found : first.cell.auction.exists_ = true) (terminal : first.cell.auction.state.terminal = true) :
    v.cell.auction.exists_ = true ∧ v.cell.outcome = first.cell.outcome := by
  induction run with
  | here => exact ⟨found, rfl⟩
  | wait _ _ ih => exact ih
  | step _ _ step ih =>
    have settled := (congrArg (fun outcome : Outcome => outcome.state.terminal) ih.2).trans terminal
    obtain ⟨kept, same⟩ := step.outcome_eq ih.1 settled
    exact ⟨kept, same.trans ih.2⟩

end Outcome

namespace Event

def isRefundTo (auctionId : AuctionId) (claimant : Address) : Event → Bool
  | .refundClaimed about recipient _ _ => about = auctionId ∧ recipient = claimant
  | _ => false

def isShieldedRefundOf (auctionId : AuctionId) (commitmentHash : Bytes32) : Event → Bool
  | .shieldedRefundClaimed about commitment _ _ _ => about = auctionId ∧ commitment = commitmentHash
  | _ => false

def isSellerProceeds (auctionId : AuctionId) : Event → Bool
  | .sellerProceedsClaimed about _ _ => about = auctionId
  | _ => false

def isFinalizeReward (auctionId : AuctionId) : Event → Bool
  | .finalizeRewardClaimed about _ _ => about = auctionId
  | _ => false

def isAssetRelease (auctionId : AuctionId) : Event → Bool
  | .assetReleased about _ => about = auctionId
  | _ => false

end Event

/-- The auction's token has left the market. -/
def AuctionView.assetGone (v : AuctionView) : Bool :=
  v.cell.auction.state = .cancelled ∨ v.cell.auction.state = .voided ∨ v.cell.auction.assetClaimed

/-- Each entitlement's flag counts its releases. -/
structure Counted (refundKey : Bytes32 → Bytes32) (auctionId : AuctionId) (v : AuctionView) : Prop where
  refunds : ∀ p, v.log.countP (Event.isRefundTo auctionId p) = (v.cell.hasWithdrawn p).toNat
  shieldedRefunds : ∀ c, v.log.countP (Event.isShieldedRefundOf auctionId c) ≤
    (v.cell.shieldedRefundClaimed (refundKey c)).toNat
  sellerProceeds : v.log.countP (Event.isSellerProceeds auctionId) = v.cell.auction.sellerClaimed.toNat
  finalizeReward :
    v.log.countP (Event.isFinalizeReward auctionId) = v.cell.finalizationRewardClaimed.toNat
  assetRelease : v.log.countP (Event.isAssetRelease auctionId) = v.assetGone.toNat

namespace Counted

variable {refundKey : Bytes32 → Bytes32} {auctionId : AuctionId} {now : ℕ} {flow : Flow}
  {v next : AuctionView}

/-- The events that release nothing. -/
def silent : Event → Bool
  | .refundClaimed .. | .shieldedRefundClaimed .. | .sellerProceedsClaimed .. | .finalizeRewardClaimed ..
  | .assetReleased .. => false
  | _ => true

theorem emit (counted : Counted refundKey auctionId v) {event : Event} (quiet : silent event = true) :
    Counted refundKey auctionId (v.emit event) := by
  cases event <;> first
    | exact ⟨counted.refunds, counted.shieldedRefunds, counted.sellerProceeds, counted.finalizeReward,
        counted.assetRelease⟩
    | cases quiet

theorem opened (counted : Counted refundKey auctionId v) : Counted refundKey auctionId v.opened where
  refunds := by simpa using counted.refunds
  shieldedRefunds := by simpa using counted.shieldedRefunds
  sellerProceeds := by simpa using counted.sellerProceeds
  finalizeReward := by simpa using counted.finalizeReward
  assetRelease := by simpa [AuctionView.assetGone] using counted.assetRelease

theorem refundClaimed (counted : Counted refundKey auctionId v) {claimant : Address}
    (unclaimed : v.cell.hasWithdrawn claimant = false) (escrowRefund compensation : ℕ)
    (escrowBalances : Address → ℕ) :
    Counted refundKey auctionId ({ v with cell := { v.cell with
      hasWithdrawn := Function.update v.cell.hasWithdrawn claimant true
      escrowBalances } }.emit (.refundClaimed auctionId claimant escrowRefund compensation)) where
  refunds := by
    intro p
    have before := counted.refunds p
    by_cases same : claimant = p
    · subst same
      rw [unclaimed] at before
      simp [Event.isRefundTo, before]
    · simp [Event.isRefundTo, same, Ne.symm same, before]
  shieldedRefunds := counted.shieldedRefunds
  sellerProceeds := counted.sellerProceeds
  finalizeReward := counted.finalizeReward
  assetRelease := counted.assetRelease

theorem shieldedRefunded (counted : Counted refundKey auctionId v) {commitmentHash : Bytes32}
    (unclaimed : v.cell.shieldedRefundClaimed (refundKey commitmentHash) = false) (recipient : Address)
    (principal compensation : ℕ) (lane : Option Lane) :
    Counted refundKey auctionId ({ v with
      cell := { v.cell with
        shieldedRefundClaimed :=
          Function.update v.cell.shieldedRefundClaimed (refundKey commitmentHash) true }
      lane }.emit (.shieldedRefundClaimed auctionId commitmentHash recipient principal
        compensation)) where
  refunds := counted.refunds
  shieldedRefunds := by
    intro c
    have before := counted.shieldedRefunds c
    by_cases same : commitmentHash = c
    · subst same
      rw [unclaimed] at before
      simpa [Event.isShieldedRefundOf] using before
    · by_cases collides : refundKey c = refundKey commitmentHash
      · rw [collides, unclaimed] at before
        simp only [AuctionView.emit_log, AuctionView.emit_cell, Event.isShieldedRefundOf, same, and_false,
          decide_false, List.countP_cons_of_neg, Bool.false_eq_true, not_false_eq_true]
        exact before.trans (Nat.zero_le _)
      · simpa [Event.isShieldedRefundOf, same, Function.update_of_ne collides] using before
  sellerProceeds := counted.sellerProceeds
  finalizeReward := counted.finalizeReward
  assetRelease := counted.assetRelease

/-- Once an auction is settled its token counts as gone exactly when it was released. -/
theorem Bidding.assetGone_eq (bidding : Bidding v) : v.assetGone = false := by
  unfold AuctionView.assetGone
  rw [bidding.assetHeld]
  rcases bidding.running with active | resolving
  · rw [active]
    rfl
  · rw [resolving]
    rfl

theorem step (step : AuctionStep refundKey auctionId now flow v next) (sound : Sound v)
    (counted : Counted refundKey auctionId v) : Counted refundKey auctionId next := by
  have held : Bidding v → v.log.countP (Event.isAssetRelease auctionId) = 0 := fun bidding => by
    rw [counted.assetRelease, Bidding.assetGone_eq bidding]
    rfl
  cases step with
  | created => exact ⟨fun _ => rfl, fun _ => Nat.zero_le _, rfl, rfl, rfl⟩
  | escrowLocked =>
    refine emit ?_ rfl
    exact ⟨counted.1, counted.2, counted.3, counted.4, counted.5⟩
  | shieldedEscrowLocked =>
    refine emit (emit ?_ rfl) rfl
    exact ⟨counted.1, counted.2, counted.3, counted.4, counted.5⟩
  | bidPlaced =>
    refine emit ?_ rfl
    exact ⟨counted.1, counted.2, counted.3, counted.4, counted.5⟩
  | shieldedBidPlaced =>
    refine emit ?_ rfl
    exact ⟨counted.1, counted.2, counted.3, counted.4, counted.5⟩
  | finalizeTriggered _ _ _ _ found active =>
    have bidding := sound.bidding_of_active found active
    refine emit (emit ?_ rfl) rfl
    refine ⟨counted.1, counted.2, counted.3, counted.4, (held bidding).trans ?_⟩
    simp [AuctionView.assetGone, bidding.assetHeld]
  | resolutionRejected => exact emit counted rfl
  | resolved _ _ _ found resolving =>
    have bidding := sound.bidding_of_resolving found resolving
    refine opened (emit (emit ?_ rfl) rfl)
    refine ⟨counted.1, counted.2, counted.3, counted.4, (held bidding).trans ?_⟩
    simp [AuctionView.assetGone, bidding.assetHeld]
  | shieldedResolved _ _ _ _ _ found resolving =>
    have bidding := sound.bidding_of_resolving found resolving
    refine opened (emit (emit ?_ rfl) rfl)
    refine ⟨counted.1, counted.2, counted.3, counted.4, (held bidding).trans ?_⟩
    simp [AuctionView.assetGone, bidding.assetHeld]
  | cancelled _ found active =>
    have none := held (sound.bidding_of_active found active)
    refine ⟨?_, ?_, ?_, ?_, ?_⟩
    · simpa [Event.isRefundTo] using counted.refunds
    · simpa [Event.isShieldedRefundOf] using counted.shieldedRefunds
    · simpa [Event.isSellerProceeds] using counted.sellerProceeds
    · simpa [Event.isFinalizeReward] using counted.finalizeReward
    · simpa [Event.isAssetRelease, AuctionView.assetGone] using none
  | voided _ _ _ found resolving =>
    have none := held (sound.bidding_of_resolving found resolving)
    refine emit ?_ rfl
    refine ⟨?_, ?_, ?_, ?_, ?_⟩
    · simpa [Event.isRefundTo] using counted.refunds
    · simpa [Event.isShieldedRefundOf] using counted.shieldedRefunds
    · simpa [Event.isSellerProceeds] using counted.sellerProceeds
    · simpa [Event.isFinalizeReward] using counted.finalizeReward
    · simpa [Event.isAssetRelease, AuctionView.assetGone] using none
  | refundClaimed _ _ _ unclaimed => exact counted.refundClaimed unclaimed _ _ _
  | sellerProceedsClaimed _ unclaimed =>
    have before := counted.sellerProceeds
    rw [unclaimed] at before
    refine ⟨counted.1, counted.2, ?_, counted.4, counted.5⟩
    simp [Event.isSellerProceeds, before]
  | finalizeRewardClaimed _ unclaimed =>
    have before := counted.finalizeReward
    rw [unclaimed] at before
    refine ⟨counted.1, counted.2, counted.3, ?_, counted.5⟩
    simp [Event.isFinalizeReward, before]
  | assetClaimed _ _ finalized unclaimed =>
    have before := counted.assetRelease
    rw [AuctionView.assetGone, finalized, unclaimed] at before
    refine ⟨counted.1, counted.2, counted.3, counted.4, ?_⟩
    simp [Event.isAssetRelease, AuctionView.assetGone] at before ⊢
    exact before
  | shieldedRefunded _ _ _ _ _ _ _ _ unclaimed => exact counted.shieldedRefunded unclaimed _ _ _ _

end Counted

theorem Reachable.counted {refundKey : Bytes32 → Bytes32} {auctionId : AuctionId} {v : AuctionView}
    (reachable : Reachable refundKey auctionId v) : Counted refundKey auctionId v := by
  obtain ⟨now, run⟩ := reachable
  have kept : ∀ now flow v next, AuctionStep refundKey auctionId now flow v next →
      Sound v ∧ Counted refundKey auctionId v → Sound next ∧ Counted refundKey auctionId next :=
    fun _ _ _ _ step before => ⟨before.1.step step, before.2.step step before.1⟩
  exact (run.preserves kept
    ⟨.inl rfl, fun _ => rfl, fun _ => Nat.zero_le _, rfl, rfl, rfl⟩).2

/-- The events about an auction are those its view holds. -/
theorem World.countP_view (w : World σ) (auctionId : AuctionId) {counts : Event → Bool}
    (about : ∀ event, counts event = true → event.auctionId = auctionId) :
    w.log.countP counts = (w.view auctionId).log.countP counts := by
  rw [World.view, List.countP_filter]
  refine List.countP_congr fun event _ => ?_
  constructor
  · intro counted
    rw [counted, Bool.true_and]
    exact decide_eq_true (about event counted)
  · intro both
    exact (Bool.and_eq_true_iff.mp both).1

theorem Sound.request_iff {v : AuctionView} (sound : Sound v) :
    v.cell.resolutionRequest.exists_ = true ↔ v.cell.auction.state = .resolving := by
  rcases sound with rfl | bidding | settled
  · exact ⟨nofun, nofun⟩
  · exact bidding.request
  · rw [settled.noRequest]
    refine ⟨nofun, fun resolving => ?_⟩
    have terminal := settled.terminal
    rw [resolving] at terminal
    cases terminal

/-- The life of every auction in every run. The states it goes through are a prefix
of one of three sequences; its bid book and escrow are written only while it is open
and are frozen from its end until it settles; a resolution request is pending
exactly while it resolves; the outcome it settles with stays; and every entitlement
is released at most once. -/
theorem auction_lifecycle (deployment : Deployment) (env : External σ) (outside : σ)
    (auctionId : AuctionId) :
    (∀ inputs,
      let path := (deployment.states env outside inputs auctionId).destutter (· ≠ ·)
      path <+: [none, some .active, some .cancelled] ∨
        path <+: [none, some .active, some .resolving, some .finalized] ∨
        path <+: [none, some .active, some .resolving, some .voided]) ∧
    (∀ inputs msg tx next,
      let w := deployment.run env outside inputs
      w.transact env (msg, tx) = .ok next → (w.market.auctions auctionId).auction.exists_ = true →
      ¬ ((w.market.auctions auctionId).auction.state = .active ∧
        msg.timestamp < (w.market.auctions auctionId).auction.endTime) →
      (next.market.auctions auctionId).bidBook = (w.market.auctions auctionId).bidBook ∧
        (∀ p, (next.market.auctions auctionId).escrowBalances p ≤
          (w.market.auctions auctionId).escrowBalances p) ∧
        (next.view auctionId).shieldedTotal ≤ (w.view auctionId).shieldedTotal) ∧
    (∀ before after,
      let w := deployment.run env outside before
      let last := deployment.run env outside (before ++ after)
      (w.market.auctions auctionId).auction.exists_ = true →
      (∀ input ∈ after, (w.market.auctions auctionId).auction.endTime ≤
        max w.timestamp input.1.timestamp) →
      (last.market.auctions auctionId).bidBook = (w.market.auctions auctionId).bidBook ∧
        ((last.market.auctions auctionId).auction.state.terminal = false →
          (last.market.auctions auctionId).escrowBalances =
              (w.market.auctions auctionId).escrowBalances ∧
            (last.view auctionId).shieldedTotal = (w.view auctionId).shieldedTotal)) ∧
    (∀ inputs,
      let w := deployment.run env outside inputs
      ((w.market.auctions auctionId).resolutionRequest.exists_ = true ↔
        (w.market.auctions auctionId).auction.state = .resolving)) ∧
    (∀ before after,
      let w := deployment.run env outside before
      let last := deployment.run env outside (before ++ after)
      (w.market.auctions auctionId).auction.exists_ = true →
      (w.market.auctions auctionId).auction.state.terminal = true →
      (last.market.auctions auctionId).outcome = (w.market.auctions auctionId).outcome) ∧
    ∀ inputs,
      let log := (deployment.run env outside inputs).log
      (∀ claimant, log.countP (Event.isRefundTo auctionId claimant) ≤ 1) ∧
        (∀ commitmentHash, log.countP (Event.isShieldedRefundOf auctionId commitmentHash) ≤ 1) ∧
        log.countP (Event.isSellerProceeds auctionId) ≤ 1 ∧
        log.countP (Event.isFinalizeReward auctionId) ≤ 1 ∧
        log.countP (Event.isAssetRelease auctionId) ≤ 1 := by
  refine ⟨?_, ?_, ?_, ?_, ?_, ?_⟩
  · intro inputs
    exact lifecycles_prefix _ (deployment.states_lifecycle env outside inputs auctionId)
  · intro inputs msg tx next w done found closed
    obtain ⟨-, -, -, touched, flow, transition⟩ :=
      World.transact_transition (deployment.run_wired env outside inputs) done
    have frozen : Frozen (w.view auctionId) (next.view auctionId) := by
      by_cases same : auctionId = touched
      · subst same
        rcases transition.step with ⟨-, kept⟩ | step
        · rw [kept]
          exact .of_eq found rfl rfl rfl rfl id
        · exact step.frozen found closed
      · rw [transition.others auctionId same]
        exact .of_eq found rfl rfl rfl rfl id
    exact ⟨frozen.bidBook, frozen.escrow, frozen.shielded⟩
  · intro before after w last found late
    have history := (deployment.run_wired env outside before).play_run_from after late auctionId
    have frozen := history.frozen found (Nat.le_max_left ..)
    rw [← deployment.run_append_eq] at frozen
    exact ⟨frozen.bidBook, fun running => (frozen.unsettled running).2⟩
  · intro inputs w
    exact (deployment.run_reachable env outside inputs auctionId).sound.request_iff
  · intro before after w last found terminal
    exact ((deployment.run_append env outside before after auctionId).outcome_eq found terminal).2
  · intro inputs log
    have counted := (deployment.run_reachable env outside inputs auctionId).counted
    have once : ∀ counts : Event → Bool, (∀ event, counts event = true → event.auctionId = auctionId) →
        ∀ flag : Bool, ((deployment.run env outside inputs).view auctionId).log.countP counts ≤
          flag.toNat → log.countP counts ≤ 1 := fun counts about flag bounded => by
      rw [World.countP_view _ auctionId about]
      exact bounded.trans (Bool.toNat_le flag)
    refine ⟨fun p => once _ ?_ _ (counted.refunds p).le, fun c => once _ ?_ _ (counted.shieldedRefunds c),
      once _ ?_ _ counted.sellerProceeds.le, once _ ?_ _ counted.finalizeReward.le,
      once _ ?_ _ counted.assetRelease.le⟩
    all_goals
      intro event released
      cases event <;> first
        | cases released
        | simp only [Event.isRefundTo, Event.isShieldedRefundOf, Event.isSellerProceeds,
            Event.isFinalizeReward, Event.isAssetRelease, decide_eq_true_eq] at released
          simp only [Event.auctionId, released]

end FairMarket
