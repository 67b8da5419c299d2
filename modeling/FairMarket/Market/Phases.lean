import FairMarket.Market.Runs
import FairMarket.Lib.Ledger

/-! The two phases of an auction, before and after it settles, with what holds in each. -/

namespace FairMarket

/-- The keeper's reward of an auction that went through resolution. -/
def keeperReward (sellerDeposit : ℕ) : ℕ := sellerDeposit * 20 / 10000

theorem keeperReward_lt {sellerDeposit : ℕ} (deposited : sellerDeposit ≠ 0) :
    keeperReward sellerDeposit < sellerDeposit := by
  unfold keeperReward
  omega

/-- An auction that takes bids or waits for its resolution. -/
structure Bidding (v : AuctionView) : Prop where
  found : v.cell.auction.exists_ = true
  running : v.cell.auction.state = .active ∨ v.cell.auction.state = .resolving
  deposited : v.cell.auction.sellerDeposit ≠ 0
  reward : v.cell.auction.state = .resolving →
    v.cell.finalizationReward = keeperReward v.cell.auction.sellerDeposit
  noReward : v.cell.auction.state = .active → v.cell.finalizationReward = 0
  request : v.cell.resolutionRequest.exists_ = true ↔ v.cell.auction.state = .resolving
  noEscrowAtZero : v.cell.escrowBalances 0 = 0
  escrow : ∑ p, v.cell.escrowBalances p = v.cell.auction.totalEscrow
  unslashed : v.cell.auction.slashAmount = 0
  sellerUnpaid : v.cell.auction.sellerClaimed = false
  rewardUnpaid : v.cell.finalizationRewardClaimed = false
  assetHeld : v.cell.auction.assetClaimed = false
  unwithdrawn : ∀ p, v.cell.hasWithdrawn p = false
  unrefunded : ∀ key, v.cell.shieldedRefundClaimed key = false
  undecided : v.cell.auction.winner = 0 ∧ v.cell.auction.winningAmount = 0 ∧ v.cell.winningCommitment = 0
  pot : v.pot = {}
  reserve : v.reserve = 0
  locked : v.cell.shieldedRefundsUnlocked = false

/-- An auction that is finalized, cancelled or voided. -/
structure Settled (v : AuctionView) : Prop where
  found : v.cell.auction.exists_ = true
  terminal : v.cell.auction.state.terminal = true
  deposited : v.cell.auction.sellerDeposit ≠ 0
  reward : v.cell.auction.state ≠ .cancelled →
    v.cell.finalizationReward = keeperReward v.cell.auction.sellerDeposit
  noRequest : v.cell.resolutionRequest.exists_ = false
  bounded : v.cell.auction.slashAmount ≤ v.cell.auction.sellerDeposit
  unslashed : v.cell.auction.state = .finalized → v.cell.auction.slashAmount = 0
  voided : v.cell.auction.state = .voided → v.cell.auction.slashAmount = 0 → v.totalEscrow = 0
  pot : v.pot = {} ∨ v.cell.auction.slashAmount ≠ 0 ∧ v.pot.totalEscrow = v.cell.auction.totalEscrow
  withdrawn : ∀ p, v.cell.hasWithdrawn p = true → v.cell.escrowBalances p = 0
  drained : v.shieldedTotal = 0 → v.reserve = 0
  oneWinner : v.cell.auction.winner ≠ 0 → v.cell.winningCommitment = 0
  undecided : v.cell.auction.state ≠ .finalized →
    v.cell.auction.winner = 0 ∧ v.cell.winningCommitment = 0 ∧ v.cell.auction.assetClaimed = false
  unlocked : ∀ lane, v.lane = some lane →
    lane.unlocked = true ∧ v.cell.shieldedRefundsUnlocked = true

/-- An id is either not handed out or names an auction in one of its phases. -/
def Sound (v : AuctionView) : Prop := v = {} ∨ Bidding v ∨ Settled v

theorem AuctionState.terminal_cases {state : AuctionState} (terminal : state.terminal = true) :
    state = .finalized ∨ state = .cancelled ∨ state = .voided := by
  cases state <;> first
    | exact .inl rfl
    | exact .inr (.inl rfl)
    | exact .inr (.inr rfl)
    | cases terminal

namespace Bidding

variable {v : AuctionView}

theorem not_terminal (bidding : Bidding v) : v.cell.auction.state.terminal = false := by
  rcases bidding.running with active | resolving
  · rw [active]
    rfl
  · rw [resolving]
    rfl

theorem refundOf_eq (bidding : Bidding v) (claimant : Address) : v.refundOf claimant = 0 := by
  unfold AuctionView.refundOf AuctionStorage.refundOf
  rcases bidding.running with active | resolving
  · rw [active]
  · rw [resolving]

theorem compensationOf_eq (bidding : Bidding v) (claimant : Address) :
    v.compensationOf claimant = 0 := by
  unfold AuctionView.compensationOf AuctionStorage.compensationOf
  rcases bidding.running with active | resolving
  · rw [active]
  · rw [resolving]

theorem sellerPayout_eq (bidding : Bidding v) : v.sellerPayout = 0 := by
  unfold AuctionView.sellerPayout
  rcases bidding.running with active | resolving
  · rw [active]
  · rw [resolving]

end Bidding

namespace Sound

variable {v : AuctionView}

theorem bidding_of_active (sound : Sound v) (found : v.cell.auction.exists_ = true)
    (active : v.cell.auction.state = .active) : Bidding v := by
  rcases sound with rfl | bidding | settled
  · cases found
  · exact bidding
  · have terminal := settled.terminal
    rw [active] at terminal
    cases terminal

theorem bidding_of_resolving (sound : Sound v) (found : v.cell.auction.exists_ = true)
    (resolving : v.cell.auction.state = .resolving) : Bidding v := by
  rcases sound with rfl | bidding | settled
  · cases found
  · exact bidding
  · have terminal := settled.terminal
    rw [resolving] at terminal
    cases terminal

theorem settled_of_terminal (sound : Sound v) (found : v.cell.auction.exists_ = true)
    (terminal : v.cell.auction.state.terminal = true) : Settled v := by
  rcases sound with rfl | bidding | settled
  · cases found
  · rw [bidding.not_terminal] at terminal
    cases terminal
  · exact settled

end Sound

theorem bidding_created {nftContract seller : Address}
    {tokenId endTime sellerDeposit startingPrice now : ℕ} {isVickrey : Bool}
    {dependencySnapshot : AuctionDependencySnapshot} {lane : Option Lane} {log : List Event}
    (funded : sellerDeposit ≠ 0) (vacant : lane = none ∨ lane = some {}) :
    Bidding {
      cell := {
        auction := newAuction nftContract tokenId seller endTime sellerDeposit startingPrice now isVickrey
        dependencySnapshot }
      lane
      log } where
  found := rfl
  running := .inl rfl
  deposited := funded
  reward := fun resolving => nomatch resolving
  noReward := fun _ => rfl
  request := ⟨(nomatch ·), (nomatch ·)⟩
  noEscrowAtZero := rfl
  escrow := Finset.sum_const_zero
  unslashed := rfl
  sellerUnpaid := rfl
  rewardUnpaid := rfl
  assetHeld := rfl
  unwithdrawn := fun _ => rfl
  unrefunded := fun _ => rfl
  undecided := ⟨rfl, rfl, rfl⟩
  pot := rfl
  reserve := by rcases vacant with rfl | rfl <;> rfl
  locked := rfl

theorem Bidding.escrowLocked {v : AuctionView} (bidding : Bidding v) {bidder : Address} {amount now : ℕ}
    {event : Event} (known : bidder ≠ 0) :
    Bidding ({ v with cell := { v.cell with
      escrowBalances := Function.update v.cell.escrowBalances bidder
        (v.cell.escrowBalances bidder + amount)
      auction := { v.cell.auction with
        totalEscrow := v.cell.auction.totalEscrow + amount
        lastBlockTimestamp := toUint64 now } } }.emit event) :=
  { bidding with
    noEscrowAtZero := (Function.update_of_ne known.symm ..).trans bidding.noEscrowAtZero
    escrow := by
      have moved := Ledger.sum_update v.cell.escrowBalances bidder
        (v.cell.escrowBalances bidder + amount)
      have total := bidding.escrow
      simp only [AuctionView.emit_cell] at moved ⊢
      omega }

theorem Bidding.finalizeTriggered {v : AuctionView} (bidding : Bidding v) {executor : Address}
    {finalizeNonce now : ℕ} {raceSalt : Bytes32} {request : PendingResolutionRequest}
    (pending : request.exists_ = true) (first second : Event) :
    Bidding (({ v with cell := { v.cell with
      auction := { v.cell.auction with
        state := .resolving
        lastBlockTimestamp := toUint64 now
        resolvingSince := toUint64 now }
      finalizationExecutor := executor
      finalizationReward := v.cell.auction.sellerDeposit * 20 / 10000
      finalizationNonce := finalizeNonce
      finalizationSalt := raceSalt
      resolutionRequest := request } }.emit first).emit second) :=
  { bidding with
    running := .inr rfl
    reward := fun _ => rfl
    noReward := fun active => nomatch active
    request := ⟨fun _ => rfl, fun _ => pending⟩ }

/-- Where both flags start closed, opening the refund path sets both of them. -/
theorem opened_unlocked {v : AuctionView} (locked : v.cell.shieldedRefundsUnlocked = false) {lane : Lane}
    (present : v.opened.lane = some lane) :
    lane.unlocked = true ∧ v.opened.cell.shieldedRefundsUnlocked = true := by
  rcases v.opened_cases with ⟨same, already | absent⟩ | ⟨before, -, -, same⟩
  · rw [locked] at already
    cases already
  · rw [same, absent] at present
    cases present
  · rw [same] at present ⊢
    obtain rfl := Option.some.inj present
    exact ⟨rfl, rfl⟩

theorem Bidding.resolved {v : AuctionView} (bidding : Bidding v) {winner : Address}
    {winnerCiphertext : Bytes32} {winningAmount now : ℕ}
    (resolving : v.cell.auction.state = .resolving) (first second : Event) :
    Settled (({ v with cell := { v.cell with
      auction := { v.cell.auction with
        winner
        winnerCiphertext
        winningAmount
        state := .finalized
        lastBlockTimestamp := toUint64 now }
      resolutionRequest := {} } }.emit first).emit second).opened where
  found := by simpa using bidding.found
  terminal := by simp [AuctionState.terminal]
  deposited := by simpa using bidding.deposited
  reward := fun _ => by simpa using bidding.reward resolving
  noRequest := by simp
  bounded := by simp [bidding.unslashed]
  unslashed := fun _ => by simpa using bidding.unslashed
  voided := by simp
  pot := .inl (by simpa using bidding.pot)
  withdrawn := fun p done => by simp [bidding.unwithdrawn p] at done
  drained := fun _ => by
    rw [AuctionView.opened_reserve]
    exact bidding.reserve
  oneWinner := fun _ => by simpa using bidding.undecided.2.2
  undecided := fun other => absurd (by simp) other
  unlocked := fun _ present => opened_unlocked (by exact bidding.locked) present

theorem Bidding.shieldedResolved {v : AuctionView} (bidding : Bidding v) {lane : Lane}
    {winnerIdentityHash commitmentHash winnerCiphertext : Bytes32} {winningAmount now : ℕ}
    (resolving : v.cell.auction.state = .resolving) (vault : v.lane = some lane) (first second : Event) :
    Settled (({ v with
      cell := { v.cell with
        auction := { v.cell.auction with
          winner := 0
          winnerCiphertext
          winningAmount
          state := .finalized
          lastBlockTimestamp := toUint64 now }
        winningCommitment := winnerIdentityHash
        resolutionRequest := {} }
      lane := some { lane with
        total := lane.total - winningAmount
        winningCommitment := commitmentHash } }.emit first).emit second).opened where
  found := by simpa using bidding.found
  terminal := by simp [AuctionState.terminal]
  deposited := by simpa using bidding.deposited
  reward := fun _ => by simpa using bidding.reward resolving
  noRequest := by simp
  bounded := by simp [bidding.unslashed]
  unslashed := fun _ => by simpa using bidding.unslashed
  voided := by simp
  pot := .inl (by simpa using bidding.pot)
  withdrawn := fun p done => by simp [bidding.unwithdrawn p] at done
  drained := fun _ => by
    have reserve := bidding.reserve
    rw [AuctionView.opened_reserve]
    simp only [AuctionView.reserve, vault, Option.elim_some] at reserve ⊢
    exact reserve
  oneWinner := fun other => absurd (by simp) other
  undecided := fun other => absurd (by simp) other
  unlocked := fun _ present => opened_unlocked (by exact bidding.locked) present

section Slash

variable {v : AuctionView} {slashAmount : ℕ}

theorem publicSlash_le : v.publicSlash slashAmount ≤ slashAmount :=
  ShieldedEscrowVault.publicShare_le ..

/-- A fresh pot holds nothing or the public share of a penalty. -/
theorem slashed_pot_cases (empty : v.pot = {}) :
    (v.slashed slashAmount).pot = {} ∨
      slashAmount ≠ 0 ∧ (v.slashed slashAmount).pot.totalEscrow = v.cell.auction.totalEscrow := by
  rw [AuctionView.slashed_pot, empty]
  unfold AuctionView.fillPot
  split
  · exact .inl rfl
  · rename_i share
    refine .inr ⟨fun zero => share (Nat.le_zero.mp (zero ▸ publicSlash_le)), rfl⟩

/-- Only a vault with shielded escrow reserves any of a penalty. -/
theorem slashed_drained (reserve : v.reserve = 0) (none : (v.slashed slashAmount).shieldedTotal = 0) :
    (v.slashed slashAmount).reserve = 0 := by
  rw [AuctionView.slashed_shieldedTotal] at none
  have share : v.publicSlash slashAmount = slashAmount := if_pos none
  rw [AuctionView.slashed_reserve, reserve, share, Nat.sub_self]

end Slash

theorem Bidding.cancelled {v : AuctionView} (bidding : Bidding v) {slashAmount now : ℕ}
    (active : v.cell.auction.state = .active) (bounded : slashAmount ≤ v.cell.auction.sellerDeposit)
    (first second : Event) :
    Settled ((({ v with cell := { v.cell with
      auction := { v.cell.auction with
        slashAmount
        state := .cancelled
        lastBlockTimestamp := toUint64 now } } }.emit first).slashed slashAmount).opened.emit
          second) where
  found := by simpa using bidding.found
  terminal := by simp [AuctionState.terminal]
  deposited := by simpa using bidding.deposited
  reward := fun other => absurd (by simp) other
  noRequest := by
    have request := bidding.request
    simp only [active, reduceCtorEq, iff_false, Bool.not_eq_true] at request
    simpa using request
  bounded := by simpa using bounded
  unslashed := by simp
  voided := by simp
  pot := by
    rcases slashed_pot_cases (v := { v with cell := { v.cell with
      auction := { v.cell.auction with
        slashAmount
        state := .cancelled
        lastBlockTimestamp := toUint64 now } } }.emit first) bidding.pot with empty | filled
    · exact .inl (by simpa using empty)
    · exact .inr (by simpa using filled)
  withdrawn := fun p done => by simp [bidding.unwithdrawn p] at done
  drained := fun none => by
    rw [AuctionView.emit_shieldedTotal, AuctionView.opened_shieldedTotal] at none
    rw [AuctionView.emit_reserve, AuctionView.opened_reserve]
    exact slashed_drained bidding.reserve none
  oneWinner := fun _ => by simpa using bidding.undecided.2.2
  undecided := fun _ => by simpa using ⟨bidding.undecided.1, bidding.undecided.2.2, bidding.assetHeld⟩
  unlocked := fun _ present => opened_unlocked (by exact bidding.locked) present

theorem Bidding.voided {v : AuctionView} (bidding : Bidding v) {slashAmount now : ℕ}
    (resolving : v.cell.auction.state = .resolving)
    (fallback : slashAmount = if v.totalEscrow = 0 then 0 else
      v.cell.auction.sellerDeposit - v.cell.finalizationReward) (first second third : Event) :
    Settled (((({ v with cell := { v.cell with
      auction := { v.cell.auction with
        slashAmount
        state := .voided
        lastBlockTimestamp := toUint64 now }
      resolutionRequest := {} } }.emit first).slashed slashAmount).opened.emit second).emit third) where
  found := by simpa using bidding.found
  terminal := by simp [AuctionState.terminal]
  deposited := by simpa using bidding.deposited
  reward := fun _ => by simpa using bidding.reward resolving
  noRequest := by simp
  bounded := by
    simp only [AuctionView.emit_cell, AuctionView.opened_auction, AuctionView.slashed_cell, fallback]
    split
    · exact Nat.zero_le _
    · exact Nat.sub_le ..
  unslashed := by simp
  voided := fun _ unslashed => by
    have rewarded := bidding.reward resolving
    have less := keeperReward_lt bidding.deposited
    simp only [AuctionView.emit_cell, AuctionView.opened_auction, AuctionView.slashed_cell, fallback]
      at unslashed
    have empty : v.totalEscrow = 0 := by
      by_contra escrowed
      rw [if_neg escrowed] at unslashed
      omega
    simp only [AuctionView.totalEscrow, AuctionView.emit_cell, AuctionView.emit_shieldedTotal,
      AuctionView.opened_auction, AuctionView.opened_shieldedTotal, AuctionView.slashed_cell,
      AuctionView.slashed_shieldedTotal]
    exact empty
  pot := by
    rcases slashed_pot_cases (v := { v with cell := { v.cell with
      auction := { v.cell.auction with
        slashAmount
        state := .voided
        lastBlockTimestamp := toUint64 now }
      resolutionRequest := {} } }.emit first) bidding.pot with empty | filled
    · exact .inl (by simpa using empty)
    · exact .inr (by simpa using filled)
  withdrawn := fun p done => by simp [bidding.unwithdrawn p] at done
  drained := fun none => by
    rw [AuctionView.emit_shieldedTotal, AuctionView.emit_shieldedTotal,
      AuctionView.opened_shieldedTotal] at none
    rw [AuctionView.emit_reserve, AuctionView.emit_reserve, AuctionView.opened_reserve]
    exact slashed_drained bidding.reserve none
  oneWinner := fun _ => by simpa using bidding.undecided.2.2
  undecided := fun _ => by simpa using ⟨bidding.undecided.1, bidding.undecided.2.2, bidding.assetHeld⟩
  unlocked := fun _ present => opened_unlocked (by exact bidding.locked) present

/-- There is no compensation without a refund. -/
theorem AuctionStorage.compensationOf_eq_zero {cell : AuctionStorage} {pot : Pot} {claimant : Address}
    (none : cell.refundOf claimant = 0) : cell.compensationOf pot claimant = 0 := by
  unfold AuctionStorage.refundOf at none
  unfold AuctionStorage.compensationOf
  cases state : cell.auction.state <;> simp only [state] at none ⊢ <;> simp [none]

theorem AuctionView.refundOf_ne_zero {v : AuctionView} {claimant : Address}
    (some : ¬ (v.refundOf claimant = 0 ∧ v.compensationOf claimant = 0)) : v.refundOf claimant ≠ 0 :=
  fun none => some ⟨none, AuctionStorage.compensationOf_eq_zero none⟩

/-- Refunds are due only once an auction is settled. -/
theorem AuctionView.terminal_of_refundOf {v : AuctionView} {claimant : Address}
    (due : v.refundOf claimant ≠ 0) : v.cell.auction.state.terminal = true := by
  unfold AuctionView.refundOf AuctionStorage.refundOf at due
  cases state : v.cell.auction.state <;> simp only [state] at due <;> first
    | rfl
    | exact absurd rfl due

namespace Settled

variable {v : AuctionView}

theorem refundClaimed (settled : Settled v) {claimant : Address} (due : v.refundOf claimant ≠ 0)
    (event : Event) :
    Settled ({ v with cell := { v.cell with
      hasWithdrawn := Function.update v.cell.hasWithdrawn claimant true
      escrowBalances := if v.refundOf claimant = 0 then v.cell.escrowBalances else
        Function.update v.cell.escrowBalances claimant 0 } }.emit event) :=
  { settled with
    withdrawn := by
      intro p done
      simp only [AuctionView.emit_cell, if_neg due] at done ⊢
      by_cases same : p = claimant
      · rw [same, Function.update_self]
      · rw [Function.update_of_ne same] at done ⊢
        exact settled.withdrawn p done }

theorem assetClaimed (settled : Settled v) (finalized : v.cell.auction.state = .finalized)
    (event : Event) :
    Settled ({ v with cell := { v.cell with auction.assetClaimed := true } }.emit event) :=
  { settled with undecided := fun other => absurd finalized other }

theorem shieldedRefunded (settled : Settled v) {lane : Lane} {key : Bytes32} {principal : ℕ}
    (vault : v.lane = some lane) (nonzero : principal ≠ 0) (bounded : principal ≤ lane.total)
    (event : Event) :
    Settled ({ v with
      cell := { v.cell with
        shieldedRefundClaimed := Function.update v.cell.shieldedRefundClaimed key true }
      lane := some { lane with
        total := lane.total - principal
        reserve := lane.reserve -
          ShieldedEscrowVault.compensationShare principal lane.reserve lane.total } }.emit event) :=
  { settled with
    voided := fun voided unslashed => by
      have empty := settled.voided voided unslashed
      simp only [AuctionView.totalEscrow, AuctionView.shieldedTotal, vault, Option.elim_some] at empty
      omega
    drained := fun none => by
      -- The last commitment takes the whole reserve with it.
      change lane.total - principal = 0 at none
      change lane.reserve - principal * lane.reserve / lane.total = 0
      have whole : principal = lane.total := by omega
      rw [whole, Nat.mul_div_cancel_left _ (by omega), Nat.sub_self]
    unlocked := fun next present => by
      obtain rfl := Option.some.inj present
      exact settled.unlocked lane vault }

end Settled

/-- Every step keeps an auction in one of its phases. -/
theorem Sound.step {refundKey : Bytes32 → Bytes32} {auctionId : AuctionId} {now : ℕ} {flow : Flow}
    {v next : AuctionView} (step : AuctionStep refundKey auctionId now flow v next) (sound : Sound v) :
    Sound next := by
  cases step with
  | created _ _ _ _ _ _ _ _ _ _ funded _ _ vacant => exact .inr (.inl (bidding_created funded vacant))
  | escrowLocked _ _ found active _ _ known =>
    exact .inr (.inl ((sound.bidding_of_active found active).escrowLocked known))
  | shieldedEscrowLocked lane _ _ _ found active _ _ vault =>
    have bidding := sound.bidding_of_active found active
    refine .inr (.inl { bidding with reserve := ?_ })
    have reserve := bidding.reserve
    simpa [AuctionView.reserve, vault] using reserve
  | bidPlaced _ _ _ found active =>
    exact .inr (.inl { sound.bidding_of_active found active with })
  | shieldedBidPlaced _ _ _ found active =>
    exact .inr (.inl { sound.bidding_of_active found active with })
  | finalizeTriggered _ _ _ _ found active _ _ pending =>
    exact .inr (.inl ((sound.bidding_of_active found active).finalizeTriggered pending _ _))
  | resolutionRejected found resolving =>
    exact .inr (.inl { sound.bidding_of_resolving found resolving with })
  | resolved _ _ _ found resolving =>
    exact .inr (.inr ((sound.bidding_of_resolving found resolving).resolved resolving _ _))
  | shieldedResolved _ _ _ _ _ found resolving vault =>
    exact .inr (.inr ((sound.bidding_of_resolving found resolving).shieldedResolved resolving vault _ _))
  | cancelled _ found active _ bounded =>
    exact .inr (.inr ((sound.bidding_of_active found active).cancelled active bounded _ _))
  | voided _ _ _ found resolving fallback =>
    exact .inr (.inr ((sound.bidding_of_resolving found resolving).voided resolving fallback _ _ _))
  | refundClaimed claimant found _ _ some =>
    have due := AuctionView.refundOf_ne_zero some
    rcases sound with rfl | bidding | settled
    · cases found
    · exact absurd (bidding.refundOf_eq claimant) due
    · exact .inr (.inr (settled.refundClaimed due _))
  | sellerProceedsClaimed found _ nonzero =>
    rcases sound with rfl | bidding | settled
    · cases found
    · exact absurd bidding.sellerPayout_eq nonzero
    · exact .inr (.inr { settled with })
  | finalizeRewardClaimed found _ ended =>
    have settled := sound.settled_of_terminal found (by rcases ended with done | done <;> rw [done] <;> rfl)
    exact .inr (.inr { settled with })
  | assetClaimed _ found finalized =>
    have settled := sound.settled_of_terminal found (by rw [finalized]; rfl)
    exact .inr (.inr (settled.assetClaimed finalized _))
  | shieldedRefunded _ _ _ _ found terminal vault _ _ nonzero bounded =>
    exact .inr (.inr ((sound.settled_of_terminal found terminal).shieldedRefunded vault nonzero bounded _))

theorem Reachable.sound {refundKey : Bytes32 → Bytes32} {auctionId : AuctionId} {v : AuctionView}
    (reachable : Reachable refundKey auctionId v) : Sound v := by
  obtain ⟨now, run⟩ := reachable
  exact run.preserves (fun _ _ _ _ step sound => sound.step step) (.inl rfl)

end FairMarket
