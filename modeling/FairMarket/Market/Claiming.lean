import FairMarket.Market.Settling

/-! Claims and refunds, read as steps of their auction. -/

namespace FairMarket

variable {σ : Type}

namespace SlashedPot

/-- A pot after it has paid a claim. -/
def afterClaim (pot : SlashedPot) (keccak : List Word → Bytes32) (auctionId : AuctionId)
    (recipient : Address) (amount : ℕ) : SlashedPot :=
  { pot with
    hasClaimedCompensation := Function.update pot.hasClaimedCompensation auctionId
      (Function.update (pot.hasClaimedCompensation auctionId) recipient true)
    hasClaimedCompensationByKey := Function.update pot.hasClaimedCompensationByKey auctionId
      (Function.update (pot.hasClaimedCompensationByKey auctionId) (keccak [.ofAddress recipient]) true)
    balance := pot.balance - amount }

theorem claimFor_ok {pot next : SlashedPot} {keccak : List Word → Bytes32} {sender : Address}
    {auctionId : AuctionId} {recipient : Address} {escrowContribution amount : ℕ} :
    pot.claimFor keccak sender auctionId recipient escrowContribution = .ok (amount, next) ↔
      (sender = pot.market ∧ pot.hasClaimedCompensation auctionId recipient = false ∧
        pot.hasClaimedCompensationByKey auctionId (keccak [.ofAddress recipient]) = false ∧
        pot.previewClaim auctionId escrowContribution = .ok amount ∧ amount ≤ pot.balance) ∧
      pot.afterClaim keccak auctionId recipient amount = next := by
  simp only [claimFor, onlyMarket, payClaim, previewClaim, bind_eq_ok, exists_revertIf, ne_eq, not_not,
    Bool.not_eq_true]
  constructor
  · rintro ⟨isMarket, unclaimed, unclaimedKey, share, computed, paid⟩
    split at paid
    · rename_i zero
      simp only [pure_eq_ok, Except.ok.injEq, Prod.mk.injEq] at paid
      obtain ⟨rfl, rfl⟩ := paid
      exact ⟨⟨isMarket, unclaimed, unclaimedKey, zero ▸ computed, Nat.zero_le _⟩, rfl⟩
    · simp only [bind_eq_ok, exists_revertIf, Nat.not_lt, pure_eq_ok, Except.ok.injEq,
        Prod.mk.injEq] at paid
      obtain ⟨solvent, rfl, rfl⟩ := paid
      exact ⟨⟨isMarket, unclaimed, unclaimedKey, computed, solvent⟩, rfl⟩
  · rintro ⟨⟨isMarket, unclaimed, unclaimedKey, computed, solvent⟩, rfl⟩
    refine ⟨isMarket, unclaimed, unclaimedKey, amount, computed, ?_⟩
    split
    · rename_i zero
      subst zero
      rfl
    · simp only [bind_eq_ok, exists_revertIf, Nat.not_lt, pure_eq_ok]
      exact ⟨solvent, rfl⟩

end SlashedPot

namespace World

variable {env : External σ} {w next : World σ} {msg : Msg} {auctionId : AuctionId}

theorem sendValue_ok {recipient : Address} {amount : ℕ} :
    w.sendValue env recipient amount = .ok next ↔
      amount ≤ w.market.balance ∧ ∃ outside, env.receiveEther w.outside recipient amount = some outside ∧
        (w.setOutside outside).debit amount = next := by
  simp only [sendValue, bind_eq_ok, exists_revertIf, requireSome_eq_ok, pure_eq_ok, Except.ok.injEq,
    Nat.not_lt]

theorem previewCompensation_eq (wired : w.Wired env)
    (found : (w.market.auctions auctionId).auction.exists_ = true) {contribution compensation : ℕ}
    (done : w.previewCompensation auctionId (w.market.auctions auctionId) contribution =
      .ok compensation) :
    compensation = if (w.market.auctions auctionId).auction.slashAmount = 0 then 0 else
      contribution * (w.view auctionId).pot.totalSlash / (w.view auctionId).pot.totalEscrow := by
  unfold previewCompensation at done
  rw [wired.auctionPot found] at done
  dsimp only at done
  split at done
  · rename_i due
    simp only [bind_eq_ok, requireSome_eq_ok, SlashedPot.previewClaim] at done
    obtain ⟨pot, deployed, computed⟩ := done
    rw [if_neg due.2.1, view_pot deployed]
    exact SettlementEngine.computeProRataShare_eq computed
  · rename_i nothing
    simp only [Except.ok.injEq] at done
    subst done
    split
    · rfl
    · rename_i slashed
      have deployed := (wired.snapshots auctionId found).pot
      have unescrowed : contribution = 0 := by
        by_contra escrowed
        refine nothing ⟨escrowed, slashed, fun zero => ?_⟩
        rw [zero, wired.zero.2.2.1] at deployed
        cases deployed
      rw [unescrowed, Nat.zero_mul, Nat.zero_div]

theorem computeWinningRefund_eq {cell : AuctionStorage} {contribution winningAmount refund : ℕ}
    (done : w.computeWinningRefund cell contribution winningAmount = .ok refund) :
    refund = contribution - winningAmount := by
  rcases withEngine_ok done with own | ⟨engine, called⟩
  · simp only [Except.ok.injEq] at own
    split at own <;> omega
  · simp only [SettlementEngine.computeWinningRefund, Except.ok.injEq] at called
    split at called <;> omega

theorem previewRefund_eq (wired : w.Wired env) {claimant : Address} {escrowRefund compensation : ℕ}
    (done : w.previewRefund auctionId claimant = .ok (escrowRefund, compensation)) :
    escrowRefund = (w.market.auctions auctionId).refundOf claimant ∧
      compensation = (w.market.auctions auctionId).compensationOf (w.view auctionId).pot claimant := by
  simp only [previewRefund, bind_eq_ok, auctionExists_ok] at done
  obtain ⟨cell, ⟨found, rfl⟩, done⟩ := done
  unfold AuctionStorage.refundOf AuctionStorage.compensationOf
  cases state : (w.market.auctions auctionId).auction.state with
  | finalized =>
    simp only [state] at done
    split at done
    · rename_i wins
      simp only [bind_eq_ok, pure_eq_ok, Except.ok.injEq, Prod.mk.injEq] at done
      obtain ⟨refund, computed, rfl, rfl⟩ := done
      exact ⟨(computeWinningRefund_eq computed).trans (if_pos wins).symm, rfl⟩
    · rename_i loses
      simp only [pure_eq_ok, Except.ok.injEq, Prod.mk.injEq] at done
      exact ⟨done.1.symm.trans (if_neg loses).symm, done.2.symm⟩
  | cancelled | voided =>
    simp only [state, bind_eq_ok, pure_eq_ok, Except.ok.injEq, Prod.mk.injEq] at done
    obtain ⟨_, computed, rfl, rfl⟩ := done
    exact ⟨rfl, previewCompensation_eq wired found computed⟩
  | _ =>
    simp only [state, pure_eq_ok, Except.ok.injEq, Prod.mk.injEq] at done
    exact ⟨done.1.symm, done.2.symm⟩

theorem payEscrowRefund_changes {cell : AuctionStorage} {claimant : Address} {escrowRefund : ℕ}
    (held : w.market.auctions auctionId = cell)
    (done : w.payEscrowRefund env auctionId cell claimant escrowRefund = .ok next) :
    Changes auctionId w next { w.view auctionId with cell := { cell with
      escrowBalances := if escrowRefund = 0 then cell.escrowBalances else
        Function.update cell.escrowBalances claimant 0 } } ∧
      next.market.balance + escrowRefund = w.market.balance ∧ next.unsolicited = w.unsolicited ∧
      next.pots = w.pots ∧ next.vaults = w.vaults := by
  subst held
  unfold payEscrowRefund at done
  split at done
  · rename_i zero
    cases done
    subst zero
    exact ⟨.refl, rfl, rfl, rfl, rfl⟩
  · rename_i nonzero
    obtain ⟨solvent, outside, -, rfl⟩ := sendValue_ok.mp done
    simp only [nonzero, if_false]
    refine ⟨.debit _ (.setOutside outside (.setAuction rfl rfl .refl)), ?_, rfl, rfl, rfl⟩
    exact Nat.sub_add_cancel solvent

theorem payCompensation_changes (wired : w.Wired env)
    (found : (w.market.auctions auctionId).auction.exists_ = true) {claimant : Address}
    {escrowRefund compensation paid : ℕ}
    (done : w.payCompensation env auctionId claimant escrowRefund compensation = .ok (paid, next)) :
    (paid = if compensation = 0 then 0 else
        escrowRefund * (w.view auctionId).pot.totalSlash / (w.view auctionId).pot.totalEscrow) ∧
      Changes auctionId w next (w.view auctionId) ∧
      next.market.balance = w.market.balance ∧ next.unsolicited = w.unsolicited ∧
      next.vaults = w.vaults ∧
      ∀ address pot changed, w.pots address = some pot → next.pots address = some changed →
        changed.balance + (if address = (w.snapshot auctionId).slashedPot then paid else 0) =
          pot.balance := by
  unfold payCompensation at done
  split at done
  · rename_i zero
    cases done
    refine ⟨(if_pos zero).symm, .refl, rfl, rfl, rfl, fun address pot changed before after => ?_⟩
    rw [before, Option.some.injEq] at after
    rw [after, ite_self]
    rfl
  · rename_i nonzero
    rw [wired.auctionPot found] at done
    simp only [bind_eq_ok, requireSome_eq_ok, Prod.exists] at done
    obtain ⟨pot, deployed, amount, claimed, claims, done⟩ := done
    obtain ⟨⟨-, -, -, computed, solvent⟩, rfl⟩ := SlashedPot.claimFor_ok.mp claims
    have share := SettlementEngine.computeProRataShare_eq computed
    rw [← view_pot deployed] at share
    have kept : Changes auctionId w (w.setPot (w.snapshot auctionId).slashedPot
        (pot.afterClaim env.keccak auctionId claimant amount)) (w.view auctionId) :=
      .congr (.setPot rfl deployed rfl (fun _ _ => rfl) .refl)
        (by simp only [SlashedPot.afterClaim, ← view_pot deployed])
    have potBalance : ∀ address before changed, w.pots address = some before →
        (w.setPot (w.snapshot auctionId).slashedPot
          (pot.afterClaim env.keccak auctionId claimant amount)).pots address = some changed →
        changed.balance + (if address = (w.snapshot auctionId).slashedPot then amount else 0) =
          before.balance := by
      intro address before changed present after
      simp only [setPot] at after
      by_cases own : address = (w.snapshot auctionId).slashedPot
      · subst own
        rw [Function.update_self, Option.some.injEq] at after
        rw [deployed, Option.some.injEq] at present
        subst after present
        rw [if_pos rfl]
        exact Nat.sub_add_cancel solvent
      · rw [Function.update_of_ne own, present, Option.some.injEq] at after
        rw [if_neg own, after]
        rfl
    split at done
    · rename_i zero
      cases done
      subst zero
      exact ⟨share.trans (if_neg nonzero).symm, kept, rfl, rfl, rfl, potBalance⟩
    · simp only [bind_eq_ok, requireSome_eq_ok, pure_eq_ok, Except.ok.injEq, Prod.mk.injEq] at done
      obtain ⟨outside, -, rfl, rfl⟩ := done
      exact ⟨share.trans (if_neg nonzero).symm, .setOutside outside kept, rfl, rfl, rfl, potBalance⟩

/-- A compensation that is due is the pro-rata share of the refund itself. -/
theorem compensationOf_eq {cell : AuctionStorage} {pot : Pot} {claimant : Address}
    (due : cell.compensationOf pot claimant ≠ 0) :
    cell.refundOf claimant * pot.totalSlash / pot.totalEscrow = cell.compensationOf pot claimant := by
  unfold AuctionStorage.compensationOf AuctionStorage.refundOf at *
  cases state : cell.auction.state <;> simp only [state] at due ⊢ <;> first
    | exact absurd rfl due
    | (split
       · rename_i zero
         exact absurd (if_pos zero) due
       · rfl)

/-- An account takes its refund from the market and its compensation from the pot. -/
theorem claimRefund_changes (wired : w.Wired env) (done : w.claimRefund env msg auctionId = .ok next) :
    ((w.market.auctions auctionId).auction.exists_ = true ∧
      (w.market.auctions auctionId).hasWithdrawn msg.sender = false ∧
      ¬ ((w.view auctionId).refundOf msg.sender = 0 ∧ (w.view auctionId).compensationOf msg.sender = 0)) ∧
    Changes auctionId w next ({ w.view auctionId with cell := { w.market.auctions auctionId with
      hasWithdrawn := Function.update (w.market.auctions auctionId).hasWithdrawn msg.sender true
      escrowBalances := if (w.view auctionId).refundOf msg.sender = 0 then
        (w.market.auctions auctionId).escrowBalances else
        Function.update (w.market.auctions auctionId).escrowBalances msg.sender 0 } }.emit
          (.refundClaimed auctionId msg.sender ((w.view auctionId).refundOf msg.sender)
            ((w.view auctionId).compensationOf msg.sender))) ∧
    next.market.balance + (w.view auctionId).refundOf msg.sender = w.market.balance ∧
    next.unsolicited = w.unsolicited ∧ next.vaults = w.vaults ∧
    ∀ address pot changed, w.pots address = some pot → next.pots address = some changed →
      changed.balance + (if address = (w.snapshot auctionId).slashedPot then
        (w.view auctionId).compensationOf msg.sender else 0) = pot.balance := by
  simp only [claimRefund, bind_eq_ok, auctionExists_ok, exists_revertIf, Prod.exists, pure_eq_ok,
    Except.ok.injEq, Bool.not_eq_true] at done
  obtain ⟨cell, ⟨found, rfl⟩, unclaimed, escrowRefund, compensation, previewed, due, refunded, refunds,
    paid, compensated, compensates, rfl⟩ := done
  obtain ⟨rfl, rfl⟩ := previewRefund_eq wired previewed
  obtain ⟨second, balance, unsolicited, pots, vaults⟩ :=
    payEscrowRefund_changes (Function.update_self ..) refunds
  have first : Changes auctionId w (w.setAuction auctionId { w.market.auctions auctionId with
      hasWithdrawn := Function.update (w.market.auctions auctionId).hasWithdrawn msg.sender true }) _ :=
    .setAuction rfl rfl .refl
  rw [first.view] at second
  have both := first.trans second
  obtain ⟨share, third, balance₂, unsolicited₂, vaults₂, potBalance⟩ := payCompensation_changes
    (wired.of_frame both.frame found) (both.frame.found.trans found) compensates
  rw [both.view] at share third
  have paidInFull : paid = (w.view auctionId).compensationOf msg.sender := by
    rw [share]
    split
    · rename_i none
      exact none.symm
    · rename_i owed
      exact compensationOf_eq owed
  subst paidInFull
  refine ⟨⟨found, unclaimed, due⟩, .emit rfl (both.trans third), ?_, unsolicited₂.trans unsolicited,
    vaults₂.trans vaults, ?_⟩
  · exact (congrArg (· + _) balance₂).trans balance
  · intro address pot changed before after
    have moved := potBalance address pot changed (by rw [pots]; exact before) after
    rw [← moved, both.frame.snapshot]

theorem claimRefund_moves (wired : w.Wired env) (known : msg.sender ≠ 0)
    (done : w.claimRefund env msg auctionId = .ok next) :
    (w.market.auctions auctionId).auction.exists_ = true ∧ next.unsolicited = w.unsolicited ∧
      Moves env msg.timestamp auctionId
        { paid := (w.view auctionId).refundOf msg.sender
          potPaid := (w.view auctionId).compensationOf msg.sender } w next := by
  obtain ⟨⟨found, unclaimed, due⟩, changes, balance, unsolicited, -, potBalance⟩ :=
    claimRefund_changes wired done
  refine ⟨found, unsolicited, Changes.moves changes (.refundClaimed msg.sender found known unclaimed due)
    ?_ ?_⟩
  · dsimp only
    omega
  · intro address pot changed before after
    rw [ite_self, Nat.add_zero]
    exact potBalance address pot changed before after

theorem computeSellerPayout_eq {cell : AuctionStorage} {sellerDeposit winningAmount payout : ℕ}
    (done : w.computeSellerPayout cell sellerDeposit winningAmount = .ok payout) :
    payout = sellerDeposit + winningAmount := by
  rcases withEngine_ok done with own | ⟨engine, called⟩
  · exact (checkedAdd_eq_ok.mp own).2.symm
  · exact (checkedAdd_eq_ok.mp called).2.symm

theorem computeSellerCancellationPayout_eq {cell : AuctionStorage} {sellerDeposit slashAmount payout : ℕ}
    (done : w.computeSellerCancellationPayout cell sellerDeposit slashAmount = .ok payout) :
    payout = sellerDeposit - slashAmount := by
  rcases withEngine_ok done with own | ⟨engine, called⟩
  · simp only [Except.ok.injEq] at own
    split at own <;> omega
  · simp only [SettlementEngine.computeSellerCancellationPayout, Except.ok.injEq] at called
    split at called <;> omega

theorem lessReward_eq (amount finalizeReward : ℕ) :
    lessReward amount finalizeReward = amount - finalizeReward := by
  unfold lessReward
  split <;> omega

theorem previewSellerPayout_eq (wired : w.Wired env) {payout : ℕ}
    (done : w.previewSellerPayout auctionId = .ok payout) :
    payout = (w.view auctionId).sellerPayout := by
  simp only [previewSellerPayout, bind_eq_ok, auctionExists_ok] at done
  obtain ⟨cell, ⟨found, rfl⟩, done⟩ := done
  unfold AuctionView.sellerPayout
  cases state : (w.market.auctions auctionId).auction.state with
  | finalized =>
    simp only [state, bind_eq_ok, pure_eq_ok, Except.ok.injEq] at done
    obtain ⟨gross, computed, rfl⟩ := done
    simp only [view_cell, state, lessReward_eq, computeSellerPayout_eq computed]
  | cancelled =>
    simp only [state] at done
    simp only [view_cell, state, computeSellerCancellationPayout_eq done]
  | voided =>
    have voided : (w.view auctionId).cell.auction.state = .voided := state
    simp only [state] at done
    simp only [voided]
    split at done
    · rename_i slashed
      simp only [pure_eq_ok, Except.ok.injEq] at done
      exact done.symm.trans (if_neg fun none => slashed none.1).symm
    · rename_i unslashed
      rw [not_not] at unslashed
      simp only [bind_eq_ok] at done
      obtain ⟨total, totals, done⟩ := done
      rw [totalEscrowIncludingShielded_ok wired found totals] at done
      split at done
      · rename_i escrowed
        simp only [pure_eq_ok, Except.ok.injEq] at done
        exact done.symm.trans (if_neg fun none => escrowed none.2).symm
      · rename_i empty
        rw [not_not] at empty
        simp only [pure_eq_ok, Except.ok.injEq] at done
        rw [← done, lessReward_eq]
        exact (if_pos ⟨unslashed, empty⟩).symm
  | _ =>
    simp only [state, pure_eq_ok, Except.ok.injEq] at done
    simp only [view_cell, state, done]

theorem claimSellerProceeds_changes (wired : w.Wired env)
    (done : w.claimSellerProceeds env msg auctionId = .ok next) :
    ((w.market.auctions auctionId).auction.exists_ = true ∧
      (w.market.auctions auctionId).auction.sellerClaimed = false ∧
      (w.view auctionId).sellerPayout ≠ 0) ∧
    Changes auctionId w next ({ w.view auctionId with cell := { w.market.auctions auctionId with
      auction.sellerClaimed := true } }.emit (.sellerProceedsClaimed auctionId
        (w.market.auctions auctionId).auction.seller (w.view auctionId).sellerPayout)) ∧
    next.market.balance + (w.view auctionId).sellerPayout = w.market.balance ∧
    next.unsolicited = w.unsolicited ∧ next.pots = w.pots ∧ next.vaults = w.vaults := by
  simp only [claimSellerProceeds, onlyAuctionSeller, bind_eq_ok, auctionExists_ok, exists_revertIf,
    sendValue_ok, pure_eq_ok, Except.ok.injEq, ne_eq, not_not, Bool.not_eq_true] at done
  obtain ⟨cell, ⟨found, rfl⟩, isSeller, unclaimed, payout, previewed, due, sent,
    ⟨solvent, outside, -, rfl⟩, rfl⟩ := done
  obtain rfl := previewSellerPayout_eq wired previewed
  rw [← isSeller]
  refine ⟨⟨found, unclaimed, due⟩,
    .emit rfl (.debit _ (.setOutside outside (.setAuction rfl rfl .refl))), ?_, rfl, rfl, rfl⟩
  exact Nat.sub_add_cancel solvent

theorem claimSellerProceeds_moves (wired : w.Wired env)
    (done : w.claimSellerProceeds env msg auctionId = .ok next) :
    (w.market.auctions auctionId).auction.exists_ = true ∧ next.unsolicited = w.unsolicited ∧
      Moves env msg.timestamp auctionId { paid := (w.view auctionId).sellerPayout } w next := by
  obtain ⟨⟨found, unclaimed, due⟩, changes, balance, unsolicited, pots, -⟩ :=
    claimSellerProceeds_changes wired done
  refine ⟨found, unsolicited, Changes.moves changes (.sellerProceedsClaimed found unclaimed due) ?_
    (potBalance_of_eq pots rfl rfl)⟩
  dsimp only
  omega

theorem payReward_ok {recipient : Address} {reward : ℕ}
    (done : w.payReward env recipient reward = .ok next) :
    reward ≤ w.market.balance ∧ ∃ outside, (w.setOutside outside).debit reward = next := by
  unfold payReward at done
  split at done
  · rename_i zero
    cases done
    subst zero
    exact ⟨Nat.zero_le _, w.outside, rfl⟩
  · obtain ⟨solvent, outside, -, rfl⟩ := sendValue_ok.mp done
    exact ⟨solvent, outside, rfl⟩

theorem claimFinalizeReward_changes (done : w.claimFinalizeReward env msg auctionId = .ok next) :
    ((w.market.auctions auctionId).auction.exists_ = true ∧
      (w.market.auctions auctionId).finalizationRewardClaimed = false ∧
      ((w.market.auctions auctionId).auction.state = .finalized ∨
        (w.market.auctions auctionId).auction.state = .voided)) ∧
    Changes auctionId w next ({ w.view auctionId with cell := { w.market.auctions auctionId with
      finalizationRewardClaimed := true } }.emit (.finalizeRewardClaimed auctionId
        (w.market.auctions auctionId).finalizationExecutor
        (w.market.auctions auctionId).finalizationReward)) ∧
    next.market.balance + (w.market.auctions auctionId).finalizationReward = w.market.balance ∧
    next.unsolicited = w.unsolicited ∧ next.pots = w.pots ∧ next.vaults = w.vaults := by
  simp only [claimFinalizeReward, bind_eq_ok, auctionExists_ok, exists_revertIf, pure_eq_ok,
    Except.ok.injEq, ne_eq, not_not, Bool.not_eq_true] at done
  obtain ⟨cell, ⟨found, rfl⟩, isExecutor, unclaimed, ready, sent, pays, rfl⟩ := done
  obtain ⟨solvent, outside, rfl⟩ := payReward_ok pays
  rw [not_and_or, not_not, not_not] at ready
  rw [← isExecutor]
  refine ⟨⟨found, unclaimed, ready⟩,
    .emit rfl (.debit _ (.setOutside outside (.setAuction rfl rfl .refl))), ?_, rfl, rfl, rfl⟩
  exact Nat.sub_add_cancel solvent

theorem claimFinalizeReward_moves (done : w.claimFinalizeReward env msg auctionId = .ok next) :
    (w.market.auctions auctionId).auction.exists_ = true ∧ next.unsolicited = w.unsolicited ∧
      Moves env msg.timestamp auctionId { paid := (w.view auctionId).cell.finalizationReward } w next := by
  obtain ⟨⟨found, unclaimed, ready⟩, changes, balance, unsolicited, pots, -⟩ :=
    claimFinalizeReward_changes done
  refine ⟨found, unsolicited, Changes.moves changes (.finalizeRewardClaimed found unclaimed ready) ?_
    (potBalance_of_eq pots rfl rfl)⟩
  simp only [view_cell]
  omega

theorem claimAsset_moves (done : w.claimAsset env msg auctionId = .ok next) :
    (w.market.auctions auctionId).auction.exists_ = true ∧ Moves env msg.timestamp auctionId {} w next := by
  simp only [claimAsset, onlyAuctionState, releaseFromEscrow, bind_eq_ok, auctionExists_ok,
    exists_revertIf, pure_eq_ok, Except.ok.injEq, ne_eq, not_not, Bool.not_eq_true] at done
  obtain ⟨cell, ⟨found, rfl⟩, finalized, unclaimed, -, -, outside, -, rfl⟩ := done
  exact ⟨found, Changes.moves (.emit rfl (.setOutside outside (.setAuction rfl rfl .refl)))
    (.assetClaimed _ found finalized unclaimed) rfl (potBalance_of_eq rfl rfl rfl)⟩

theorem claimShieldedAsset_moves (wired : w.Wired env) {winnerIdentityHash : Bytes32}
    {recipient : Address} {deadline : ℕ} {signature : Signature}
    (done : w.claimShieldedAssetWithAuthorization env msg auctionId winnerIdentityHash recipient
      deadline signature = .ok next) :
    (w.market.auctions auctionId).auction.exists_ = true ∧ Moves env msg.timestamp auctionId {} w next := by
  simp only [claimShieldedAssetWithAuthorization, onlyAuctionState, releaseFromEscrow, bind_eq_ok,
    auctionExists_ok, exists_revertIf, requireSome_eq_ok, pure_eq_ok, Except.ok.injEq, Prod.exists,
    ne_eq, not_not, Bool.not_eq_true] at done
  obtain ⟨cell, ⟨found, rfl⟩, finalized, unclaimed, -, vault, deployed, -, commitmentHash, -, digest,
    authorized, authorizes, outside, -, rfl⟩ := done
  rw [wired.auctionVault found] at deployed ⊢
  obtain ⟨-, same, consumed⟩ := ShieldedEscrowVault.authorizeAssetClaim_ok.mp authorizes
  obtain ⟨market, lanes⟩ := ShieldedEscrowVault.consumeClaimAuthorization_lane consumed
  have lane : ShieldedEscrowVault.MovesLane auctionId vault authorized (vault.lane auctionId) :=
    ⟨market, lanes auctionId, fun other _ => lanes other⟩
  refine ⟨found, Changes.moves (.emit rfl (.setOutside outside (.congr
    (.setVault rfl deployed lane (.setAuction rfl rfl .refl)) ?_)))
    (.assetClaimed recipient found finalized unclaimed) rfl (potBalance_of_eq rfl rfl rfl)⟩
  rw [← view_lane deployed]
  rfl

/-- What the market checks before it lets a vault release a refund. -/
theorem settleShieldedRefund_ok {market changed : FhenixFairMarket} {sender recipient : Address}
    {nullifierHash : Bytes32} {escrowContribution : ℕ} :
    market.settleShieldedRefund sender auctionId nullifierHash recipient escrowContribution =
        .ok changed ↔
      ((market.auctions auctionId).auction.exists_ = true ∧
        sender = auctionDependency (market.auctions auctionId) (·.shieldedEscrowVault)
          market.shieldedEscrowVault ∧
        (market.auctions auctionId).shieldedRefundClaimed nullifierHash = false ∧
        (market.auctions auctionId).auction.state.terminal = true ∧
        (market.auctions auctionId).shieldedRefundsUnlocked = true) ∧
      { market with
        auctions := Function.update market.auctions auctionId { market.auctions auctionId with
          shieldedRefundClaimed := Function.update
            (market.auctions auctionId).shieldedRefundClaimed nullifierHash true } } = changed := by
  have settled : ¬ ((market.auctions auctionId).auction.state ≠ .cancelled ∧
      (market.auctions auctionId).auction.state ≠ .voided ∧
      (market.auctions auctionId).auction.state ≠ .finalized) ↔
        (market.auctions auctionId).auction.state.terminal = true := by
    cases (market.auctions auctionId).auction.state <;> decide
  simp only [FhenixFairMarket.settleShieldedRefund, bind_eq_ok, exists_revertIf, settled, pure_eq_ok,
    Except.ok.injEq, ne_eq, not_not, Bool.not_eq_true, Bool.not_eq_false, and_assoc]

theorem payRefund_changes {w₀ : World σ} {v : AuctionView} {recipient : Address} {amount : ℕ}
    (done : w.payRefund env recipient amount = .ok next) (changes : Changes auctionId w₀ w v) :
    Changes auctionId w₀ next v ∧
      next.market.balance + w.unsolicited = w.market.balance + next.unsolicited ∧
      next.pots = w.pots ∧ next.vaults = w.vaults := by
  unfold payRefund at done
  split at done
  · cases done
    refine ⟨.receiveEther amount changes, ?_, rfl, rfl⟩
    simp only [receiveEther, credit]
    omega
  · split at done
    · cases done
    · simp only [bind_eq_ok, requireSome_eq_ok, pure_eq_ok, Except.ok.injEq] at done
      obtain ⟨outside, -, rfl⟩ := done
      exact ⟨.setOutside outside changes, rfl, rfl, rfl⟩

/-- The vault of an auction pays the refund of one of its commitments. -/
structure RefundReleased (env : External σ) (w next : World σ) (auctionId : AuctionId)
    (vault changed : ShieldedEscrowVault) (commitmentHash : Bytes32) (recipient : Address) : Prop where
  found : (w.market.auctions auctionId).auction.exists_ = true
  terminal : (w.market.auctions auctionId).auction.state.terminal = true
  deployed : w.vaults (w.snapshot auctionId).shieldedEscrowVault = some vault
  about : (vault.commitments commitmentHash).auctionId = auctionId
  unclaimed : (w.market.auctions auctionId).shieldedRefundClaimed (env.refundKey commitmentHash) = false
  funded : (vault.commitments commitmentHash).amount ≠ 0
  unlocked : (vault.lane auctionId).unlocked = true
  bounded : (vault.commitments commitmentHash).amount ≤ (vault.lane auctionId).total
  covered : ShieldedEscrowVault.compensationShare (vault.commitments commitmentHash).amount
    (vault.lane auctionId).reserve (vault.lane auctionId).total ≤ (vault.lane auctionId).reserve
  changes : Changes auctionId w next ({ w.view auctionId with
    cell := { w.market.auctions auctionId with
      shieldedRefundClaimed := Function.update (w.market.auctions auctionId).shieldedRefundClaimed
        (env.refundKey commitmentHash) true }
    lane := some { vault.lane auctionId with
      total := (vault.lane auctionId).total - (vault.commitments commitmentHash).amount
      reserve := (vault.lane auctionId).reserve - ShieldedEscrowVault.compensationShare
        (vault.commitments commitmentHash).amount (vault.lane auctionId).reserve
          (vault.lane auctionId).total } }.emit
      (.shieldedRefundClaimed auctionId commitmentHash recipient (vault.commitments commitmentHash).amount
        (ShieldedEscrowVault.compensationShare (vault.commitments commitmentHash).amount
          (vault.lane auctionId).reserve (vault.lane auctionId).total)))
  commitments : changed.commitments = Function.update vault.commitments commitmentHash
    { vault.commitments commitmentHash with claimed := true, amount := 0 }
  vaults : next.vaults =
    Function.update w.vaults (w.snapshot auctionId).shieldedEscrowVault (some changed)
  balance : next.market.balance + w.unsolicited = w.market.balance + next.unsolicited
  pots : next.pots = w.pots

theorem claimRefundWithAuthorization_released (wired : w.Wired env) {vaultAddress : Address}
    {commitmentHash : Bytes32} {recipient : Address} {deadline : ℕ} {signature : Signature}
    (done : w.claimRefundWithAuthorization env msg vaultAddress commitmentHash recipient deadline
      signature = .ok next) :
    ∃ auctionId vault changed, (w.snapshot auctionId).shieldedEscrowVault = vaultAddress ∧
      RefundReleased env w next auctionId vault changed commitmentHash recipient := by
  simp only [claimRefundWithAuthorization, bind_eq_ok, requireSome_eq_ok, pure_eq_ok,
    Except.ok.injEq] at done
  obtain ⟨vault, deployed, released, releases, paid, pays, rfl⟩ := done
  obtain ⟨digest, consumed, -, authorizes, refunds⟩ :=
    ShieldedEscrowVault.claimRefundWithAuthorization_ok.mp releases
  obtain ⟨sameMarket, sameLanes⟩ := ShieldedEscrowVault.consumeClaimAuthorization_lane authorizes
  obtain ⟨-, -, sameCommitments⟩ := ShieldedEscrowVault.consumeClaimAuthorization_ok.mp authorizes
  replace sameCommitments : consumed.commitments = vault.commitments := by rw [← sameCommitments]
  have lane := ShieldedEscrowVault.releaseRefund_lane refunds
  obtain ⟨⟨nonzero, unlocked, covered, backed, -, settles⟩, same⟩ :=
    ShieldedEscrowVault.releaseRefund_ok refunds
  obtain ⟨⟨found, source, unclaimed, terminal, -⟩, settled⟩ := settleShieldedRefund_ok.mp settles
  have about : released.auctionId = (consumed.commitments commitmentHash).auctionId := by rw [same]
  rw [← about] at found source unclaimed terminal settled unlocked covered backed
  have principal : released.principalAmount = (vault.commitments commitmentHash).amount := by
    rw [same, sameCommitments]
  have compensation : released.compensationAmount = ShieldedEscrowVault.compensationShare
      (vault.commitments commitmentHash).amount (vault.lane released.auctionId).reserve
        (vault.lane released.auctionId).total := by
    rw [← sameLanes, ← sameCommitments, about, same]
    rfl
  have own : vaultAddress = (w.snapshot released.auctionId).shieldedEscrowVault :=
    source.trans (wired.auctionVault found)
  subst own
  have kept : ShieldedEscrowVault.MovesLane released.auctionId vault released.vault
      { vault.lane released.auctionId with
        total := (vault.lane released.auctionId).total - released.principalAmount
        reserve := (vault.lane released.auctionId).reserve - released.compensationAmount } :=
    ⟨lane.market.trans sameMarket, lane.lane.trans (by rw [sameLanes]),
      fun other different => (lane.others other different).trans (sameLanes other)⟩
  have first : Changes released.auctionId w { w with market := released.source }
      { w.view released.auctionId with cell := { w.market.auctions released.auctionId with
        shieldedRefundClaimed := Function.update
          (w.market.auctions released.auctionId).shieldedRefundClaimed
            (env.refundKey commitmentHash) true } } := by
    rw [← settled]
    exact .setAuction rfl rfl .refl
  obtain ⟨changes, balance, pots, vaults⟩ := payRefund_changes pays (.setVault rfl deployed kept first)
  have recorded : Changes released.auctionId w (paid.emit (.shieldedRefundClaimed released.auctionId
      commitmentHash recipient released.principalAmount released.compensationAmount)) _ := .emit rfl changes
  rw [compensation, principal] at recorded
  rw [sameCommitments] at nonzero covered backed
  refine ⟨released.auctionId, vault, released.vault, rfl, found, terminal, deployed, ?_, unclaimed,
    nonzero, ?_, ?_, ?_, ?_, ?_, vaults, ?_, pots⟩
  · rw [about, sameCommitments]
  · rw [← sameLanes]
    exact unlocked
  · rw [← sameLanes]
    exact backed
  · rw [← sameLanes]
    exact covered
  · rw [compensation, principal]
    exact recorded
  · rw [same, sameCommitments]
  · have unmoved : released.source.balance = w.market.balance := by rw [← settled]
    simp only [emit, setVault] at balance ⊢
    omega

theorem claimRefundWithAuthorization_moves (wired : w.Wired env) {vaultAddress : Address}
    {commitmentHash : Bytes32} {recipient : Address} {deadline : ℕ} {signature : Signature}
    (done : w.claimRefundWithAuthorization env msg vaultAddress commitmentHash recipient deadline
      signature = .ok next) :
    ∃ auctionId, (w.market.auctions auctionId).auction.exists_ = true ∧
      Moves env msg.timestamp auctionId {} w next := by
  obtain ⟨auctionId, vault, changed, -, released⟩ := claimRefundWithAuthorization_released wired done
  exact ⟨auctionId, released.found, Changes.moves released.changes
    (.shieldedRefunded (vault.lane auctionId) commitmentHash recipient _ released.found released.terminal
      (view_lane released.deployed) released.unlocked released.unclaimed released.funded released.bounded
      released.covered) released.balance (potBalance_of_eq released.pots rfl rfl)⟩

end World

end FairMarket
