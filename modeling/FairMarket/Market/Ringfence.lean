import FairMarket.Market.Solvency

/-! The three claims on the market's balance: none of them lacks funds once its
guards pass, and none of them touches another auction's money. -/

namespace FairMarket

variable {σ : Type}

/-- The claims the market itself pays, and the auction they are for. -/
def Tx.claims : Tx σ → Option AuctionId
  | .claimRefund auctionId | .claimSellerProceeds auctionId | .claimFinalizeReward auctionId =>
    some auctionId
  | _ => none

namespace World

variable {env : External σ} {w next : World σ} {msg : Msg} {auctionId : AuctionId}
  {balance needed : ℕ}

theorem Solvent.refundOf_le (solvent : w.Solvent) (auctionId : AuctionId) (claimant : Address) :
    (w.view auctionId).refundOf claimant ≤ w.market.balance := by
  have own := AuctionView.refundOf_le_owed (solvent.sound auctionId) claimant
  have part := Ledger.le_sum (fun other => (w.view other).owed) auctionId
  rw [solvent.balance]
  exact own.trans (part.trans (Nat.le_add_left ..))

theorem Solvent.sellerPayout_le (solvent : w.Solvent)
    (unclaimed : (w.market.auctions auctionId).auction.sellerClaimed = false) :
    (w.view auctionId).sellerPayout ≤ w.market.balance := by
  have own := @AuctionView.sellerPayout_le_owed (w.view auctionId) unclaimed
  have part := Ledger.le_sum (fun other => (w.view other).owed) auctionId
  rw [solvent.balance]
  exact own.trans (part.trans (Nat.le_add_left ..))

theorem Solvent.finalizationReward_le (solvent : w.Solvent)
    (unclaimed : (w.market.auctions auctionId).finalizationRewardClaimed = false)
    (ended : (w.market.auctions auctionId).auction.state = .finalized ∨
      (w.market.auctions auctionId).auction.state = .voided) :
    (w.market.auctions auctionId).finalizationReward ≤ w.market.balance := by
  have own := @AuctionView.finalizationReward_le_owed (w.view auctionId) unclaimed ended
  have part := Ledger.le_sum (fun other => (w.view other).owed) auctionId
  rw [solvent.balance]
  exact own.trans (part.trans (Nat.le_add_left ..))

/-- A due compensation is in the auction's pot. -/
theorem Solvent.compensationOf_le (wired : w.Wired env) (solvent : w.Solvent)
    (found : (w.market.auctions auctionId).auction.exists_ = true) (claimant : Address) :
    ∃ pot, w.pots (w.snapshot auctionId).slashedPot = some pot ∧
      (w.view auctionId).compensationOf claimant ≤ pot.balance := by
  obtain ⟨pot, deployed⟩ := Option.isSome_iff_exists.mp (wired.snapshots auctionId found).pot
  have covered := solvent.pots _ pot deployed
  have part := Ledger.le_sum (w.potOwedAt (w.snapshot auctionId).slashedPot) auctionId
  have own := Ledger.le_sum (w.view auctionId).compensationOf claimant
  rw [potOwedAt, if_pos rfl] at part
  exact ⟨pot, deployed, own.trans (part.trans covered)⟩

theorem withEngine_error {cell : AuctionStorage} {α : Type} {ownDefault : Except Revert α}
    {call : SettlementEngine → Except Revert α} {raised : Revert}
    (failed : w.withEngine cell ownDefault call = .error raised) :
    ownDefault = .error raised ∨ .callFailed = raised ∨ ∃ engine, call engine = .error raised := by
  unfold withEngine at failed
  dsimp only at failed
  split at failed
  · exact .inl failed
  · simp only [bind_eq_error, requireSome_eq_error] at failed
    rcases failed with ⟨-, missing⟩ | ⟨engine, -, called⟩
    · exact .inr (.inl missing)
    · exact .inr (.inr ⟨engine, called⟩)

theorem previewCompensation_funded {contribution : ℕ} :
    w.previewCompensation auctionId (w.market.auctions auctionId) contribution ≠
      .error (.insufficientBalance balance needed) := by
  intro failed
  unfold previewCompensation at failed
  dsimp only at failed
  split at failed
  · simp only [bind_eq_error, requireSome_eq_error, reduceCtorEq, and_false, false_or] at failed
    obtain ⟨pot, -, shared⟩ := failed
    unfold SlashedPot.previewClaim SettlementEngine.computeProRataShare at shared
    split at shared
    · cases shared
    · simp [bind_eq_error, checkedMul_eq_error] at shared
  · cases failed

theorem previewRefund_funded {claimant : Address} :
    w.previewRefund auctionId claimant ≠ .error (.insufficientBalance balance needed) := by
  intro failed
  simp only [previewRefund, auctionExists, bind_eq_error, bind_eq_ok, revertIf_eq_error, exists_revertIf,
    pure_eq_ok, Except.ok.injEq, reduceCtorEq, and_false, exists_false, or_false, false_or] at failed
  obtain ⟨cell, ⟨-, rfl⟩, failed⟩ := failed
  split at failed
  · split at failed
    · simp only [bind_eq_error, reduceCtorEq, and_false, exists_false, or_false] at failed
      rcases withEngine_error failed with own | missing | ⟨engine, called⟩
      · cases own
      · cases missing
      · cases called
    · cases failed
  · simp only [bind_eq_error, reduceCtorEq, and_false, exists_false, or_false] at failed
    exact previewCompensation_funded failed
  · simp only [bind_eq_error, reduceCtorEq, and_false, exists_false, or_false] at failed
    exact previewCompensation_funded failed
  · cases failed

theorem sendValue_funded {recipient : Address} {amount : ℕ} (covered : amount ≤ w.market.balance) :
    w.sendValue env recipient amount ≠ .error (.insufficientBalance balance needed) := by
  intro failed
  simp only [sendValue, bind_eq_error, revertIf_eq_error, revertIf_eq_ok, requireSome_eq_error, pure_eq_ok,
    reduceCtorEq, and_false, exists_false, or_false] at failed
  exact Nat.not_lt.mpr covered failed.1

theorem payCompensation_funded {claimant : Address} {escrowRefund compensation : ℕ} :
    w.payCompensation env auctionId claimant escrowRefund compensation ≠
      .error (.insufficientBalance balance needed) := by
  intro failed
  unfold payCompensation at failed
  split at failed
  · cases failed
  · simp only [bind_eq_error, requireSome_eq_error, reduceCtorEq, and_false, false_or, Prod.exists] at failed
    obtain ⟨pot, -, claims | ⟨amount, claimed, -, failed⟩⟩ := failed
    · simp only [SlashedPot.claimFor, SlashedPot.onlyMarket, SlashedPot.payClaim, SlashedPot.previewClaim,
        SettlementEngine.computeProRataShare, bind_eq_error, revertIf_eq_error, reduceCtorEq, and_false,
        false_or] at claims
      obtain ⟨-, -, -, -, -, -, shared | ⟨amount, -, unpaid⟩⟩ := claims
      · split at shared
        · cases shared
        · simp [bind_eq_error, checkedMul_eq_error] at shared
      · split at unpaid
        · cases unpaid
        · simp [bind_eq_error, revertIf_eq_error] at unpaid
    · split at failed
      · cases failed
      · simp [bind_eq_error, requireSome_eq_error] at failed

theorem claimRefund_funded (wired : w.Wired env) (solvent : w.Solvent) :
    w.claimRefund env msg auctionId ≠ .error (.insufficientBalance balance needed) := by
  intro failed
  simp only [claimRefund, auctionExists, bind_eq_error, bind_eq_ok, revertIf_eq_error, exists_revertIf,
    pure_eq_ok, Except.ok.injEq, reduceCtorEq, and_false, exists_false, or_false, false_or,
    Prod.exists] at failed
  obtain ⟨cell, ⟨-, rfl⟩, -, failed | ⟨escrowRefund, compensation, previewed, -, failed⟩⟩ := failed
  · exact previewRefund_funded failed
  · obtain ⟨rfl, -⟩ := previewRefund_eq wired previewed
    rcases failed with unpaid | ⟨refunded, -, uncompensated⟩
    · unfold payEscrowRefund at unpaid
      split at unpaid
      · cases unpaid
      · exact sendValue_funded (by exact solvent.refundOf_le auctionId msg.sender) unpaid
    · exact payCompensation_funded uncompensated

theorem previewSellerPayout_funded :
    w.previewSellerPayout auctionId ≠ .error (.insufficientBalance balance needed) := by
  intro failed
  simp only [previewSellerPayout, auctionExists, bind_eq_error, bind_eq_ok, revertIf_eq_error,
    exists_revertIf, pure_eq_ok, Except.ok.injEq, reduceCtorEq, and_false, exists_false, or_false,
    false_or] at failed
  obtain ⟨cell, ⟨-, rfl⟩, failed⟩ := failed
  split at failed
  · simp only [bind_eq_error, reduceCtorEq, and_false, exists_false, or_false] at failed
    rcases withEngine_error failed with own | missing | ⟨engine, called⟩
    · simp [checkedAdd_eq_error] at own
    · cases missing
    · simp [SettlementEngine.computeSellerPayout, checkedAdd_eq_error] at called
  · rcases withEngine_error failed with own | missing | ⟨engine, called⟩
    · cases own
    · cases missing
    · cases called
  · split at failed
    · cases failed
    · simp only [totalEscrowIncludingShielded, bind_eq_error, checkedAdd_eq_error, reduceCtorEq, and_false,
        false_or] at failed
      obtain ⟨total, -, failed⟩ := failed
      split at failed <;> cases failed
  · cases failed

theorem claimSellerProceeds_funded (wired : w.Wired env) (solvent : w.Solvent) :
    w.claimSellerProceeds env msg auctionId ≠ .error (.insufficientBalance balance needed) := by
  intro failed
  simp only [claimSellerProceeds, onlyAuctionSeller, auctionExists, bind_eq_error, bind_eq_ok,
    revertIf_eq_error, exists_revertIf, pure_eq_ok, Except.ok.injEq, reduceCtorEq, and_false,
    exists_false, or_false, false_or, Bool.not_eq_true] at failed
  obtain ⟨cell, ⟨-, rfl⟩, -, unclaimed, failed | ⟨payout, previewed, -, unpaid⟩⟩ := failed
  · exact previewSellerPayout_funded failed
  · obtain rfl := previewSellerPayout_eq wired previewed
    exact sendValue_funded (by exact solvent.sellerPayout_le unclaimed) unpaid

theorem claimFinalizeReward_funded (solvent : w.Solvent) :
    w.claimFinalizeReward env msg auctionId ≠ .error (.insufficientBalance balance needed) := by
  intro failed
  simp only [claimFinalizeReward, auctionExists, bind_eq_error, bind_eq_ok, revertIf_eq_error,
    exists_revertIf, pure_eq_ok, Except.ok.injEq, reduceCtorEq, and_false, exists_false, or_false,
    false_or, Bool.not_eq_true, ne_eq, not_and_or, not_not] at failed
  obtain ⟨cell, ⟨-, rfl⟩, -, unclaimed, ended, unpaid⟩ := failed
  unfold payReward at unpaid
  split at unpaid
  · cases unpaid
  · exact sendValue_funded (by exact solvent.finalizationReward_le unclaimed ended) unpaid

/-- A claim that reverts does not do so for lack of the market's funds. -/
theorem claims_funded (wired : w.Wired env) (solvent : w.Solvent) {tx : Tx σ}
    (claims : tx.claims = some auctionId) :
    w.transact env (msg, tx) ≠ .error (.insufficientBalance balance needed) := by
  intro failed
  simp only [transact, bind_eq_error, revertIf_eq_error, pure_eq_ok, reduceCtorEq, and_false, exists_false,
    or_false, false_or, revertIf_eq_ok] at failed
  obtain ⟨-, -, -, -, failed⟩ := failed
  cases tx <;> try cases claims
  case claimRefund => exact claimRefund_funded wired solvent failed
  case claimSellerProceeds => exact claimSellerProceeds_funded wired solvent failed
  case claimFinalizeReward => exact claimFinalizeReward_funded solvent failed

/-- A claim changes no other auction, and what it takes from the market it takes
from what its own auction is owed. -/
theorem claims_ringfenced (wired : w.Wired env) (solvent : w.Solvent) {tx : Tx σ}
    (claims : tx.claims = some auctionId) (done : w.transact env (msg, tx) = .ok next) :
    (∀ other, other ≠ auctionId → next.view other = w.view other) ∧
      next.market.balance + ((w.view auctionId).owed - (next.view auctionId).owed) = w.market.balance := by
  obtain ⟨⟨known, -, -, -⟩, executed, executes, rfl⟩ := transact_ok.mp done
  have ringfenced : ∀ {flow : Flow}, executed.unsolicited = w.unsolicited → flow.received = 0 →
      Moves env msg.timestamp auctionId flow w executed →
      (∀ other, other ≠ auctionId → executed.view other = w.view other) ∧
        executed.market.balance + ((w.view auctionId).owed - (executed.view auctionId).owed) =
          w.market.balance := by
    intro flow unsolicited unfunded moves
    refine ⟨fun other different => moves.frame.view_eq different, ?_⟩
    have own := moves.step.owed_eq (solvent.sound auctionId)
    have balance := moves.balance
    omega
  cases tx <;> try cases claims
  case claimRefund =>
    obtain ⟨-, unsolicited, moves⟩ := claimRefund_moves wired known executes
    exact ringfenced unsolicited rfl moves
  case claimSellerProceeds =>
    obtain ⟨-, unsolicited, moves⟩ := claimSellerProceeds_moves wired executes
    exact ringfenced unsolicited rfl moves
  case claimFinalizeReward =>
    obtain ⟨-, unsolicited, moves⟩ := claimFinalizeReward_moves executes
    exact ringfenced unsolicited rfl moves

end World

/-- After any run the market's balance is the plain transfers it received plus what
it owes over all auctions. Whatever its views say is due is covered, the compensation
by the auction's own pot; a claim never reverts for lack of funds, leaves all other
auctions as they are, and takes exactly what its own auction is owed less. -/
theorem market_solvency (deployment : Deployment) (env : External σ) (outside : σ)
    (inputs : List (Msg × Tx σ)) :
    let w := deployment.run env outside inputs
    w.market.balance = w.unsolicited + ∑ auctionId, (w.view auctionId).owed ∧
      (∀ auctionId claimant escrowRefund compensation,
        w.previewRefund auctionId claimant = .ok (escrowRefund, compensation) →
        escrowRefund ≤ w.market.balance ∧ ∃ pot, w.pots (w.snapshot auctionId).slashedPot = some pot ∧
          compensation ≤ pot.balance) ∧
      (∀ auctionId payout, (w.market.auctions auctionId).auction.sellerClaimed = false →
        w.previewSellerPayout auctionId = .ok payout → payout ≤ w.market.balance) ∧
      (∀ auctionId, (w.market.auctions auctionId).finalizationRewardClaimed = false →
        (w.market.auctions auctionId).auction.state = .finalized ∨
          (w.market.auctions auctionId).auction.state = .voided →
        (w.market.auctions auctionId).finalizationReward ≤ w.market.balance) ∧
      ∀ msg tx auctionId, tx.claims = some auctionId →
        (∀ balance needed, w.transact env (msg, tx) ≠ .error (.insufficientBalance balance needed)) ∧
        ∀ next, w.transact env (msg, tx) = .ok next →
          (∀ other, other ≠ auctionId → (next.view other).owed = (w.view other).owed) ∧
          next.market.balance + ((w.view auctionId).owed - (next.view auctionId).owed) =
            w.market.balance := by
  intro w
  obtain ⟨wired, solvent⟩ := deployment.run_solvent env outside inputs
  refine ⟨solvent.balance, ?_, ?_, ?_, ?_⟩
  · intro auctionId claimant escrowRefund compensation previewed
    obtain ⟨rfl, rfl⟩ := World.previewRefund_eq wired previewed
    simp only [World.previewRefund, bind_eq_ok, World.auctionExists_ok] at previewed
    obtain ⟨cell, ⟨found, -⟩, -⟩ := previewed
    exact ⟨solvent.refundOf_le auctionId claimant, solvent.compensationOf_le wired found claimant⟩
  · intro auctionId payout unclaimed previewed
    obtain rfl := World.previewSellerPayout_eq wired previewed
    exact solvent.sellerPayout_le unclaimed
  · intro auctionId unclaimed ended
    exact solvent.finalizationReward_le unclaimed ended
  · intro msg tx auctionId claims
    refine ⟨fun balance needed => World.claims_funded wired solvent claims, fun next done => ?_⟩
    obtain ⟨others, paid⟩ := World.claims_ringfenced wired solvent claims done
    exact ⟨fun other different => by rw [others other different], paid⟩

end FairMarket
