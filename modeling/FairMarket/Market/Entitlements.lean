import FairMarket.Market.Accounted
import FairMarket.Market.Conservation
import FairMarket.Market.Ringfence

/-! Who may still claim what on a settled auction, and why none of these claims can
be refused. -/

namespace FairMarket

open Event

variable {σ : Type}

/-- The claims on a settled auction. -/
inductive Entitlement where
  | refund (claimant : Address)
  | shieldedRefund (commitmentHash : Bytes32)
  | sellerProceeds
  | finalizeReward
  deriving DecidableEq

/-- The hashes that tell claims apart do not collide. -/
structure External.CollisionFree (env : External σ) : Prop where
  refundKey : Function.Injective env.refundKey
  claimKey : Function.Injective fun claimant : Address => env.keccak [.ofAddress claimant]

theorem Event.compensation_le_paid (log : List Event) : total compensation log ≤ total paid log := by
  induction log with
  | nil => exact Nat.le_refl _
  | cons event rest ih =>
    have own : event.compensation ≤ event.paid := by
      cases event with
      | refundClaimed auctionId claimant escrowRefund amount => exact Nat.le_add_left ..
      | _ => exact Nat.zero_le _
    rw [total_cons, total_cons]
    exact Nat.add_le_add own ih

/-- Everything still held for an auction was deposited for it. -/
theorem Conserved.held_le {v : AuctionView} (conserved : Conserved v) :
    v.owed + v.shieldedTotal + v.reserve + v.pot.totalSlash ≤ v.deposited := by
  have value := conserved.value
  have drawn := compensation_le_paid v.log
  unfold AuctionView.takenIn AuctionView.elsewhere at value
  omega

theorem AuctionView.refundOf_le_escrow (v : AuctionView) (claimant : Address) :
    v.refundOf claimant ≤ v.cell.escrowBalances claimant := by
  unfold AuctionView.refundOf AuctionStorage.refundOf
  cases v.cell.auction.state with
  | finalized =>
    dsimp only
    split <;> omega
  | cancelled => exact Nat.le_refl _
  | voided => exact Nat.le_refl _
  | _ => exact Nat.zero_le _

/-- The party has something left to claim. A commitment does when it holds an amount. -/
def AuctionView.Entitled (v : AuctionView) (shieldedAmount : Bytes32 → ℕ) : Entitlement → Prop
  | .refund claimant => v.refundOf claimant ≠ 0
  | .shieldedRefund commitmentHash => shieldedAmount commitmentHash ≠ 0
  | .sellerProceeds => v.cell.auction.sellerClaimed = false ∧ v.sellerPayout ≠ 0
  | .finalizeReward => v.cell.finalizationRewardClaimed = false ∧
      (v.cell.auction.state = .finalized ∨ v.cell.auction.state = .voided)

namespace World

/-- What a commitment holds for an auction in the auction's vault. -/
def shieldedAmount (w : World σ) (auctionId : AuctionId) (commitmentHash : Bytes32) : ℕ :=
  (w.vaults (w.snapshot auctionId).shieldedEscrowVault).elim 0 fun vault =>
    (vault.commitments commitmentHash).amountIn auctionId

def Entitled (w : World σ) (auctionId : AuctionId) : Entitlement → Prop :=
  (w.view auctionId).Entitled (w.shieldedAmount auctionId)

/-- An ordinary account that takes every plain transfer. -/
structure AcceptsEther (env : External σ) (w : World σ) (account : Address) : Prop where
  known : account ≠ 0
  stranger : w.isSystem env account = false
  accepts : ∀ outside amount, (env.receiveEther outside account amount).isSome = true

/-- The transaction by which a party, or a relayer with a claim authority's
signature, makes a claim. -/
inductive Exercises (env : External σ) (w : World σ) (auctionId : AuctionId) :
    Entitlement → Msg × Tx σ → Prop where
  | refund {msg : Msg} (unpaid : msg.value = 0) (claimant : w.AcceptsEther env msg.sender) :
      Exercises env w auctionId (.refund msg.sender) (msg, .claimRefund auctionId)
  | shieldedRefund {msg : Msg} {commitmentHash : Bytes32} {recipient : Address} {deadline : ℕ}
      {signature : Signature} {vault : ShieldedEscrowVault} (unpaid : msg.value = 0)
      (known : msg.sender ≠ 0) (stranger : w.isSystem env msg.sender = false)
      (paid : w.AcceptsEther env recipient)
      (deployed : w.vaults (w.snapshot auctionId).shieldedEscrowVault = some vault)
      (unexpired : msg.timestamp ≤ deadline)
      (signed : env.recover (ShieldedEscrowVault.claimDigest env.toChain
        (w.snapshot auctionId).shieldedEscrowVault ShieldedEscrowVault.refundClaimTag auctionId
          commitmentHash recipient deadline) signature =
        some (vault.commitments commitmentHash).claimAuthority) :
      Exercises env w auctionId (.shieldedRefund commitmentHash)
        (msg, .claimRefundWithAuthorization (w.snapshot auctionId).shieldedEscrowVault commitmentHash
          recipient deadline signature)
  | sellerProceeds {msg : Msg} (unpaid : msg.value = 0) (seller : w.AcceptsEther env msg.sender)
      (own : msg.sender = (w.market.auctions auctionId).auction.seller) :
      Exercises env w auctionId .sellerProceeds (msg, .claimSellerProceeds auctionId)
  | finalizeReward {msg : Msg} (unpaid : msg.value = 0) (executor : w.AcceptsEther env msg.sender)
      (own : msg.sender = (w.market.auctions auctionId).finalizationExecutor) :
      Exercises env w auctionId .finalizeReward (msg, .claimFinalizeReward auctionId)

variable {env : External σ} {w next : World σ} {msg : Msg} {auctionId : AuctionId}

/-- Which addresses are contracts of this world depends only on where they are deployed. -/
theorem isSystem_eq (vaults : ∀ address, (next.vaults address).isSome = (w.vaults address).isSome)
    (registries : ∀ address, (next.registries address).isSome = (w.registries address).isSome)
    (pots : ∀ address, (next.pots address).isSome = (w.pots address).isSome)
    (engines : ∀ address, (next.engines address).isSome = (w.engines address).isSome)
    (address : Address) : next.isSystem env address = w.isSystem env address := by
  simp only [isSystem, vaults, registries, pots, engines]

/-- Everything that holds in the worlds of a run, for one settled auction whose
deposits are far below the word size. -/
structure Settling (env : External σ) (w : World σ) (auctionId : AuctionId) : Prop where
  wired : w.Wired env
  solvent : w.Solvent
  accounted : w.Accounted env
  conserved : Conserved (w.view auctionId)
  settled : Settled (w.view auctionId)
  supply : (w.view auctionId).deposited < 2 ^ 128

namespace Settling

theorem found (settling : w.Settling env auctionId) :
    (w.market.auctions auctionId).auction.exists_ = true := settling.settled.found

theorem terminal (settling : w.Settling env auctionId) :
    (w.market.auctions auctionId).auction.state.terminal = true := settling.settled.terminal

theorem refundOf_lt (settling : w.Settling env auctionId) (claimant : Address) :
    (w.view auctionId).refundOf claimant < 2 ^ 128 := by
  have own := AuctionView.refundOf_le_owed settling.conserved.sound claimant
  have held := settling.conserved.held_le
  have supply := settling.supply
  omega

theorem totalSlash_lt (settling : w.Settling env auctionId) :
    (w.view auctionId).pot.totalSlash < 2 ^ 128 := by
  have held := settling.conserved.held_le
  have supply := settling.supply
  omega

theorem withEngine_succeeds (settling : w.Settling env auctionId) {α : Type}
    {ownDefault : Except Revert α} {call : SettlementEngine → Except Revert α}
    (own : ∃ result, ownDefault = .ok result) (called : ∀ engine, ∃ result, call engine = .ok result) :
    ∃ result, w.withEngine (w.market.auctions auctionId) ownDefault call = .ok result :=
  settling.wired.withEngine_succeeds settling.found own called

theorem computeWinningRefund_succeeds (settling : w.Settling env auctionId)
    (contribution winningAmount : ℕ) :
    ∃ refund, w.computeWinningRefund (w.market.auctions auctionId) contribution winningAmount =
      .ok refund :=
  settling.withEngine_succeeds ⟨_, rfl⟩ fun _ => ⟨_, rfl⟩

theorem previewCompensation_succeeds (settling : w.Settling env auctionId) {contribution : ℕ}
    (small : contribution < 2 ^ 128) :
    ∃ compensation, w.previewCompensation auctionId (w.market.auctions auctionId) contribution =
      .ok compensation := by
  have deployed := (settling.wired.snapshots auctionId settling.found).pot
  obtain ⟨pot, present⟩ := Option.isSome_iff_exists.mp deployed
  have slash := settling.totalSlash_lt
  rw [view_pot present] at slash
  unfold previewCompensation
  rw [settling.wired.auctionPot settling.found]
  dsimp only
  split
  · have computed := @SettlementEngine.computeProRataShare_ok contribution
      (pot.pots auctionId).totalEscrow _ (fits_mul small slash)
    refine ⟨_, bind_eq_ok.mpr ⟨pot, ?_, computed⟩⟩
    exact requireSome_eq_ok.mpr present
  · exact ⟨0, rfl⟩

/-- The amounts of any refund can be computed. -/
theorem previewRefund_succeeds (settling : w.Settling env auctionId) (claimant : Address) :
    w.previewRefund auctionId claimant =
      .ok ((w.view auctionId).refundOf claimant, (w.view auctionId).compensationOf claimant) := by
  have computed : ∃ amounts, w.previewRefund auctionId claimant = .ok amounts := by
    have refund := settling.refundOf_lt claimant
    unfold AuctionView.refundOf AuctionStorage.refundOf at refund
    simp only [view_cell] at refund
    unfold previewRefund
    rw [auctionExists_ok.mpr ⟨settling.found, rfl⟩, ok_bind]
    dsimp only
    rcases AuctionState.terminal_cases settling.terminal with state | state | state
    · simp only [state]
      split
      · obtain ⟨left, computes⟩ := settling.computeWinningRefund_succeeds
          ((w.market.auctions auctionId).escrowBalances claimant)
          (w.market.auctions auctionId).auction.winningAmount
        exact ⟨_, by rw [computes, ok_bind, pure_eq_ok]⟩
      · exact ⟨_, rfl⟩
    · simp only [state] at refund ⊢
      obtain ⟨compensation, computes⟩ := settling.previewCompensation_succeeds refund
      exact ⟨_, by rw [computes, ok_bind, pure_eq_ok]⟩
    · simp only [state] at refund ⊢
      obtain ⟨compensation, computes⟩ := settling.previewCompensation_succeeds refund
      exact ⟨_, by rw [computes, ok_bind, pure_eq_ok]⟩
  obtain ⟨⟨refund, compensation⟩, done⟩ := computed
  obtain ⟨rfl, rfl⟩ := previewRefund_eq settling.wired done
  exact done

/-- Who has a refund left has not withdrawn. -/
theorem unwithdrawn (settling : w.Settling env auctionId) {claimant : Address}
    (due : (w.view auctionId).refundOf claimant ≠ 0) :
    (w.market.auctions auctionId).hasWithdrawn claimant = false := by
  by_contra withdrawn
  have empty := settling.settled.withdrawn claimant (by simpa using withdrawn)
  have bounded := AuctionView.refundOf_le_escrow (w.view auctionId) claimant
  omega

/-- A compensation is drawn once by each account, so a first one is not refused. -/
theorem payCompensation_succeeds (settling : w.Settling env auctionId) (free : env.CollisionFree)
    {claimant : Address} (due : (w.view auctionId).refundOf claimant ≠ 0)
    (accepts : ∀ outside amount, (env.receiveEther outside claimant amount).isSome = true)
    {refunded : World σ} (pots : refunded.pots = w.pots)
    (own : refunded.auctionSlashedPot (refunded.market.auctions auctionId) =
      (w.snapshot auctionId).slashedPot) :
    ∃ paid compensated, refunded.payCompensation env auctionId claimant
      ((w.view auctionId).refundOf claimant) ((w.view auctionId).compensationOf claimant) =
        .ok (paid, compensated) := by
  unfold payCompensation
  split
  · exact ⟨_, _, rfl⟩
  · rename_i some
    obtain ⟨pot, present, covered⟩ :=
      settling.solvent.compensationOf_le settling.wired settling.found claimant
    have unwithdrawn := settling.unwithdrawn due
    obtain ⟨byAccount, byKey⟩ := settling.accounted.compensated _ pot present auctionId
    have unclaimed : pot.hasClaimedCompensation auctionId claimant = false := by
      by_contra claimed
      have withdrawn := byAccount claimant (by simpa using claimed)
      rw [unwithdrawn] at withdrawn
      cases withdrawn
    have unclaimedKey :
        pot.hasClaimedCompensationByKey auctionId (env.keccak [.ofAddress claimant]) = false := by
      by_contra claimed
      obtain ⟨p, same, withdrawn⟩ := byKey _ (by simpa using claimed)
      rw [free.claimKey same, unwithdrawn] at withdrawn
      cases withdrawn
    have slash := settling.totalSlash_lt
    have share := @compensationOf_eq (w.market.auctions auctionId) (w.view auctionId).pot claimant some
    rw [view_pot present] at slash share
    have computed : pot.previewClaim auctionId ((w.view auctionId).refundOf claimant) =
        .ok ((w.view auctionId).compensationOf claimant) := by
      refine (SettlementEngine.computeProRataShare_ok
        (fits_mul (settling.refundOf_lt claimant) slash)).trans (congrArg Except.ok ?_)
      exact share.trans (by rw [AuctionView.compensationOf, view_pot present]; rfl)
    have claims := SlashedPot.claimFor_ok.mpr ⟨⟨(settling.wired.potMarket _ pot present).symm, unclaimed,
      unclaimedKey, computed, covered⟩, rfl⟩
    obtain ⟨outside, received⟩ := Option.isSome_iff_exists.mp
      (accepts refunded.outside ((w.view auctionId).compensationOf claimant))
    dsimp only
    rw [own, pots, present]
    simp only [requireSome, ok_bind, claims, if_neg some, received, pure_eq_ok]
    exact ⟨_, _, rfl⟩

theorem claimRefund_succeeds (settling : w.Settling env auctionId) (free : env.CollisionFree)
    (claimant : w.AcceptsEther env msg.sender)
    (due : (w.view auctionId).refundOf msg.sender ≠ 0) :
    ∃ next, w.claimRefund env msg auctionId = .ok next := by
  obtain ⟨outside, received⟩ := Option.isSome_iff_exists.mp
    (claimant.accepts w.outside ((w.view auctionId).refundOf msg.sender))
  have refunds : ∃ refunded, (w.setAuction auctionId { w.market.auctions auctionId with
      hasWithdrawn := Function.update (w.market.auctions auctionId).hasWithdrawn msg.sender true
      }).payEscrowRefund env auctionId { w.market.auctions auctionId with
        hasWithdrawn := Function.update (w.market.auctions auctionId).hasWithdrawn msg.sender true }
          msg.sender ((w.view auctionId).refundOf msg.sender) = .ok refunded := by
    unfold payEscrowRefund
    rw [if_neg due]
    exact ⟨_, sendValue_ok.mpr ⟨settling.solvent.refundOf_le auctionId msg.sender, outside, received, rfl⟩⟩
  obtain ⟨refunded, refunds⟩ := refunds
  obtain ⟨second, -, -, pots, -⟩ := payEscrowRefund_changes (Function.update_self ..) refunds
  have first : Frame auctionId w (w.setAuction auctionId { w.market.auctions auctionId with
      hasWithdrawn := Function.update (w.market.auctions auctionId).hasWithdrawn msg.sender true }) :=
    .setAuction rfl rfl
  have both := first.trans second.frame
  have own := (settling.wired.of_frame both settling.found).auctionPot (both.found.trans settling.found)
  rw [both.snapshot] at own
  obtain ⟨paid, compensated, compensates⟩ :=
    settling.payCompensation_succeeds free due claimant.accepts pots own
  unfold claimRefund
  rw [auctionExists_ok.mpr ⟨settling.found, rfl⟩, ok_bind, settling.previewRefund_succeeds msg.sender]
  simp only [bind_eq_ok, exists_revertIf, Prod.exists, Except.ok.injEq, settling.unwithdrawn due]
  exact ⟨_, Bool.noConfusion, _, _, rfl, fun none => due none.1, refunded, refunds, paid, compensated,
    compensates, rfl⟩

theorem previewSellerPayout_succeeds (settling : w.Settling env auctionId)
    (unclaimed : (w.market.auctions auctionId).auction.sellerClaimed = false) :
    w.previewSellerPayout auctionId = .ok (w.view auctionId).sellerPayout := by
  have held := settling.conserved.held_le
  have supply := settling.supply
  have computed : ∃ payout, w.previewSellerPayout auctionId = .ok payout := by
    unfold previewSellerPayout
    rw [auctionExists_ok.mpr ⟨settling.found, rfl⟩, ok_bind]
    rcases AuctionState.terminal_cases settling.terminal with state | state | state
    · have payout := @AuctionView.sellerPayout_le_owed (w.view auctionId) unclaimed
      unfold AuctionView.sellerPayout at payout
      have reward := settling.settled.reward (by rw [view_cell, state]; decide)
      have small := keeperReward_lt settling.settled.deposited
      have deposit : (w.view auctionId).cell.auction.sellerDeposit ≤ (w.view auctionId).deposited :=
        (Nat.le_add_right ..).trans (Nat.le_add_right ..)
      simp only [view_cell, state] at payout reward small deposit
      have fits : FitsUint256 ((w.market.auctions auctionId).auction.sellerDeposit +
          (w.market.auctions auctionId).auction.winningAmount) := by
        unfold FitsUint256
        omega
      obtain ⟨gross, computes⟩ : ∃ gross, w.computeSellerPayout (w.market.auctions auctionId)
          (w.market.auctions auctionId).auction.sellerDeposit
          (w.market.auctions auctionId).auction.winningAmount = .ok gross :=
        settling.withEngine_succeeds ⟨_, checkedAdd_eq_ok.mpr ⟨fits, rfl⟩⟩
          fun _ => ⟨_, checkedAdd_eq_ok.mpr ⟨fits, rfl⟩⟩
      simp only [state, computes, ok_bind]
      exact ⟨_, rfl⟩
    · simp only [state]
      exact settling.withEngine_succeeds ⟨_, rfl⟩ fun _ => ⟨_, rfl⟩
    · simp only [state]
      split
      · exact ⟨0, rfl⟩
      · have locked := settling.conserved.shared.publicEscrow
        have escrow : Event.total publicEscrow (w.view auctionId).log ≤ (w.view auctionId).deposited :=
          (Nat.le_add_left ..).trans (Nat.le_add_right ..)
        have fits : FitsUint256 ((w.market.auctions auctionId).auction.totalEscrow +
            (w.view auctionId).shieldedTotal) := by
          rw [view_cell] at locked
          unfold FitsUint256
          omega
        have totals : w.totalEscrowIncludingShielded auctionId (w.market.auctions auctionId) =
            .ok (w.view auctionId).totalEscrow := by
          rw [totalEscrowIncludingShielded, shieldedEscrowTotal_eq settling.wired settling.found]
          exact checkedAdd_eq_ok.mpr ⟨fits, rfl⟩
        rw [totals, ok_bind]
        split
        · exact ⟨0, rfl⟩
        · exact ⟨_, rfl⟩
  obtain ⟨payout, done⟩ := computed
  obtain rfl := previewSellerPayout_eq settling.wired done
  exact done

theorem claimSellerProceeds_succeeds (settling : w.Settling env auctionId)
    (seller : w.AcceptsEther env msg.sender)
    (own : msg.sender = (w.market.auctions auctionId).auction.seller)
    (unclaimed : (w.market.auctions auctionId).auction.sellerClaimed = false)
    (due : (w.view auctionId).sellerPayout ≠ 0) :
    ∃ next, w.claimSellerProceeds env msg auctionId = .ok next := by
  obtain ⟨outside, received⟩ := Option.isSome_iff_exists.mp
    (seller.accepts w.outside (w.view auctionId).sellerPayout)
  unfold claimSellerProceeds onlyAuctionSeller
  rw [auctionExists_ok.mpr ⟨settling.found, rfl⟩, ok_bind,
    settling.previewSellerPayout_succeeds unclaimed]
  simp only [bind_eq_ok, exists_revertIf, ok_bind, sendValue_ok, pure_eq_ok, Except.ok.injEq, unclaimed]
  exact ⟨_, fun other => other own.symm, Bool.noConfusion, due, _,
    ⟨settling.solvent.sellerPayout_le unclaimed, outside, received, rfl⟩, rfl⟩

theorem claimFinalizeReward_succeeds (settling : w.Settling env auctionId)
    (executor : w.AcceptsEther env msg.sender)
    (own : msg.sender = (w.market.auctions auctionId).finalizationExecutor)
    (unclaimed : (w.market.auctions auctionId).finalizationRewardClaimed = false)
    (ended : (w.market.auctions auctionId).auction.state = .finalized ∨
      (w.market.auctions auctionId).auction.state = .voided) :
    ∃ next, w.claimFinalizeReward env msg auctionId = .ok next := by
  obtain ⟨outside, received⟩ := Option.isSome_iff_exists.mp
    (executor.accepts w.outside (w.market.auctions auctionId).finalizationReward)
  have pays : ∃ sent, (w.setAuction auctionId { w.market.auctions auctionId with
      finalizationRewardClaimed := true }).payReward env msg.sender
        (w.market.auctions auctionId).finalizationReward = .ok sent := by
    unfold payReward
    split
    · exact ⟨_, rfl⟩
    · exact ⟨_, sendValue_ok.mpr
        ⟨settling.solvent.finalizationReward_le unclaimed ended, outside, received, rfl⟩⟩
  obtain ⟨sent, pays⟩ := pays
  unfold claimFinalizeReward
  rw [auctionExists_ok.mpr ⟨settling.found, rfl⟩, ok_bind]
  simp only [bind_eq_ok, exists_revertIf, pure_eq_ok, Except.ok.injEq, unclaimed]
  refine ⟨_, fun other => other own.symm, Bool.noConfusion, ?_, sent, pays, rfl⟩
  rcases ended with state | state
  · exact fun neither => neither.1 state
  · exact fun neither => neither.2 state

section Shielded

variable {vault : ShieldedEscrowVault} {commitmentHash : Bytes32}

/-- The vault is ready to refund a commitment that still holds something. -/
theorem refundReady (settling : w.Settling env auctionId)
    (deployed : w.vaults (w.snapshot auctionId).shieldedEscrowVault = some vault)
    (about : (vault.commitments commitmentHash).auctionId = auctionId)
    (funded : (vault.commitments commitmentHash).amount ≠ 0) : vault.RefundReady commitmentHash := by
  have held := settling.conserved.held_le
  have supply := settling.supply
  have backed := settling.accounted.backed _ vault deployed
  have part := backed.amount_le_total commitmentHash
  have share := backed.compensation_le_reserve commitmentHash
  have lane := view_lane deployed
  have total : (w.view auctionId).shieldedTotal = vault.auctionTotals auctionId := by
    rw [AuctionView.shieldedTotal, lane]
    rfl
  have reserve : (w.view auctionId).reserve = vault.shieldedSlashReserves auctionId := by
    rw [AuctionView.reserve, lane]
    rfl
  rw [total, reserve] at held
  dsimp only at share
  rw [about] at part share
  constructor
  · exact funded
  · rw [about]
    exact (settling.settled.unlocked _ lane).1
  · rw [about]
    exact fits_mul (by omega) (by omega)
  · rw [about]
    exact fits_add (by omega) (by omega)

/-- The market lets the vault refund a commitment that was not refunded before. -/
theorem settleShieldedRefund_succeeds (settling : w.Settling env auctionId) (free : env.CollisionFree)
    (deployed : w.vaults (w.snapshot auctionId).shieldedEscrowVault = some vault)
    (unclaimed : (vault.commitments commitmentHash).claimed = false) (recipient : Address)
    (amount : ℕ) :
    ∃ changed, w.market.settleShieldedRefund (w.snapshot auctionId).shieldedEscrowVault auctionId
      (env.refundKey commitmentHash) recipient amount = .ok changed := by
  have unmarked :
      (w.market.auctions auctionId).shieldedRefundClaimed (env.refundKey commitmentHash) = false := by
    by_contra marked
    obtain ⟨other, c, present, same, claimed⟩ :=
      settling.accounted.refunded auctionId _ (by simpa using marked)
    rw [deployed, Option.some.injEq] at present
    rw [free.refundKey same, ← present, unclaimed] at claimed
    cases claimed
  exact ⟨_, settleShieldedRefund_ok.mpr ⟨⟨settling.found, (settling.wired.auctionVault settling.found).symm,
    unmarked, settling.terminal, (settling.settled.unlocked _ (view_lane deployed)).2⟩, rfl⟩⟩

theorem claimRefundWithAuthorization_succeeds (settling : w.Settling env auctionId)
    (free : env.CollisionFree)
    (deployed : w.vaults (w.snapshot auctionId).shieldedEscrowVault = some vault)
    (about : (vault.commitments commitmentHash).auctionId = auctionId)
    (funded : (vault.commitments commitmentHash).amount ≠ 0) {recipient : Address} {deadline : ℕ}
    {signature : Signature} (paid : w.AcceptsEther env recipient) (unexpired : msg.timestamp ≤ deadline)
    (signed : env.recover (ShieldedEscrowVault.claimDigest env.toChain
      (w.snapshot auctionId).shieldedEscrowVault ShieldedEscrowVault.refundClaimTag auctionId
        commitmentHash recipient deadline) signature =
      some (vault.commitments commitmentHash).claimAuthority) :
    ∃ next, w.claimRefundWithAuthorization env msg (w.snapshot auctionId).shieldedEscrowVault
      commitmentHash recipient deadline signature = .ok next := by
  have claimable := settling.accounted.claimable _ vault deployed
  obtain ⟨authority, unclaimed⟩ := claimable.funded commitmentHash funded
  have nonzero := (settling.wired.counted auctionId settling.found).1
  have unused : vault.usedClaimAuthorizations (ShieldedEscrowVault.claimDigest env.toChain
      (w.snapshot auctionId).shieldedEscrowVault ShieldedEscrowVault.refundClaimTag auctionId
        commitmentHash recipient deadline) = false := by
    by_contra used
    have claimed := claimable.spent auctionId commitmentHash recipient deadline (by simpa using used)
    rw [unclaimed] at claimed
    cases claimed
  obtain ⟨digest, consumed, authorized⟩ : ∃ digest consumed, vault.consumeClaimAuthorization env.toChain
      (w.snapshot auctionId).shieldedEscrowVault msg.timestamp ShieldedEscrowVault.refundClaimTag
        commitmentHash (vault.commitments commitmentHash).auctionId recipient deadline signature =
          .ok (digest, consumed) := by
    rw [about]
    exact ⟨_, _, ShieldedEscrowVault.consumeClaimAuthorization_ok.mpr
      ⟨⟨paid.known, unexpired, about ▸ nonzero, authority, unused, signed⟩, rfl, rfl⟩⟩
  have ready := settling.refundReady deployed about funded
  have backed := (settling.accounted.backed _ vault deployed).consumeClaimAuthorization authorized
  obtain ⟨source, settles⟩ := settling.settleShieldedRefund_succeeds free deployed unclaimed recipient
    (vault.commitments commitmentHash).amount
  rw [← about] at settles
  obtain ⟨released, releases⟩ : ∃ released, consumed.releaseRefund
      (w.market.settleShieldedRefund (w.snapshot auctionId).shieldedEscrowVault) commitmentHash
        (ShieldedEscrowVault.compensationKey env.toChain commitmentHash) recipient = .ok released := by
    rw [← about]
    obtain ⟨-, -, rfl⟩ := ShieldedEscrowVault.consumeClaimAuthorization_ok.mp authorized
    exact backed.releaseRefund_succeeds
      ⟨ready.funded, ready.unlocked, ready.productFits, ready.paymentFits⟩ settles
  have done := ShieldedEscrowVault.claimRefundWithAuthorization_ok.mpr
    ⟨digest, consumed, funded, authorized, releases⟩
  have stranger := paid.stranger
  have outsider : recipient ≠ env.market := by
    rintro rfl
    simp [isSystem] at stranger
  obtain ⟨outside, received⟩ := Option.isSome_iff_exists.mp
    (paid.accepts w.outside (released.principalAmount + released.compensationAmount))
  have pays : ∃ sent, ({ w with market := released.source }.setVault
      (w.snapshot auctionId).shieldedEscrowVault released.vault).payRefund env recipient
        (released.principalAmount + released.compensationAmount) = .ok sent := by
    have same : ({ w with market := released.source }.setVault
        (w.snapshot auctionId).shieldedEscrowVault released.vault).isSystem env recipient = false := by
      rw [← stranger]
      have table : Tables (fun _ _ _ => True) w.vaults (Function.update w.vaults
          (w.snapshot auctionId).shieldedEscrowVault (some released.vault)) :=
        .update (fun _ _ => trivial) deployed trivial
      apply isSystem_eq
      · exact table.isSome_eq
      all_goals exact fun _ => rfl
    unfold payRefund
    rw [if_neg outsider, same]
    exact ⟨_, bind_eq_ok.mpr ⟨outside, requireSome_eq_ok.mpr received, rfl⟩⟩
  obtain ⟨sent, pays⟩ := pays
  unfold claimRefundWithAuthorization
  simp only [bind_eq_ok, requireSome_eq_ok, pure_eq_ok, Except.ok.injEq]
  exact ⟨_, vault, deployed, released, done, sent, pays, rfl⟩

end Shielded

end Settling

end World

end FairMarket
