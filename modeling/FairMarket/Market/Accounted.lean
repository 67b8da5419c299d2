import FairMarket.Market.Effects
import FairMarket.Market.Runs

/-! The marks of paid claims agree across the contracts: a refund the market has
marked is claimed in the vault, and who drew from a pot has withdrawn. -/

namespace FairMarket

/-- What no step of an auction takes back. -/
structure AuctionView.Kept (v next : AuctionView) : Prop where
  found : v.cell.auction.exists_ = true → next.cell.auction.exists_ = true
  snapshot : v.cell.auction.exists_ = true →
    next.cell.dependencySnapshot = v.cell.dependencySnapshot
  withdrawn : ∀ p, v.cell.hasWithdrawn p = true → next.cell.hasWithdrawn p = true

theorem AuctionView.Kept.refl (v : AuctionView) : v.Kept v := ⟨id, fun _ => rfl, fun _ => id⟩

theorem AuctionStep.kept {refundKey : Bytes32 → Bytes32} {auctionId : AuctionId} {now : ℕ} {flow : Flow}
    {v next : AuctionView} (step : AuctionStep refundKey auctionId now flow v next) : v.Kept next := by
  cases step with
  | created _ _ _ _ _ _ _ _ _ fresh =>
    subst fresh
    exact ⟨nofun, nofun, nofun⟩
  | resolved => exact ⟨by simp, by simp, by simp⟩
  | shieldedResolved => exact ⟨by simp, by simp, by simp⟩
  | cancelled => exact ⟨by simp, by simp, by simp⟩
  | voided => exact ⟨by simp, by simp, by simp⟩
  | refundClaimed claimant =>
    refine ⟨id, fun _ => rfl, fun p before => ?_⟩
    change Function.update v.cell.hasWithdrawn claimant true p = true
    by_cases own : p = claimant
    · rw [own, Function.update_self]
    · rw [Function.update_of_ne own]
      exact before
  | _ => exact ⟨id, fun _ => rfl, fun _ => id⟩

variable {σ : Type}

namespace World

variable {env : External σ} {w next : World σ} {msg : Msg}

theorem Transition.kept {now : ℕ} {touched : AuctionId} {flow : Flow}
    (transition : Transition env now touched flow w next) (auctionId : AuctionId) :
    (w.view auctionId).Kept (next.view auctionId) := by
  by_cases same : auctionId = touched
  · subst same
    rcases transition.step with ⟨-, unchanged⟩ | step
    · rw [unchanged]
      exact .refl _
    · exact step.kept
  · rw [transition.others auctionId same]
    exact .refl _

/-- The books of vaults, pots and market agree on what has been claimed. -/
structure Accounted (env : External σ) (w : World σ) : Prop where
  backed : ∀ address vault, w.vaults address = some vault → vault.Backed
  claimable : ∀ address vault, w.vaults address = some vault → vault.Claimable env.toChain address
  refunded : ∀ auctionId key, (w.market.auctions auctionId).shieldedRefundClaimed key = true →
    ∃ vault commitmentHash, w.vaults (w.snapshot auctionId).shieldedEscrowVault = some vault ∧
      env.refundKey commitmentHash = key ∧ (vault.commitments commitmentHash).claimed = true
  compensated : ∀ address pot, w.pots address = some pot → ∀ auctionId,
    (∀ p, pot.hasClaimedCompensation auctionId p = true →
      (w.market.auctions auctionId).hasWithdrawn p = true) ∧
    ∀ key, pot.hasClaimedCompensationByKey auctionId key = true →
      ∃ p, env.keccak [.ofAddress p] = key ∧ (w.market.auctions auctionId).hasWithdrawn p = true

theorem VaultMove.drives {tx : Tx σ} {address : Address} {vault changed : ShieldedEscrowVault}
    (move : VaultMove env w msg tx address vault changed) :
    ∃ requests, ShieldedEscrowVault.Driven env.toChain address vault requests changed := by
  cases move with
  | driven requests _ driven => exact ⟨requests, driven⟩
  | @locked auctionId _ commitmentHash claimAuthority _ _ _ locks =>
    have called : vault.call env.toChain address
        (.lockEscrow env.market msg.value auctionId commitmentHash claimAuthority) = .ok changed := locks
    exact ⟨_, .once called⟩
  | refunded _ _ refunds => exact ⟨_, .once refunds⟩

theorem Accounted.step (accounted : w.Accounted env) (wired : w.Wired env) {tx : Tx σ}
    (done : w.transact env (msg, tx) = .ok next) : next.Accounted env := by
  have effects := transact_effects wired done
  obtain ⟨-, -, -, touched, flow, transition⟩ := transact_transition wired done
  have kept := transition.kept
  constructor
  · intro address changed present
    obtain ⟨vault, before, move⟩ := effects.vaults.exists_before present
    obtain ⟨requests, driven⟩ := move.drives
    exact driven.backed (accounted.backed address vault before)
  · intro address changed present
    obtain ⟨vault, before, move⟩ := effects.vaults.exists_before present
    obtain ⟨requests, driven⟩ := move.drives
    exact driven.claimable (accounted.claimable address vault before)
  · intro auctionId key marked
    rcases effects.refunds auctionId key marked with old | ⟨found, new⟩
    · have found : (w.market.auctions auctionId).auction.exists_ = true := by
        by_contra absent
        rw [(wired.blank auctionId (Bool.eq_false_iff.mpr absent)).1] at old
        cases old
      have same : next.snapshot auctionId = w.snapshot auctionId := (kept auctionId).snapshot found
      obtain ⟨vault, commitmentHash, deployed, about, claimed⟩ := accounted.refunded auctionId key old
      obtain ⟨changed, present, move⟩ := effects.vaults.exists_after deployed
      obtain ⟨requests, driven⟩ := move.drives
      rw [same]
      exact ⟨changed, commitmentHash, present, about, driven.claimed claimed⟩
    · have same : next.snapshot auctionId = w.snapshot auctionId := (kept auctionId).snapshot found
      rw [same]
      exact new
  · intro address changed present auctionId
    obtain ⟨pot, before, marks⟩ := effects.compensations.exists_before present
    obtain ⟨byAccount, byKey⟩ := accounted.compensated address pot before auctionId
    constructor
    · intro p claimed
      rcases (marks auctionId).1 p claimed with old | new
      · exact (kept auctionId).withdrawn p (byAccount p old)
      · exact new
    · intro key claimed
      rcases (marks auctionId).2 key claimed with old | new
      · obtain ⟨p, about, withdrawn⟩ := byKey key old
        exact ⟨p, about, (kept auctionId).withdrawn p withdrawn⟩
      · exact new

end World

theorem Deployment.genesis_accounted (deployment : Deployment) (env : External σ) (outside : σ) :
    (deployment.genesis env outside).Accounted env where
  backed := by
    intro address vault present
    simp only [genesis, Option.map_eq_some_iff] at present
    obtain ⟨owner, -, rfl⟩ := present
    exact ShieldedEscrowVault.backed_deployed owner env.market
  claimable := by
    intro address vault present
    simp only [genesis, Option.map_eq_some_iff] at present
    obtain ⟨owner, -, rfl⟩ := present
    exact ⟨fun _ funded => absurd rfl funded, fun _ _ _ _ used => Bool.noConfusion used⟩
  refunded := fun _ _ claimed => Bool.noConfusion claimed
  compensated := by
    intro address pot present auctionId
    simp only [genesis, Option.ite_none_right_eq_some, Option.some.injEq] at present
    obtain ⟨-, rfl⟩ := present
    exact ⟨fun _ claimed => Bool.noConfusion claimed, fun _ claimed => Bool.noConfusion claimed⟩

theorem Deployment.run_accounted (deployment : Deployment) (env : External σ) (outside : σ)
    (inputs : List (Msg × Tx σ)) : (deployment.run env outside inputs).Accounted env := by
  have kept : ∀ (w : World σ) input next, w.Wired env ∧ w.Accounted env →
      w.transact env input = .ok next → next.Wired env ∧ next.Accounted env := by
    intro w input next before done
    exact ⟨(World.transact_transition before.1 done).1, before.2.step before.1 done⟩
  exact (play_preserves kept
    ⟨deployment.genesis_wired env outside, deployment.genesis_accounted env outside⟩ inputs).2

end FairMarket
