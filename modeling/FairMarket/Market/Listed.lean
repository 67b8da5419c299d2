import FairMarket.Market.Aliases
import FairMarket.Market.Coverage

/-! The two lists of an auction that runs. Nobody is on them twice, and behind each
commitment is a deposit that can neither be refunded nor has it won yet. -/

namespace FairMarket

open CofheCiphertextEncoding (Numeric payloadOf)

variable {σ : Type}

namespace AuctionView

/-- While the auction runs, its lane of the vault is closed and has no winner. -/
def Sealed (v : AuctionView) : Prop :=
  v.cell.auction.state.running = true → ∀ lane, v.lane = some lane →
    lane.unlocked = false ∧ lane.winningCommitment = 0

end AuctionView

theorem AuctionStep.sealed {refundKey : Bytes32 → Bytes32} {auctionId : AuctionId} {now : ℕ} {flow : Flow}
    {v next : AuctionView} (step : AuctionStep refundKey auctionId now flow v next) (before : v.Sealed) :
    next.Sealed := by
  intro running lane present
  cases step with
  | created _ _ _ _ _ _ _ _ _ _ _ _ _ vacant =>
    rcases vacant with rfl | rfl
    · cases present
    · cases present
      exact ⟨rfl, rfl⟩
  | shieldedEscrowLocked held _ _ _ _ active _ _ vault =>
    obtain ⟨locked, undecided⟩ := before (by rw [active]; rfl) held vault
    cases present
    exact ⟨locked, undecided⟩
  | finalizeTriggered _ _ _ _ _ active => exact before (by rw [active]; rfl) lane present
  | resolved => simp [AuctionState.running] at running
  | shieldedResolved => simp [AuctionState.running] at running
  | cancelled => simp [AuctionState.running] at running
  | voided => simp [AuctionState.running] at running
  | shieldedRefunded _ _ _ _ _ terminal =>
    have unfinished : v.cell.auction.state.terminal = false := AuctionState.not_terminal_of_running running
    rw [unfinished] at terminal
    cases terminal
  | _ => exact before running lane present

theorem Reachable.sealed {refundKey : Bytes32 → Bytes32} {auctionId : AuctionId} {v : AuctionView}
    (reachable : Reachable refundKey auctionId v) : v.Sealed := by
  obtain ⟨now, run⟩ := reachable
  exact run.preserves (fun _ _ _ _ step before => step.sealed before) fun running => nomatch running

namespace World

variable {env : External σ} {w next : World σ} {msg : Msg} {auctionId : AuctionId}

/-- Bidders and commitments are listed once, and while the auction runs its vault still
holds the deposit of every listed commitment. -/
structure Listed (w : World σ) (auctionId : AuctionId) : Prop where
  publicLane : (w.market.auctions auctionId).record.publicLane.Indexed
  shieldedLane : (w.market.auctions auctionId).record.shieldedLane.Indexed
  backed : (w.market.auctions auctionId).auction.state.running = true →
    ∀ c ∈ (w.market.auctions auctionId).record.shieldedCommitments, w.Backs auctionId c 0

/-- A write lists at most its own bidder, or a commitment that has a deposit. -/
theorem Writes.listed {tx : Tx σ} {record : BidRecord} (writes : Writes env w msg tx auctionId record)
    (publicLane : (w.market.auctions auctionId).record.publicLane.Indexed)
    (shieldedLane : (w.market.auctions auctionId).record.shieldedLane.Indexed) :
    record.publicLane.Indexed ∧ record.shieldedLane.Indexed ∧ ∀ c ∈ record.shieldedCommitments,
      c ∈ (w.market.auctions auctionId).record.shieldedCommitments ∨ w.Backs auctionId c 0 := by
  cases writes with
  | placeBid => exact ⟨publicLane.place, shieldedLane, fun _ member => .inl member⟩
  | @placeShieldedBid _ commitmentHash encryptedBid _ _ _ _ _ _ _ deployed about _ _ covered =>
    obtain ⟨funded, -, -, -⟩ := verifyBidCoverageProof_ok.mp covered
    refine ⟨publicLane, shieldedLane.place, fun c member => ?_⟩
    have placed : c ∈ ((w.market.auctions auctionId).record.shieldedLane.place commitmentHash
      encryptedBid).listed := member
    rw [Roster.mem_place shieldedLane] at placed
    refine placed.imp id fun own => ?_
    subst own
    exact ⟨_, deployed, about, funded, Nat.zero_le _⟩
  | submitResolution => exact ⟨publicLane, shieldedLane, fun _ member => .inl member⟩
  | submitShieldedResolution => exact ⟨publicLane, shieldedLane, fun _ member => .inl member⟩

theorem Listed.step (listed : w.Listed auctionId) (wired : w.Wired env) {tx : Tx σ}
    (done : w.transact env (msg, tx) = .ok next) : next.Listed auctionId := by
  obtain ⟨-, -, -, touched, flow, transition⟩ := transact_transition wired done
  obtain ⟨publicLane, shieldedLane, backed⟩ := listed
  by_cases found : (w.market.auctions auctionId).auction.exists_ = true
  · rcases (transact_effects wired done).records auctionId with unwritten | writes
    · refine ⟨by rw [unwritten]; exact publicLane, by rw [unwritten]; exact shieldedLane, ?_⟩
      intro running c member
      rw [unwritten] at member
      exact Backs.step (backed (transition.running found running) c member) wired done found running
    · obtain ⟨publicAfter, shieldedAfter, fresh⟩ := writes.listed publicLane shieldedLane
      refine ⟨publicAfter, shieldedAfter, fun running c member => ?_⟩
      have backs : w.Backs auctionId c 0 :=
        (fresh c member).elim (backed (transition.running found running) c) id
      exact Backs.step backs wired done found running
  · have blank := (wired.blank auctionId (Bool.eq_false_iff.mpr found)).1
    rcases (transact_effects wired done).records auctionId with unwritten | writes
    · rw [blank] at unwritten publicLane shieldedLane
      refine ⟨by rw [unwritten]; exact publicLane, by rw [unwritten]; exact shieldedLane, ?_⟩
      intro _ c member
      rw [unwritten] at member
      cases member
    · exact absurd (writes.found wired) found

end World

theorem Deployment.run_listed (deployment : Deployment) (env : External σ) (outside : σ)
    (inputs : List (Msg × Tx σ)) (auctionId : AuctionId) :
    (deployment.run env outside inputs).Listed auctionId := by
  have kept : ∀ (w : World σ) input next, w.Wired env ∧ w.Listed auctionId →
      w.transact env input = .ok next → next.Wired env ∧ next.Listed auctionId := by
    intro w input next before done
    exact ⟨(World.transact_transition before.1 done).1, before.2.step before.1 done⟩
  have initial : (deployment.genesis env outside).Listed auctionId :=
    ⟨⟨.nil, fun _ => ⟨nofun, nofun⟩⟩, ⟨.nil, fun _ => ⟨nofun, nofun⟩⟩, fun _ _ member => nomatch member⟩
  exact (play_preserves kept ⟨deployment.genesis_wired env outside, initial⟩ inputs).2

namespace World

variable {env : External σ} {w next : World σ} {msg : Msg} {auctionId : AuctionId}

/-- While an auction with the adapter runs, each public bid is of an account, readable and
at most the escrow of this account. -/
def Escrowed (env : External σ) (auctionId : AuctionId) (w : World σ) : Prop :=
  env.HostsAdapter (w.snapshot auctionId).cofheAdapter →
    (w.market.auctions auctionId).auction.state.running = true →
      ∀ p, (w.market.auctions auctionId).record.knownBidders p = true →
        p ≠ 0 ∧ Numeric ((w.market.auctions auctionId).record.encryptedBids p) ∧
          payloadOf ((w.market.auctions auctionId).record.encryptedBids p) ≤
            (w.market.auctions auctionId).escrowBalances p

theorem Writes.escrowed {tx : Tx σ} {record : BidRecord} (writes : Writes env w msg tx auctionId record)
    (hosts : env.HostsAdapter (w.snapshot auctionId).cofheAdapter) (sent : msg.sender ≠ 0) {p : Address}
    (before : (w.market.auctions auctionId).record.knownBidders p = true →
      p ≠ 0 ∧ Numeric ((w.market.auctions auctionId).record.encryptedBids p) ∧
        payloadOf ((w.market.auctions auctionId).record.encryptedBids p) ≤
          (w.market.auctions auctionId).escrowBalances p)
    (known : record.knownBidders p = true) :
    p ≠ 0 ∧ Numeric (record.encryptedBids p) ∧
      payloadOf (record.encryptedBids p) ≤ (w.market.auctions auctionId).escrowBalances p := by
  cases writes with
  | placeBid _ _ _ covered =>
    dsimp only at known ⊢
    by_cases own : p = msg.sender
    · subst own
      rw [Function.update_self]
      exact ⟨sent, hosts.lte_eq_true.mp covered⟩
    · rw [Function.update_of_ne own] at known ⊢
      exact before known
  | placeShieldedBid => exact before known
  | submitResolution => exact before known
  | submitShieldedResolution => exact before known

theorem Escrowed.step (escrowed : w.Escrowed env auctionId) (wired : w.Wired env)
    (sound : Sound (w.view auctionId)) {tx : Tx σ} (done : w.transact env (msg, tx) = .ok next) :
    next.Escrowed env auctionId := by
  intro hosts running p known
  obtain ⟨-, -, -, touched, flow, transition⟩ := transact_transition wired done
  have records := (transact_effects wired done).records auctionId
  by_cases found : (w.market.auctions auctionId).auction.exists_ = true
  · have same : next.snapshot auctionId = w.snapshot auctionId := (transition.kept auctionId).snapshot found
    rw [same] at hosts
    have before := escrowed hosts (transition.running found running) p
    have grows := (transition.escrow_le sound found running).2 p
    rcases records with unwritten | writes
    · rw [unwritten] at known ⊢
      obtain ⟨account, numeric, covered⟩ := before known
      exact ⟨account, numeric, covered.trans grows⟩
    · obtain ⟨⟨sent, -⟩, -⟩ := transact_ok.mp done
      obtain ⟨account, numeric, covered⟩ := writes.escrowed hosts sent before known
      exact ⟨account, numeric, covered.trans grows⟩
  · rcases records with unwritten | writes
    · rw [unwritten, (wired.blank auctionId (Bool.eq_false_iff.mpr found)).1] at known
      cases known
    · exact absurd (writes.found wired) found

end World

theorem Deployment.run_escrowed (deployment : Deployment) (env : External σ) (outside : σ)
    (inputs : List (Msg × Tx σ)) (auctionId : AuctionId) :
    (deployment.run env outside inputs).Escrowed env auctionId := by
  refine play_preserves_reached (show (deployment.genesis env outside).Escrowed env auctionId from ?_) ?_
    (.of_forall (fun _ _ => trivial) _ inputs)
  · exact fun _ _ _ known => nomatch known
  · intro before input next _ escrowed _ done
    exact escrowed.step (deployment.run_wired env outside before)
      (deployment.run_reachable env outside before auctionId).sound done

namespace World

/-- What every run keeps about an auction and the contracts behind it. -/
structure Coherent (env : External σ) (w : World σ) (auctionId : AuctionId) : Prop where
  wired : w.Wired env
  deposited : w.Deposited
  aliased : w.Aliased
  unmarked : w.Unmarked auctionId
  escrowed : w.Escrowed env auctionId
  listed : w.Listed auctionId
  reachable : Reachable env.refundKey auctionId (w.view auctionId)

variable {env : External σ} {w : World σ} {auctionId : AuctionId}

theorem Wired.found_of_running (wired : w.Wired env)
    (running : (w.market.auctions auctionId).auction.state.running = true) :
    (w.market.auctions auctionId).auction.exists_ = true := by
  cases state : (w.market.auctions auctionId).auction.state with
  | active => exact wired.found_of_state state nofun
  | resolving => exact wired.found_of_state state nofun
  | _ =>
    rw [state] at running
    cases running

/-- Behind a listed commitment of a running auction: nothing of its deposit is claimed,
refunds are closed, no commitment has won, and the registry has an identity for it and
no winner. -/
structure Standing (w : World σ) (auctionId : AuctionId) (commitmentHash : Bytes32)
    (vault : ShieldedEscrowVault) (registry : ShieldedIdentityRegistry) : Prop where
  deployed : w.vaults (w.snapshot auctionId).shieldedEscrowVault = some vault
  about : (vault.commitments commitmentHash).auctionId = auctionId
  funded : (vault.commitments commitmentHash).amount ≠ 0
  unclaimed : (vault.commitments commitmentHash).claimed = false
  locked : vault.refundsUnlocked auctionId = false
  undecided : vault.winningCommitments auctionId = 0
  registered : w.registries (w.snapshot auctionId).shieldedIdentityRegistry = some registry
  named : registry.commitmentToIdentity auctionId commitmentHash ≠ 0
  unmarked : registry.winningIdentity auctionId = 0

theorem Coherent.standing (coherent : w.Coherent env auctionId)
    (running : (w.market.auctions auctionId).auction.state.running = true) {commitmentHash : Bytes32}
    (member : commitmentHash ∈ (w.market.auctions auctionId).shieldedCommitments) :
    ∃ vault registry, w.Standing auctionId commitmentHash vault registry := by
  obtain ⟨vault, deployed, about, funded, -⟩ := coherent.listed.backed running commitmentHash member
  have found := coherent.wired.found_of_running running
  have nonzero : (vault.commitments commitmentHash).auctionId ≠ 0 := by
    rw [about]
    exact (coherent.wired.counted auctionId found).1
  obtain ⟨-, unclaimed, -⟩ := coherent.deposited.whole _ vault commitmentHash deployed nonzero
    (by rw [about]; exact running)
  obtain ⟨registry, registered, named⟩ := coherent.aliased.named _ vault commitmentHash deployed nonzero
  rw [about] at registered named
  obtain ⟨locked, undecided⟩ := coherent.reachable.sealed running _ (view_lane deployed)
  have unmarked := coherent.unmarked (.inr running) _ registry registered
  exact ⟨vault, registry, deployed, about, funded, unclaimed, locked, undecided, registered, named, unmarked⟩

end World

theorem Deployment.run_coherent (deployment : Deployment) (env : External σ) (outside : σ)
    (inputs : List (Msg × Tx σ)) (auctionId : AuctionId) :
    (deployment.run env outside inputs).Coherent env auctionId where
  wired := deployment.run_wired env outside inputs
  deposited := deployment.run_deposited env outside inputs
  aliased := deployment.run_aliased env outside inputs
  unmarked := deployment.run_unmarked env outside inputs auctionId
  escrowed := deployment.run_escrowed env outside inputs auctionId
  listed := deployment.run_listed env outside inputs auctionId
  reachable := deployment.run_reachable env outside inputs auctionId

end FairMarket
