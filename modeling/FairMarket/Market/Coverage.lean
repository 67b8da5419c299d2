import FairMarket.Market.BidBook
import FairMarket.Market.Deposits

/-! Coverage of the bids in a book. It is checked once, when a bid is admitted; while
the auction runs nothing takes the escrow or the deposit behind the bid away. -/

namespace FairMarket

open CofheCiphertextEncoding (Numeric payloadOf)

variable {σ : Type}

/-- While an auction runs, its starting price stays and its escrows only grow. -/
theorem AuctionStep.escrow_le {refundKey : Bytes32 → Bytes32} {auctionId : AuctionId} {now : ℕ} {flow : Flow}
    {v next : AuctionView} (step : AuctionStep refundKey auctionId now flow v next) (sound : Sound v)
    (found : v.cell.auction.exists_ = true) (running : next.cell.auction.state.running = true) :
    next.cell.auction.startingPrice = v.cell.auction.startingPrice ∧
      ∀ p, v.cell.escrowBalances p ≤ next.cell.escrowBalances p := by
  have ran := step.running found running
  cases step with
  | created _ _ _ _ _ _ _ _ _ fresh =>
    subst fresh
    cases found
  | escrowLocked bidder amount =>
    refine ⟨rfl, fun p => ?_⟩
    change _ ≤ Function.update v.cell.escrowBalances bidder _ p
    by_cases own : p = bidder
    · rw [own, Function.update_self]
      exact Nat.le_add_right ..
    · rw [Function.update_of_ne own]
  | resolved => simp [AuctionState.running] at running
  | shieldedResolved => simp [AuctionState.running] at running
  | cancelled => simp [AuctionState.running] at running
  | voided => simp [AuctionState.running] at running
  | refundClaimed claimant _ _ _ due =>
    have bidding : Bidding v := by
      cases state : v.cell.auction.state with
      | active => exact sound.bidding_of_active found state
      | resolving => exact sound.bidding_of_resolving found state
      | _ =>
        rw [state] at ran
        cases ran
    exact absurd ⟨bidding.refundOf_eq claimant, bidding.compensationOf_eq claimant⟩ due
  | _ => exact ⟨rfl, fun _ => Nat.le_refl _⟩

namespace BidRecord

/-- Every stored bid is at the price or above, and covered: by escrow in one lane and by
a deposit in the other. -/
structure Covered (record : BidRecord) (startingPrice : ℕ) (escrow : Address → ℕ)
    (backs : Bytes32 → ℕ → Prop) : Prop where
  publicMarked : record.publicLane.Marked
  shieldedMarked : record.shieldedLane.Marked
  publicBids : ∀ p, record.knownBidders p = true →
    startingPrice ≤ payloadOf (record.encryptedBids p) ∧ payloadOf (record.encryptedBids p) ≤ escrow p
  shieldedBids : ∀ c, record.knownShieldedCommitments c = true →
    startingPrice ≤ payloadOf (record.shieldedEncryptedBids c) ∧
      backs c (payloadOf (record.shieldedEncryptedBids c))

theorem Covered.mono {record : BidRecord} {startingPrice : ℕ} {escrow larger : Address → ℕ}
    {backs holds : Bytes32 → ℕ → Prop} (covered : record.Covered startingPrice escrow backs)
    (grows : ∀ p, escrow p ≤ larger p) (stays : ∀ c amount, backs c amount → holds c amount) :
    record.Covered startingPrice larger holds where
  publicMarked := covered.publicMarked
  shieldedMarked := covered.shieldedMarked
  publicBids := by
    intro p known
    obtain ⟨floor, covers⟩ := covered.publicBids p known
    exact ⟨floor, covers.trans (grows p)⟩
  shieldedBids := by
    intro c known
    obtain ⟨floor, covers⟩ := covered.shieldedBids c known
    exact ⟨floor, stays c _ covers⟩

theorem covered_default {startingPrice : ℕ} {escrow : Address → ℕ} {backs : Bytes32 → ℕ → Prop} :
    (({} : AuctionStorage).record).Covered startingPrice escrow backs where
  publicMarked := by simp [Roster.Marked, AuctionStorage.record, publicLane]
  shieldedMarked := by simp [Roster.Marked, AuctionStorage.record, shieldedLane]
  publicBids := nofun
  shieldedBids := nofun

end BidRecord

namespace External

/-- The verifier accepts a bid only if its amount is at most the committed one. -/
def BoundsCoverage (env : External σ) (verifier : Address) : Prop :=
  ∀ outside vault auctionId commitmentHash encryptedBid committedAmount deadline proof,
    env.verifyBidCoverage outside verifier vault auctionId commitmentHash encryptedBid committedAmount
        deadline proof = some true → payloadOf encryptedBid ≤ committedAmount

theorem HostsMockVerifier.boundsCoverage {env : External σ} {verifier : Address}
    (hosts : env.HostsMockVerifier verifier) : env.BoundsCoverage verifier := by
  intro outside vault auctionId commitmentHash encryptedBid committedAmount deadline proof accepted
  obtain ⟨state, same⟩ := hosts outside
  rw [same, MockShieldedBidVerifier.verifyBidCoverage_eq_true] at accepted
  exact accepted.2.2.1

theorem HostsZkVerifier.boundsCoverage {env : External σ} {verifier : Address}
    (hosts : env.HostsZkVerifier verifier) : env.BoundsCoverage verifier := by
  intro outside vault auctionId commitmentHash encryptedBid committedAmount deadline proof accepted
  obtain ⟨verifyProof, same⟩ := hosts outside
  rw [same, ZkShieldedBidVerifier.verifyBidCoverage_eq_true] at accepted
  exact accepted.1

end External

namespace World

/-- The verifier of the auction's vault bounds what it accepts. -/
def BoundsBids (env : External σ) (auctionId : AuctionId) (w : World σ) : Prop :=
  ∀ vault, w.vaults (w.snapshot auctionId).shieldedEscrowVault = some vault →
    env.BoundsCoverage vault.shieldedBidVerifier

variable {env : External σ} {w next : World σ} {msg : Msg} {auctionId : AuctionId}

theorem Transition.escrow_le {now : ℕ} {touched : AuctionId} {flow : Flow}
    (transition : Transition env now touched flow w next) (sound : Sound (w.view auctionId))
    (found : (w.market.auctions auctionId).auction.exists_ = true)
    (running : (next.market.auctions auctionId).auction.state.running = true) :
    (next.market.auctions auctionId).auction.startingPrice =
        (w.market.auctions auctionId).auction.startingPrice ∧
      ∀ p, (w.market.auctions auctionId).escrowBalances p ≤
        (next.market.auctions auctionId).escrowBalances p := by
  have kept : next.view auctionId = w.view auctionId →
      (next.view auctionId).cell.auction.startingPrice = (w.view auctionId).cell.auction.startingPrice ∧
        ∀ p, (w.view auctionId).cell.escrowBalances p ≤ (next.view auctionId).cell.escrowBalances p := by
    intro same
    rw [same]
    exact ⟨rfl, fun _ => Nat.le_refl _⟩
  by_cases same : auctionId = touched
  · subst same
    rcases transition.step with ⟨-, unchanged⟩ | step
    · exact kept unchanged
    · exact step.escrow_le sound found running
  · exact kept (transition.others auctionId same)

theorem AtFloor.le_payload (hosts : env.HostsAdapter (w.snapshot auctionId).cofheAdapter)
    {encryptedBid : Bytes32} (floor : w.AtFloor env auctionId encryptedBid) :
    (w.market.auctions auctionId).auction.startingPrice ≤ payloadOf encryptedBid := by
  rcases floor with free | above
  · rw [free]
    exact Nat.zero_le _
  · have large := (hosts.gt_eq_true.mp above).2
    omega

/-- The deposit of a commitment in the auction's vault covers an amount. -/
def Backs (w : World σ) (auctionId : AuctionId) (commitmentHash : Bytes32) (amount : ℕ) : Prop :=
  ∃ vault, w.vaults (w.snapshot auctionId).shieldedEscrowVault = some vault ∧
    (vault.commitments commitmentHash).auctionId = auctionId ∧
    (vault.commitments commitmentHash).amount ≠ 0 ∧ amount ≤ (vault.commitments commitmentHash).amount

/-- The deposit behind a bid is still there while the auction runs. -/
theorem Backs.step {commitmentHash : Bytes32} {amount : ℕ} (backs : w.Backs auctionId commitmentHash amount)
    (wired : w.Wired env) {tx : Tx σ} (done : w.transact env (msg, tx) = .ok next)
    (found : (w.market.auctions auctionId).auction.exists_ = true)
    (running : (next.market.auctions auctionId).auction.state.running = true) :
    next.Backs auctionId commitmentHash amount := by
  obtain ⟨vault, deployed, about, funded, covered⟩ := backs
  obtain ⟨-, -, -, touched, flow, transition⟩ := transact_transition wired done
  have same : next.snapshot auctionId = w.snapshot auctionId := (transition.kept auctionId).snapshot found
  obtain ⟨changed, present, -⟩ := (transact_effects wired done).vaults.exists_after deployed
  have kept := transact_running_slot wired done deployed present (by rw [about]; exact found)
    (by rw [about]; exact running) funded
  refine ⟨changed, by rw [same]; exact present, ?_⟩
  rw [kept]
  exact ⟨about, funded, covered⟩

/-- What admits a bid covers it, and the other bids stay covered. -/
theorem Writes.covered {tx : Tx σ} {record : BidRecord} (writes : Writes env w msg tx auctionId record)
    (hosts : env.HostsAdapter (w.snapshot auctionId).cofheAdapter) (bounds : w.BoundsBids env auctionId)
    (before : (w.market.auctions auctionId).record.Covered (w.market.auctions auctionId).auction.startingPrice
      (w.market.auctions auctionId).escrowBalances (w.Backs auctionId)) :
    record.Covered (w.market.auctions auctionId).auction.startingPrice
      (w.market.auctions auctionId).escrowBalances (w.Backs auctionId) := by
  obtain ⟨publicMarked, shieldedMarked, publicBids, shieldedBids⟩ := before
  cases writes with
  | placeBid _ _ floor covered =>
    refine ⟨publicMarked.place, shieldedMarked, fun p known => ?_, shieldedBids⟩
    dsimp only at known ⊢
    by_cases own : p = msg.sender
    · subst own
      rw [Function.update_self]
      exact ⟨floor.le_payload hosts, (hosts.lte_eq_true.mp covered).2⟩
    · rw [Function.update_of_ne own] at known ⊢
      exact publicBids p known
  | @placeShieldedBid _ commitmentHash encryptedBid _ _ _ _ _ _ _ deployed about _ floor covered =>
    obtain ⟨funded, -, -, accepted⟩ := verifyBidCoverageProof_ok.mp covered
    have backs : w.Backs auctionId commitmentHash (payloadOf encryptedBid) :=
      ⟨_, deployed, about, funded, bounds _ deployed _ _ _ _ _ _ _ _ accepted⟩
    refine ⟨publicMarked, shieldedMarked.place, publicBids, fun c known => ?_⟩
    dsimp only at known ⊢
    by_cases own : c = commitmentHash
    · subst own
      rw [Function.update_self]
      exact ⟨floor.le_payload hosts, backs⟩
    · rw [Function.update_of_ne own] at known ⊢
      exact shieldedBids c known
  | submitResolution => exact ⟨publicMarked, shieldedMarked, publicBids, shieldedBids⟩
  | submitShieldedResolution => exact ⟨publicMarked, shieldedMarked, publicBids, shieldedBids⟩

/-- The bids stay covered in an auction that uses the adapter, while it runs. -/
def CoveredWhile (env : External σ) (auctionId : AuctionId) (w : World σ) : Prop :=
  env.HostsAdapter (w.snapshot auctionId).cofheAdapter →
    (w.market.auctions auctionId).auction.state.running = true →
      (w.market.auctions auctionId).record.Covered (w.market.auctions auctionId).auction.startingPrice
        (w.market.auctions auctionId).escrowBalances (w.Backs auctionId)

theorem CoveredWhile.step (covered : w.CoveredWhile env auctionId) (wired : w.Wired env)
    (sound : Sound (w.view auctionId)) (bounds : w.BoundsBids env auctionId) {tx : Tx σ}
    (done : w.transact env (msg, tx) = .ok next) : next.CoveredWhile env auctionId := by
  intro hosts running
  obtain ⟨-, -, -, touched, flow, transition⟩ := transact_transition wired done
  have records := (transact_effects wired done).records auctionId
  by_cases found : (w.market.auctions auctionId).auction.exists_ = true
  · have same : next.snapshot auctionId = w.snapshot auctionId := (transition.kept auctionId).snapshot found
    rw [same] at hosts
    have before := covered hosts (transition.running found running)
    obtain ⟨price, escrow⟩ := transition.escrow_le sound found running
    rw [price]
    have after : (next.market.auctions auctionId).record.Covered
        (w.market.auctions auctionId).auction.startingPrice (w.market.auctions auctionId).escrowBalances
        (w.Backs auctionId) := by
      rcases records with unwritten | writes
      · rw [unwritten]
        exact before
      · exact writes.covered hosts bounds before
    exact after.mono escrow fun c amount backs => Backs.step backs wired done found running
  · rcases records with unwritten | writes
    · rw [unwritten, (wired.blank auctionId (Bool.eq_false_iff.mpr found)).1]
      exact BidRecord.covered_default
    · exact absurd (writes.found wired) found

end World

theorem Deployment.run_covered (deployment : Deployment) (env : External σ) (outside : σ)
    {inputs : List (Msg × Tx σ)} {auctionId : AuctionId}
    (bounds : Along (World.transact env) (fun w _ => w.BoundsBids env auctionId)
      (deployment.genesis env outside) inputs) :
    (deployment.run env outside inputs).CoveredWhile env auctionId := by
  refine play_preserves_reached (show (deployment.genesis env outside).CoveredWhile env auctionId from ?_) ?_ bounds
  · exact fun _ _ => BidRecord.covered_default
  · intro before input next _ covered bounds done
    exact covered.step (deployment.run_wired env outside before)
      (deployment.run_reachable env outside before auctionId).sound bounds done

/-- Every admitted bid stays covered. In every run in which the verifier of the
auction's vault bounds what it accepts, and as long as the auction takes bids or waits
for its resolution, a stored public bid is between the starting price and the escrow of
its bidder, and a stored shielded bid between the starting price and its deposit, which
is recorded for this auction, unclaimed, and as large as it was locked. -/
theorem bids_covered (deployment : Deployment) (env : External σ) (outside : σ)
    (inputs : List (Msg × Tx σ)) (auctionId : AuctionId)
    (bounds : Along (World.transact env) (fun w _ => w.BoundsBids env auctionId)
      (deployment.genesis env outside) inputs)
    (hosts : env.HostsAdapter ((deployment.run env outside inputs).snapshot auctionId).cofheAdapter) :
    let w := deployment.run env outside inputs
    let cell := w.market.auctions auctionId
    cell.auction.state = .active ∨ cell.auction.state = .resolving →
      (∀ bidder, bidder ∈ cell.bidders ∨ cell.encryptedBids bidder ≠ 0 →
        cell.auction.startingPrice ≤ payloadOf (cell.encryptedBids bidder) ∧
          payloadOf (cell.encryptedBids bidder) ≤ cell.escrowBalances bidder) ∧
      ∀ commitmentHash, commitmentHash ∈ cell.shieldedCommitments ∨
          cell.shieldedEncryptedBids commitmentHash ≠ 0 →
        ∃ vault, w.vaults (w.snapshot auctionId).shieldedEscrowVault = some vault ∧
          cell.auction.startingPrice ≤ payloadOf (cell.shieldedEncryptedBids commitmentHash) ∧
          payloadOf (cell.shieldedEncryptedBids commitmentHash) ≤
            (vault.commitments commitmentHash).amount ∧
          (vault.commitments commitmentHash).auctionId = auctionId ∧
          (vault.commitments commitmentHash).claimed = false ∧
          ∀ amount, .shieldedEscrowLocked auctionId commitmentHash amount ∈ w.log ↔
            amount = (vault.commitments commitmentHash).amount := by
  intro w cell state
  have running : cell.auction.state.running = true := by
    rcases state with active | resolving
    · rw [active]
      rfl
    · rw [resolving]
      rfl
  have wired := deployment.run_wired env outside inputs
  have deposited := deployment.run_deposited env outside inputs
  have found : cell.auction.exists_ = true := by
    rcases state with active | resolving
    · exact wired.found_of_state active nofun
    · exact wired.found_of_state resolving nofun
  obtain ⟨publicMarked, shieldedMarked, publicBids, shieldedBids⟩ :=
    deployment.run_covered env outside bounds hosts running
  refine ⟨fun bidder stored => publicBids bidder (publicMarked bidder stored), ?_⟩
  intro commitmentHash stored
  obtain ⟨floor, vault, deployed, about, -, covers⟩ :=
    shieldedBids commitmentHash (shieldedMarked commitmentHash stored)
  obtain ⟨-, unclaimed, event⟩ := deposited.whole _ vault commitmentHash deployed
    (by rw [about]; exact (wired.counted auctionId found).1) (by rw [about]; exact running)
  rw [about] at event
  refine ⟨vault, deployed, floor, covers, about, unclaimed, fun amount => ⟨fun recorded => ?_, ?_⟩⟩
  · obtain ⟨other, same, -, held⟩ := (deposited.held auctionId commitmentHash amount recorded).2 running
    obtain rfl := Option.some.inj (deployed.symm.trans same)
    exact held.symm
  · rintro rfl
    exact event

set_option maxRecDepth 4000 in
/-- In the sample run with a numeric handle the commitment of 100 covers its bid of 50. -/
theorem bidTwice_covered :
    let w := shieldedDeployment.run zkChain (fun _ => 9)
      (bidTwice (CofheCiphertextEncoding.encodeEuint96 50))
    ∃ vault, w.vaults (w.snapshot 1).shieldedEscrowVault = some vault ∧
      payloadOf ((w.market.auctions 1).shieldedEncryptedBids 31) ≤ (vault.commitments 31).amount := by
  obtain ⟨-, shieldedBids⟩ := bids_covered shieldedDeployment zkChain (fun _ => 9)
    (bidTwice (CofheCiphertextEncoding.encodeEuint96 50)) 1
    (.of_forall (fun _ _ _ _ => by
      apply External.HostsZkVerifier.boundsCoverage
      exact fun _ => ⟨fun _ => true, fun _ _ _ _ _ _ _ => rfl⟩) _ _)
    ⟨fun _ _ _ => rfl, fun _ _ _ => rfl⟩ (.inl (by decide +kernel))
  obtain ⟨vault, deployed, -, covers, -⟩ := shieldedBids 31 (.inl (by decide +kernel))
  exact ⟨vault, deployed, covers⟩

end FairMarket
