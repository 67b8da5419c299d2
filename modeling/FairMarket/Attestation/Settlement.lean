import FairMarket.Keeper.Retirement
import FairMarket.Market.Inert

/-! What the services had to say about every settlement: no auction is finalized without a
quorum, and a counter tells how often its operator was in a rejected proof. -/

namespace FairMarket

variable {τ : Type}

/-- The account that wins, zero for an identity. -/
def Winner.account : Winner → Address
  | .open_ winner => winner
  | .shielded _ => 0

/-- The identity that wins, zero for an account. -/
def Winner.identity : Winner → Bytes32
  | .open_ _ => 0
  | .shielded identity => identity

/-- The auction is finalized, for what the resolution says. -/
structure Resolution.RecordedIn (resolution : Resolution) (outcome : Outcome) : Prop where
  state : outcome.state = .finalized
  winner : outcome.winner = resolution.winner.account
  winningCommitment : outcome.winningCommitment = resolution.winner.identity
  winnerCiphertext : outcome.winnerCiphertext = resolution.winnerCiphertext
  winningAmount : outcome.winningAmount = resolution.winningAmount

namespace World

variable {base : External τ} {w next : World (Hosted τ)} {msg : Msg} {tx : Tx (Hosted τ)}
  {resolution : Resolution} {accepted : Bool}

/-- A submission that did not revert: the service of the auction's engine has judged its
proof, and the auction is settled by it or nothing is. -/
structure Judged (base : External τ) (w next : World (Hosted τ)) (resolution : Resolution) (proof : Proof)
    (service : Address) (avs judged : MockEigenLayerAVS) (accepted : Bool) : Prop where
  resolving : (w.market.auctions resolution.auctionId).auction.state = .resolving
  engine : ∃ engine, w.engines (w.snapshot resolution.auctionId).settlementEngine = some engine ∧
    engine.avs = service
  served : w.outside.services service = some avs
  verdict : resolution.verify avs base.toChain service proof = .ok (accepted, judged)
  services : next.outside.services = Function.update w.outside.services service (some judged)
  others : ∀ other, other ≠ resolution.auctionId → next.market.auctions other = w.market.auctions other
  rejected : accepted = false → next.market.auctions = w.market.auctions
  settled : accepted = true → resolution.RecordedIn (next.market.auctions resolution.auctionId).outcome

theorem consult_ok {s t : Hosted τ} {service : Address}
    {verify : MockEigenLayerAVS → Except Revert (Bool × MockEigenLayerAVS)} :
    s.consult service verify = .ok (accepted, t) ↔ ∃ avs judged, s.services service = some avs ∧
      verify avs = .ok (accepted, judged) ∧
      { s with services := Function.update s.services service (some judged) } = t := by
  simp only [Hosted.consult, bind_eq_ok, requireSome_eq_ok, pure_eq_ok, Except.ok.injEq, Prod.exists,
    Prod.mk.injEq]
  constructor
  · rintro ⟨avs, served, _, judged, verified, rfl, rfl⟩
    exact ⟨avs, judged, served, verified, rfl⟩
  · rintro ⟨avs, judged, served, verified, rfl⟩
    exact ⟨avs, served, accepted, judged, verified, rfl, rfl⟩

theorem recordResolution_outside {v : World (Hosted τ)} {auctionId : AuctionId} {cell : AuctionStorage}
    {winner : Address} {winningCommitment winnerCiphertext : Bytes32} {winningAmount : ℕ}
    (done : v.recordResolution msg auctionId cell winner winningCommitment winnerCiphertext winningAmount =
      .ok next) : next.outside = v.outside := by
  simp only [recordResolution, bind_eq_ok, pure_eq_ok, Except.ok.injEq] at done
  obtain ⟨network, -, auction, -, rfl⟩ := done
  rfl

/-- What is recorded once the refund path has been opened. -/
theorem recordedIn_opened {v : AuctionView} (state : v.cell.auction.state = .finalized)
    (winner : v.cell.auction.winner = resolution.winner.account)
    (winningCommitment : v.cell.winningCommitment = resolution.winner.identity)
    (winnerCiphertext : v.cell.auction.winnerCiphertext = resolution.winnerCiphertext)
    (winningAmount : v.cell.auction.winningAmount = resolution.winningAmount) :
    resolution.RecordedIn v.opened.cell.outcome := by
  constructor
  all_goals simpa [AuctionStorage.outcome]

theorem submitResolution_judged (wired : w.Wired base.hosting) {auctionId : AuctionId}
    (sound : Sound (w.view auctionId)) {winner : Address} {winnerCiphertext : Bytes32} {winningAmount : ℕ}
    {avsProof : Proof}
    (asks : w.asked base.market (.submitResolution auctionId winner winnerCiphertext winningAmount avsProof) =
      some resolution)
    (done : w.submitResolution base.hosting msg auctionId winner winnerCiphertext winningAmount avsProof =
      .ok (accepted, next)) :
    ∃ service avs judged, Judged base w next resolution avsProof service avs judged accepted := by
  cases asks
  simp only [submitResolution, onlyAuctionState, SettlementEngine.verifyResolutionProof,
    SettlementEngine.verifyProof, bind_eq_ok, auctionExists_ok, requireSome_eq_ok, exists_revertIf, ne_eq,
    not_not, Prod.exists] at done
  obtain ⟨cell, ⟨found, rfl⟩, resolving, -, -, -, -, engine, deployed, proofAccepted, outside, ⟨-, judges⟩,
    done⟩ := done
  obtain ⟨avs, judged, served, verified, rfl⟩ := consult_ok.mp judges
  have pinned : w.auctionSettlementEngine (w.market.auctions auctionId) = (w.snapshot auctionId).settlementEngine :=
    if_pos (wired.initialized auctionId found)
  rw [pinned] at deployed
  refine ⟨engine.avs, avs, judged, ?_⟩
  split at done
  · rename_i rejects
    obtain rfl : proofAccepted = false := Bool.not_eq_true _ ▸ rejects
    cases done
    exact ⟨resolving, ⟨engine, deployed, rfl⟩, served, verified, rfl, fun _ _ => rfl, fun _ => rfl,
      (absurd · Bool.false_ne_true)⟩
  · rename_i accepts
    obtain rfl := not_not.mp accepts
    simp only [bind_eq_ok, pure_eq_ok, Except.ok.injEq, Prod.mk.injEq] at done
    obtain ⟨recorded, records, opened, opens, rfl, rfl⟩ := done
    obtain ⟨first, -⟩ := recordResolution_changes records
    obtain ⟨second, -⟩ := openShieldedRefundPath_changes (wired.of_frame first.frame found)
      (first.frame.found.trans found) opens
    have changes := first.trans second
    have undecided := (sound.bidding_of_resolving found resolving).undecided.2.2
    refine ⟨resolving, ⟨engine, deployed, rfl⟩, served, verified, ?_, changes.frame.cells,
      (absurd · Bool.false_ne_true.symm), fun _ => ?_⟩
    · rw [(openShieldedRefundPath_inert opens).services, recordResolution_outside records]
      rfl
    · show Resolution.RecordedIn _ (opened.view auctionId).cell.outcome
      rw [changes.view, first.view]
      exact recordedIn_opened rfl rfl undecided rfl rfl

theorem submitShieldedResolution_judged (wired : w.Wired base.hosting) {auctionId : AuctionId}
    {winnerIdentityHash winnerCiphertext : Bytes32} {winningAmount : ℕ} {avsProof : Proof}
    (asks : w.asked base.market
      (.submitShieldedResolution auctionId winnerIdentityHash winnerCiphertext winningAmount avsProof) =
        some resolution)
    (done : w.submitShieldedResolution base.hosting msg auctionId winnerIdentityHash winnerCiphertext
      winningAmount avsProof = .ok (accepted, next)) :
    ∃ service avs judged, Judged base w next resolution avsProof service avs judged accepted := by
  cases asks
  simp only [submitShieldedResolution, onlyAuctionState, SettlementEngine.verifyShieldedResolutionProof,
    SettlementEngine.verifyProof, bind_eq_ok, auctionExists_ok, requireSome_eq_ok, exists_revertIf, ne_eq,
    not_not, Prod.exists] at done
  obtain ⟨cell, ⟨found, rfl⟩, resolving, -, -, commitmentHash, -, engine, deployed, proofAccepted, outside,
    ⟨-, judges⟩, done⟩ := done
  obtain ⟨avs, judged, served, verified, rfl⟩ := consult_ok.mp judges
  have pinned : w.auctionSettlementEngine (w.market.auctions auctionId) = (w.snapshot auctionId).settlementEngine :=
    if_pos (wired.initialized auctionId found)
  rw [pinned] at deployed
  refine ⟨engine.avs, avs, judged, ?_⟩
  split at done
  · rename_i rejects
    obtain rfl : proofAccepted = false := Bool.not_eq_true _ ▸ rejects
    cases done
    exact ⟨resolving, ⟨engine, deployed, rfl⟩, served, verified, rfl, fun _ _ => rfl, fun _ => rfl,
      (absurd · Bool.false_ne_true)⟩
  · rename_i accepts
    obtain rfl := not_not.mp accepts
    simp only [bind_eq_ok, pure_eq_ok, Except.ok.injEq, Prod.mk.injEq] at done
    obtain ⟨recorded, records, settled, settles, opened, opens, marked, marks, rfl, rfl⟩ := done
    obtain ⟨first, -⟩ := recordResolution_changes records
    have recordedFound := first.frame.found.trans found
    have recordedWired := wired.of_frame first.frame found
    obtain ⟨lane, -, -, second, -⟩ := settleWinningCommitment_changes recordedWired recordedFound settles
    obtain ⟨third, -⟩ := openShieldedRefundPath_changes (recordedWired.of_frame second.frame recordedFound)
      (second.frame.found.trans recordedFound) opens
    obtain ⟨fourth, -⟩ := markWinningIdentity_changes marks
    have changes := first.trans (second.trans (third.trans fourth))
    refine ⟨resolving, ⟨engine, deployed, rfl⟩, served, verified, ?_, changes.frame.cells,
      (absurd · Bool.false_ne_true.symm), fun _ => ?_⟩
    · simp only [settleWinningCommitment, markWinningIdentity, bind_eq_ok, pure_eq_ok, Except.ok.injEq,
        Prod.exists] at settles marks
      obtain ⟨_, -, _, _, -, rfl⟩ := settles
      obtain ⟨_, -, _, -, rfl⟩ := marks
      show opened.outside.services = _
      rw [(openShieldedRefundPath_inert opens).services]
      show recorded.outside.services = _
      rw [recordResolution_outside records]
      rfl
    · show Resolution.RecordedIn _ (marked.view auctionId).cell.outcome
      rw [changes.view, third.view, second.view, first.view]
      exact recordedIn_opened rfl rfl rfl rfl rfl

/-- A submission that does not revert returns what the service of its auction says. -/
theorem respond_judged (wired : w.Wired base.hosting) (sound : ∀ auctionId, Sound (w.view auctionId))
    (asks : w.asked base.market tx = some resolution)
    (done : w.respond base.hosting (msg, tx) = .ok (accepted, next)) :
    ∃ service avs judged, Judged base w next resolution tx.proof service avs judged accepted := by
  simp only [respond, bind_eq_ok, pure_eq_ok, Except.ok.injEq, Prod.exists, Prod.mk.injEq] at done
  obtain ⟨-, -, -, -, _, left, replied, rfl, rfl⟩ := done
  cases tx with
  | submitResolution auctionId winner winnerCiphertext winningAmount avsProof =>
    obtain ⟨service, avs, judged, judges⟩ := submitResolution_judged wired (sound auctionId) asks replied
    exact ⟨service, avs, judged, { judges with }⟩
  | submitShieldedResolution auctionId winnerIdentityHash winnerCiphertext winningAmount avsProof =>
    obtain ⟨service, avs, judged, judges⟩ := submitShieldedResolution_judged wired asks replied
    exact ⟨service, avs, judged, { judges with }⟩
  | _ => cases asks

theorem transact_eq_ok_iff {σ : Type} {env : External σ} {w next : World σ} {input : Msg × Tx σ} :
    w.transact env input = .ok next ↔ ∃ accepted, w.respond env input = .ok (accepted, next) := by
  rw [transact_eq_respond, afterResolution_ok]

/-- What asks nothing of a service finalizes nothing, and leaves all services alone unless
they change by themselves. -/
theorem transact_unasked (unasked : w.asked base.market tx = none)
    (done : w.transact base.hosting (msg, tx) = .ok next) :
    ((∀ later, tx ≠ .outside later) → next.outside.services = w.outside.services) ∧
      ∀ auctionId, (next.market.auctions auctionId).auction.state = .finalized →
        (w.market.auctions auctionId).auction.state = .finalized := by
  have resolves : tx.resolves = false := by
    cases tx with
    | submitResolution | submitShieldedResolution => cases unasked
    | _ => rfl
  by_cases own : ∃ later, tx = .outside later
  · obtain ⟨later, rfl⟩ := own
    obtain ⟨-, executed, executes, rfl⟩ := transact_ok.mp done
    simp only [execute, bind_eq_ok, exists_revertIf, pure_eq_ok, Except.ok.injEq] at executes
    obtain ⟨-, rfl⟩ := executes
    exact ⟨fun own => absurd rfl (own later), fun _ => id⟩
  · have inert := transact_inert resolves (not_exists.mp own) done
    exact ⟨fun _ => inert.services, inert.finalized⟩

/-- The resolution that the transaction submits has a quorum of the auction's service behind
it, in a world in which the auction awaits one. -/
structure Certifies (base : External τ) (w : World (Hosted τ)) (auctionId : AuctionId)
    (tx : Tx (Hosted τ)) (resolution : Resolution) : Prop where
  about : resolution.auctionId = auctionId
  asks : w.asked base.market tx = some resolution
  resolving : (w.market.auctions auctionId).auction.state = .resolving
  attested : ∃ engine avs envelope,
    w.engines (w.snapshot auctionId).settlementEngine = some engine ∧
      w.outside.services engine.avs = some avs ∧ tx.proof = some envelope ∧
        resolution.Attested avs base.toChain engine.avs envelope

theorem proof_of_verify {proof : Proof} {avs : MockEigenLayerAVS} {chain : Chain} {service : Address}
    {result : Bool × MockEigenLayerAVS} (verdict : resolution.verify avs chain service proof = .ok result) :
    ∃ envelope, proof = some envelope := by
  obtain ⟨envelope, found, -⟩ := Resolution.verify_ok.mp verdict
  exact ⟨envelope, found⟩

/-- Whatever finalizes an auction submits a resolution with a quorum behind it. -/
theorem transact_certifies (wired : w.Wired base.hosting) (sound : ∀ auctionId, Sound (w.view auctionId))
    {auctionId : AuctionId} (done : w.transact base.hosting (msg, tx) = .ok next)
    (unsettled : (w.market.auctions auctionId).auction.state ≠ .finalized)
    (finalized : (next.market.auctions auctionId).auction.state = .finalized) :
    ∃ resolution, w.Certifies base auctionId tx resolution ∧
      resolution.RecordedIn (next.market.auctions auctionId).outcome := by
  cases asks : w.asked base.market tx with
  | none => exact absurd ((transact_unasked asks done).2 auctionId finalized) unsettled
  | some resolution =>
    obtain ⟨accepted, responds⟩ := transact_eq_ok_iff.mp done
    obtain ⟨service, avs, judged, judges⟩ := respond_judged wired sound asks responds
    have touched : auctionId = resolution.auctionId := by
      by_contra other
      rw [judges.others auctionId other] at finalized
      exact unsettled finalized
    subst touched
    have accepts : accepted = true := by
      by_contra rejects
      rw [judges.rejected (Bool.not_eq_true _ ▸ rejects)] at finalized
      exact unsettled finalized
    subst accepts
    obtain ⟨engine, deployed, rfl⟩ := judges.engine
    obtain ⟨envelope, proved⟩ := proof_of_verify judges.verdict
    have attested := (Resolution.verify_true.mp (proved ▸ judges.verdict)).1
    exact ⟨resolution, ⟨rfl, asks, judges.resolving, engine, avs, envelope, deployed, judges.served, proved,
      attested⟩, judges.settled rfl⟩

end World

/-- In every run over the services of this repository, an auction that is finalized was so by
one accepted transaction of the run: when it came the auction awaited its resolution, and right
after it was finalized; a quorum of distinct operators of the service its engine asked had
signed what it submitted, and this is the outcome the market still records. -/
theorem finalized_by_quorum (deployment : Deployment) (base : External τ) (outside : Hosted τ)
    (inputs : List (Msg × Tx (Hosted τ))) (auctionId : AuctionId) :
    let w := deployment.run base.hosting outside inputs
    (w.market.auctions auctionId).auction.state = .finalized →
      ∃ before msg tx next resolution, before ++ [(msg, tx)] <+: inputs ∧
        (deployment.run base.hosting outside before).transact base.hosting (msg, tx) = .ok next ∧
        (next.market.auctions auctionId).auction.state = .finalized ∧
        (deployment.run base.hosting outside before).Certifies base auctionId tx resolution ∧
        resolution.RecordedIn (w.market.auctions auctionId).outcome := by
  induction inputs using List.reverseRecOn with
  | nil => exact fun finalized => nomatch finalized
  | append_singleton inputs input ih =>
    intro w finalized
    obtain ⟨msg, tx⟩ := input
    have wired := deployment.run_wired base.hosting outside inputs
    have later : w = advance (World.transact base.hosting) (deployment.run base.hosting outside inputs) (msg, tx) :=
      deployment.run_append_eq base.hosting outside inputs [(msg, tx)]
    by_cases already : ((deployment.run base.hosting outside inputs).market.auctions auctionId).auction.state =
        .finalized
    · have history := deployment.run_append base.hosting outside inputs [(msg, tx)] auctionId
      have outcome := (history.outcome_eq (wired.found_of_state already nofun)
        (congrArg AuctionState.terminal already)).2
      obtain ⟨before, earlier, submission, next, resolution, inside, done, settled, certifies, recorded⟩ := ih already
      refine ⟨before, earlier, submission, next, resolution, inside.trans (List.prefix_append ..), done, settled,
        certifies, ?_⟩
      exact outcome.symm ▸ recorded
    · rcases advance_cases (World.transact base.hosting) (deployment.run base.hosting outside inputs) (msg, tx)
        with kept | taken
      · rw [later, kept] at finalized
        exact absurd finalized already
      · rw [← later] at taken
        have sound := fun auctionId => (deployment.run_reachable base.hosting outside inputs auctionId).sound
        obtain ⟨resolution, certifies, recorded⟩ := World.transact_certifies wired sound taken already finalized
        exact ⟨inputs, msg, tx, w, resolution, List.prefix_rfl, taken, finalized, certifies, recorded⟩

/-- The steps that lead to an auction that awaits its resolution, and the attester's proof. -/
def attestedRun : List (Msg × Tx (Hosted (ℕ → Address))) :=
  [({ sender := 1, timestamp := 900 }, .setAVS 14 15),
    ({ sender := 1, timestamp := 900 }, .setSettlementEngine 14),
    ({ sender := 9, value := 10, timestamp := 1000 }, .createAuction 5 7 100 0 10 false),
    ({ sender := 8, timestamp := 1200 }, .triggerFinalize 1), (sent, awaitedTx 41)]

set_option maxRecDepth 4000 in
/-- The attester's proof finalized the auction. -/
theorem attestedRun_finalized : ∃ before msg tx next resolution, before ++ [(msg, tx)] <+: attestedRun ∧
    (hostDeployment.run tokenChain.hosting hostedOutside before).transact tokenChain.hosting (msg, tx) = .ok next ∧
    (next.market.auctions 1).auction.state = .finalized ∧
    (hostDeployment.run tokenChain.hosting hostedOutside before).Certifies tokenChain 1 tx resolution ∧
    resolution.RecordedIn
      ((hostDeployment.run tokenChain.hosting hostedOutside attestedRun).market.auctions 1).outcome :=
  finalized_by_quorum hostDeployment tokenChain hostedOutside attestedRun 1 (by decide +kernel)

end FairMarket
