import FairMarket.Attestation.Quorum
import FairMarket.Keeper.AvsSubmitter
import FairMarket.Keeper.ResolutionQueue
import FairMarket.Market.Lifecycle
import FairMarket.Market.Rejection

/-! When the submitter retires an artifact, against what has become of its auction. The poll
and the transactions of anyone take their steps in any order. -/

namespace FairMarket

open Keeper

variable {τ : Type}

/-- The number the market answers with for a state. -/
def AuctionState.ordinal : AuctionState → ℤ
  | .created => 0
  | .active => 1
  | .resolving => 2
  | .finalized => 3
  | .cancelled => 4
  | .voided => 5

namespace World

variable {σ : Type}

/-- The state in what `getAuction` answers. -/
def getAuctionState (w : World σ) (auctionId : ℤ) : Except Revert ℤ := do
  let cell ← w.auctionExists (← toUint256 auctionId)
  return cell.auction.state.ordinal

/-- The auction is finalized, cancelled or voided. -/
def Settled (w : World σ) (auctionId : ℤ) : Prop :=
  ∃ id, toUint256 auctionId = .ok id ∧ (w.market.auctions id).auction.state.terminal = true

/-- What the market asks its service about a submission. -/
def asked (w : World σ) (market : Address) : Tx σ → Option Resolution
  | .submitResolution auctionId winner winnerCiphertext winningAmount _ => some {
      winner := .open_ winner
      market
      auctionId
      requestId := (w.market.auctions auctionId).resolutionRequest.requestId
      winnerCiphertext
      winningAmount }
  | .submitShieldedResolution auctionId winnerIdentityHash winnerCiphertext winningAmount _ => some {
      winner := .shielded winnerIdentityHash
      market
      auctionId
      requestId := (w.market.auctions auctionId).resolutionRequest.requestId
      winnerCiphertext
      winningAmount }
  | _ => none

/-- The service of the auction's engine finds a quorum behind the proof of the submission. -/
def Endorses (base : External τ) (w : World (Hosted τ)) (tx : Tx (Hosted τ)) : Prop :=
  ∀ resolution, w.asked base.market tx = some resolution → ∃ engine avs envelope,
    w.engines (w.auctionSettlementEngine (w.market.auctions resolution.auctionId)) = some engine ∧
      w.outside.services engine.avs = some avs ∧ tx.proof = some envelope ∧
        resolution.Attested avs base.toChain engine.avs envelope

end World

/-- A service that is shown a quorum accepts. -/
theorem Hosted.consult_attested {s next : Hosted τ} {service : Address} {avs : MockEigenLayerAVS}
    {resolution : Resolution} {chain : Chain} {envelope : ProofEnvelope} {accepted : Bool}
    (served : s.services service = some avs) (attested : resolution.Attested avs chain service envelope)
    (done : s.consult service (fun avs => resolution.verify avs chain service (some envelope)) =
      .ok (accepted, next)) : accepted = true := by
  simp only [consult, bind_eq_ok, requireSome_eq_ok, pure_eq_ok, Except.ok.injEq, Prod.mk.injEq] at done
  obtain ⟨_, found, ⟨_, judged⟩, verified, rfl, -⟩ := done
  obtain rfl := Option.some.inj (served.symm.trans found)
  rw [Resolution.verify_true.mpr ⟨attested, rfl⟩] at verified
  cases verified
  rfl

namespace World

section Market

variable {σ : Type} {env : External σ} {w next : World σ} {msg : Msg} {auctionId : AuctionId}

theorem recordResolution_finalizes {outside : σ} {winner : Address} {winningCommitment winnerCiphertext : Bytes32}
    {winningAmount : ℕ}
    (done : (w.setOutside outside).recordResolution msg auctionId (w.market.auctions auctionId) winner
      winningCommitment winnerCiphertext winningAmount = .ok next) :
    (next.market.auctions auctionId).auction.state = .finalized :=
  congrArg (·.cell.auction.state) (recordResolution_changes done).1.view

/-- A submission that returns `true` finalizes its auction. -/
theorem submitResolution_true {winner : Address} {winnerCiphertext : Bytes32} {winningAmount : ℕ} {avsProof : Proof}
    (done : w.submitResolution env msg auctionId winner winnerCiphertext winningAmount avsProof =
      .ok (true, next)) : (next.market.auctions auctionId).auction.state = .finalized := by
  simp only [submitResolution, bind_eq_ok, auctionExists_ok, Prod.exists] at done
  obtain ⟨cell, ⟨-, rfl⟩, -, -, -, -, -, -, -, -, engine, -, proofAccepted, outside, -, done⟩ := done
  split at done
  · cases done
  · simp only [bind_eq_ok, pure_eq_ok, Except.ok.injEq, Prod.mk.injEq, true_and] at done
    obtain ⟨recorded, records, opened, opens, rfl⟩ := done
    rw [openShieldedRefundPath_auction opens]
    exact recordResolution_finalizes records

theorem submitShieldedResolution_true {winnerIdentityHash winnerCiphertext : Bytes32} {winningAmount : ℕ}
    {avsProof : Proof}
    (done : w.submitShieldedResolution env msg auctionId winnerIdentityHash winnerCiphertext winningAmount
      avsProof = .ok (true, next)) : (next.market.auctions auctionId).auction.state = .finalized := by
  simp only [submitShieldedResolution, bind_eq_ok, auctionExists_ok, Prod.exists] at done
  obtain ⟨cell, ⟨-, rfl⟩, -, -, -, -, -, -, commitmentHash, -, engine, -, proofAccepted, outside, -, done⟩ := done
  split at done
  · cases done
  · simp only [bind_eq_ok, settleWinningCommitment, markWinningIdentity, requireSome_eq_ok, Prod.exists,
      pure_eq_ok, Except.ok.injEq, Prod.mk.injEq, true_and] at done
    obtain ⟨recorded, records, _, ⟨_, -, _, _, -, rfl⟩, opened, opens, _, ⟨_, -, _, -, rfl⟩, rfl⟩ := done
    have finalized : (recorded.market.auctions auctionId).auction.state = .finalized :=
      recordResolution_finalizes records
    show (opened.market.auctions auctionId).auction.state = .finalized
    rw [openShieldedRefundPath_auction opens]
    exact finalized

/-- A settled auction stays settled. -/
theorem terminal_kept {input : Msg × Tx σ} (wired : w.Wired env) (done : w.transact env input = .ok next)
    (terminal : (w.market.auctions auctionId).auction.state.terminal = true) :
    (next.market.auctions auctionId).auction.state.terminal = true := by
  have found : (w.market.auctions auctionId).auction.exists_ = true := by
    by_contra absent
    rw [(wired.blank auctionId (Bool.eq_false_iff.mpr absent)).1] at terminal
    cases terminal
  have before : w.stateOf auctionId = some (w.market.auctions auctionId).auction.state := if_pos found
  obtain ⟨-, same | edge⟩ := transact_stateOf wired done auctionId
  · rw [before, stateOf] at same
    split at same
    · rw [Option.some.inj same]
      exact terminal
    · cases same
  · rw [before] at edge
    rcases AuctionState.terminal_cases terminal with state | state | state
    all_goals
      rw [state] at edge
      cases edge

end Market

variable {base : External τ} {w next : World (Hosted τ)} {msg : Msg} {tx : Tx (Hosted τ)} {resolution : Resolution}
  {accepted : Bool}

theorem submitResolution_endorsed {auctionId : AuctionId} {winner : Address} {winnerCiphertext : Bytes32}
    {winningAmount : ℕ} {avsProof : Proof}
    (endorses : w.Endorses base (.submitResolution auctionId winner winnerCiphertext winningAmount avsProof))
    (done : w.submitResolution base.hosting msg auctionId winner winnerCiphertext winningAmount avsProof =
      .ok (accepted, next)) : accepted = true := by
  obtain ⟨engine, avs, envelope, serving, served, rfl, attested⟩ := endorses _ rfl
  simp only [submitResolution, SettlementEngine.verifyResolutionProof, SettlementEngine.verifyProof, bind_eq_ok,
    auctionExists_ok, requireSome_eq_ok, Prod.exists] at done
  obtain ⟨cell, ⟨-, rfl⟩, -, -, -, -, -, -, -, -, _, deployed, proofAccepted, outside, ⟨-, -, judged⟩, done⟩ := done
  obtain rfl := Option.some.inj (serving.symm.trans deployed)
  have accepts : proofAccepted = true := Hosted.consult_attested served attested judged
  rw [accepts, if_neg (not_not.mpr rfl)] at done
  simp only [bind_eq_ok, pure_eq_ok, Except.ok.injEq, Prod.mk.injEq] at done
  obtain ⟨-, -, -, -, same, -⟩ := done
  exact same.symm

theorem submitShieldedResolution_endorsed {auctionId : AuctionId} {winnerIdentityHash winnerCiphertext : Bytes32}
    {winningAmount : ℕ} {avsProof : Proof}
    (endorses : w.Endorses base
      (.submitShieldedResolution auctionId winnerIdentityHash winnerCiphertext winningAmount avsProof))
    (done : w.submitShieldedResolution base.hosting msg auctionId winnerIdentityHash winnerCiphertext winningAmount
      avsProof = .ok (accepted, next)) : accepted = true := by
  obtain ⟨engine, avs, envelope, serving, served, rfl, attested⟩ := endorses _ rfl
  simp only [submitShieldedResolution, SettlementEngine.verifyShieldedResolutionProof,
    SettlementEngine.verifyProof, bind_eq_ok, auctionExists_ok, requireSome_eq_ok, Prod.exists] at done
  obtain ⟨cell, ⟨-, rfl⟩, -, -, -, -, -, -, _, -, _, deployed, proofAccepted, outside, ⟨-, -, judged⟩, done⟩ := done
  obtain rfl := Option.some.inj (serving.symm.trans deployed)
  have accepts : proofAccepted = true := Hosted.consult_attested served attested judged
  rw [accepts, if_neg (not_not.mpr rfl)] at done
  simp only [bind_eq_ok, pure_eq_ok, Except.ok.injEq, Prod.mk.injEq] at done
  obtain ⟨-, -, -, -, -, -, -, -, same, -⟩ := done
  exact same.symm

/-- A submission with a quorum behind it settles its auction, unless it reverts. -/
theorem transact_endorsed (endorses : w.Endorses base tx) (asks : w.asked base.market tx = some resolution)
    (done : w.transact base.hosting (msg, tx) = .ok next) :
    (next.market.auctions resolution.auctionId).auction.state = .finalized := by
  obtain ⟨-, executed, executes, rfl⟩ := transact_ok.mp done
  cases tx with
  | submitResolution auctionId winner winnerCiphertext winningAmount avsProof =>
    cases asks
    obtain ⟨accepted, submitted⟩ := afterResolution_ok.mp executes
    obtain rfl := submitResolution_endorsed endorses submitted
    have finalized := submitResolution_true submitted
    exact finalized
  | submitShieldedResolution auctionId winnerIdentityHash winnerCiphertext winningAmount avsProof =>
    cases asks
    obtain ⟨accepted, submitted⟩ := afterResolution_ok.mp executes
    obtain rfl := submitShieldedResolution_endorsed endorses submitted
    have finalized := submitShieldedResolution_true submitted
    exact finalized
  | _ => cases asks

end World

namespace Keeper

/-- `EthersResolutionWriter.submitResolution`: the transaction that is sent. -/
def toTransaction {σ : Type} (payload : AttestationPayload) (proof : AttestationProofEnvelope) :
    Except Revert (Tx σ) := do
  let auctionId ← toUint256 payload.auctionId
  let requestId ← payload.requestId.toBytes32
  let winnerCiphertext ← payload.winnerCiphertext.toBytes32
  let winningAmount ← toUint256 payload.winningAmount
  if payload.winnerKind = some .shielded then
    let winner ← payload.winner.toBytes32
    return .submitShieldedResolution auctionId winner winnerCiphertext winningAmount.toNat (some {
      auctionId
      requestId
      winner
      winnerCiphertext
      winningAmount := winningAmount.toNat
      operators := proof.operators
      signatures := proof.signatures })
  else
    let winner ← payload.winner.toAddress
    return .submitResolution auctionId winner winnerCiphertext winningAmount.toNat (some {
      auctionId
      requestId
      winner := MockEigenLayerAVS.padAddress winner
      winnerCiphertext
      winningAmount := winningAmount.toNat
      operators := proof.operators
      signatures := proof.signatures })

/-- A transaction of anyone, or a call of the submitter, one that sends a resolution with
the message that took it to the market, if it got there. -/
inductive Happening (τ : Type) where
  | transaction (input : Msg × Tx (Hosted τ))
  | call (event : SubmitterEvent) (landed : Option Msg)

namespace Happening

/-- What comes to the market. -/
def input : Happening τ → Option (Msg × Tx (Hosted τ))
  | .transaction input => some input
  | .call (.submitResolution payload proof _) (some msg) => (toTransaction payload proof).toOption.map (msg, ·)
  | .call _ _ => none

def event : Happening τ → Option SubmitterEvent
  | .transaction _ => none
  | .call event _ => some event

end Happening

section Run

variable (base : External τ)

def happen (w : World (Hosted τ)) (happening : Happening τ) : Except Revert (World (Hosted τ)) :=
  match happening.input with
  | some input => w.transact base.hosting input
  | none => .ok w

/-- What the chain tells the submitter is so: a state that is read, and that a submission was
carried out whose call returned. -/
def Observed (w : World (Hosted τ)) : Happening τ → Prop
  | .call (.getAuctionState auctionId (some state)) _ => w.getAuctionState auctionId = .ok state
  | .call (.submitResolution payload proof true) landed => ∃ msg tx next, landed = some msg ∧
      toTransaction payload proof = .ok tx ∧ w.transact base.hosting (msg, tx) = .ok next
  | _ => True

/-- No auction is ACTIVE when the submitter reads its state, and every submission that is
carried out has a quorum behind it. -/
def Timely (w : World (Hosted τ)) : Happening τ → Prop
  | .call (.getAuctionState auctionId (some _)) _ => w.getAuctionState auctionId ≠ .ok 1
  | .call (.submitResolution payload proof _) (some msg) => ∀ tx next,
      toTransaction payload proof = .ok tx → w.transact base.hosting (msg, tx) = .ok next → w.Endorses base tx
  | _ => True

/-- The auction of an artifact that is marked is settled. -/
def RetiresSettled (artifacts : List StoredResolutionArtifact) (w : World (Hosted τ)) : Happening τ → Prop
  | .call (.markResolutionArtifactSubmitted requestId _) _ =>
    ∀ artifact ∈ artifacts, artifact.requestId = requestId → w.Settled artifact.auctionId
  | _ => True

end Run

section Step

variable {base : External τ} {w : World (Hosted τ)} {happening : Happening τ} {auctionId : ℤ}

/-- Where the wiring of the deployment is in place, and no auction waits to be activated. -/
structure Running (base : External τ) (w : World (Hosted τ)) : Prop where
  wired : w.Wired base.hosting
  activated : ∀ id, w.stateOf id ≠ some .created

theorem Running.transact (running : Running base w) {input : Msg × Tx (Hosted τ)} {next : World (Hosted τ)}
    (done : w.transact base.hosting input = .ok next) : Running base next where
  wired := (World.transact_stateOf running.wired done 0).1
  activated := by
    intro id created
    obtain ⟨-, same | edge⟩ := World.transact_stateOf running.wired done id
    · exact running.activated id (same ▸ created)
    · rw [created] at edge
      revert edge
      cases w.stateOf id with
      | none => exact nofun
      | some state => cases state <;> exact nofun

/-- The market takes a step if something comes to it. -/
theorem advance_happen (base : External τ) (w : World (Hosted τ)) (happening : Happening τ) :
    advance (happen base) w happening = w ∨ ∃ input, happening.input = some input ∧
      w.transact base.hosting input = .ok (advance (happen base) w happening) := by
  rcases advance_cases (happen base) w happening with kept | done
  · exact .inl kept
  · unfold happen at done
    cases arrives : happening.input with
    | none =>
      rw [arrives] at done
      exact .inl (Except.ok.inj done).symm
    | some input =>
      rw [arrives] at done
      exact .inr ⟨input, rfl, done⟩

theorem advance_of_none (none : happening.input = none) : advance (happen base) w happening = w := by
  unfold advance happen
  rw [none]

theorem advance_of_some {input : Msg × Tx (Hosted τ)} {next : World (Hosted τ)}
    (arrives : happening.input = some input) (done : w.transact base.hosting input = .ok next) :
    advance (happen base) w happening = next := by
  unfold advance happen
  rw [arrives]
  dsimp only
  rw [done]

theorem Running.advance (running : Running base w) (happening : Happening τ) :
    Running base (advance (happen base) w happening) := by
  rcases advance_happen base w happening with kept | ⟨input, -, done⟩
  · rwa [kept]
  · exact running.transact done

theorem settled_advance (running : Running base w) (settled : w.Settled auctionId) (happening : Happening τ) :
    (advance (happen base) w happening).Settled auctionId := by
  rcases advance_happen base w happening with kept | ⟨input, -, done⟩
  · rwa [kept]
  · obtain ⟨id, same, terminal⟩ := settled
    exact ⟨id, same, World.terminal_kept running.wired done terminal⟩

theorem toTransaction_asked {payload : AttestationPayload} {proof : AttestationProofEnvelope}
    {tx : Tx (Hosted τ)} (sends : toTransaction payload proof = .ok tx) (market : Address) :
    ∃ resolution, w.asked market tx = some resolution ∧ toUint256 payload.auctionId = .ok resolution.auctionId := by
  simp only [toTransaction, bind_eq_ok] at sends
  obtain ⟨id, same, _, -, _, -, _, -, sends⟩ := sends
  split at sends
  · simp only [bind_eq_ok, pure_eq_ok, Except.ok.injEq] at sends
    obtain ⟨_, -, rfl⟩ := sends
    exact ⟨_, rfl, same⟩
  · simp only [bind_eq_ok, pure_eq_ok, Except.ok.injEq] at sends
    obtain ⟨_, -, rfl⟩ := sends
    exact ⟨_, rfl, same⟩

/-- After a read of another state, or a submission that returned, the auction is settled. -/
theorem settles_advance (running : Running base w) {event : SubmitterEvent} {landed : Option Msg}
    (observed : Observed base w (.call event landed)) (timely : Timely base w (.call event landed))
    (settles : event.Settles auctionId) : (advance (happen base) w (.call event landed)).Settled auctionId := by
  cases event with
  | getAuctionState read state =>
    obtain ⟨rfl, value, rfl, moved⟩ := settles
    refine settled_advance running ?_ _
    have answered : w.getAuctionState read = .ok value := observed
    have started : w.getAuctionState read ≠ .ok 1 := timely
    rw [answered] at started
    simp only [World.getAuctionState, bind_eq_ok, World.auctionExists_ok, pure_eq_ok, Except.ok.injEq] at answered
    obtain ⟨id, same, _, ⟨found, rfl⟩, rfl⟩ := answered
    refine ⟨id, same, ?_⟩
    have activated := running.activated id
    rw [World.stateOf, if_pos found] at activated
    revert activated moved started
    cases (w.market.auctions id).auction.state <;> simp [AuctionState.ordinal, AuctionState.terminal]
  | submitResolution payload proof returned =>
    obtain ⟨rfl, rfl⟩ := settles
    obtain ⟨msg, tx, next, rfl, sends, done⟩ := observed
    obtain ⟨resolution, asks, same⟩ := toTransaction_asked (w := w) sends base.market
    have finalized := World.transact_endorsed (timely tx next sends done) asks done
    have arrives : (Happening.call (.submitResolution payload proof true) (some msg) : Happening τ).input =
        some (msg, tx) := by
      rw [Happening.input, sends]
      rfl
    rw [advance_of_some arrives done]
    refine ⟨_, same, ?_⟩
    rw [finalized]
    rfl
  | _ => exact settles.elim

/-- Along a run a mark comes only after what settles its auction. -/
theorem retiresSettled_along {artifacts : List StoredResolutionArtifact} {happenings : List (Happening τ)}
    (running : Running base w)
    (guarded : ∀ artifact ∈ artifacts, w.Settled artifact.auctionId ∨
      Traced.Guarded (SubmitterEvent.Marks artifact.requestId) (SubmitterEvent.Settles artifact.auctionId)
        (happenings.filterMap Happening.event))
    (observed : Along (happen base) (Observed base) w happenings)
    (timely : Along (happen base) (Timely base) w happenings) :
    Along (happen base) (RetiresSettled artifacts) w happenings := by
  induction happenings generalizing w with
  | nil => exact trivial
  | cons happening rest ih =>
    refine ⟨?_, ih (running.advance happening) (fun artifact pending => ?_) observed.2 timely.2⟩
    · cases happening with
      | transaction input => exact trivial
      | call event landed =>
        cases event with
        | markResolutionArtifactSubmitted requestId submittedAtMs =>
          intro artifact pending same
          rcases guarded artifact pending with settled | ⟨unmarked, -⟩
          · exact settled
          · exact absurd same.symm unmarked
        | _ => exact trivial
    · rcases guarded artifact pending with settled | later
      · exact .inl (settled_advance running settled happening)
      · cases happening with
        | transaction input => exact .inr later
        | call event landed =>
          obtain ⟨-, settles | later⟩ := later
          · exact .inl (settles_advance running observed.1 timely.1 settles)
          · exact .inr later

end Step

end Keeper

/-- A poll of the submitter among transactions of anyone, from any state the market reaches,
with any services on its side and any operators and thresholds on the submitter's. As long
as no auction is ACTIVE when its state is read, and each submission that is carried out has
a quorum behind it, every artifact that is marked is one of a settled auction, which is not
RESOLVING any more. -/
theorem artifacts_retired_settled (deployment : Deployment) (base : External τ) (outside : Hosted τ)
    (past : List (Msg × Tx (Hosted τ))) (config : SubmitterConfig) (wallet : String → AVSOperatorSigner)
    (answers : StoredResolutionArtifact → TurnAnswers) (store : AuctionStateStore)
    (happenings : List (Happening τ))
    (polls : happenings.filterMap Happening.event <+: (pollSubmitter config wallet answers store).events)
    (observed : Along (happen base) (Observed base) (deployment.run base.hosting outside past) happenings)
    (timely : Along (happen base) (Timely base) (deployment.run base.hosting outside past) happenings) :
    Along (happen base) (RetiresSettled (store.listPendingResolutionArtifacts config.maxBatchSize))
      (deployment.run base.hosting outside past) happenings := by
  have running : Running base (deployment.run base.hosting outside past) := by
    apply play_preserves
    · exact fun _ _ _ running done => Running.transact running done
    · exact ⟨deployment.genesis_wired base.hosting outside, fun _ => nofun⟩
  apply retiresSettled_along running _ observed timely
  intro artifact pending
  obtain ⟨later, split⟩ := polls
  have guarded := @pollSubmitter_guarded config wallet answers _ _ pending
  rw [← split] at guarded
  exact .inr (Traced.guarded_append.mp guarded).1

def awaitedArtifact : StoredResolutionArtifact where
  requestId := .hash (awaiting.market.auctions 1).resolutionRequest.requestId
  auctionId := 1
  winner := .account 0
  winnerCiphertext := .hash 0
  avsProof := .literal ""
  winningAmount := 0
  storedAtMs := 1

/-- The chain answers, and the submission is carried out. -/
def carriedOut : TurnAnswers :=
  let retired : RetireAnswers := {
    trackedAtMs := 5
    updated := .ok ()
    submittedAtMs := 5
    marked := .ok () }
  {
    currentState := .ok 2
    retired
    digest := .ok (.keccak (MockEigenLayerAVS.digestWords tokenChain.toChain 15 100 1
      (awaiting.market.auctions 1).resolutionRequest.requestId (.ofAddress 0) 0 0))
    submitted := .ok ()
    submittedAtMs := 5
    marked := .ok ()
    refreshedState := .ok 2
    refreshRetired := retired
    recordedAtMs := 5
    recorded := .ok () }

def awaitedStore : AuctionStateStore := ({} : AuctionStateStore).storeResolutionArtifact awaitedArtifact

def awaitedPoll (operator : Address) : SubmitterProgram Unit :=
  pollSubmitter soleSubmitter (soleWallet operator) (fun _ => carriedOut) awaitedStore

def awaitedProof (operator : Address) : AttestationProofEnvelope where
  toAttestationPayload := toPayload awaitedArtifact
  operators := [operator]
  signatures := [[.ofNat operator.toNat]]
  aggregateSignature := [[.ofNat operator.toNat]]
  signerCount := 1

def sent : Msg where
  sender := 8
  timestamp := 1200

/-- The poll of the submitter, whose submission gets to the market. -/
def awaitedRun (operator : Address) : List (Happening (ℕ → Address)) :=
  (awaitedPoll operator).events.map fun event => .call event (some sent)

def awaitedTx (operator : Address) : Tx (Hosted (ℕ → Address)) :=
  .submitResolution 1 0 0 0 (some {
    auctionId := 1
    requestId := (awaiting.market.auctions 1).resolutionRequest.requestId
    winner := MockEigenLayerAVS.padAddress 0
    winnerCiphertext := 0
    winningAmount := 0
    operators := [operator]
    signatures := [[.ofNat operator.toNat]] })

theorem awaitedPoll_events (operator : Address) : (awaitedPoll operator).events =
    [.getAuctionState 1 (some 2), .computeDigest (.account 100) (toPayload awaitedArtifact),
      .submitResolution (toPayload awaitedArtifact) (awaitedProof operator) true,
      .markResolutionArtifactSubmitted awaitedArtifact.requestId 5] := by
  have valid : soleSubmitter.canSubmitOnChain = true ∧
      soleSubmitter.avsOperatorPrivateKeys.filter isValidPrivateKey = soleSubmitter.avsOperatorPrivateKeys := by
    decide +kernel
  have signers : soleSubmitter.operatorSigners (soleWallet operator) = [soleWallet operator ""] := by
    rw [SubmitterConfig.operatorSigners, valid.1, valid.2]
    rfl
  have submits : soleSubmitter.submits (soleWallet operator) = true := by
    rw [SubmitterConfig.submits, valid.1, signers]
    rfl
  unfold awaitedPoll pollSubmitter
  dsimp only
  rw [if_pos submits, signers]
  rfl

theorem toTransaction_awaited (operator : Address) :
    toTransaction (toPayload awaitedArtifact) (awaitedProof operator) = .ok (awaitedTx operator) := rfl

/-- What the steps of the poll find, where its transaction does not revert. -/
theorem along_awaitedRun {operator : Address} {next : World (Hosted (ℕ → Address))}
    (done : awaiting.transact tokenChain.hosting (sent, awaitedTx operator) = .ok next)
    {condition : World (Hosted (ℕ → Address)) → Happening (ℕ → Address) → Prop} :
    Along (happen tokenChain) condition awaiting (awaitedRun operator) ↔
      condition awaiting (.call (.getAuctionState 1 (some 2)) (some sent)) ∧
      condition awaiting (.call (.computeDigest (.account 100) (toPayload awaitedArtifact)) (some sent)) ∧
      condition awaiting (.call (.submitResolution (toPayload awaitedArtifact) (awaitedProof operator) true) (some sent)) ∧
      condition next (.call (.markResolutionArtifactSubmitted awaitedArtifact.requestId 5) (some sent)) := by
  have arrives : (Happening.call (.submitResolution (toPayload awaitedArtifact) (awaitedProof operator) true)
      (some sent) : Happening (ℕ → Address)).input = some (sent, awaitedTx operator) := rfl
  unfold awaitedRun
  rw [awaitedPoll_events]
  simp only [List.map_cons, List.map_nil, Along, and_true]
  rw [advance_of_none rfl, advance_of_none rfl, advance_of_some arrives done]

theorem play_awaitedRun {operator : Address} {next : World (Hosted (ℕ → Address))}
    (done : awaiting.transact tokenChain.hosting (sent, awaitedTx operator) = .ok next) :
    play (happen tokenChain) awaiting (awaitedRun operator) = next := by
  have arrives : (Happening.call (.submitResolution (toPayload awaitedArtifact) (awaitedProof operator) true)
      (some sent) : Happening (ℕ → Address)).input = some (sent, awaitedTx operator) := rfl
  have quiet : ∀ {event : SubmitterEvent} (w : World (Hosted (ℕ → Address))),
      (Happening.call event (some sent) : Happening (ℕ → Address)).input = none →
        advance (happen tokenChain) w (.call event (some sent)) = w := fun _ => advance_of_none
  unfold awaitedRun
  rw [awaitedPoll_events]
  simp only [List.map_cons, List.map_nil, play_cons, play_nil]
  rw [quiet awaiting rfl, quiet awaiting rfl, advance_of_some arrives done, quiet next rfl]

theorem awaitedRun_polls (operator : Address) :
    (awaitedRun operator).filterMap Happening.event = (awaitedPoll operator).events := by
  rw [awaitedRun, List.filterMap_map]
  exact List.filterMap_some

/-- What a transaction leaves of an auction, if it does not revert. -/
theorem transact_of_outcome {w : World (Hosted τ)} {base : External τ} {input : Msg × Tx (Hosted τ)}
    {auctionId : AuctionId} {state : AuctionState}
    (outcome : (w.transact base.hosting input).toOption.map (fun next =>
      (next.market.auctions auctionId).auction.state) = some state) :
    ∃ next, w.transact base.hosting input = .ok next ∧ (next.market.auctions auctionId).auction.state = state := by
  cases done : w.transact base.hosting input with
  | error raised =>
    rw [done] at outcome
    cases outcome
  | ok next =>
    rw [done] at outcome
    exact ⟨next, rfl, Option.some.inj outcome⟩

theorem awaited_resolving : awaiting.getAuctionState 1 = .ok 2 := by
  obtain ⟨found, resolving, -⟩ := awaiting_facts
  simp only [World.getAuctionState, bind_eq_ok, World.auctionExists_ok, pure_eq_ok, Except.ok.injEq]
  exact ⟨1, rfl, _, ⟨found, rfl⟩, by rw [resolving]; rfl⟩

theorem awaited_observed {operator : Address} {next : World (Hosted (ℕ → Address))}
    (done : awaiting.transact tokenChain.hosting (sent, awaitedTx operator) = .ok next) :
    Along (happen tokenChain) (Observed tokenChain) awaiting (awaitedRun operator) := by
  refine (along_awaitedRun done).mpr ⟨awaited_resolving, trivial, ?_, trivial⟩
  exact ⟨sent, awaitedTx operator, next, rfl, toTransaction_awaited operator, done⟩

set_option maxRecDepth 4000 in
/-- The operator is not one of the service: the proof is rejected, the artifact is marked,
and its auction is still RESOLVING. -/
theorem strangersProof_retired :
    let happenings := awaitedRun 42
    let artifacts := awaitedStore.listPendingResolutionArtifacts soleSubmitter.maxBatchSize
    happenings.filterMap Happening.event = (awaitedPoll 42).events ∧
      Along (happen tokenChain) (Observed tokenChain) awaiting happenings ∧
      ¬ Along (happen tokenChain) (RetiresSettled artifacts) awaiting happenings ∧
      ((play (happen tokenChain) awaiting happenings).market.auctions 1).auction.state = .resolving := by
  intro happenings artifacts
  obtain ⟨next, done, resolving⟩ := transact_of_outcome
    (show ((awaiting.transact tokenChain.hosting (sent, awaitedTx 42)).toOption.map fun next =>
      (next.market.auctions 1).auction.state) = some .resolving by decide +kernel)
  refine ⟨awaitedRun_polls 42, awaited_observed done, fun retires => ?_, ?_⟩
  · obtain ⟨-, -, -, marks⟩ := (along_awaitedRun done).mp retires
    obtain ⟨id, same, terminal⟩ := marks awaitedArtifact (List.mem_singleton_self _) rfl
    obtain rfl : id = 1 := (Except.ok.inj same).symm
    rw [resolving] at terminal
    cases terminal
  · rw [play_awaitedRun done]
    exact resolving

theorem awaitedTx_endorsed : awaiting.Endorses tokenChain (awaitedTx 41) := by
  rintro resolution asks
  cases asks
  obtain ⟨-, -, -, pinned, engine, asks, -⟩ := awaiting_facts
  obtain ⟨settlement, deployed, service⟩ := Option.map_eq_some_iff.mp asks
  refine ⟨settlement, soleAttester, _, ?_, ?_, rfl, ?_⟩
  · rw [World.auctionSettlementEngine, World.auctionDependency, if_pos pinned, engine]
    exact deployed
  · rw [service]
    rfl
  · exact {
      names := ⟨rfl, rfl, rfl, rfl, rfl⟩
      paired := rfl
      enough := le_rfl
      distinct := List.nodup_singleton _
      registered := List.forall_mem_singleton.mpr rfl
      signed := ⟨_, rfl, List.forall_mem_singleton.mpr rfl⟩ }

set_option maxRecDepth 4000 in
/-- An operator of the service signs, and the auction is settled when the artifact is marked. -/
theorem attestersProof_retired :
    let artifacts := awaitedStore.listPendingResolutionArtifacts soleSubmitter.maxBatchSize
    Along (happen tokenChain) (RetiresSettled artifacts) awaiting (awaitedRun 41) := by
  obtain ⟨next, done, -⟩ := transact_of_outcome
    (show ((awaiting.transact tokenChain.hosting (sent, awaitedTx 41)).toOption.map fun next =>
      (next.market.auctions 1).auction.state) = some .finalized by decide +kernel)
  refine artifacts_retired_settled hostDeployment tokenChain hostedOutside _ soleSubmitter (soleWallet 41)
    (fun _ => carriedOut) awaitedStore (awaitedRun 41) ?_ (awaited_observed done) ?_
  · rw [awaitedRun_polls]
    exact List.prefix_rfl
  · refine (along_awaitedRun done).mpr ⟨?_, trivial, ?_, trivial⟩
    · intro active
      cases awaited_resolving.symm.trans active
    · intro tx _ sends _
      obtain rfl := Except.ok.inj (sends.symm.trans (toTransaction_awaited 41))
      exact awaitedTx_endorsed

end FairMarket
