import FairMarket.Attestation.Settlement

/-! What the slash counters of a service count: the rejected proofs that list an operator,
whoever made them. -/

namespace FairMarket

variable {τ : Type}

namespace World

variable {base : External τ} {w next : World (Hosted τ)} {msg : Msg} {tx : Tx (Hosted τ)}
  {service operator : Address}

/-- The call submits a proof that lists the operator, to an auction whose engine asks the
service, and it is rejected for more than being too short. -/
def charges (base : External τ) (service operator : Address) (w : World (Hosted τ))
    (input : Msg × Tx (Hosted τ)) : Bool :=
  match w.asked base.market input.2, input.2.proof with
  | some resolution, some envelope =>
    (w.engines (w.snapshot resolution.auctionId).settlementEngine).any (·.avs = service) &&
      !accepts (w.respond base.hosting input) &&
      (w.outside.services service).any fun avs => avs.isOperator operator && envelope.operators.contains operator &&
        !decide (envelope.Names resolution ∧ envelope.operators.length < avs.threshold)
  | _, _ => false

/-- The slash counter of an operator at a service. -/
def slashCountAt (service operator : Address) (w : World (Hosted τ)) : Option ℕ :=
  (w.outside.services service).map (·.slashCount operator)

/-- What happens outside by itself leaves the counter alone. -/
def KeepsCount (service operator : Address) (w : World (Hosted τ)) (input : Msg × Tx (Hosted τ)) : Prop :=
  ∀ later, input.2 = .outside later →
    (later.services service).map (·.slashCount operator) = w.slashCountAt service operator

/-- A judgement costs the operator a slash exactly if the call is one that charges it. -/
theorem Judged.slashCountAt_eq {resolution : Resolution} {asked : Address} {avs judged : MockEigenLayerAVS}
    {accepted : Bool} (judges : Judged base w next resolution tx.proof asked avs judged accepted)
    (asks : w.asked base.market tx = some resolution)
    (responds : w.respond base.hosting (msg, tx) = .ok (accepted, next)) :
    next.slashCountAt service operator = (w.slashCountAt service operator).map
      (· + (w.charges base service operator (msg, tx)).toNat) := by
  obtain ⟨engine, deployed, rfl⟩ := judges.engine
  obtain ⟨envelope, proved⟩ := proof_of_verify judges.verdict
  have verdict := proved ▸ judges.verdict
  unfold slashCountAt
  rw [judges.services]
  by_cases own : service = engine.avs
  · subst own
    rw [Function.update_self, judges.served, Option.map_some, Option.map_some, Option.map_some]
    refine congrArg some ?_
    simp only [charges, asks, proved, deployed, responds, judges.served, accepts, Option.any_some]
    cases accepted with
    | true =>
      obtain rfl := (Resolution.verify_true.mp verdict).2
      simp
    | false =>
      rcases Resolution.verify_false verdict with ⟨names, short, rfl⟩ | ⟨slashes, rfl⟩
      · simp [names, short]
      · by_cases listed : avs.isOperator operator = true ∧ operator ∈ envelope.operators
        · simp [MockEigenLayerAVS.slashed, listed, slashes]
        · have spared : (avs.isOperator operator && envelope.operators.contains operator) = false := by
            simpa using listed
          simp only [MockEigenLayerAVS.slashed, if_neg listed, spared, Bool.false_and, Bool.and_false,
            Bool.toNat_false, Nat.add_zero]
  · rw [Function.update_of_ne own]
    have uncharged : w.charges base service operator (msg, tx) = false := by
      simp [charges, asks, proved, deployed, Ne.symm own]
    rw [uncharged]
    cases w.outside.services service <;> rfl

theorem transact_slashCountAt (wired : w.Wired base.hosting) (sound : ∀ auctionId, Sound (w.view auctionId))
    (keeps : w.KeepsCount service operator (msg, tx)) (done : w.transact base.hosting (msg, tx) = .ok next) :
    next.slashCountAt service operator = (w.slashCountAt service operator).map
      (· + (w.charges base service operator (msg, tx)).toNat) := by
  cases asks : w.asked base.market tx with
  | none =>
    have uncharged : w.charges base service operator (msg, tx) = false := by
      simp only [charges, asks]
    have same : next.slashCountAt service operator = w.slashCountAt service operator := by
      by_cases own : ∃ later, tx = .outside later
      · obtain ⟨later, rfl⟩ := own
        obtain ⟨-, executed, executes, rfl⟩ := transact_ok.mp done
        simp only [execute, bind_eq_ok, exists_revertIf, pure_eq_ok, Except.ok.injEq] at executes
        obtain ⟨-, rfl⟩ := executes
        exact keeps later rfl
      · rw [slashCountAt, slashCountAt, (transact_unasked asks done).1 (not_exists.mp own)]
    rw [same, uncharged]
    cases w.slashCountAt service operator <;> rfl
  | some resolution =>
    obtain ⟨accepted, responds⟩ := transact_eq_ok_iff.mp done
    obtain ⟨asked, avs, judged, judges⟩ := respond_judged wired sound asks responds
    exact judges.slashCountAt_eq asks responds

end World

/-- The calls of a run that charge an operator at a service. -/
def Deployment.charges (deployment : Deployment) (base : External τ) (outside : Hosted τ)
    (service operator : Address) (inputs : List (Msg × Tx (Hosted τ))) : List (Msg × Tx (Hosted τ)) :=
  outputs (World.transact base.hosting)
    (fun w input => if w.charges base service operator input then [input] else [])
    (deployment.genesis base.hosting outside) inputs

section Charges

variable {deployment : Deployment} {base : External τ} {outside : Hosted τ} {service operator : Address}
  {inputs : List (Msg × Tx (Hosted τ))} {input : Msg × Tx (Hosted τ)}

theorem Deployment.charges_refused {raised : Revert}
    (refused : (deployment.run base.hosting outside inputs).transact base.hosting input = .error raised) :
    deployment.charges base outside service operator (inputs ++ [input]) =
      deployment.charges base outside service operator inputs :=
  outputs_refused refused

theorem Deployment.charges_accepted {next : World (Hosted τ)}
    (done : (deployment.run base.hosting outside inputs).transact base.hosting input = .ok next) :
    (deployment.charges base outside service operator (inputs ++ [input])).length =
      (deployment.charges base outside service operator inputs).length +
        ((deployment.run base.hosting outside inputs).charges base service operator input).toNat := by
  have grown : deployment.charges base outside service operator (inputs ++ [input]) =
      deployment.charges base outside service operator inputs ++
        if (deployment.run base.hosting outside inputs).charges base service operator input then [input] else [] :=
    outputs_accepted done
  rw [grown, List.length_append]
  cases (deployment.run base.hosting outside inputs).charges base service operator input <;> rfl

end Charges

/-- In every run in which the counter does not change by itself outside, the slash counter of
an operator at a service is what it was at the start plus the number of submissions of the
run whose proof was rejected, not just for listing too few, while it listed this operator
and the operator was registered. -/
theorem slashCount_tally (deployment : Deployment) (base : External τ) (outside : Hosted τ)
    (service operator : Address) (inputs : List (Msg × Tx (Hosted τ)))
    (keeps : Along (World.transact base.hosting) (World.KeepsCount service operator)
      (deployment.genesis base.hosting outside) inputs) :
    (deployment.run base.hosting outside inputs).slashCountAt service operator =
      ((outside.services service).map (·.slashCount operator)).map
        (· + (deployment.charges base outside service operator inputs).length) := by
  induction inputs using List.reverseRecOn with
  | nil => exact (Option.map_id' (x := (outside.services service).map (·.slashCount operator))).symm
  | append_singleton inputs input ih =>
    obtain ⟨before, last, -⟩ := along_append.mp keeps
    have counted := ih before
    cases taken : (deployment.run base.hosting outside inputs).transact base.hosting input with
    | error raised =>
      rw [Deployment.charges_refused taken, Deployment.run, play_refused taken]
      exact counted
    | ok next =>
      have sound := fun auctionId => (deployment.run_reachable base.hosting outside inputs auctionId).sound
      have step := World.transact_slashCountAt (deployment.run_wired base.hosting outside inputs) sound last taken
      rw [Deployment.run_accepted taken, step, counted, Option.map_map, Deployment.charges_accepted taken]
      simp only [Function.comp_def, Nat.add_assoc]

/-- Auction 1 awaits its resolution and a garbled proof comes in. -/
def garbledRun : List (Msg × Tx (Hosted (ℕ → Address))) :=
  [({ sender := 1, timestamp := 900 }, .setAVS 14 15),
    ({ sender := 1, timestamp := 900 }, .setSettlementEngine 14),
    ({ sender := 9, value := 10, timestamp := 1000 }, .createAuction 5 7 100 0 10 false),
    ({ sender := 8, timestamp := 1200 }, .triggerFinalize 1), garbage]

set_option maxRecDepth 4000 in
/-- The attester has been slashed once. -/
theorem garbledRun_tally :
    (hostDeployment.run tokenChain.hosting hostedOutside garbledRun).slashCountAt 15 41 = some 1 := by
  have charged : (hostDeployment.charges tokenChain hostedOutside 15 41 garbledRun).length = 1 := by
    decide +kernel
  rw [slashCount_tally hostDeployment tokenChain hostedOutside 15 41 garbledRun
    ⟨nofun, nofun, nofun, nofun, nofun, trivial⟩, charged]
  rfl

/-- A proof for another auction that nobody has signed. -/
def unsignedProof (auctionId : AuctionId) (operator : Address) : ProofEnvelope where
  auctionId := auctionId + 1
  requestId := 0
  winner := 0
  winnerCiphertext := 0
  winningAmount := 0
  operators := [operator]
  signatures := [[]]

def unsignedSubmission (auctionId : AuctionId) (operator : Address) : Tx (Hosted τ) :=
  .submitResolution auctionId 0 0 0 (some (unsignedProof auctionId operator))

/-- The service after some slashes of one operator. -/
def MockEigenLayerAVS.slashedBy (avs : MockEigenLayerAVS) (operator : Address) (count : ℕ) : MockEigenLayerAVS :=
  { avs with slashCount := Function.update avs.slashCount operator (avs.slashCount operator + count) }

theorem MockEigenLayerAVS.slashedBy_slashedBy (avs : MockEigenLayerAVS) (operator : Address) (first second : ℕ) :
    (avs.slashedBy operator first).slashedBy operator second = avs.slashedBy operator (first + second) := by
  simp only [slashedBy, Function.update_self, Function.update_idem, Nat.add_assoc]

def Hosted.setService (s : Hosted τ) (service : Address) (avs : MockEigenLayerAVS) : Hosted τ :=
  { s with services := Function.update s.services service (some avs) }

theorem unsignedProof_rejected {avs : MockEigenLayerAVS} {chain : Chain} {self market : Address}
    {auctionId : AuctionId} {requestId : Bytes32} {operator : Address}
    (registered : avs.isOperator operator = true) (fits : FitsUint256 (avs.slashCount operator + 1)) :
    avs.verifyAttestation chain self market auctionId requestId 0 0 0
        (some (unsignedProof auctionId operator)) = .ok (false, avs.slashedBy operator 1) := by
  have elsewhere : auctionId + 1 ≠ auctionId := by simp
  have slashes := slashOperators_sole registered
  rw [checkedAdd_eq_ok.mpr ⟨fits, rfl⟩, ok_bind] at slashes
  have rejects : avs.rejectSlashing [operator] = .ok (false, avs.slashedBy operator 1) := by
    rw [MockEigenLayerAVS.rejectSlashing, slashes]
    rfl
  simp only [MockEigenLayerAVS.verifyAttestation, requireSome, ok_bind, unsignedProof,
    MockEigenLayerAVS.verifyEnvelope, elsewhere, ne_eq, not_false_eq_true, true_or, if_true, rejects]
  rfl

namespace World

variable {base : External τ} {w next : World (Hosted τ)} {msg : Msg} {auctionId : AuctionId}
  {service operator : Address} {avs : MockEigenLayerAVS}

/-- The auction awaits its resolution, its engine asks the service, and the message is one
of anybody that comes in time. -/
structure Exposed (base : External τ) (w : World (Hosted τ)) (auctionId : AuctionId) (service : Address)
    (msg : Msg) : Prop where
  found : (w.market.auctions auctionId).auction.exists_ = true
  resolving : (w.market.auctions auctionId).auction.state = .resolving
  requested : (w.market.auctions auctionId).resolutionRequest.exists_ = true
  initialized : (w.snapshot auctionId).initialized = true
  pinned : (w.snapshot auctionId).settlementEngine ≠ 0
  engine : ∃ engine, w.engines (w.snapshot auctionId).settlementEngine = some engine ∧ engine.avs = service
  deployed : base.market ≠ 0 ∧ service ≠ 0
  user : msg.sender ≠ 0 ∧ w.isSystem base.hosting msg.sender = false
  free : msg.value = 0
  later : w.timestamp ≤ msg.timestamp

/-- The unsigned proof is judged by the service, and costs the operator a slash. -/
theorem Exposed.respond (exposed : w.Exposed base auctionId service msg)
    (served : w.outside.services service = some avs) (registered : avs.isOperator operator = true)
    (fits : FitsUint256 (avs.slashCount operator + 1)) :
    ∃ next, w.respond base.hosting (msg, unsignedSubmission auctionId operator) = .ok (false, next) ∧
      next.timestamp = msg.timestamp ∧ next.outside.services service = some (avs.slashedBy operator 1) := by
  obtain ⟨engine, present, rfl⟩ := exposed.engine
  have judges : base.hosting.verifyAttestation w.outside engine.avs base.market auctionId
      (w.market.auctions auctionId).resolutionRequest.requestId 0 0 0
        (some (unsignedProof auctionId operator)) =
          .ok (false, w.outside.setService engine.avs (avs.slashedBy operator 1)) :=
    consult_ok.mpr ⟨avs, _, served, unsignedProof_rejected registered fits, rfl⟩
  have pinned : w.auctionSettlementEngine (w.market.auctions auctionId) = (w.snapshot auctionId).settlementEngine :=
    if_pos exposed.initialized
  let rejected : World (Hosted τ) :=
    (w.setOutside (w.outside.setService engine.avs (avs.slashedBy operator 1))).rejectResolution auctionId
      (w.market.auctions auctionId).resolutionRequest.requestId
  have submits : w.submitResolution base.hosting msg auctionId 0 0 0 (some (unsignedProof auctionId operator)) =
      .ok (false, rejected) := by
    simp only [submitResolution, onlyAuctionState, bind_eq_ok, auctionExists_ok, exists_revertIf]
    refine ⟨_, ⟨exposed.found, rfl⟩, not_not.mpr exposed.resolving, not_not.mpr exposed.requested, ?_, (), rfl,
      engine, ?_, _, bind_eq_ok.mpr ⟨(), revertIf_eq_ok.mpr fun unset => ?_, judges⟩, rfl⟩
    · rw [pinned]
      exact exposed.pinned
    · rw [pinned, present]
      rfl
    · exact unset.elim exposed.deployed.1 exposed.deployed.2
  exact ⟨{ rejected with timestamp := msg.timestamp },
    World.respond_unpaid rfl exposed.user.1 exposed.user.2 exposed.later exposed.free submits, rfl,
    Function.update_self ..⟩

/-- Nothing but counters and records changes, so the next one may follow. -/
theorem Exposed.of_agree (exposed : w.Exposed base auctionId service msg) (agree : Agree .slashed w next)
    (clock : next.timestamp = msg.timestamp) : next.Exposed base auctionId service msg := by
  have system : next.isSystem base.hosting msg.sender = w.isSystem base.hosting msg.sender := by
    unfold isSystem
    rw [agree.vaults, agree.registries, agree.pots, agree.engines]
  have snapshot : next.snapshot auctionId = w.snapshot auctionId :=
    congrArg AuctionStorage.dependencySnapshot (congrFun agree.auctions auctionId)
  constructor
  · rw [agree.auctions]
    exact exposed.found
  · rw [agree.auctions]
    exact exposed.resolving
  · rw [agree.auctions]
    exact exposed.requested
  · rw [snapshot]
    exact exposed.initialized
  · rw [snapshot]
    exact exposed.pinned
  · rw [snapshot, agree.engines]
    exact exposed.engine
  · exact exposed.deployed
  · rw [system]
    exact exposed.user
  · exact exposed.free
  · exact Nat.le_of_eq clock

/-- As many unsigned proofs as the counter takes. -/
theorem Exposed.play (exposed : w.Exposed base auctionId service msg)
    (served : w.outside.services service = some avs) (registered : avs.isOperator operator = true) (count : ℕ)
    (fits : FitsUint256 (avs.slashCount operator + count)) :
    Agree .slashed w (play (World.transact base.hosting) w
        (List.replicate count (msg, unsignedSubmission auctionId operator))) ∧
      (play (World.transact base.hosting) w
        (List.replicate count (msg, unsignedSubmission auctionId operator))).outside.services service =
          some (avs.slashedBy operator count) := by
  induction count generalizing w avs with
  | zero =>
    refine ⟨.refl Difference.slashed_symmetric w, served.trans (congrArg some ?_)⟩
    rw [MockEigenLayerAVS.slashedBy, Nat.add_zero, Function.update_eq_self]
  | succ count ih =>
    obtain ⟨next, responds, clock, judged⟩ := exposed.respond served registered
      (fits.mono (Nat.add_le_add_left (Nat.le_add_left ..) _))
    have near := respond_false responds
    have taken : advance (World.transact base.hosting) w (msg, unsignedSubmission auctionId operator) = next := by
      rw [advance, transact_eq_ok_iff.mpr ⟨false, responds⟩]
    have room : FitsUint256 ((avs.slashedBy operator 1).slashCount operator + count) := by
      simp only [MockEigenLayerAVS.slashedBy, Function.update_self]
      rwa [Nat.add_assoc, Nat.add_comm 1]
    obtain ⟨agree, counted⟩ := ih (exposed.of_agree near clock) judged registered room
    rw [List.replicate_succ, play_cons, taken]
    refine ⟨.trans Difference.slashed_symmetric near agree, counted.trans (congrArg some ?_)⟩
    rw [MockEigenLayerAVS.slashedBy_slashedBy, Nat.add_comm]

end World

/-- In every reachable state, as long as some auction awaits its resolution, anybody can raise
the slash counter of any operator that the auction's service lists by as much as still fits
into it, with proofs that nobody has signed. Nothing else changes in the service, and but
for the record of the rejections and the clock nothing at all outside of it. -/
theorem anyone_slashes (deployment : Deployment) (base : External τ) (outside : Hosted τ)
    (inputs : List (Msg × Tx (Hosted τ))) (auctionId : AuctionId) (engine : SettlementEngine)
    (avs : MockEigenLayerAVS) (operator : Address) (msg : Msg) (count : ℕ) (deployed : base.market ≠ 0) :
    let w := deployment.run base.hosting outside inputs
    (w.market.auctions auctionId).auction.state = .resolving →
    w.engines (w.snapshot auctionId).settlementEngine = some engine → engine.avs ≠ 0 →
    w.outside.services engine.avs = some avs → avs.isOperator operator = true →
    FitsUint256 (avs.slashCount operator + count) →
    msg.sender ≠ 0 → w.isSystem base.hosting msg.sender = false → msg.value = 0 → w.timestamp ≤ msg.timestamp →
      let v := play (World.transact base.hosting) w
        (List.replicate count (msg, unsignedSubmission auctionId operator))
      v.untraced = w.untraced ∧ v.outside.services engine.avs = some (avs.slashedBy operator count) := by
  intro w resolving present service served registered fits sender user free later
  have wired := deployment.run_wired base.hosting outside inputs
  have found := wired.found_of_state resolving nofun
  have bidding := (deployment.run_reachable base.hosting outside inputs auctionId).sound.bidding_of_resolving found
    resolving
  have exposed : w.Exposed base auctionId engine.avs msg := {
    found
    resolving
    requested := bidding.request.mpr resolving
    initialized := wired.initialized auctionId found
    pinned := fun unset => by
      rw [unset, wired.zero.2.2.2] at present
      cases present
    engine := ⟨engine, present, rfl⟩
    deployed := ⟨deployed, service⟩
    user := ⟨sender, user⟩
    free
    later }
  obtain ⟨agree, counted⟩ := exposed.play served registered count fits
  exact ⟨agree.untraced_eq.symm, counted⟩

/-- Three unsigned proofs of a stranger cost the attester three slashes. -/
theorem anyone_slashes_thrice :
    (play (World.transact tokenChain.hosting) awaiting (List.replicate 3
      ({ sender := 8, timestamp := 1200 }, unsignedSubmission 1 41))).slashCountAt 15 41 = some 3 := by
  obtain ⟨-, resolving, -, -, pinned, asks, user⟩ := awaiting_facts
  obtain ⟨engine, present, service⟩ := Option.map_eq_some_iff.mp asks
  rw [← pinned] at present
  have slashed := (anyone_slashes hostDeployment tokenChain hostedOutside _ 1 engine soleAttester 41
    { sender := 8, timestamp := 1200 } 3 (by decide) resolving present (by rw [service]; decide)
    (by rw [service]; rfl) rfl (by decide) (by decide) user rfl (by decide +kernel)).2
  rw [service] at slashed
  exact congrArg (Option.map (·.slashCount 41)) slashed

end FairMarket
