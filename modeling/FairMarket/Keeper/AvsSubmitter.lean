import FairMarket.Keeper.Acceptance
import FairMarket.Keeper.AuctionMonitor

/-! The submitter signs the stored resolutions and sends them to the market. The chain, the
operators, the store and the slashing log may answer anything, and throw at any call. -/

namespace FairMarket

namespace Keeper

structure AttestationPayload where
  auctionId : ℤ
  requestId : Text
  winner : Text
  winnerCiphertext : Text
  winningAmount : ℤ
  winnerKind : Option WinnerKind := none
  deriving DecidableEq

/-- A wallet. -/
structure AVSOperatorSigner where
  address : Address
  signDigest : Digest → Except Thrown Signature

/-- The aggregate of the signatures is a hash, kept as what is hashed. -/
structure AttestationProofEnvelope extends AttestationPayload where
  operators : List Address
  signatures : List Signature
  aggregateSignature : List Signature
  signerCount : ℕ
  deriving DecidableEq

structure SlashingLogRecord where
  auctionId : ℤ
  requestId : Text
  reason : Text
  operators : List Address
  recordedAtMs : Number

/-- The calls of the submitter, a read of the chain with the state it returned and a
transaction with whether its call returned. The kind of the winner decides which of the two
digests is computed and which of the two transactions is sent. -/
inductive SubmitterEvent where
  | getAuctionState (auctionId : ℤ) (state : Option ℤ)
  | updateAuctionState (auctionId state : ℤ) (trackedAtMs : Number)
  | markResolutionArtifactSubmitted (requestId : Text) (submittedAtMs : Number)
  | computeDigest (market : Text) (payload : AttestationPayload)
  | submitResolution (payload : AttestationPayload) (proof : AttestationProofEnvelope) (returned : Bool)
  | appendSlashingLog (record : SlashingLogRecord)

abbrev SubmitterProgram := Traced SubmitterEvent Thrown

/-- `Array.prototype.slice` from the start. -/
def sliceTo {α : Type} (stop : ℤ) (values : List α) : List α :=
  values.take (if stop < 0 then values.length + stop else stop).toNat

def aggregateSignatures (signatures : List Signature) : List Signature := signatures

namespace AvsSubmitter

def collectProof (threshold : ℤ) (payload : AttestationPayload) (digest : Digest)
    (operators : List AVSOperatorSigner) : Except Thrown AttestationProofEnvelope := do
  revertIf ((operators.length : ℤ) < threshold) ⟨.literal
    ("Threshold not met: expected " ++ toString threshold ++ ", received " ++ toString operators.length)⟩
  let selectedOperators := sliceTo threshold operators
  let signatures ← selectedOperators.mapM (·.signDigest digest)
  return {
    toAttestationPayload := payload
    operators := selectedOperators.map (·.address)
    signatures
    aggregateSignature := aggregateSignatures signatures
    signerCount := selectedOperators.length }

def validateFraudProof (expected payload : AttestationPayload) : Except Thrown Unit :=
  revertIf (expected.auctionId ≠ payload.auctionId ∨ expected.requestId ≠ payload.requestId ∨
      expected.winnerKind.getD .openBid ≠ payload.winnerKind.getD .openBid ∨
      expected.winner ≠ payload.winner ∨ expected.winnerCiphertext ≠ payload.winnerCiphertext ∨
      expected.winningAmount ≠ payload.winningAmount)
    ⟨.literal "Fraud proof mismatch: resolution payload diverged from the expected request"⟩

/-- The writer's answer comes from outside. -/
def submitVerifiedResolution (threshold : ℤ) (expected payload : AttestationPayload) (digest : Digest)
    (operators : List AVSOperatorSigner) (submitted : Except Thrown Unit) :
    SubmitterProgram AttestationProofEnvelope := do
  .ofExcept (validateFraudProof expected payload)
  let proof ← .ofExcept (collectProof threshold payload digest operators)
  .call (.submitResolution payload proof submitted.isOk) submitted
  return proof

end AvsSubmitter

/-- What the submitter reads of its configuration and of its environment. -/
structure SubmitterConfig where
  marketAddress : Text
  avsAddress : Text
  avsThreshold : ℤ
  avsOperatorPrivateKeys : List String
  privateKey : Option String
  maxBatchSize : ℕ

/-- `/^0x[0-9a-fA-F]{64}$/`. -/
def isValidPrivateKey (rawPrivateKey : String) : Bool :=
  match rawPrivateKey.toList with
  | '0' :: 'x' :: digits => digits.length = 64 ∧ digits.all fun char => (digit char).isSome
  | _ => false

namespace SubmitterConfig

variable (config : SubmitterConfig)

def canSubmitOnChain : Bool :=
  ¬ config.marketAddress.blank ∧ ¬ config.avsAddress.blank ∧
    config.avsThreshold ≤ config.avsOperatorPrivateKeys.length ∧
    config.privateKey.any isValidPrivateKey

/-- `wallet` makes a wallet of a private key. -/
def operatorSigners (wallet : String → AVSOperatorSigner) : List AVSOperatorSigner :=
  if config.canSubmitOnChain then (config.avsOperatorPrivateKeys.filter isValidPrivateKey).map wallet else []

/-- The submitter has a writer and enough operators, and does not only observe. -/
def submits (wallet : String → AVSOperatorSigner) : Bool :=
  config.canSubmitOnChain ∧ config.avsThreshold ≤ (config.operatorSigners wallet).length

end SubmitterConfig

/-- What the calls answer that retire an artifact without a submission. -/
structure RetireAnswers where
  trackedAtMs : Number
  updated : Except Thrown Unit
  submittedAtMs : Number
  marked : Except Thrown Unit

/-- What the calls of a turn answer. -/
structure TurnAnswers where
  currentState : Except Thrown ℤ
  retired : RetireAnswers
  digest : Except Thrown Digest
  submitted : Except Thrown Unit
  submittedAtMs : Number
  marked : Except Thrown Unit
  refreshedState : Except Thrown ℤ
  refreshRetired : RetireAnswers
  recordedAtMs : Number
  recorded : Except Thrown Unit

section Turn

variable (config : SubmitterConfig) (operators : List AVSOperatorSigner) (answers : TurnAnswers)
  (artifact : StoredResolutionArtifact)

def toPayload : AttestationPayload where
  auctionId := artifact.auctionId
  requestId := artifact.requestId
  winner := artifact.winner
  winnerKind := some (artifact.winnerKind.getD .openBid)
  winnerCiphertext := artifact.winnerCiphertext
  winningAmount := artifact.winningAmount

/-- Retire an artifact whose auction is no longer waiting for it. -/
def retire (state : ℤ) (answers : RetireAnswers) : SubmitterProgram Unit := do
  .call (.updateAuctionState artifact.auctionId state answers.trackedAtMs) answers.updated
  .call (.markResolutionArtifactSubmitted artifact.requestId answers.submittedAtMs) answers.marked

/-- The body of the `try`. -/
def submitArtifact : SubmitterProgram Unit := do
  let payload := toPayload artifact
  let digest ← .call (.computeDigest config.marketAddress payload) answers.digest
  let _ ← AvsSubmitter.submitVerifiedResolution config.avsThreshold payload payload digest operators answers.submitted
  .call (.markResolutionArtifactSubmitted artifact.requestId answers.submittedAtMs) answers.marked

/-- `writer.getAuctionState(...).catch(() => undefined)`. -/
def refreshState : SubmitterProgram (Option ℤ) :=
  .catching (some <$> .call (.getAuctionState artifact.auctionId answers.refreshedState.toOption)
    answers.refreshedState) fun _ => return none

/-- The `catch`, which throws the error again unless the auction has moved on. -/
def handleSubmitFailure (error : Thrown) : SubmitterProgram Unit := do
  let refreshedState ← refreshState answers artifact
  match refreshedState with
  | some state => if state ≠ 2 then retire artifact state answers.refreshRetired else giveUp
  | none => giveUp
where
  giveUp : SubmitterProgram Unit := do
    .call (.appendSlashingLog {
      auctionId := artifact.auctionId
      requestId := artifact.requestId
      reason := error.message
      operators := operators.map (·.address)
      recordedAtMs := answers.recordedAtMs }) answers.recorded
    .ofExcept (.error error)

/-- A turn of the loop over the artifacts. -/
def submitterTurn : SubmitterProgram Unit := do
  let currentState ← .call (.getAuctionState artifact.auctionId answers.currentState.toOption) answers.currentState
  if currentState ≠ 2 then
    retire artifact currentState answers.retired
  else
    .catching (submitArtifact config operators answers artifact) (handleSubmitFailure operators answers artifact)

end Turn

/-- A poll of the submitter, on the store as hydrated. No two of its artifacts have one
request, so an answer is found by the artifact of its turn. -/
def pollSubmitter (config : SubmitterConfig) (wallet : String → AVSOperatorSigner)
    (answers : StoredResolutionArtifact → TurnAnswers) (store : AuctionStateStore) : SubmitterProgram Unit :=
  let pendingArtifacts := store.listPendingResolutionArtifacts config.maxBatchSize
  if config.submits wallet then
    pendingArtifacts.forM fun artifact =>
      submitterTurn config (config.operatorSigners wallet) (answers artifact) artifact
  else return

/-- Both calls return. -/
def RetireAnswers.Returns (answers : RetireAnswers) : Prop :=
  answers.updated.isOk = true ∧ answers.marked.isOk = true

namespace TurnAnswers

variable (config : SubmitterConfig) (operators : List AVSOperatorSigner) (artifact : StoredResolutionArtifact)
  (answers : TurnAnswers)

/-- The chain answers with RESOLVING. -/
def Resolving : Prop := answers.currentState = .ok 2

/-- The digest is read and signed, and the submission and its mark return. -/
def Submits : Prop :=
  ∃ digest, answers.digest = .ok digest ∧
    (AvsSubmitter.collectProof config.avsThreshold (toPayload artifact) digest operators).isOk = true ∧
    answers.submitted.isOk = true ∧ answers.marked.isOk = true

/-- The chain answers with a state other than RESOLVING after a failure. -/
def MovedOn : Prop :=
  ∃ state, answers.refreshedState = .ok state ∧ state ≠ 2 ∧ answers.refreshRetired.Returns

/-- The loop goes on after the turn. -/
def Passes : Prop :=
  (∃ state, answers.currentState = .ok state ∧ state ≠ 2 ∧ answers.retired.Returns) ∨
    answers.Resolving ∧ (answers.Submits config operators artifact ∨ answers.MovedOn)

end TurnAnswers

section Turn

variable {config : SubmitterConfig} {operators : List AVSOperatorSigner} {answers : TurnAnswers}
  {artifact : StoredResolutionArtifact}

theorem validateFraudProof_self (payload : AttestationPayload) :
    AvsSubmitter.validateFraudProof payload payload = .ok () := by
  simp [AvsSubmitter.validateFraudProof]

theorem retire_returns (state : ℤ) (answers : RetireAnswers) :
    (retire artifact state answers).result = .ok () ↔ answers.Returns := by
  unfold retire RetireAnswers.Returns Traced.call
  cases answers.updated with
  | error raised => simp [Except.isOk, Except.toBool]
  | ok _ =>
    cases answers.marked with
    | error raised => simp [Except.isOk, Except.toBool]
    | ok _ => simp [Except.isOk, Except.toBool]

theorem submitArtifact_returns :
    (submitArtifact config operators answers artifact).result = .ok () ↔
      answers.Submits config operators artifact := by
  unfold submitArtifact AvsSubmitter.submitVerifiedResolution TurnAnswers.Submits Traced.call Traced.ofExcept
  dsimp only
  rw [validateFraudProof_self]
  cases answers.digest with
  | error raised => simp
  | ok digest =>
    cases collected : AvsSubmitter.collectProof config.avsThreshold (toPayload artifact) digest operators with
    | error raised => simp [collected, Except.isOk, Except.toBool]
    | ok proof =>
      cases answers.submitted with
      | error raised => simp [collected, Except.isOk, Except.toBool]
      | ok _ =>
        cases answers.marked with
        | error raised => simp [collected, Except.isOk, Except.toBool]
        | ok _ => simp [collected, Except.isOk, Except.toBool]

theorem refreshState_eq : refreshState answers artifact =
    ⟨[.getAuctionState artifact.auctionId answers.refreshedState.toOption], .ok answers.refreshedState.toOption⟩ := by
  unfold refreshState Traced.call
  cases answers.refreshedState with
  | error raised => rfl
  | ok state => rfl

theorem handleSubmitFailure_returns (error : Thrown) :
    (handleSubmitFailure operators answers artifact error).result = .ok () ↔ answers.MovedOn := by
  have gives_up : (handleSubmitFailure.giveUp operators answers artifact error).result ≠ .ok () := by
    unfold handleSubmitFailure.giveUp Traced.call Traced.ofExcept
    cases answers.recorded with
    | error raised => simp
    | ok _ => simp
  unfold handleSubmitFailure TurnAnswers.MovedOn
  rw [refreshState_eq]
  cases answers.refreshedState with
  | error raised => simpa [Except.toOption] using gives_up
  | ok state =>
    by_cases waiting : state = 2
    · simpa [waiting, Except.toOption] using gives_up
    · simp [waiting, retire_returns, Except.toOption]

/-- The turns that do not end the loop. -/
theorem submitterTurn_returns :
    (submitterTurn config operators answers artifact).result = .ok () ↔
      answers.Passes config operators artifact := by
  unfold submitterTurn TurnAnswers.Passes TurnAnswers.Resolving Traced.call
  cases answers.currentState with
  | error raised => simp
  | ok state =>
    by_cases waiting : state = 2
    · subst waiting
      rw [← submitArtifact_returns]
      unfold Traced.catching
      cases submitted : (submitArtifact config operators answers artifact).result with
      | ok _ => simp [submitted]
      | error raised => simp [handleSubmitFailure_returns]
    · simp [waiting, retire_returns]

/-- The first call of a submission for a request. -/
def SubmitterEvent.Attempts (requestId : Text) : SubmitterEvent → Prop
  | .computeDigest _ payload => payload.requestId = requestId
  | _ => False

instance (requestId : Text) : DecidablePred (SubmitterEvent.Attempts requestId) := fun event => by
  cases event <;> unfold SubmitterEvent.Attempts <;> infer_instance

def SubmitterEvent.Marks (requestId : Text) : SubmitterEvent → Prop
  | .markResolutionArtifactSubmitted marked _ => marked = requestId
  | _ => False

/-- A read of a state other than RESOLVING, or a submission that returned. -/
def SubmitterEvent.Settles (auctionId : ℤ) : SubmitterEvent → Prop
  | .getAuctionState read state => read = auctionId ∧ ∃ value, state = some value ∧ value ≠ 2
  | .submitResolution payload _ returned => payload.auctionId = auctionId ∧ returned = true
  | _ => False

/-- The calls of a turn are about its artifact, and none but the first of a submission asks
for a digest. -/
structure SubmitterEvent.Follows (artifact : StoredResolutionArtifact) (event : SubmitterEvent) : Prop where
  unattempted : ∀ requestId, ¬ event.Attempts requestId
  own : ∀ requestId, event.Marks requestId → requestId = artifact.requestId

theorem retire_follows (state : ℤ) (answers : RetireAnswers) :
    (retire artifact state answers).Only (SubmitterEvent.Follows artifact) :=
  .bind (.call ⟨nofun, nofun⟩ _) fun _ => .call ⟨nofun, fun _ marks => marks.symm⟩ _

theorem handleSubmitFailure_follows (error : Thrown) :
    (handleSubmitFailure operators answers artifact error).Only (SubmitterEvent.Follows artifact) := by
  have gives_up : (handleSubmitFailure.giveUp operators answers artifact error).Only
      (SubmitterEvent.Follows artifact) := .bind (.call ⟨nofun, nofun⟩ _) fun _ => .ofExcept _
  unfold handleSubmitFailure
  rw [refreshState_eq]
  refine .bind (.call ⟨nofun, nofun⟩ _) fun refreshed => ?_
  split
  · split
    · exact retire_follows _ _
    · exact gives_up
  · exact gives_up

theorem submitVerifiedResolution_follows (payload : AttestationPayload) (digest : Digest) :
    (AvsSubmitter.submitVerifiedResolution config.avsThreshold payload payload digest operators
      answers.submitted).Only (SubmitterEvent.Follows artifact) :=
  .bind (.ofExcept _) fun _ => .bind (.ofExcept _) fun _ => .bind (.call ⟨nofun, nofun⟩ _) fun _ => .pure _

/-- It returns only after the transaction has. -/
theorem submitVerifiedResolution_returned {threshold : ℤ} {payload : AttestationPayload} {digest : Digest}
    {submitted : Except Thrown Unit} {proof : AttestationProofEnvelope}
    (returned : (AvsSubmitter.submitVerifiedResolution threshold payload payload digest operators submitted).result =
      .ok proof) : .submitResolution payload proof true ∈
        (AvsSubmitter.submitVerifiedResolution threshold payload payload digest operators submitted).events := by
  unfold AvsSubmitter.submitVerifiedResolution Traced.call Traced.ofExcept at returned ⊢
  rw [validateFraudProof_self] at returned ⊢
  cases collected : AvsSubmitter.collectProof threshold payload digest operators with
  | error raised => simp [collected] at returned
  | ok signed =>
    cases submitted with
    | error raised => simp [collected] at returned
    | ok _ =>
      simp only [collected, Traced.mk_ok_bind, Traced.pure_eq, Except.ok.injEq] at returned ⊢
      rw [returned]
      exact List.mem_cons_self

theorem submitArtifact_events : ∃ rest, (submitArtifact config operators answers artifact).events =
    .computeDigest config.marketAddress (toPayload artifact) :: rest ∧
      ∀ event ∈ rest, event.Follows artifact := by
  unfold submitArtifact
  dsimp only
  cases answers.digest with
  | error raised => exact ⟨[], rfl, List.forall_mem_nil _⟩
  | ok digest =>
    refine ⟨_, rfl, ?_⟩
    apply Traced.Only.bind
    · exact submitVerifiedResolution_follows (toPayload artifact) digest
    · exact fun _ => .call ⟨nofun, fun _ marks => marks.symm⟩ _

/-- A submission asks for the digest first, whatever becomes of it. -/
theorem submission_events : ∃ rest, (Traced.catching (submitArtifact config operators answers artifact)
    (handleSubmitFailure operators answers artifact)).events =
      .computeDigest config.marketAddress (toPayload artifact) :: rest ∧ ∀ event ∈ rest, event.Follows artifact := by
  obtain ⟨rest, events, follows⟩ :=
    @submitArtifact_events config operators answers artifact
  unfold Traced.catching
  cases (submitArtifact config operators answers artifact).result with
  | ok _ => exact ⟨rest, events, follows⟩
  | error raised =>
    refine ⟨rest ++ (handleSubmitFailure operators answers artifact raised).events, ?_, fun event member => ?_⟩
    · dsimp only
      rw [events, List.cons_append]
    · rcases List.mem_append.mp member with before | after
      · exact follows event before
      · exact handleSubmitFailure_follows raised event after

/-- A turn starts a submission where the chain answers with RESOLVING, for its own request. -/
theorem submitterTurn_attempts {requestId : Text} :
    (∃ event ∈ (submitterTurn config operators answers artifact).events, event.Attempts requestId) ↔
      artifact.requestId = requestId ∧ answers.Resolving := by
  unfold submitterTurn TurnAnswers.Resolving Traced.call
  cases answers.currentState with
  | error raised => simp [SubmitterEvent.Attempts]
  | ok state =>
    rw [Traced.mk_ok_bind]
    by_cases waiting : state = 2
    · subst waiting
      obtain ⟨rest, events, follows⟩ :=
        @submission_events config operators answers artifact
      have quiet : ¬ ∃ event ∈ rest, event.Attempts requestId := by
        rintro ⟨event, member, attempts⟩
        exact (follows event member).unattempted requestId attempts
      rw [if_neg (not_not.mpr rfl), events]
      simp only [List.cons_append, List.nil_append, List.exists_mem_cons_iff, quiet, or_false, and_true]
      exact ⟨fun asked => asked.resolve_left nofun, fun same => .inr same⟩
    · rw [if_pos waiting]
      refine iff_of_false ?_ fun resolving => waiting (Except.ok.inj resolving.2)
      rintro ⟨event, member, attempts⟩
      rcases List.mem_cons.mp member with rfl | later
      · exact attempts
      · exact (retire_follows state answers.retired event later).unattempted requestId attempts

/-- A turn marks its artifact only after it has read a state other than RESOLVING or a
submission has returned. -/
theorem submitterTurn_guarded : Traced.Guarded (SubmitterEvent.Marks artifact.requestId)
    (SubmitterEvent.Settles artifact.auctionId) (submitterTurn config operators answers artifact).events := by
  have quiet : ∀ events : List SubmitterEvent, (∀ event ∈ events, ¬ event.Marks artifact.requestId) →
      Traced.Guarded (SubmitterEvent.Marks artifact.requestId) (SubmitterEvent.Settles artifact.auctionId) events :=
    fun _ => Traced.guarded_of_forall
  have single : ∀ {event : SubmitterEvent}, ¬ event.Marks artifact.requestId →
      Traced.Guarded (SubmitterEvent.Marks artifact.requestId) (SubmitterEvent.Settles artifact.auctionId) [event] :=
    fun unmarked => ⟨unmarked, .inr trivial⟩
  have reads : ∀ {answer : Except Thrown ℤ} {state : ℤ}, answer.toOption = some state → state ≠ 2 →
      ∃ event ∈ [SubmitterEvent.getAuctionState artifact.auctionId answer.toOption],
        event.Settles artifact.auctionId :=
    fun read moved => ⟨_, List.mem_singleton_self _, rfl, _, read, moved⟩
  have gives_up : ∀ raised, Traced.Guarded (SubmitterEvent.Marks artifact.requestId)
      (SubmitterEvent.Settles artifact.auctionId)
      (handleSubmitFailure.giveUp operators answers artifact raised).events := by
    intro raised
    apply quiet
    exact Traced.Only.bind (.call nofun _) fun _ => .ofExcept _
  unfold submitterTurn
  refine Traced.guarded_bind (single nofun) fun state read => ?_
  split
  · rename_i moved
    refine .inl (reads ?_ moved)
    rw [show answers.currentState = .ok state from read]
    rfl
  · refine .inr (Traced.guarded_catching ?_ fun raised => ?_)
    · refine Traced.guarded_bind (single nofun) fun digest _ => .inr ?_
      refine Traced.guarded_bind (quiet _ ?_) fun proof returned => .inl ?_
      · exact Traced.Only.bind (.ofExcept _) fun _ => .bind (.ofExcept _) fun _ =>
          .bind (.call nofun _) fun _ => .pure _
      · exact ⟨_, submitVerifiedResolution_returned returned, rfl, rfl⟩
    · unfold handleSubmitFailure
      rw [refreshState_eq]
      refine Traced.guarded_bind (single nofun) fun refreshed returned => ?_
      obtain rfl := Except.ok.inj returned
      split
      · rename_i state read
        split
        · rename_i moved
          exact .inl (reads read moved)
        · exact .inr (gives_up raised)
      · exact .inr (gives_up raised)

theorem submitterTurn_own {requestId : Text} (other : requestId ≠ artifact.requestId) :
    (submitterTurn config operators answers artifact).Only fun event => ¬ event.Marks requestId := by
  unfold submitterTurn
  refine Traced.Only.bind (.call nofun _) fun state => ?_
  split
  · exact fun event member marks => other ((retire_follows _ _ event member).own requestId marks)
  · intro event member marks
    obtain ⟨rest, events, follows⟩ :=
      @submission_events config operators answers artifact
    rw [events] at member
    rcases List.mem_cons.mp member with rfl | later
    · exact marks
    · exact other ((follows event later).own requestId marks)

end Turn

section Poll

variable {config : SubmitterConfig} {wallet : String → AVSOperatorSigner}
  {answers : StoredResolutionArtifact → TurnAnswers} {store : AuctionStateStore}

/-- No two of the artifacts of a poll have one request. -/
theorem AuctionStateStore.pendingArtifacts_distinct (store : AuctionStateStore) (limit : ℕ) :
    ((store.listPendingResolutionArtifacts limit).map (·.requestId)).Nodup := by
  unfold AuctionStateStore.listPendingResolutionArtifacts
  rw [List.map_take]
  apply (List.take_sublist _ _).nodup
  have sorted : (List.insertionSort (fun left right : StoredResolutionArtifact =>
      left.storedAtMs.precedes right.storedAtMs) (store.resolutions.values.filter fun artifact =>
        artifact.submittedAtMs = none)).Perm _ := List.perm_insertionSort _ _
  rw [(sorted.map _).nodup_iff]
  exact (List.filter_sublist.map _).nodup store.resolutions.distinct

/-- Whose request is asked for: an artifact whose auction is RESOLVING, after turns that
let the loop go on. -/
theorem pollSubmitter_attempts {requestId : Text} :
    (∃ event ∈ (pollSubmitter config wallet answers store).events, event.Attempts requestId) ↔
      config.submits wallet = true ∧ ∃ before artifact after,
        store.listPendingResolutionArtifacts config.maxBatchSize = before ++ artifact :: after ∧
        (∀ earlier ∈ before, (answers earlier).Passes config (config.operatorSigners wallet) earlier) ∧
        artifact.requestId = requestId ∧ (answers artifact).Resolving := by
  unfold pollSubmitter
  dsimp only
  cases submits : config.submits wallet with
  | false => simp
  | true =>
    rw [if_pos rfl]
    simp only [Traced.mem_forM_events, true_and]
    constructor
    · rintro ⟨event, ⟨before, artifact, after, split, passed, member⟩, attempts⟩
      exact ⟨before, artifact, after, split, fun earlier known => submitterTurn_returns.mp (passed earlier known),
        submitterTurn_attempts.mp ⟨event, member, attempts⟩⟩
    · rintro ⟨before, artifact, after, split, passed, own⟩
      obtain ⟨event, member, attempts⟩ := submitterTurn_attempts.mpr own
      exact ⟨event, ⟨before, artifact, after, split, fun earlier known => submitterTurn_returns.mpr (passed earlier known),
        member⟩, attempts⟩

/-- A poll marks an artifact only after it has read a state other than RESOLVING or a
submission has returned, for this artifact's auction. -/
theorem pollSubmitter_guarded {artifact : StoredResolutionArtifact}
    (pending : artifact ∈ store.listPendingResolutionArtifacts config.maxBatchSize) :
    Traced.Guarded (SubmitterEvent.Marks artifact.requestId) (SubmitterEvent.Settles artifact.auctionId)
      (pollSubmitter config wallet answers store).events := by
  unfold pollSubmitter
  dsimp only
  split
  · apply Traced.guarded_forM
    intro other known
    by_cases same : artifact.requestId = other.requestId
    · obtain rfl := List.inj_on_of_nodup_map (store.pendingArtifacts_distinct _) pending known same
      exact submitterTurn_guarded
    · exact Traced.guarded_of_forall (submitterTurn_own same)
  · exact trivial

end Poll

/-- A submitter with one operator. -/
def soleSubmitter : SubmitterConfig where
  marketAddress := .account 100
  avsAddress := .account 15
  avsThreshold := 1
  avsOperatorPrivateKeys := ["0x1111111111111111111111111111111111111111111111111111111111111111"]
  privateKey := some "0x2222222222222222222222222222222222222222222222222222222222222222"
  maxBatchSize := 10

/-- Its wallet. -/
def soleWallet (operator : Address) (_ : String) : AVSOperatorSigner where
  address := operator
  signDigest := fun _ => .ok [.ofNat operator.toNat]

end Keeper

end FairMarket
