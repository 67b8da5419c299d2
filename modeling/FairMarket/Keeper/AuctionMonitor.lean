import FairMarket.Keeper.AuctionStateStore
import FairMarket.Keeper.LockCoordinator
import FairMarket.Lib.Traced

/-! The monitor's attempts to finalize an auction. The finalizer, the chain, the store and the
lock coordinator may answer anything, and throw at any call. -/

namespace FairMarket

namespace Keeper

structure AuctionSnapshot where
  auctionId : ℤ
  state : ℤ
  endTime : ℤ
  sellerDeposit : Option ℤ := none

structure FinalizeReceipt where
  txHash : Option Text := none
  gasUsed : Option ℤ := none
  incentiveWei : Option ℤ := none

structure FinalizeOutcome where
  auctionId : ℤ
  executionNonce : ℕ
  acquired : Bool
  success : Bool
  rewardEstimateWei : ℤ
  backoffMs : Number
  txHash : Option Text := none
  gasUsed : Option ℤ := none
  error : Option Text := none

/-- What finalizing reads of the keeper's configuration. -/
structure FinalizeConfig where
  maxRetries : ℕ
  retryBaseDelayMs : Number
  maxPriorityFeeGwei : Number
  lockTtlMs : ℕ+

structure Thrown where
  message : Text

/-- The calls of the monitor, the trigger with whether it returned, and a read of the chain
with the state it returned. -/
inductive MonitorEvent where
  | reserveLock (auctionId : ℤ) (keeperId : Text) (ttlMs : ℕ+)
  | recordRaceCondition (record : RaceConditionRecord)
  | triggerFinalize (auctionId : ℤ) (executionNonce : ℕ) (priorityFeeGwei : Number) (returned : Bool)
  | readAuction (auctionId : ℤ) (state : Option ℤ)
  | getAuction (auctionId : ℤ)
  | upsertAuction (record : StoredAuctionRecord)
  | updateAuctionState (auctionId state : ℤ) (trackedAtMs : Number)
  | recordFinalizeAttempt (record : FinalizeAttemptRecord)
  | sleep (ms : Number)
  | releaseLock (auctionId : ℤ) (keeperId : Text)

abbrev MonitorProgram := Traced MonitorEvent Thrown

/-- What the calls of a synchronisation answer. -/
structure SynchronizeAnswers where
  read : Except Thrown AuctionSnapshot
  existing : Except Thrown (Option StoredAuctionRecord)
  trackedAtMs : Number
  upserted : Except Thrown Unit

/-- What the calls of one attempt answer. -/
structure AttemptAnswers where
  triggered : Except Thrown FinalizeReceipt
  synchronized : SynchronizeAnswers
  updatedAtMs : Number
  updated : Except Thrown Unit
  recordedAtMs : Number
  recorded : Except Thrown Unit
  failedAtMs : Number
  failureRecorded : Except Thrown Unit
  resynchronized : SynchronizeAnswers

structure FinalizeAnswers where
  reservation : Except Thrown LockReservation
  detectedAtMs : Number
  raceRecorded : Except Thrown Unit
  attempts : ℕ → AttemptAnswers
  released : Except Thrown Unit

def computeExponentialBackoff (baseDelayMs : Number) (attempt : ℕ) : Number :=
  baseDelayMs.times (.nearest (2 ^ attempt))

def estimateFinalizeReward : Option ℤ → ℤ
  | none => 0
  | some sellerDeposit => if sellerDeposit = 0 then 0 else (sellerDeposit * 20).tdiv 10000

def trackAuction (answers : SynchronizeAnswers) (snapshot : AuctionSnapshot) : MonitorProgram Unit := do
  let existing ← .call (.getAuction snapshot.auctionId) answers.existing
  .call (.upsertAuction {
    auctionId := snapshot.auctionId
    state := snapshot.state
    endTime := snapshot.endTime
    sellerDeposit := snapshot.sellerDeposit
    trackedAtMs := answers.trackedAtMs
    retryCount := (existing.map (·.retryCount)).getD 0
    lastFinalizeAttemptAtMs := existing.bind (·.lastFinalizeAttemptAtMs) }) answers.upserted

def synchronizeAuction (answers : SynchronizeAnswers) (auctionId : ℤ) : MonitorProgram AuctionSnapshot := do
  let auction ← .call (.readAuction auctionId (answers.read.toOption.map (·.state))) answers.read
  let snapshot := { auction with auctionId }
  trackAuction answers snapshot
  return snapshot

def synchronizeAuctionState (answers : SynchronizeAnswers) (auctionId : ℤ) : MonitorProgram (Option ℤ) :=
  .catching (do
    let snapshot ← synchronizeAuction answers auctionId
    return some snapshot.state) fun _ => return none

/-- The synchronisation after a trigger, with its own `catch`. -/
def synchronizeSubmitted (answers : AttemptAnswers) (auctionId : ℤ) : MonitorProgram (Option AuctionSnapshot) :=
  .catching (some <$> synchronizeAuction answers.synchronized auctionId) fun _ => do
    .call (.updateAuctionState auctionId 2 answers.updatedAtMs) answers.updated
    return none

section Attempt

variable (config : FinalizeConfig) (auction : StoredAuctionRecord) (keeperId : Text) (executionNonce : ℕ)

/-- The body of the `try` of an attempt. -/
def submitFinalize (answers : AttemptAnswers) (attempt : ℕ) : MonitorProgram FinalizeOutcome := do
  let rewardEstimateWei := estimateFinalizeReward auction.sellerDeposit
  let backoffMs := computeExponentialBackoff config.retryBaseDelayMs attempt
  let receipt ← .call (.triggerFinalize auction.auctionId executionNonce config.maxPriorityFeeGwei
    answers.triggered.isOk) answers.triggered
  let syncedAuction ← synchronizeSubmitted answers auction.auctionId
  .call (.recordFinalizeAttempt {
    auctionId := auction.auctionId
    executionNonce := .finite executionNonce
    keeperId
    success := true
    retryCount := .finite attempt
    backoffMs
    txHash := receipt.txHash
    gasUsed := receipt.gasUsed
    incentiveWei := some (receipt.incentiveWei.getD rewardEstimateWei)
    recordedAtMs := answers.recordedAtMs }) answers.recorded
  return {
    auctionId := auction.auctionId
    executionNonce
    acquired := true
    success := syncedAuction.map (·.state) ≠ some 0
    rewardEstimateWei := receipt.incentiveWei.getD rewardEstimateWei
    backoffMs
    txHash := receipt.txHash
    gasUsed := receipt.gasUsed }

/-- Its `catch`, which returns or lets the loop go on. -/
def handleFailure (answers : AttemptAnswers) (attempt : ℕ) (lastError : Thrown) :
    MonitorProgram (Option FinalizeOutcome) := do
  let rewardEstimateWei := estimateFinalizeReward auction.sellerDeposit
  let backoffMs := computeExponentialBackoff config.retryBaseDelayMs attempt
  .call (.recordFinalizeAttempt {
    auctionId := auction.auctionId
    executionNonce := .finite executionNonce
    keeperId
    success := false
    retryCount := .finite attempt
    backoffMs
    incentiveWei := some rewardEstimateWei
    recordedAtMs := answers.failedAtMs
    error := some lastError.message }) answers.failureRecorded
  match ← synchronizeAuctionState answers.resynchronized auction.auctionId with
  | some currentState =>
    if currentState ≠ 1 then
      return some {
        auctionId := auction.auctionId
        executionNonce
        acquired := true
        success := false
        rewardEstimateWei
        backoffMs
        error := some (.literal ("auction-state-advanced:" ++ toString currentState)) }
    else sleepBeforeNext backoffMs attempt
  | none => sleepBeforeNext backoffMs attempt
where
  sleepBeforeNext (backoffMs : Number) (attempt : ℕ) : MonitorProgram (Option FinalizeOutcome) := do
    if attempt < config.maxRetries then .call (.sleep backoffMs) (.ok none)
    else return none

/-- A turn of the loop, with what it returns or the error it goes on with. -/
def attemptOnce (answers : AttemptAnswers) (attempt : ℕ) : MonitorProgram (FinalizeOutcome ⊕ Thrown) :=
  .catching (Sum.inl <$> submitFinalize config auction keeperId executionNonce answers attempt) fun lastError => do
    match ← handleFailure config auction keeperId executionNonce answers attempt lastError with
    | some outcome => return .inl outcome
    | none => return .inr lastError

/-- The loop over the attempts, with how many are left. -/
def finalizeLoop (answers : ℕ → AttemptAnswers) : ℕ → ℕ → Option Thrown → MonitorProgram FinalizeOutcome
  | 0, _, lastError => return {
      auctionId := auction.auctionId
      executionNonce
      acquired := true
      success := false
      rewardEstimateWei := estimateFinalizeReward auction.sellerDeposit
      backoffMs := computeExponentialBackoff config.retryBaseDelayMs config.maxRetries
      error := some ((lastError.map (·.message)).getD (.literal "finalize-failed")) }
  | left + 1, attempt, _ => do
    match ← attemptOnce config auction keeperId executionNonce (answers attempt) attempt with
    | .inl outcome => return outcome
    | .inr lastError => finalizeLoop answers left (attempt + 1) (some lastError)

end Attempt

def attemptFinalize (config : FinalizeConfig) (auction : StoredAuctionRecord) (keeperId : Text)
    (answers : FinalizeAnswers) : MonitorProgram FinalizeOutcome := do
  let reservation ← .call (.reserveLock auction.auctionId keeperId config.lockTtlMs) answers.reservation
  if reservation.acquired then
    (finalizeLoop config auction keeperId reservation.executionNonce answers.attempts (config.maxRetries + 1) 0
      none).ensuring (.call (.releaseLock auction.auctionId keeperId) answers.released)
  else do
    .call (.recordRaceCondition {
      auctionId := auction.auctionId
      executionNonce := .finite reservation.executionNonce
      keeperId
      reason := .literal "distributed-lock-held"
      detectedAtMs := answers.detectedAtMs }) answers.raceRecorded
    return {
      auctionId := auction.auctionId
      executionNonce := reservation.executionNonce
      acquired := false
      success := false
      rewardEstimateWei := estimateFinalizeReward auction.sellerDeposit
      backoffMs := 0
      error := some (.literal "distributed-lock-held") }

/-- The kinds of calls whose order matters. -/
inductive Mark where
  | trigger (returned : Bool)
  | attempt (success : Bool)

namespace MonitorEvent

/-- The triggers and the recorded attempts. -/
def mark : MonitorEvent → Option Mark
  | .triggerFinalize _ _ _ returned => some (.trigger returned)
  | .recordFinalizeAttempt record => some (.attempt record.success)
  | _ => none

def IsTrigger : MonitorEvent → Prop
  | .triggerFinalize .. => True
  | _ => False

def IsRelease : MonitorEvent → Prop
  | .releaseLock .. => True
  | _ => False

/-- A trigger that returned, or a read of a state other than ACTIVE. -/
def Settles : MonitorEvent → Prop
  | .triggerFinalize _ _ _ returned => returned = true
  | .readAuction _ state => ∃ read, state = some read ∧ read ≠ 1
  | _ => False

/-- Neither of these, and no recorded attempt. -/
structure Quiet (event : MonitorEvent) : Prop where
  unsettling : ¬ event.Settles
  triggerless : ¬ event.IsTrigger
  holding : ¬ event.IsRelease
  unmarked : event.mark = none

instance : DecidablePred IsTrigger := fun event => by
  cases event <;> unfold IsTrigger <;> infer_instance

instance : DecidablePred IsRelease := fun event => by
  cases event <;> unfold IsRelease <;> infer_instance

end MonitorEvent

namespace SynchronizeAnswers

variable (answers : SynchronizeAnswers)

/-- The state that the chain answers with. -/
def reads : Option ℤ := answers.read.toOption.map (·.state)

/-- The store answers both calls of the synchronisation. -/
def stores : Bool := answers.existing.isOk && answers.upserted.isOk

end SynchronizeAnswers

namespace AttemptAnswers

variable (answers : AttemptAnswers)

/-- The trigger has returned, and then a call of the store throws that is not made up for. -/
def Unrecorded : Prop :=
  answers.triggered.isOk = true ∧
    (¬ (answers.synchronized.reads.isSome ∧ answers.synchronized.stores) ∧ ¬ answers.updated.isOk ∨
      ¬ answers.recorded.isOk)

/-- The chain has answered with a state other than ACTIVE, and the store throws at it. -/
def Unseen : Prop :=
  (∃ state, answers.resynchronized.reads = some state ∧ state ≠ 1) ∧ ¬ answers.resynchronized.stores

/-- The attempt ends so that the loop goes on. -/
def Retries : Prop :=
  (¬ answers.triggered.isOk ∨ answers.Unrecorded) ∧ answers.failureRecorded.isOk ∧
    (answers.resynchronized.stores → ∀ state, answers.resynchronized.reads = some state → state = 1)

/-- No call of the store throws. -/
def Stores : Prop :=
  answers.synchronized.stores = true ∧ answers.updated.isOk = true ∧ answers.recorded.isOk = true ∧
    answers.failureRecorded.isOk = true ∧ answers.resynchronized.stores = true

end AttemptAnswers

section Synchronize

variable (answers : SynchronizeAnswers) (snapshot : AuctionSnapshot) (auctionId : ℤ)

theorem trackAuction_quiet : (trackAuction answers snapshot).Only MonitorEvent.Quiet := by
  apply Traced.Only.bind
  · exact .call ⟨nofun, nofun, nofun, rfl⟩ _
  · exact fun _ => .call ⟨nofun, nofun, nofun, rfl⟩ _

/-- It reads the chain first, and calls nothing but the store from then on. -/
theorem synchronizeAuction_events : ∃ rest,
    (synchronizeAuction answers auctionId).events = .readAuction auctionId answers.reads :: rest ∧
      ∀ event ∈ rest, event.Quiet := by
  unfold synchronizeAuction SynchronizeAnswers.reads Traced.call
  cases answers.read with
  | error raised => exact ⟨[], rfl, List.forall_mem_nil _⟩
  | ok auction =>
    refine ⟨_, rfl, ?_⟩
    apply Traced.Only.bind (trackAuction_quiet answers _)
    exact fun _ => .pure _

/-- It returns if neither the chain nor the store throws. -/
theorem synchronizeAuction_result :
    (answers.stores = true ∧ ∃ snapshot, (synchronizeAuction answers auctionId).result = .ok snapshot ∧
      answers.reads = some snapshot.state) ∨
    ¬ (answers.reads.isSome = true ∧ answers.stores = true) ∧
      ∃ raised, (synchronizeAuction answers auctionId).result = .error raised := by
  unfold synchronizeAuction trackAuction SynchronizeAnswers.reads SynchronizeAnswers.stores Traced.call
  cases answers.read with
  | error raised => exact .inr ⟨by simp [Except.toOption], raised, rfl⟩
  | ok auction =>
    cases answers.existing with
    | error raised => exact .inr ⟨by simp [Except.isOk, Except.toBool], raised, rfl⟩
    | ok existing =>
      cases answers.upserted with
      | error raised => exact .inr ⟨by simp [Except.isOk, Except.toBool], raised, rfl⟩
      | ok _ => exact .inl ⟨rfl, _, rfl, rfl⟩

theorem synchronizeAuctionState_eq : synchronizeAuctionState answers auctionId =
    ⟨(synchronizeAuction answers auctionId).events,
      .ok (if answers.stores = true then answers.reads else none)⟩ := by
  unfold synchronizeAuctionState
  rcases synchronizeAuction_result answers auctionId with ⟨stored, snapshot, returned, read⟩ | ⟨failed, raised, threw⟩
  · rw [Traced.bind_of_ok returned, if_pos stored, read]
    simp
  · rw [Traced.bind_of_error threw]
    have silent : (if answers.stores = true then answers.reads else none) = none := by
      rw [ite_eq_right_iff]
      intro stored
      cases read : answers.reads with
      | none => rfl
      | some state => exact absurd ⟨by rw [read]; rfl, stored⟩ failed
    rw [silent]
    simp

end Synchronize

section Attempt

variable (config : FinalizeConfig) (auction : StoredAuctionRecord) (keeperId : Text) (executionNonce : ℕ)
  (answers : AttemptAnswers) (attempt : ℕ)

/-- Its calls after the trigger are no triggers and release no lock. -/
structure MonitorEvent.Follows (event : MonitorEvent) : Prop where
  triggerless : ¬ event.IsTrigger
  holding : ¬ event.IsRelease

theorem MonitorEvent.Quiet.follows {event : MonitorEvent} (quiet : event.Quiet) : event.Follows :=
  ⟨quiet.triggerless, quiet.holding⟩

theorem synchronizeAuction_follows (answers : SynchronizeAnswers) (auctionId : ℤ) :
    (synchronizeAuction answers auctionId).Only MonitorEvent.Follows := by
  obtain ⟨rest, events, quiet⟩ := synchronizeAuction_events answers auctionId
  intro event member
  rw [events] at member
  rcases List.mem_cons.mp member with rfl | later
  · exact ⟨nofun, nofun⟩
  · exact (quiet event later).follows

/-- The body of an attempt triggers first. -/
theorem submitFinalize_events : ∃ rest,
    (submitFinalize config auction keeperId executionNonce answers attempt).events =
      .triggerFinalize auction.auctionId executionNonce config.maxPriorityFeeGwei answers.triggered.isOk :: rest ∧
      ∀ event ∈ rest, event.Follows := by
  unfold submitFinalize
  dsimp only
  cases triggered : answers.triggered with
  | error raised => exact ⟨[], rfl, List.forall_mem_nil _⟩
  | ok receipt =>
    refine ⟨_, rfl, ?_⟩
    apply Traced.Only.bind
    · apply Traced.Only.catching
      · exact .bind (synchronizeAuction_follows _ _) fun _ => .pure _
      · exact fun _ => .bind (.call ⟨nofun, nofun⟩ _) fun _ => .pure _
    · exact fun _ => .bind (.call ⟨nofun, nofun⟩ _) fun _ => .pure _

theorem synchronizeSubmitted_result (auctionId : ℤ) :
    (¬ (¬ (answers.synchronized.reads.isSome ∧ answers.synchronized.stores) ∧ ¬ answers.updated.isOk) ∧
      ∃ value, (synchronizeSubmitted answers auctionId).result = .ok value) ∨
    ¬ (answers.synchronized.reads.isSome ∧ answers.synchronized.stores) ∧ ¬ answers.updated.isOk ∧
      ∃ raised, (synchronizeSubmitted answers auctionId).result = .error raised := by
  unfold synchronizeSubmitted Traced.call
  rcases synchronizeAuction_result answers.synchronized auctionId with
    ⟨stored, snapshot, returned, read⟩ | ⟨failed, raised, threw⟩
  · refine .inl ⟨fun lost => lost.1 ⟨by rw [read]; rfl, stored⟩, some snapshot, ?_⟩
    rw [Traced.map_of_ok returned]
    rfl
  · rw [Traced.map_of_error threw, Traced.mk_error_catching]
    cases answers.updated with
    | ok done => exact .inl ⟨fun lost => lost.2 rfl, none, rfl⟩
    | error again => exact .inr ⟨failed, nofun, again, rfl⟩

/-- It returns if the trigger does, unless the store throws on the way. -/
theorem submitFinalize_result :
    (answers.triggered.isOk = true ∧ ¬ answers.Unrecorded ∧ ∃ outcome,
      (submitFinalize config auction keeperId executionNonce answers attempt).result = .ok outcome) ∨
    ((¬ answers.triggered.isOk = true ∨ answers.Unrecorded) ∧ ∃ raised,
      (submitFinalize config auction keeperId executionNonce answers attempt).result = .error raised) := by
  unfold submitFinalize AttemptAnswers.Unrecorded Traced.call
  dsimp only
  cases answers.triggered with
  | error raised => exact .inr ⟨.inl nofun, raised, rfl⟩
  | ok receipt =>
    rw [Traced.mk_ok_bind]
    rcases synchronizeSubmitted_result answers auction.auctionId with
      ⟨kept, value, returned⟩ | ⟨failed, lost, raised, threw⟩
    · rw [Traced.bind_of_ok returned]
      cases answers.recorded with
      | ok done => exact .inl ⟨rfl, fun unrecorded => unrecorded.2.elim kept fun throws => throws rfl, _, rfl⟩
      | error raised => exact .inr ⟨.inr ⟨rfl, .inr nofun⟩, raised, rfl⟩
    · rw [Traced.bind_of_error threw]
      exact .inr ⟨.inr ⟨rfl, .inl ⟨failed, lost⟩⟩, raised, rfl⟩

/-- The end of a turn, which at most sleeps. -/
theorem sleepBeforeNext_result (backoffMs : Number) :
    (handleFailure.sleepBeforeNext config backoffMs attempt).result = .ok none ∧
      (handleFailure.sleepBeforeNext config backoffMs attempt).Only MonitorEvent.Quiet := by
  unfold handleFailure.sleepBeforeNext
  split
  · exact ⟨rfl, .call ⟨nofun, nofun, nofun, rfl⟩ _⟩
  · exact ⟨rfl, .pure _⟩

/-- The `catch` of an attempt records the failure, and then reads the chain. -/
theorem handleFailure_events (lastError : Thrown) : ∃ record rest,
    (handleFailure config auction keeperId executionNonce answers attempt lastError).events =
      .recordFinalizeAttempt record :: rest ∧ record.success = false ∧
      (answers.failureRecorded.isOk = false → rest = []) ∧
      (answers.failureRecorded.isOk = true → ∃ others,
        rest = .readAuction auction.auctionId answers.resynchronized.reads :: others ∧
          ∀ event ∈ others, event.Quiet) := by
  unfold handleFailure
  dsimp only
  rw [synchronizeAuctionState_eq]
  cases answers.failureRecorded with
  | error raised => exact ⟨_, [], rfl, rfl, fun _ => rfl, nofun⟩
  | ok done =>
    refine ⟨_, _, rfl, rfl, nofun, fun _ => ?_⟩
    obtain ⟨rest, events, quiet⟩ := synchronizeAuction_events answers.resynchronized auction.auctionId
    rw [Traced.mk_ok_bind, events]
    refine ⟨_, rfl, ?_⟩
    intro event member
    rcases List.mem_append.mp member with before | after
    · exact quiet event before
    · split at after
      · split at after
        · cases after
        · exact (sleepBeforeNext_result config attempt _).2 event after
      · exact (sleepBeforeNext_result config attempt _).2 event after

theorem handleFailure_result (lastError : Thrown) :
    (answers.failureRecorded.isOk = true ∧
      (answers.resynchronized.stores = true → ∀ state, answers.resynchronized.reads = some state → state = 1) ∧
      (handleFailure config auction keeperId executionNonce answers attempt lastError).result = .ok none) ∨
    (answers.failureRecorded.isOk = true ∧
      ¬ (answers.resynchronized.stores = true → ∀ state, answers.resynchronized.reads = some state → state = 1) ∧
      ∃ outcome, (handleFailure config auction keeperId executionNonce answers attempt lastError).result =
        .ok (some outcome)) ∨
    answers.failureRecorded.isOk = false ∧ ∃ raised,
      (handleFailure config auction keeperId executionNonce answers attempt lastError).result = .error raised := by
  unfold handleFailure
  dsimp only
  rw [synchronizeAuctionState_eq]
  cases answers.failureRecorded with
  | error raised => exact .inr (.inr ⟨rfl, raised, rfl⟩)
  | ok done =>
    rw [Traced.mk_ok_bind]
    cases stored : answers.resynchronized.stores with
    | false =>
      refine .inl ⟨rfl, nofun, ?_⟩
      exact (sleepBeforeNext_result config attempt _).1
    | true =>
      rw [if_pos rfl]
      cases read : answers.resynchronized.reads with
      | none =>
        refine .inl ⟨rfl, fun _ => nofun, ?_⟩
        exact (sleepBeforeNext_result config attempt _).1
      | some state =>
        by_cases active : state = 1
        · refine .inl ⟨rfl, ?_, ?_⟩
          · rintro - _ ⟨⟩
            exact active
          · dsimp only
            rw [if_neg (not_not_intro active)]
            exact (sleepBeforeNext_result config attempt _).1
        · refine .inr (.inl ⟨rfl, fun settled => active (settled rfl state rfl), ?_⟩)
          dsimp only
          rw [if_pos active]
          exact ⟨_, rfl⟩

/-- A turn triggers once, first. -/
theorem attemptOnce_events : ∃ rest,
    (attemptOnce config auction keeperId executionNonce answers attempt).events =
      .triggerFinalize auction.auctionId executionNonce config.maxPriorityFeeGwei answers.triggered.isOk :: rest ∧
      ∀ event ∈ rest, event.Follows := by
  obtain ⟨rest, events, follows⟩ := submitFinalize_events config auction keeperId executionNonce answers attempt
  unfold attemptOnce
  rcases submitFinalize_result config auction keeperId executionNonce answers attempt with
    ⟨-, -, outcome, returned⟩ | ⟨-, raised, threw⟩
  · rw [Traced.map_of_ok returned, Traced.mk_ok_catching]
    exact ⟨rest, events, follows⟩
  · rw [Traced.map_of_error threw, Traced.mk_error_catching, events]
    refine ⟨_, rfl, ?_⟩
    intro event member
    rcases List.mem_append.mp member with before | after
    · exact follows event before
    obtain ⟨record, others, handled, -, silent, read⟩ :=
      handleFailure_events config auction keeperId executionNonce answers attempt raised
    have handles : Traced.Only MonitorEvent.Follows
        (handleFailure config auction keeperId executionNonce answers attempt raised) := by
      intro event member
      rw [handled] at member
      rcases List.mem_cons.mp member with rfl | later
      · exact ⟨nofun, nofun⟩
      cases recorded : answers.failureRecorded.isOk with
      | false =>
        rw [silent recorded] at later
        cases later
      | true =>
        obtain ⟨last, same, quiet⟩ := read recorded
        rw [same] at later
        rcases List.mem_cons.mp later with rfl | last_
        · exact ⟨nofun, nofun⟩
        · exact (quiet event last_).follows
    refine Traced.Only.bind handles (fun handled => ?_) event after
    cases handled with
    | none => exact .pure _
    | some outcome => exact .pure _

theorem attemptOnce_result :
    (answers.Retries ∧ ∃ lastError,
      (attemptOnce config auction keeperId executionNonce answers attempt).result = .ok (.inr lastError)) ∨
    (¬ answers.Retries ∧ ∃ outcome,
      (attemptOnce config auction keeperId executionNonce answers attempt).result = .ok (.inl outcome)) ∨
    ¬ answers.Retries ∧ ∃ raised,
      (attemptOnce config auction keeperId executionNonce answers attempt).result = .error raised := by
  unfold attemptOnce
  rcases submitFinalize_result config auction keeperId executionNonce answers attempt with
    ⟨triggered, recorded, outcome, returned⟩ | ⟨unfinished, raised, threw⟩
  · rw [Traced.map_of_ok returned, Traced.mk_ok_catching]
    exact .inr (.inl ⟨fun retries => retries.1.elim (fun failed => failed triggered) recorded, outcome, rfl⟩)
  · rw [Traced.map_of_error threw, Traced.mk_error_catching]
    rcases handleFailure_result config auction keeperId executionNonce answers attempt raised with
      ⟨recorded, unsettled, returned⟩ | ⟨recorded, settled, outcome, returned⟩ | ⟨lost, again, threw⟩
    · rw [Traced.bind_of_ok returned]
      exact .inl ⟨⟨unfinished, recorded, unsettled⟩, raised, rfl⟩
    · rw [Traced.bind_of_ok returned]
      exact .inr (.inl ⟨fun retries => settled retries.2.2, outcome, rfl⟩)
    · rw [Traced.bind_of_error threw]
      refine .inr (.inr ⟨fun retries => ?_, again, rfl⟩)
      rw [retries.2.1] at lost
      cases lost

/-- A trigger that throws is all that the body does. -/
theorem submitFinalize_untriggered (failed : answers.triggered.isOk = false) : ∃ raised,
    submitFinalize config auction keeperId executionNonce answers attempt =
      ⟨[.triggerFinalize auction.auctionId executionNonce config.maxPriorityFeeGwei false], .error raised⟩ := by
  unfold submitFinalize Traced.call
  dsimp only
  cases triggered : answers.triggered with
  | error raised => exact ⟨raised, rfl⟩
  | ok receipt =>
    rw [triggered] at failed
    cases failed

/-- A turn that goes on has settled the auction just when a call of the store has hidden it. -/
theorem attemptOnce_settles (retries : answers.Retries) :
    (∃ event ∈ (attemptOnce config auction keeperId executionNonce answers attempt).events, event.Settles) ↔
      answers.Unrecorded ∨ answers.Unseen := by
  obtain ⟨unfinished, recorded, unsettled⟩ := retries
  cases triggered : answers.triggered.isOk with
  | true =>
    obtain ⟨rest, events, -⟩ := attemptOnce_events config auction keeperId executionNonce answers attempt
    have settled : (MonitorEvent.triggerFinalize auction.auctionId executionNonce config.maxPriorityFeeGwei
        answers.triggered.isOk).Settles := triggered
    refine iff_of_true ⟨_, ?_, settled⟩ (.inl ?_)
    · rw [events]
      exact List.mem_cons_self
    · exact unfinished.resolve_left (not_not_intro triggered)
  | false =>
    obtain ⟨raised, submitted⟩ :=
      submitFinalize_untriggered config auction keeperId executionNonce answers attempt triggered
    obtain ⟨record, rest, handled, -, -, read⟩ :=
      handleFailure_events config auction keeperId executionNonce answers attempt raised
    obtain ⟨others, same, quiet⟩ := read recorded
    have unrecorded : ¬ answers.Unrecorded := by
      rintro ⟨returned, -⟩
      rw [returned] at triggered
      cases triggered
    have events : (attemptOnce config auction keeperId executionNonce answers attempt).events =
        [.triggerFinalize auction.auctionId executionNonce config.maxPriorityFeeGwei false,
          .recordFinalizeAttempt record,
          .readAuction auction.auctionId answers.resynchronized.reads] ++ others := by
      unfold attemptOnce
      rw [submitted, Traced.map_of_error rfl, Traced.mk_error_catching]
      rcases handleFailure_result config auction keeperId executionNonce answers attempt raised with
        ⟨-, -, returned⟩ | ⟨-, settled, -⟩ | ⟨lost, -⟩
      · rw [Traced.bind_of_ok returned, handled, same]
        simp
      · exact absurd unsettled settled
      · rw [recorded] at lost
        cases lost
    rw [events, or_iff_right unrecorded]
    constructor
    · rintro ⟨event, member, settles⟩
      rcases List.mem_append.mp member with first | later
      · simp only [List.mem_cons, List.not_mem_nil, or_false] at first
        rcases first with rfl | rfl | rfl
        · cases settles
        · cases settles
        · obtain ⟨state, returned, inactive⟩ := settles
          exact ⟨⟨state, returned, inactive⟩, fun stored => inactive (unsettled stored state returned)⟩
      · exact absurd settles (quiet event later).unsettling
    · rintro ⟨⟨state, returned, inactive⟩, -⟩
      exact ⟨.readAuction auction.auctionId answers.resynchronized.reads, by simp, state, returned, inactive⟩

theorem unmarked_of_quiet {events : List MonitorEvent} (quiet : ∀ event ∈ events, event.Quiet) :
    events.filterMap MonitorEvent.mark = [] := by
  rw [List.filterMap_eq_nil_iff]
  exact fun event member => (quiet event member).unmarked

theorem synchronizeAuction_unmarked (answers : SynchronizeAnswers) (auctionId : ℤ) :
    (synchronizeAuction answers auctionId).events.filterMap MonitorEvent.mark = [] := by
  obtain ⟨rest, events, quiet⟩ := synchronizeAuction_events answers auctionId
  rw [events, List.filterMap_cons_none rfl]
  exact unmarked_of_quiet quiet

/-- What the body has recorded when it returns. -/
theorem submitFinalize_marks {outcome : FinalizeOutcome}
    (returned : (submitFinalize config auction keeperId executionNonce answers attempt).result = .ok outcome) :
    (submitFinalize config auction keeperId executionNonce answers attempt).events.filterMap MonitorEvent.mark =
      [.trigger true, .attempt true] := by
  have unmarked : (synchronizeSubmitted answers auction.auctionId).events.filterMap MonitorEvent.mark = [] := by
    have read := synchronizeAuction_unmarked answers.synchronized auction.auctionId
    unfold synchronizeSubmitted Traced.call
    rcases synchronizeAuction_result answers.synchronized auction.auctionId with
      ⟨-, snapshot, done, -⟩ | ⟨-, raised, threw⟩
    · rw [Traced.map_of_ok done, Traced.mk_ok_catching]
      exact read
    · rw [Traced.map_of_error threw, Traced.mk_error_catching, List.filterMap_append, read]
      cases answers.updated with
      | ok done => rfl
      | error raised => rfl
  unfold submitFinalize Traced.call at returned ⊢
  dsimp only at returned ⊢
  cases triggered : answers.triggered with
  | error raised =>
    rw [triggered] at returned
    cases returned
  | ok receipt =>
    rw [triggered, Traced.mk_ok_bind] at returned
    rw [Traced.mk_ok_bind]
    cases synced : (synchronizeSubmitted answers auction.auctionId).result with
    | error raised =>
      rw [Traced.bind_of_error synced] at returned
      cases returned
    | ok value =>
      rw [Traced.bind_of_ok synced] at returned ⊢
      cases recorded : answers.recorded with
      | error raised =>
        rw [recorded] at returned
        cases returned
      | ok done =>
        rw [List.filterMap_append, List.filterMap_append, unmarked]
        rfl

theorem handleFailure_marks (recorded : answers.failureRecorded.isOk = true) (lastError : Thrown) :
    (handleFailure config auction keeperId executionNonce answers attempt lastError).events.filterMap
      MonitorEvent.mark = [.attempt false] := by
  obtain ⟨record, rest, handled, failed, -, read⟩ :=
    handleFailure_events config auction keeperId executionNonce answers attempt lastError
  obtain ⟨others, same, quiet⟩ := read recorded
  have marked : (MonitorEvent.recordFinalizeAttempt record).mark = some (.attempt false) := by
    rw [← failed]
    rfl
  rw [handled, same, List.filterMap_cons_some marked, List.filterMap_cons_none rfl, unmarked_of_quiet quiet]

/-- As long as the store answers, a turn records whether its trigger returned, and is the last
one if it did. -/
theorem attemptOnce_marks (stores : answers.Stores) :
    (attemptOnce config auction keeperId executionNonce answers attempt).events.filterMap MonitorEvent.mark =
        [.trigger answers.triggered.isOk, .attempt answers.triggered.isOk] ∧
      (answers.triggered.isOk = true → ¬ answers.Retries) := by
  obtain ⟨synced, updated, recorded, failureRecorded, resynced⟩ := stores
  have saved : ¬ answers.Unrecorded := by
    rintro ⟨-, ⟨-, lost⟩ | lost⟩
    · exact lost updated
    · exact lost recorded
  refine ⟨?_, fun triggered retries => retries.1.elim (fun failed => failed triggered) saved⟩
  unfold attemptOnce
  cases triggered : answers.triggered.isOk with
  | false =>
    obtain ⟨raised, submitted⟩ :=
      submitFinalize_untriggered config auction keeperId executionNonce answers attempt triggered
    have marks := handleFailure_marks config auction keeperId executionNonce answers attempt failureRecorded raised
    rw [submitted, Traced.map_of_error rfl, Traced.mk_error_catching]
    rcases handleFailure_result config auction keeperId executionNonce answers attempt raised with
      ⟨-, -, returned⟩ | ⟨-, -, outcome, returned⟩ | ⟨lost, -⟩
    · rw [Traced.bind_of_ok returned, List.filterMap_append, List.filterMap_append, marks]
      rfl
    · rw [Traced.bind_of_ok returned, List.filterMap_append, List.filterMap_append, marks]
      rfl
    · rw [failureRecorded] at lost
      cases lost
  | true =>
    rcases submitFinalize_result config auction keeperId executionNonce answers attempt with
      ⟨-, -, outcome, returned⟩ | ⟨failed | lost, -⟩
    · rw [Traced.map_of_ok returned, Traced.mk_ok_catching]
      exact submitFinalize_marks config auction keeperId executionNonce answers attempt returned
    · exact absurd triggered failed
    · exact absurd lost saved

end Attempt

section Loop

variable (config : FinalizeConfig) (auction : StoredAuctionRecord) (keeperId : Text) (executionNonce : ℕ)
  (answers : ℕ → AttemptAnswers)

/-- No attempt that is followed by another has hidden that the auction was settled. -/
def Unmistaken (answers : ℕ → AttemptAnswers) (maxRetries : ℕ) : Prop :=
  ∀ attempt < maxRetries, (∀ earlier ≤ attempt, (answers earlier).Retries) →
    ¬ ((answers attempt).Unrecorded ∨ (answers attempt).Unseen)

/-- What the loop calls from one of its attempts on. -/
theorem finalizeLoop_events (left attempt : ℕ) (lastError : Option Thrown) : ∃ later : List MonitorEvent,
    (finalizeLoop config auction keeperId executionNonce answers (left + 1) attempt lastError).events =
      (attemptOnce config auction keeperId executionNonce (answers attempt) attempt).events ++ later ∧
    (¬ (answers attempt).Retries → later = []) ∧
    ((answers attempt).Retries → ∃ raised, later =
      (finalizeLoop config auction keeperId executionNonce answers left (attempt + 1) (some raised)).events) := by
  rw [finalizeLoop]
  rcases attemptOnce_result config auction keeperId executionNonce (answers attempt) attempt with
    ⟨retries, raised, returned⟩ | ⟨ends, outcome, returned⟩ | ⟨ends, raised, threw⟩
  · rw [Traced.bind_of_ok returned]
    exact ⟨_, rfl, fun ends => absurd retries ends, fun _ => ⟨raised, rfl⟩⟩
  · rw [Traced.bind_of_ok returned]
    exact ⟨[], rfl, fun _ => rfl, fun retries => absurd retries ends⟩
  · rw [Traced.bind_of_error threw]
    exact ⟨[], (List.append_nil _).symm, fun _ => rfl, fun retries => absurd retries ends⟩

/-- It releases no lock and triggers at most once for each attempt left. -/
theorem finalizeLoop_bounded (left attempt : ℕ) (lastError : Option Thrown) :
    let events := (finalizeLoop config auction keeperId executionNonce answers left attempt lastError).events
    (∀ event ∈ events, ¬ event.IsRelease) ∧ events.countP (·.IsTrigger) ≤ left := by
  induction left generalizing attempt lastError with
  | zero => exact ⟨List.forall_mem_nil _, Nat.le_refl 0⟩
  | succ left ih =>
    obtain ⟨later, events, ends, continues⟩ :=
      finalizeLoop_events config auction keeperId executionNonce answers left attempt lastError
    obtain ⟨rest, turn, follows⟩ :=
      attemptOnce_events config auction keeperId executionNonce (answers attempt) attempt
    have rest_ : (∀ event ∈ later, ¬ event.IsRelease) ∧ later.countP (·.IsTrigger) ≤ left := by
      by_cases retries : (answers attempt).Retries
      · obtain ⟨raised, rfl⟩ := continues retries
        exact ih (attempt + 1) (some raised)
      · rw [ends retries]
        exact ⟨List.forall_mem_nil _, Nat.zero_le left⟩
    have once : rest.countP (·.IsTrigger) = 0 := by
      rw [List.countP_eq_zero]
      intro event member
      simpa using (follows event member).triggerless
    dsimp only
    rw [events, turn]
    constructor
    · intro event member
      rcases List.mem_append.mp member with first | second
      · rcases List.mem_cons.mp first with rfl | third
        · exact nofun
        · exact (follows event third).holding
      · exact rest_.1 event second
    · have start : ((MonitorEvent.triggerFinalize auction.auctionId executionNonce config.maxPriorityFeeGwei
          (answers attempt).triggered.isOk :: rest).countP (·.IsTrigger)) = 1 := by
        rw [List.countP_cons_of_pos, once]
        exact decide_eq_true trivial
      rw [List.countP_append, start]
      omega

/-- Nothing triggers again after a call that settles the auction. -/
def Settled (events : List MonitorEvent) : Prop :=
  events.Pairwise fun first second => first.Settles → ¬ second.IsTrigger

theorem settled_append {first second : List MonitorEvent} :
    Settled (first ++ second) ↔ Settled first ∧ Settled second ∧
      ∀ event ∈ first, ∀ later ∈ second, event.Settles → ¬ later.IsTrigger :=
  List.pairwise_append

theorem attemptOnce_settled (answers : AttemptAnswers) (attempt : ℕ) :
    Settled (attemptOnce config auction keeperId executionNonce answers attempt).events := by
  obtain ⟨rest, events, follows⟩ := attemptOnce_events config auction keeperId executionNonce answers attempt
  rw [events]
  apply List.pairwise_cons.mpr
  refine ⟨fun event member _ => (follows event member).triggerless, ?_⟩
  apply List.pairwise_of_forall_mem_list
  exact fun _ _ event member _ => (follows event member).triggerless

/-- The first attempt, and the ones that follow it if it does not end the loop. -/
theorem unmistaken_succ {answers : ℕ → AttemptAnswers} {maxRetries : ℕ} :
    Unmistaken answers (maxRetries + 1) ↔ ((answers 0).Retries →
      ¬ ((answers 0).Unrecorded ∨ (answers 0).Unseen) ∧ Unmistaken (fun index => answers (index + 1)) maxRetries) := by
  constructor
  · intro unmistaken retries
    constructor
    · apply unmistaken 0 (Nat.succ_pos maxRetries)
      intro earlier first
      rw [Nat.le_zero.mp first]
      exact retries
    · intro attempt within again
      apply unmistaken (attempt + 1) (Nat.succ_lt_succ within)
      intro earlier before
      cases earlier with
      | zero => exact retries
      | succ earlier => exact again earlier (Nat.le_of_succ_le_succ before)
  · intro unmistaken attempt within again
    obtain ⟨first, others⟩ := unmistaken (again 0 (Nat.zero_le attempt))
    cases attempt with
    | zero => exact first
    | succ attempt =>
      apply others attempt (Nat.lt_of_succ_lt_succ within)
      exact fun earlier before => again (earlier + 1) (Nat.succ_le_succ before)

/-- The loop triggers again after one just if some attempt has hidden it from the next. -/
theorem finalizeLoop_settled_iff (left attempt : ℕ) (lastError : Option Thrown) :
    Settled (finalizeLoop config auction keeperId executionNonce answers (left + 1) attempt lastError).events ↔
      Unmistaken (fun index => answers (index + attempt)) left := by
  induction left generalizing attempt lastError with
  | zero =>
    obtain ⟨later, events, ends, continues⟩ :=
      finalizeLoop_events config auction keeperId executionNonce answers 0 attempt lastError
    have last : later = [] := by
      by_cases retries : (answers attempt).Retries
      · obtain ⟨raised, rfl⟩ := continues retries
        rfl
      · exact ends retries
    rw [events, last, List.append_nil]
    exact iff_of_true (attemptOnce_settled config auction keeperId executionNonce _ attempt)
      fun _ within => absurd within (Nat.not_lt_zero _)
  | succ left ih =>
    obtain ⟨later, events, ends, continues⟩ :=
      finalizeLoop_events config auction keeperId executionNonce answers (left + 1) attempt lastError
    have turn := attemptOnce_settled config auction keeperId executionNonce (answers attempt) attempt
    rw [events, unmistaken_succ, Nat.zero_add]
    by_cases retries : (answers attempt).Retries
    · obtain ⟨raised, rfl⟩ := continues retries
      have shifted : (fun index => answers (index + 1 + attempt)) = fun index => answers (index + (attempt + 1)) := by
        funext index
        rw [Nat.add_assoc, Nat.add_comm 1]
      have hidden := attemptOnce_settles config auction keeperId executionNonce (answers attempt) attempt retries
      have next : ∃ trigger ∈ (finalizeLoop config auction keeperId executionNonce answers (left + 1) (attempt + 1)
          (some raised)).events, trigger.IsTrigger := by
        obtain ⟨_, following, -⟩ :=
          finalizeLoop_events config auction keeperId executionNonce answers left (attempt + 1) (some raised)
        obtain ⟨_, begins, -⟩ :=
          attemptOnce_events config auction keeperId executionNonce (answers (attempt + 1)) (attempt + 1)
        rw [following, begins]
        exact ⟨_, List.mem_cons_self, trivial⟩
      rw [settled_append, shifted, ← hidden]
      constructor
      · rintro ⟨-, others, never⟩ -
        refine ⟨?_, (ih (attempt + 1) (some raised)).mp others⟩
        rintro ⟨event, member, settles⟩
        obtain ⟨trigger, follows, triggers⟩ := next
        exact never event member trigger follows settles triggers
      · intro unmistaken
        obtain ⟨unsettled, others⟩ := unmistaken retries
        refine ⟨turn, (ih (attempt + 1) (some raised)).mpr others, ?_⟩
        intro event member _ _ settles
        exact absurd ⟨event, member, settles⟩ unsettled
    · rw [ends retries, List.append_nil]
      exact iff_of_true turn fun again => absurd again retries

/-- What is recorded when a trigger returned and when it threw. -/
def tryMarks (returned : Bool) : List Mark := [.trigger returned, .attempt returned]

/-- As long as the store answers, each trigger is recorded for what it was, and only the last
one may have returned. -/
theorem finalizeLoop_marks (stores : ∀ attempt, (answers attempt).Stores) (left attempt : ℕ)
    (lastError : Option Thrown) : ∃ tries : List Bool,
      (finalizeLoop config auction keeperId executionNonce answers left attempt lastError).events.filterMap
        MonitorEvent.mark = tries.flatMap tryMarks ∧ ∀ returned ∈ tries.dropLast, returned = false := by
  induction left generalizing attempt lastError with
  | zero => exact ⟨[], rfl, List.forall_mem_nil _⟩
  | succ left ih =>
    obtain ⟨later, events, ends, continues⟩ :=
      finalizeLoop_events config auction keeperId executionNonce answers left attempt lastError
    obtain ⟨marks, last⟩ :=
      attemptOnce_marks config auction keeperId executionNonce (answers attempt) attempt (stores attempt)
    rw [events, List.filterMap_append, marks]
    by_cases retries : (answers attempt).Retries
    · obtain ⟨raised, rfl⟩ := continues retries
      obtain ⟨tries, others, failed⟩ := ih (attempt + 1) (some raised)
      have threw : (answers attempt).triggered.isOk = false := by
        rw [Bool.eq_false_iff]
        exact fun returned => last returned retries
      refine ⟨(answers attempt).triggered.isOk :: tries, ?_, ?_⟩
      · rw [others, List.flatMap_cons]
        rfl
      · intro returned member
        cases tries with
        | nil => cases member
        | cons first rest =>
          rcases List.mem_cons.mp member with rfl | later
          · exact threw
          · exact failed returned later
    · rw [ends retries]
      exact ⟨[(answers attempt).triggered.isOk], rfl, List.forall_mem_nil _⟩

end Loop

def FinalizeAnswers.Acquired (answers : FinalizeAnswers) : Prop :=
  ∃ reservation, answers.reservation = .ok reservation ∧ reservation.acquired = true

/-- How finalizing is meant to go: it triggers only with the lock, and not more often than it
may, never after the auction was settled, releases the lock it has once and last, and, as
long as the store answers, records every trigger for what it was. -/
structure WellBehaved (config : FinalizeConfig) (auction : StoredAuctionRecord) (keeperId : Text)
    (answers : FinalizeAnswers) (events : List MonitorEvent) : Prop where
  reserved : ¬ answers.Acquired → ∀ event ∈ events, ¬ event.IsTrigger
  bounded : events.countP (·.IsTrigger) ≤ config.maxRetries + 1
  settled : Settled events
  released : answers.Acquired → ∃ calls, events = calls ++ [.releaseLock auction.auctionId keeperId] ∧
    ∀ event ∈ calls, ¬ event.IsRelease
  kept : ¬ answers.Acquired → ∀ event ∈ events, ¬ event.IsRelease
  recorded : (∀ attempt, (answers.attempts attempt).Stores) → ∃ tries : List Bool,
    events.filterMap MonitorEvent.mark = tries.flatMap tryMarks ∧ ∀ returned ∈ tries.dropLast, returned = false

section Finalize

variable (config : FinalizeConfig) (auction : StoredAuctionRecord) (keeperId : Text) (answers : FinalizeAnswers)

theorem attemptFinalize_refused (refused : ¬ answers.Acquired) :
    ∀ event ∈ (attemptFinalize config auction keeperId answers).events,
      event.mark = none ∧ ¬ event.IsTrigger ∧ ¬ event.IsRelease := by
  unfold attemptFinalize Traced.call
  cases reserved : answers.reservation with
  | error raised =>
    intro event member
    rw [Traced.mk_error_bind, List.mem_singleton] at member
    rw [member]
    exact ⟨rfl, nofun, nofun⟩
  | ok reservation =>
    have free : ¬ reservation.acquired = true := fun acquired => refused ⟨reservation, reserved, acquired⟩
    have noted : Traced.Only (fun event => event.mark = none ∧ ¬ event.IsTrigger ∧ ¬ event.IsRelease) (do
        Traced.call (.recordRaceCondition {
          auctionId := auction.auctionId
          executionNonce := .finite reservation.executionNonce
          keeperId
          reason := .literal "distributed-lock-held"
          detectedAtMs := answers.detectedAtMs }) answers.raceRecorded
        return {
          auctionId := auction.auctionId
          executionNonce := reservation.executionNonce
          acquired := false
          success := false
          rewardEstimateWei := estimateFinalizeReward auction.sellerDeposit
          backoffMs := 0
          error := some (.literal "distributed-lock-held") } : MonitorProgram FinalizeOutcome) :=
      .bind (.call ⟨rfl, nofun, nofun⟩ _) fun _ => .pure _
    intro event member
    rw [Traced.mk_ok_bind, if_neg free] at member
    rcases List.mem_append.mp member with first | second
    · rw [List.mem_singleton.mp first]
      exact ⟨rfl, nofun, nofun⟩
    · exact noted event second

theorem attemptFinalize_acquired (acquired : answers.Acquired) : ∃ executionNonce,
    (attemptFinalize config auction keeperId answers).events =
      .reserveLock auction.auctionId keeperId config.lockTtlMs ::
        (finalizeLoop config auction keeperId executionNonce answers.attempts (config.maxRetries + 1) 0 none).events ++
          [.releaseLock auction.auctionId keeperId] := by
  obtain ⟨reservation, reserved, acquired⟩ := acquired
  refine ⟨reservation.executionNonce, ?_⟩
  unfold attemptFinalize Traced.call
  rw [reserved, Traced.mk_ok_bind, if_pos acquired]
  rfl

end Finalize

/-- The calls of the lock settle nothing and trigger nothing. -/
theorem settled_locked {loop : List MonitorEvent} {auctionId : ℤ} {keeperId : Text} {ttlMs : ℕ+} :
    Settled (.reserveLock auctionId keeperId ttlMs :: loop ++ [.releaseLock auctionId keeperId]) ↔ Settled loop := by
  rw [List.cons_append, Settled, List.pairwise_cons]
  change _ ∧ Settled _ ↔ _
  rw [settled_append]
  constructor
  · exact fun whole => whole.2.1
  · intro inside
    refine ⟨fun _ _ => nofun, inside, List.pairwise_singleton .., ?_⟩
    intro _ _ later member _
    rw [List.mem_singleton.mp member]
    exact nofun

/-- Finalizing goes as it is meant to, whatever is answered and thrown, exactly if no attempt
that is followed by another has lost, to a store that threw, that its trigger returned or
that the chain is no longer ACTIVE. -/
theorem attemptFinalize_wellBehaved_iff (config : FinalizeConfig) (auction : StoredAuctionRecord)
    (keeperId : Text) (answers : FinalizeAnswers) :
    WellBehaved config auction keeperId answers (attemptFinalize config auction keeperId answers).events ↔
      (answers.Acquired → Unmistaken answers.attempts config.maxRetries) := by
  by_cases acquired : answers.Acquired
  · obtain ⟨executionNonce, events⟩ := attemptFinalize_acquired config auction keeperId answers acquired
    have settled := finalizeLoop_settled_iff config auction keeperId executionNonce answers.attempts
      config.maxRetries 0 none
    obtain ⟨kept, bounded⟩ := finalizeLoop_bounded config auction keeperId executionNonce answers.attempts
      (config.maxRetries + 1) 0 none
    have marks := fun stores => finalizeLoop_marks config auction keeperId executionNonce answers.attempts stores
      (config.maxRetries + 1) 0 none
    rw [events]
    generalize (finalizeLoop config auction keeperId executionNonce answers.attempts (config.maxRetries + 1) 0
      none).events = loop at *
    constructor
    · intro behaved _
      exact settled.mp (settled_locked.mp behaved.settled)
    · intro unmistaken
      refine ⟨fun refused => absurd acquired refused, ?_, settled_locked.mpr (settled.mpr (unmistaken acquired)),
        fun _ => ?_, fun refused => absurd acquired refused, fun stores => ?_⟩
      · have passed : ∀ event : MonitorEvent, ¬ event.IsTrigger → ∀ rest,
            (event :: rest).countP (·.IsTrigger) = rest.countP (·.IsTrigger) :=
          fun event other rest => List.countP_cons_of_neg (by simpa using other)
        rw [List.countP_append, passed (.reserveLock auction.auctionId keeperId config.lockTtlMs) nofun,
          passed (.releaseLock auction.auctionId keeperId) nofun, List.countP_nil]
        exact bounded
      · refine ⟨_, rfl, ?_⟩
        intro event member
        rcases List.mem_cons.mp member with rfl | inside
        · exact nofun
        · exact kept event inside
      · obtain ⟨tries, marked, failed⟩ := marks stores
        refine ⟨tries, ?_, failed⟩
        rw [List.filterMap_append, List.filterMap_cons_none rfl, marked]
        exact List.append_nil _
  · have quiet := attemptFinalize_refused config auction keeperId answers acquired
    refine iff_of_true ?_ fun reserved => absurd reserved acquired
    refine ⟨fun _ event member => (quiet event member).2.1, ?_, ?_, fun reserved => absurd reserved acquired,
      fun _ event member => (quiet event member).2.2, fun _ => ⟨[], ?_, List.forall_mem_nil _⟩⟩
    · rw [List.countP_eq_zero.mpr]
      · exact Nat.zero_le _
      · intro event member
        simpa using (quiet event member).2.1
    · apply List.pairwise_of_forall_mem_list
      exact fun _ _ event member _ => (quiet event member).2.1
    · rw [List.flatMap_nil, List.filterMap_eq_nil_iff]
      exact fun event member => (quiet event member).1

/-- The trigger returns, the write of the successful attempt throws, the failure is recorded
and the chain cannot be read. -/
def unrecordedSuccess : AttemptAnswers where
  triggered := .ok { txHash := some (.literal "0x01") }
  synchronized := {
    read := .ok { auctionId := 1, state := 2, endTime := 1100 }
    existing := .ok none
    trackedAtMs := 1
    upserted := .ok () }
  updatedAtMs := 2
  updated := .ok ()
  recordedAtMs := 2
  recorded := .error { message := .literal "ENOSPC" }
  failedAtMs := 3
  failureRecorded := .ok ()
  resynchronized := {
    read := .error { message := .literal "timeout" }
    existing := .ok none
    trackedAtMs := 4
    upserted := .ok () }

def finalizedAuction : StoredAuctionRecord where
  auctionId := 1
  state := 1
  endTime := 1100
  trackedAtMs := 0
  retryCount := 0

def oneRetry : FinalizeConfig where
  maxRetries := 1
  retryBaseDelayMs := 500
  maxPriorityFeeGwei := 3
  lockTtlMs := 15000

def unrecordedRun : FinalizeAnswers where
  reservation := .ok { acquired := true, executionNonce := 1 }
  detectedAtMs := 0
  raceRecorded := .ok ()
  attempts := fun _ => unrecordedSuccess
  released := .ok ()

/-- The auction is finalized, and then triggered once more. -/
theorem unrecordedRun_triggers_again :
    (attemptFinalize oneRetry finalizedAuction (.literal "keeper-a") unrecordedRun).events.filterMap
        MonitorEvent.mark =
      [.trigger true, .attempt true, .attempt false, .trigger true, .attempt true, .attempt false] ∧
    ¬ WellBehaved oneRetry finalizedAuction (.literal "keeper-a") unrecordedRun
      (attemptFinalize oneRetry finalizedAuction (.literal "keeper-a") unrecordedRun).events := by
  refine ⟨rfl, fun behaved => ?_⟩
  obtain ⟨executionNonce, events⟩ := attemptFinalize_acquired oneRetry finalizedAuction (.literal "keeper-a")
    unrecordedRun ⟨_, rfl, rfl⟩
  have settled := behaved.settled
  rw [events, settled_locked, finalizeLoop_settled_iff] at settled
  have unrecorded : unrecordedSuccess.Unrecorded := ⟨rfl, .inr nofun⟩
  refine settled 0 Nat.zero_lt_one (fun _ _ => ⟨.inr unrecorded, rfl, fun _ => nofun⟩) (.inl unrecorded)

end Keeper

end FairMarket
