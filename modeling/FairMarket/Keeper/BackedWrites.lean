import FairMarket.Keeper.ChainMirror

/-! What the programs of the monitor and of the submitter write to their stores, the chain has
answered before. -/

namespace FairMarket

open Keeper

namespace Keeper

/-- What the monitor puts into its store for a snapshot. -/
def trackedRecord (existing : Option StoredAuctionRecord) (snapshot : AuctionSnapshot) (trackedAtMs : Number) :
    StoredAuctionRecord where
  auctionId := snapshot.auctionId
  state := snapshot.state
  endTime := snapshot.endTime
  sellerDeposit := snapshot.sellerDeposit
  trackedAtMs
  retryCount := (existing.map (·.retryCount)).getD 0
  lastFinalizeAttemptAtMs := existing.bind (·.lastFinalizeAttemptAtMs)

/-- The call's change of the store. -/
def MonitorEvent.write : MonitorEvent → Option StoreWrite
  | .upsertAuction record => some (.upsertAuction record)
  | .updateAuctionState auctionId state trackedAtMs => some (.updateAuctionState auctionId state trackedAtMs)
  | .recordFinalizeAttempt record => some (.recordFinalizeAttempt record)
  | .recordRaceCondition record => some (.recordRaceCondition record)
  | _ => none

def SubmitterEvent.write : SubmitterEvent → Option StoreWrite
  | .updateAuctionState auctionId state trackedAtMs => some (.updateAuctionState auctionId state trackedAtMs)
  | .markResolutionArtifactSubmitted requestId submittedAtMs =>
    some (.markResolutionArtifactSubmitted requestId submittedAtMs)
  | _ => none

/-- The role may make the write, and the chain has answered what it says of an auction. -/
structure Backed (role : KeeperRole) (heard : List AuctionSnapshot) (write : StoreWrite) : Prop where
  makes : role.makes write = true
  answered : Answered heard (.write role write) = true

def MonitorEvent.Backed (heard : List AuctionSnapshot) (event : MonitorEvent) : Prop :=
  ∀ write, event.write = some write → Keeper.Backed .auctionMonitor heard write

def SubmitterEvent.Backed (heard : List AuctionSnapshot) (event : SubmitterEvent) : Prop :=
  ∀ write, event.write = some write → Keeper.Backed .avsSubmitter heard write

variable {heard : List AuctionSnapshot}

/-- The chain has answered with the state of the auction. -/
def Tells (heard : List AuctionSnapshot) (auctionId state : ℤ) : Prop :=
  ∃ answer ∈ heard, answer.auctionId = auctionId ∧ answer.state = state

theorem backed_upsertAuction {record : StoredAuctionRecord} (told : record.snapshot ∈ heard) :
    Backed .auctionMonitor heard (.upsertAuction record) where
  makes := rfl
  answered := List.any_eq_true.mpr ⟨record.snapshot, told, decide_eq_true ⟨rfl, rfl, rfl, rfl⟩⟩

theorem Tells.answered {auctionId state : ℤ} (told : Tells heard auctionId state) (role : KeeperRole)
    (trackedAtMs : Number) : Answered heard (.write role (.updateAuctionState auctionId state trackedAtMs)) = true := by
  obtain ⟨answer, member, same⟩ := told
  exact List.any_eq_true.mpr ⟨answer, member, decide_eq_true same⟩

/-- A call that writes nothing. -/
theorem MonitorEvent.backed_of_none {event : MonitorEvent} (none : event.write = none) : event.Backed heard := by
  intro write some
  cases none.symm.trans some

theorem SubmitterEvent.backed_of_none {event : SubmitterEvent} (none : event.write = none) : event.Backed heard := by
  intro write some
  cases none.symm.trans some

theorem MonitorEvent.backed_of_some {event : MonitorEvent} {write : StoreWrite} (some : event.write = some write)
    (backed : Keeper.Backed .auctionMonitor heard write) : event.Backed heard := by
  intro other same
  cases some.symm.trans same
  exact backed

theorem SubmitterEvent.backed_of_some {event : SubmitterEvent} {write : StoreWrite} (some : event.write = some write)
    (backed : Keeper.Backed .avsSubmitter heard write) : event.Backed heard := by
  intro other same
  cases some.symm.trans same
  exact backed

section Monitor

/-- `trackAuction` stores the record, if the store finds what it had. -/
theorem trackAuction_stores (answers : SynchronizeAnswers) (snapshot : AuctionSnapshot)
    {existing : Option StoredAuctionRecord} (answered : answers.existing = .ok existing) :
    (trackAuction answers snapshot).events = [.getAuction snapshot.auctionId,
      .upsertAuction (trackedRecord existing snapshot answers.trackedAtMs)] := by
  unfold trackAuction Traced.call
  rw [answered]
  rfl

/-- The handler of `AuctionCreated` calls it with what the event tells. -/
theorem trackAuction_backed (answers : SynchronizeAnswers) {snapshot : AuctionSnapshot} (told : snapshot ∈ heard) :
    (trackAuction answers snapshot).Only (MonitorEvent.Backed heard) := by
  refine .bind (.call (MonitorEvent.backed_of_none rfl) _) fun existing => .call ?_ _
  exact MonitorEvent.backed_of_some rfl (backed_upsertAuction told)

/-- What a read of the chain has returned, has been heard. -/
def SynchronizeAnswers.Heard (answers : SynchronizeAnswers) (heard : List AuctionSnapshot) (auctionId : ℤ) : Prop :=
  ∀ auction, answers.read = .ok auction → { auction with auctionId } ∈ heard

theorem synchronizeAuction_backed {answers : SynchronizeAnswers} {auctionId : ℤ}
    (told : answers.Heard heard auctionId) :
    (synchronizeAuction answers auctionId).Only (MonitorEvent.Backed heard) := by
  refine .bind_ok (.call (MonitorEvent.backed_of_none rfl) _) fun auction returned => ?_
  exact .bind (trackAuction_backed answers (told auction returned)) fun _ => .pure _

/-- So has the state that the receipt of a trigger tells of. -/
structure AttemptAnswers.Heard (answers : AttemptAnswers) (heard : List AuctionSnapshot) (auctionId : ℤ) : Prop where
  synchronized : answers.synchronized.Heard heard auctionId
  resynchronized : answers.resynchronized.Heard heard auctionId
  triggered : answers.triggered.isOk = true → Tells heard auctionId 2

variable {config : FinalizeConfig} {auction : StoredAuctionRecord} {keeperId : Text} {executionNonce : ℕ}

theorem submitFinalize_backed {answers : AttemptAnswers} (told : answers.Heard heard auction.auctionId) (attempt : ℕ) :
    (submitFinalize config auction keeperId executionNonce answers attempt).Only (MonitorEvent.Backed heard) := by
  refine .bind_ok (.call (MonitorEvent.backed_of_none rfl) _) fun receipt returned => ?_
  have triggered : answers.triggered.isOk = true := by
    change answers.triggered = .ok receipt at returned
    rw [returned]
    rfl
  have synchronized : (synchronizeSubmitted answers auction.auctionId).Only (MonitorEvent.Backed heard) := by
    refine .catching (.bind (synchronizeAuction_backed told.synchronized) fun _ => .pure _) fun _ => ?_
    refine .bind (.call (MonitorEvent.backed_of_some rfl ?_) _) fun _ => .pure _
    exact ⟨rfl, (told.triggered triggered).answered ..⟩
  refine .bind synchronized fun _ => .bind (.call ?_ _) fun _ => .pure _
  exact MonitorEvent.backed_of_some rfl ⟨rfl, rfl⟩

theorem handleFailure_backed {answers : AttemptAnswers} (told : answers.Heard heard auction.auctionId) (attempt : ℕ)
    (lastError : Thrown) :
    (handleFailure config auction keeperId executionNonce answers attempt lastError).Only
      (MonitorEvent.Backed heard) := by
  have sleeps : ∀ backoffMs, (handleFailure.sleepBeforeNext config backoffMs attempt).Only
      (MonitorEvent.Backed heard) := by
    intro backoffMs
    unfold handleFailure.sleepBeforeNext
    split
    · exact .call (MonitorEvent.backed_of_none rfl) _
    · exact .pure _
  refine .bind (.call (MonitorEvent.backed_of_some rfl ⟨rfl, rfl⟩) _) fun _ => .bind ?_ fun state => ?_
  · exact .catching (.bind (synchronizeAuction_backed told.resynchronized) fun _ => .pure _) fun _ => .pure _
  · split
    · split
      · exact .pure _
      · exact sleeps _
    · exact sleeps _

theorem attemptOnce_backed {answers : AttemptAnswers} (told : answers.Heard heard auction.auctionId) (attempt : ℕ) :
    (attemptOnce config auction keeperId executionNonce answers attempt).Only (MonitorEvent.Backed heard) := by
  refine .catching (.bind (submitFinalize_backed told attempt) fun _ => .pure _) fun lastError => ?_
  refine .bind (handleFailure_backed told attempt lastError) fun outcome => ?_
  cases outcome with
  | none => exact .pure _
  | some outcome => exact .pure _

theorem finalizeLoop_backed {answers : ℕ → AttemptAnswers}
    (told : ∀ attempt, (answers attempt).Heard heard auction.auctionId) (left attempt : ℕ) (lastError : Option Thrown) :
    (finalizeLoop config auction keeperId executionNonce answers left attempt lastError).Only
      (MonitorEvent.Backed heard) := by
  induction left generalizing attempt lastError with
  | zero => exact .pure _
  | succ left ih =>
    refine .bind (attemptOnce_backed (told attempt) attempt) fun ended => ?_
    cases ended with
    | inl outcome => exact .pure _
    | inr raised => exact ih (attempt + 1) (some raised)

/-- An attempt to finalize writes what the chain has answered it. -/
theorem attemptFinalize_backed {answers : FinalizeAnswers}
    (told : ∀ attempt, (answers.attempts attempt).Heard heard auction.auctionId) :
    (attemptFinalize config auction keeperId answers).Only (MonitorEvent.Backed heard) := by
  refine .bind (.call (MonitorEvent.backed_of_none rfl) _) fun reservation => ?_
  split
  · exact .ensuring (finalizeLoop_backed told _ _ _) (.call (MonitorEvent.backed_of_none rfl) _)
  · refine .bind (.call ?_ _) fun _ => .pure _
    exact MonitorEvent.backed_of_some rfl ⟨rfl, rfl⟩

end Monitor

section Submitter

variable {config : SubmitterConfig} {operators : List AVSOperatorSigner} {answers : TurnAnswers}
  {artifact : StoredResolutionArtifact}

/-- What `getAuctionState` has returned, has been heard. -/
structure TurnAnswers.Heard (answers : TurnAnswers) (heard : List AuctionSnapshot) (auctionId : ℤ) : Prop where
  currentState : ∀ state, answers.currentState = .ok state → Tells heard auctionId state
  refreshedState : ∀ state, answers.refreshedState = .ok state → Tells heard auctionId state

theorem retire_backed {state : ℤ} (told : Tells heard artifact.auctionId state) (answers : RetireAnswers) :
    (retire artifact state answers).Only (SubmitterEvent.Backed heard) := by
  refine .bind (.call (SubmitterEvent.backed_of_some rfl ⟨rfl, told.answered ..⟩) _) fun _ => .call ?_ _
  exact SubmitterEvent.backed_of_some rfl ⟨rfl, rfl⟩

theorem submitArtifact_backed :
    (submitArtifact config operators answers artifact).Only (SubmitterEvent.Backed heard) := by
  have quiet : ∀ {event : SubmitterEvent}, event.write = none → event.Backed heard :=
    SubmitterEvent.backed_of_none
  refine .bind (.call (quiet rfl) _) fun digest => .bind ?_ fun _ => .call ?_ _
  · exact .bind (.ofExcept _) fun _ => .bind (.ofExcept _) fun _ => .bind (.call (quiet rfl) _) fun _ => .pure _
  · exact SubmitterEvent.backed_of_some rfl ⟨rfl, rfl⟩

theorem handleSubmitFailure_backed (told : answers.Heard heard artifact.auctionId) (error : Thrown) :
    (handleSubmitFailure operators answers artifact error).Only (SubmitterEvent.Backed heard) := by
  have gives_up : (handleSubmitFailure.giveUp operators answers artifact error).Only (SubmitterEvent.Backed heard) :=
    .bind (.call (SubmitterEvent.backed_of_none rfl) _) fun _ => .ofExcept _
  unfold handleSubmitFailure
  rw [refreshState_eq]
  refine .bind_ok (.call (SubmitterEvent.backed_of_none rfl) _) fun refreshed returned => ?_
  obtain rfl := Except.ok.inj returned
  split
  · rename_i state read
    split
    · exact retire_backed (told.refreshedState state (toOption_eq_some.mp read)) _
    · exact gives_up
  · exact gives_up

theorem submitterTurn_backed (told : answers.Heard heard artifact.auctionId) :
    (submitterTurn config operators answers artifact).Only (SubmitterEvent.Backed heard) := by
  refine .bind_ok (.call (SubmitterEvent.backed_of_none rfl) _) fun state returned => ?_
  split
  · exact retire_backed (told.currentState state returned) _
  · exact .catching submitArtifact_backed (handleSubmitFailure_backed told)

/-- A poll writes what the chain has answered it. -/
theorem pollSubmitter_backed {wallet : String → AVSOperatorSigner} {answers : StoredResolutionArtifact → TurnAnswers}
    {store : AuctionStateStore} (told : ∀ artifact, (answers artifact).Heard heard artifact.auctionId) :
    (pollSubmitter config wallet answers store).Only (SubmitterEvent.Backed heard) := by
  unfold pollSubmitter
  split
  · exact .forM fun artifact _ => submitterTurn_backed (told artifact)
  · exact .pure _

end Submitter

end Keeper

namespace Mirror

variable {σ : Type} {env : External σ} {m next : Mirror σ}

/-- What the chain has answered stays answered. -/
theorem step_answers {input : MirrorStep σ} (taken : m.step env input = .ok next) {answer : AuctionSnapshot}
    (heard : answer ∈ m.answers) : answer ∈ next.answers := by
  obtain ⟨sent, world, -, -, rfl⟩ | ⟨auctionId, read, other, -, -, rfl⟩ | ⟨fileStep, files, -, -, -, rfl⟩ :=
    step_cases taken
  · exact List.mem_append_right _ heard
  · exact List.mem_cons_of_mem _ heard
  · exact heard

theorem play_answers (steps : List (MirrorStep σ)) {answer : AuctionSnapshot} (heard : answer ∈ m.answers) :
    answer ∈ (play (step env) m steps).answers :=
  play_preserves (fun _ _ _ before taken => step_answers taken before) heard steps

/-- A read of the monitor is heard. -/
theorem readAuction_heard {auctionId : ℤ} {auction : AuctionSnapshot}
    (answered : m.world.readAuction auctionId = .ok auction) :
    ∃ next, m.step env (.read auctionId) = .ok next ∧ { auction with auctionId } ∈ next.answers := by
  obtain ⟨id, -, -, about⟩ := World.readAuction_ok.mp answered
  refine ⟨{ m with answers := auction :: m.answers }, by rw [step, answered], ?_⟩
  rw [about]
  exact List.mem_cons_self

/-- So is one of the submitter. -/
theorem getAuctionState_heard {auctionId state : ℤ} (answered : m.world.getAuctionState auctionId = .ok state) :
    ∃ next, m.step env (.read auctionId) = .ok next ∧ Tells next.answers auctionId state := by
  simp only [World.getAuctionState, bind_eq_ok, World.auctionExists_ok, pure_eq_ok, Except.ok.injEq] at answered
  obtain ⟨id, named, cell, ⟨found, rfl⟩, rfl⟩ := answered
  obtain ⟨next, asked, member⟩ := readAuction_heard (World.readAuction_ok.mpr ⟨id, named, found, rfl⟩)
  exact ⟨next, asked, _, member, rfl, rfl⟩

/-- And so is the receipt of a trigger. -/
theorem triggerFinalize_heard {msg : Msg} {auctionId : AuctionId} {world : World σ}
    (done : m.world.transact env (msg, .triggerFinalize auctionId) = .ok world) :
    ∃ next, m.step env (.transaction (msg, .triggerFinalize auctionId)) = .ok next ∧
      Tells next.answers auctionId.toNat 2 := by
  refine ⟨{ m with world, answers := receipt world (.triggerFinalize auctionId) ++ m.answers }, by rw [step, done], ?_⟩
  exact ⟨_, List.mem_append_left _ (List.mem_singleton_self _), rfl, rfl⟩

/-- A role that runs can make the write. -/
theorem step_backed {role : KeeperRole} {write : StoreWrite} (running : m.files.running role = true)
    (backed : Backed role m.answers write) :
    m.step env (.file (.write role write)) = .ok { m with files := { m.files with
      shared := some ((m.files.copies role).write write)
      copies := Function.update m.files.copies role ((m.files.copies role).write write) } } := by
  simp only [step, if_pos backed.answered]
  rw [show m.files.step keeperRules (.write role write) = _ from if_pos ⟨running, backed.makes⟩]
  rfl

/-- So what an attempt to finalize writes is a step from any moment at which its answers have been given. -/
theorem step_attemptFinalize {config : FinalizeConfig} {auction : StoredAuctionRecord} {keeperId : Text}
    {answers : FinalizeAnswers} {event : MonitorEvent} {write : StoreWrite}
    (running : m.files.running .auctionMonitor = true)
    (told : ∀ attempt, (answers.attempts attempt).Heard m.answers auction.auctionId)
    (calls : event ∈ (attemptFinalize config auction keeperId answers).events) (writes : event.write = some write) :
    ∃ next, m.step env (.file (.write .auctionMonitor write)) = .ok next :=
  ⟨_, step_backed running (attemptFinalize_backed told event calls write writes)⟩

/-- And so is what a poll of the submitter writes. -/
theorem step_pollSubmitter {config : SubmitterConfig} {wallet : String → AVSOperatorSigner}
    {answers : StoredResolutionArtifact → TurnAnswers} {store : AuctionStateStore} {event : SubmitterEvent}
    {write : StoreWrite} (running : m.files.running .avsSubmitter = true)
    (told : ∀ artifact, (answers artifact).Heard m.answers artifact.auctionId)
    (calls : event ∈ (pollSubmitter config wallet answers store).events) (writes : event.write = some write) :
    ∃ next, m.step env (.file (.write .avsSubmitter write)) = .ok next :=
  ⟨_, step_backed running (pollSubmitter_backed told event calls write writes)⟩

end Mirror

end FairMarket
