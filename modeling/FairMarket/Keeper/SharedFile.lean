import FairMarket.Keeper.AuctionStateStore
import FairMarket.Lib.Copies

/-! The roles run in containers of their own and share the state file. Each keeps the whole
state in memory and writes all of it whenever it changes something. -/

namespace FairMarket

namespace Keeper

inductive KeeperRole where
  | auctionMonitor
  | cofheDispatcher
  | avsSubmitter
  deriving DecidableEq

/-- The calls that the role's process makes on its store. -/
def KeeperRole.makes : KeeperRole → StoreWrite → Bool
  | .auctionMonitor, .upsertAuction _ | .auctionMonitor, .updateAuctionState .. => true
  | .auctionMonitor, .recordFinalizeAttempt _ | .auctionMonitor, .recordRaceCondition _ => true
  | .auctionMonitor, .enqueueDispatchJob _ => true
  | .cofheDispatcher, .markDispatchJobCompleted .. | .cofheDispatcher, .storeResolutionArtifact _ => true
  | .avsSubmitter, .updateAuctionState .. | .avsSubmitter, .markResolutionArtifactSubmitted .. => true
  | _, _ => false

/-- A role that starts hydrates. After that the dispatcher and the submitter do in each
round of their loops, and the monitor does not. -/
def keeperRules : CopyRules KeeperRole AuctionStateStore StoreWrite where
  blank := {}
  write := AuctionStateStore.write
  makes := KeeperRole.makes
  rereads
    | .auctionMonitor => false
    | .cofheDispatcher | .avsSubmitter => true

/-- The state file and the memory of each role. -/
abbrev SharedFile := Copies KeeperRole AuctionStateStore

abbrev FileStep := CopyStep KeeperRole StoreWrite

/-- No container has been started, the file is what an earlier deployment left. -/
def SharedFile.initial (file : Option AuctionStateStore) : SharedFile where
  shared := file
  copies _ := {}
  running _ := false

/-- The records of a store, by what tells them apart. -/
inductive RecordKey where
  | auction (auctionId : ℤ)
  | finalizeAttempt (place : ℕ)
  | raceCondition (place : ℕ)
  | dispatchJob (requestId : Text)
  | resolution (requestId : Text)
  deriving DecidableEq

inductive StoredRecord where
  | auction (record : StoredAuctionRecord)
  | finalizeAttempt (record : FinalizeAttemptRecord)
  | raceCondition (record : RaceConditionRecord)
  | dispatchJob (job : StoredDispatchJob)
  | resolution (artifact : StoredResolutionArtifact)
  deriving DecidableEq

def AuctionStateStore.lookup (store : AuctionStateStore) : RecordKey → Option StoredRecord
  | .auction auctionId => (store.auctions.get auctionId).map .auction
  | .finalizeAttempt place => store.finalizeAttempts[place]?.map .finalizeAttempt
  | .raceCondition place => store.raceConditions[place]?.map .raceCondition
  | .dispatchJob requestId => (store.dispatchJobs.get requestId).map .dispatchJob
  | .resolution requestId => (store.resolutions.get requestId).map .resolution

namespace StoreWrite

/-- The write updates the record under the key. -/
def Updates : StoreWrite → RecordKey → Prop
  | .upsertAuction record, .auction auctionId => auctionId = record.auctionId
  | .updateAuctionState updated _ _, .auction auctionId => auctionId = updated
  | .recordFinalizeAttempt record, .auction auctionId => auctionId = record.auctionId
  | .markDispatchJobCompleted marked _, .dispatchJob requestId => requestId = marked
  | .storeResolutionArtifact artifact, .resolution requestId => requestId = artifact.requestId
  | .markResolutionArtifactSubmitted marked _, .resolution requestId => requestId = marked
  | _, _ => False

/-- What the write puts where nothing was before. -/
def added : StoreWrite → Option StoredRecord
  | .recordFinalizeAttempt record => some (.finalizeAttempt record)
  | .recordRaceCondition record => some (.raceCondition record)
  | .enqueueDispatchJob job => some (.dispatchJob job)
  | _ => none

def addedAttempts : StoreWrite → List FinalizeAttemptRecord
  | .recordFinalizeAttempt record => [record]
  | _ => []

def addedRaceConditions : StoreWrite → List RaceConditionRecord
  | .recordRaceCondition record => [record]
  | _ => []

end StoreWrite

namespace AuctionStateStore

variable {store : AuctionStateStore} {write : StoreWrite}

theorem write_auctions_get {auctionId : ℤ} (other : ¬ write.Updates (.auction auctionId)) :
    (store.write write).auctions.get auctionId = store.auctions.get auctionId := by
  cases write with
  | upsertAuction record => exact Keyed.get_set_of_ne _ other
  | updateAuctionState updated state trackedAtMs =>
    rw [AuctionStateStore.write, updateAuctionState_eq]
    apply Keyed.get_modify_of_ne _ _ other
    exact fun _ => rfl
  | recordFinalizeAttempt record =>
    rw [AuctionStateStore.write, recordFinalizeAttempt_eq]
    apply Keyed.get_modify_of_ne _ _ other
    exact fun _ => rfl
  | recordRaceCondition record => rfl
  | enqueueDispatchJob job => rw [AuctionStateStore.write, enqueueDispatchJob_eq]
  | markDispatchJobCompleted marked dispatchedAtMs => rw [AuctionStateStore.write, markDispatchJobCompleted_eq]
  | storeResolutionArtifact artifact => rfl
  | markResolutionArtifactSubmitted marked submittedAtMs =>
    rw [AuctionStateStore.write, markResolutionArtifactSubmitted_eq]

/-- Attempts and race conditions are only ever appended. -/
theorem write_appends :
    (store.write write).finalizeAttempts = store.finalizeAttempts ++ write.addedAttempts ∧
      (store.write write).raceConditions = store.raceConditions ++ write.addedRaceConditions := by
  have unchanged : store.finalizeAttempts = store.finalizeAttempts ++ [] ∧
      store.raceConditions = store.raceConditions ++ [] :=
    ⟨(List.append_nil _).symm, (List.append_nil _).symm⟩
  cases write with
  | upsertAuction record => exact unchanged
  | updateAuctionState updated state trackedAtMs =>
    rw [AuctionStateStore.write, updateAuctionState_eq]
    exact unchanged
  | recordFinalizeAttempt record =>
    rw [AuctionStateStore.write, recordFinalizeAttempt_eq]
    exact ⟨rfl, unchanged.2⟩
  | recordRaceCondition record => exact ⟨unchanged.1, rfl⟩
  | enqueueDispatchJob job =>
    rw [AuctionStateStore.write, enqueueDispatchJob_eq]
    exact unchanged
  | markDispatchJobCompleted requestId dispatchedAtMs =>
    rw [AuctionStateStore.write, markDispatchJobCompleted_eq]
    exact unchanged
  | storeResolutionArtifact artifact => exact unchanged
  | markResolutionArtifactSubmitted requestId submittedAtMs =>
    rw [AuctionStateStore.write, markResolutionArtifactSubmitted_eq]
    exact unchanged

/-- A job that the write does not mark is as it was, unless there was none and the write
enqueues it. -/
theorem write_dispatchJobs_get {requestId : Text} (other : ¬ write.Updates (.dispatchJob requestId)) :
    (store.write write).dispatchJobs.get requestId = store.dispatchJobs.get requestId ∨
      store.dispatchJobs.get requestId = none ∧
        write.added = ((store.write write).dispatchJobs.get requestId).map .dispatchJob := by
  cases write with
  | enqueueDispatchJob job =>
    simp only [AuctionStateStore.write, get_enqueueDispatchJob]
    split
    · rename_i fresh
      right
      refine ⟨?_, rfl⟩
      rw [fresh.1]
      simpa [Keyed.has] using (not_or.mp fresh.2).1
    · exact .inl rfl
  | markDispatchJobCompleted marked dispatchedAtMs =>
    left
    simp only [AuctionStateStore.write, get_markDispatchJobCompleted]
    exact if_neg other
  | storeResolutionArtifact artifact => exact .inl rfl
  | _ => exact .inl (congrArg (Keyed.get · requestId) (write_dispatchJobs trivial))

theorem write_resolutions_get {requestId : Text} (other : ¬ write.Updates (.resolution requestId)) :
    (store.write write).resolutions.get requestId = store.resolutions.get requestId := by
  cases write with
  | upsertAuction record => rfl
  | updateAuctionState updated state trackedAtMs => rw [AuctionStateStore.write, updateAuctionState_eq]
  | recordFinalizeAttempt record => rw [AuctionStateStore.write, recordFinalizeAttempt_eq]
  | recordRaceCondition record => rfl
  | enqueueDispatchJob job => rw [AuctionStateStore.write, enqueueDispatchJob_eq]
  | markDispatchJobCompleted marked dispatchedAtMs => rw [AuctionStateStore.write, markDispatchJobCompleted_eq]
  | storeResolutionArtifact artifact => exact Keyed.get_set_of_ne _ other
  | markResolutionArtifactSubmitted marked submittedAtMs =>
    rw [AuctionStateStore.write, markResolutionArtifactSubmitted_eq]
    apply Keyed.get_modify_of_ne _ _ other
    exact fun _ => rfl

theorem getElem?_concat {α : Type} (values : List α) (value : α) (place : ℕ) :
    (values ++ [value])[place]? = values[place]? ∨
      values[place]? = none ∧ (values ++ [value])[place]? = some value := by
  by_cases last : place = values.length
  · right
    subst last
    exact ⟨List.getElem?_eq_none le_rfl, List.getElem?_concat_length⟩
  · left
    rcases Nat.lt_or_gt_of_ne last with early | late
    · exact List.getElem?_append_left early
    · have beyond : (values ++ [value]).length ≤ place := by
        rw [List.length_append]
        exact late
      rw [List.getElem?_eq_none beyond, List.getElem?_eq_none late.le]

/-- A record that the write does not update is as it was, unless there was none and the
write adds it. -/
theorem lookup_write {key : RecordKey} (other : ¬ write.Updates key) :
    (store.write write).lookup key = store.lookup key ∨
      store.lookup key = none ∧ write.added = (store.write write).lookup key := by
  cases key with
  | auction auctionId =>
    left
    simp only [lookup, write_auctions_get other]
  | finalizeAttempt place =>
    simp only [lookup, write_appends.1]
    cases write with
    | recordFinalizeAttempt record =>
      rcases getElem?_concat store.finalizeAttempts record place with same | ⟨absent, last⟩
      · exact .inl (congrArg _ same)
      · right
        rw [absent]
        exact ⟨rfl, (congrArg (Option.map StoredRecord.finalizeAttempt) last).symm⟩
    | _ => exact .inl (congrArg _ (congrArg (·[place]?) (List.append_nil _)))
  | raceCondition place =>
    simp only [lookup, write_appends.2]
    cases write with
    | recordRaceCondition record =>
      rcases getElem?_concat store.raceConditions record place with same | ⟨absent, last⟩
      · exact .inl (congrArg _ same)
      · right
        rw [absent]
        exact ⟨rfl, (congrArg (Option.map StoredRecord.raceCondition) last).symm⟩
    | _ => exact .inl (congrArg _ (congrArg (·[place]?) (List.append_nil _)))
  | dispatchJob requestId =>
    rcases @write_dispatchJobs_get store write requestId other with same | ⟨absent, added⟩
    · left
      simp only [lookup, same]
    · right
      refine ⟨?_, added⟩
      simp only [lookup, absent, Option.map_none]
  | resolution requestId =>
    left
    simp only [lookup, write_resolutions_get other]

end AuctionStateStore

/-- The records of the state file. -/
def fileRecords : Records keeperRules RecordKey StoredRecord where
  lookup := AuctionStateStore.lookup
  About := StoreWrite.Updates
  frame := by
    intro store write key record known other
    rcases @AuctionStateStore.lookup_write store write key other with same | ⟨absent, -⟩
    · exact same.trans known
    · rw [absent] at known
      cases known

/-- A role whose memory differs from the file in a record takes that record out of the file
with any write that neither updates nor adds it. -/
theorem stale_write_loses {state next : SharedFile} {role : KeeperRole} {write : StoreWrite} {key : RecordKey}
    {record : StoredRecord} (taken : state.step keeperRules (.write role write) = .ok next)
    (stale : (state.copies role).lookup key ≠ some record) (other : ¬ write.Updates key)
    (notAdded : write.added ≠ some record) : fileRecords.shared next key ≠ some record := by
  obtain ⟨rfl, -⟩ := Copies.step_write taken
  change ((state.copies role).write write).lookup key ≠ some record
  rcases @AuctionStateStore.lookup_write (state.copies role) write key other with same | ⟨-, added⟩
  · rw [same]
    exact stale
  · rw [← added]
    exact notAdded

end Keeper

open Keeper

/-- Where every role that writes remembers the file's other records, a record that some
role has persisted stays in the file as it is until a write updates it. -/
theorem persisted_kept {file : Option AuctionStateStore} {before after : List FileStep} {key : RecordKey}
    {record : StoredRecord}
    (current : Along (Copies.step keeperRules) fileRecords.Current (SharedFile.initial file) (before ++ after))
    (persisted : fileRecords.shared (play (Copies.step keeperRules) (SharedFile.initial file) before) key =
      some record)
    (untouched : ∀ step ∈ after, ¬ fileRecords.StepAbout step key) :
    fileRecords.shared (play (Copies.step keeperRules) (SharedFile.initial file) (before ++ after)) key =
      some record :=
  fileRecords.shared_play current persisted untouched

/-- Roles that take turns, each hydrating before its turn, are current. -/
theorem turns_current {file : Option AuctionStateStore} {steps : List FileStep}
    (turns : relayed keeperRules (fun _ => false) steps = true) :
    Along (Copies.step keeperRules) fileRecords.Current (SharedFile.initial file) steps := by
  apply relayed_current fileRecords _ turns
  intro role value running
  cases running

namespace SharedFile

def triggered : StoredAuctionRecord where
  auctionId := 1
  state := 2
  endTime := 60
  trackedAtMs := 1
  retryCount := 0

def queued : StoredDispatchJob where
  auctionId := 1
  requestId := .hash 1
  winnerHandle := .hash 2
  amountHandle := .hash 3
  startingPrice := 5
  bids := []
  enqueuedAtMs := 2

def unsold : StoredResolutionArtifact where
  requestId := .hash 1
  auctionId := 1
  winner := .account 0
  winnerKind := some .noWinner
  winnerCiphertext := .hash 0
  avsProof := .hash 4
  winningAmount := 0
  storedAtMs := 4

/-- The monitor queues a job, and the dispatcher takes it up and marks it. -/
def dispatched : List FileStep := [
  .start .auctionMonitor,
  .write .auctionMonitor (.upsertAuction triggered),
  .write .auctionMonitor (.enqueueDispatchJob queued),
  .start .cofheDispatcher,
  .reread .cofheDispatcher,
  .write .cofheDispatcher (.markDispatchJobCompleted (.hash 1) 3)]

/-- The artifact is stored, and the submitter submits it. -/
def submitted : List FileStep := [
  .write .cofheDispatcher (.storeResolutionArtifact unsold),
  .start .avsSubmitter,
  .reread .avsSubmitter,
  .write .avsSubmitter (.markResolutionArtifactSubmitted (.hash 1) 5)]

/-- The monitor looks at the auction again. -/
def resynchronized : FileStep := .write .auctionMonitor (.upsertAuction { triggered with trackedAtMs := 6 })

end SharedFile

open SharedFile

set_option maxRecDepth 4000 in
theorem dispatchedJob_kept :
    fileRecords.shared (play (Copies.step keeperRules) (initial none) (dispatched ++ submitted))
      (.dispatchJob (.hash 1)) = some (.dispatchJob { queued with dispatchedAtMs := some 3 }) := by
  apply persisted_kept
  · exact turns_current (by decide +kernel)
  · decide +kernel
  · unfold submitted
    simp [fileRecords, Records.StepAbout, StoreWrite.Updates]

set_option maxRecDepth 4000 in
/-- The monitor has not hydrated since it queued the job. What it writes has the job
undispatched and no artifact. -/
theorem staleMonitor_reverts :
    let before := play (Copies.step keeperRules) (initial none) (dispatched ++ submitted)
    let after := play (Copies.step keeperRules) (initial none) (dispatched ++ submitted ++ [resynchronized])
    ¬ fileRecords.StepAbout resynchronized (.dispatchJob (.hash 1)) ∧
      ¬ fileRecords.StepAbout resynchronized (.resolution (.hash 1)) ∧
      fileRecords.shared before (.dispatchJob (.hash 1)) =
        some (.dispatchJob { queued with dispatchedAtMs := some 3 }) ∧
      fileRecords.shared after (.dispatchJob (.hash 1)) = some (.dispatchJob queued) ∧
      fileRecords.shared before (.resolution (.hash 1)) =
        some (.resolution { unsold with submittedAtMs := some 5 }) ∧
      fileRecords.shared after (.resolution (.hash 1)) = none := by
  refine ⟨not_false, not_false, ?_⟩
  decide +kernel

end FairMarket
