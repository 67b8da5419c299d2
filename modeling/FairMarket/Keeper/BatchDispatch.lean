import FairMarket.Keeper.AvsSubmitter
import FairMarket.Keeper.ResolutionQueue

/-! What a job that cannot be resolved does to the other jobs of its batch, and an artifact
that cannot be submitted to the ones behind it. -/

namespace FairMarket

namespace Keeper

variable {ε : Type}

/-- `resolveBatch` of a client, which may answer differently at every attempt. -/
abbrev FheosBatchClient (ε : Type) := ℕ → List CoFheDispatchJob → Except ε (List CoFheResolution)

def localCofheBatchClient : FheosBatchClient ResolverError := fun _ => LocalCofheBatchClient.resolveBatch

namespace CofheDispatcher

/-- Mark the jobs of the resolutions, each at its own time. -/
def markBatch (completedAtMs : ℕ → Number) (resolutions : List CoFheResolution) (store : AuctionStateStore) :
    AuctionStateStore :=
  resolutions.zipIdx.foldl (fun store (resolution, place) =>
    store.markDispatchJobCompleted resolution.requestId (completedAtMs place)) store

/-- The attempts at a batch, with how many are left after this one. -/
def dispatchBatch (client : FheosBatchClient ε) (completedAtMs : ℕ → Number) (batch : List CoFheDispatchJob)
    (left attempt : ℕ) (store : AuctionStateStore) : Except ε (List CoFheResolution) × AuctionStateStore :=
  match client attempt batch with
  | .ok resolutions => (.ok resolutions, markBatch completedAtMs resolutions store)
  | .error lastError =>
    match left with
    | 0 => (.error lastError, store)
    | left + 1 => dispatchBatch client completedAtMs batch left (attempt + 1) store

def dispatchPendingBatch (config : KeeperConfig) (client : FheosBatchClient ε) (completedAtMs : ℕ → Number)
    (store : AuctionStateStore) : Except ε (List CoFheResolution) × AuctionStateStore :=
  let batch := (store.listPendingDispatchJobs config.maxBatchSize).map toDispatchJob
  if batch.length = 0 then (.ok [], store)
  else dispatchBatch client completedAtMs batch config.maxRetries 0 store

end CofheDispatcher

def storeArtifacts (storedAtMs : Number) (results : List CoFheResolution) (store : AuctionStateStore) :
    AuctionStateStore :=
  results.foldl (fun store resolution => store.storeResolutionArtifact (toArtifact resolution storedAtMs)) store

/-- A poll of the dispatcher, on the store as hydrated, where the state file can be written. -/
def pollDispatcher (config : KeeperConfig) (client : FheosBatchClient ε) (completedAtMs : ℕ → Number)
    (storedAtMs : Number) (store : AuctionStateStore) : AuctionStateStore :=
  match CofheDispatcher.dispatchPendingBatch config client completedAtMs store with
  | (.ok results, dispatched) => storeArtifacts storedAtMs results dispatched
  | (.error _, dispatched) => dispatched

namespace AuctionStateStore

variable (store : AuctionStateStore) (requestId : Text)

def Dispatched : Prop := ∃ job, store.dispatchJobs.get requestId = some job ∧ job.dispatchedAtMs ≠ none

/-- The job is dispatched and its artifact is stored. -/
def Completed : Prop := store.Dispatched requestId ∧ store.resolutions.has requestId = true

end AuctionStateStore

section Completion

variable {store : AuctionStateStore} {requestId : Text} {resolutions : List CoFheResolution}

theorem has_markDispatchJobCompleted (marked : Text) (nowMs : Number) :
    (store.markDispatchJobCompleted marked nowMs).dispatchJobs.has requestId = store.dispatchJobs.has requestId := by
  rw [Keyed.has, Keyed.has, AuctionStateStore.get_markDispatchJobCompleted]
  split
  · rename_i same
    rw [same, Option.isSome_map]
  · rfl

theorem dispatched_markDispatchJobCompleted (marked : Text) (nowMs : Number) :
    (store.markDispatchJobCompleted marked nowMs).Dispatched requestId ↔
      store.Dispatched requestId ∨ store.dispatchJobs.has requestId = true ∧ marked = requestId := by
  unfold AuctionStateStore.Dispatched
  rw [AuctionStateStore.get_markDispatchJobCompleted, Keyed.has_iff]
  split
  · rename_i same
    subst same
    cases store.dispatchJobs.get requestId with
    | none => simp
    | some job => simp
  · rename_i other
    simp [Ne.symm other]

/-- The jobs that are there and have a resolution are marked. -/
theorem dispatched_markBatch (completedAtMs : ℕ → Number) :
    (CofheDispatcher.markBatch completedAtMs resolutions store).Dispatched requestId ↔
      store.Dispatched requestId ∨ store.dispatchJobs.has requestId = true ∧
        ∃ resolution ∈ resolutions, resolution.requestId = requestId := by
  have loop : ∀ (todo : List CoFheResolution) (start : ℕ) (store : AuctionStateStore),
      ((todo.zipIdx start).foldl (fun store (resolution, place) =>
        store.markDispatchJobCompleted resolution.requestId (completedAtMs place)) store).Dispatched requestId ↔
        store.Dispatched requestId ∨ store.dispatchJobs.has requestId = true ∧
          ∃ resolution ∈ todo, resolution.requestId = requestId := by
    intro todo
    induction todo with
    | nil => simp
    | cons resolution rest ih =>
      intro start store
      rw [List.zipIdx_cons, List.foldl_cons, ih, dispatched_markDispatchJobCompleted,
        has_markDispatchJobCompleted, List.exists_mem_cons_iff, or_assoc, and_or_left]
  exact loop resolutions 0 store

theorem markBatch_resolutions (completedAtMs : ℕ → Number) :
    (CofheDispatcher.markBatch completedAtMs resolutions store).resolutions = store.resolutions := by
  have loop : ∀ (todo : List (CoFheResolution × ℕ)) (store : AuctionStateStore),
      (todo.foldl (fun store (resolution, place) =>
        store.markDispatchJobCompleted resolution.requestId (completedAtMs place)) store).resolutions =
        store.resolutions := by
    intro todo
    induction todo with
    | nil => exact fun _ => rfl
    | cons turn rest ih =>
      intro store
      rw [List.foldl_cons, ih, AuctionStateStore.markDispatchJobCompleted_resolutions]
  exact loop _ store

theorem storeArtifacts_dispatchJobs (storedAtMs : Number) :
    (storeArtifacts storedAtMs resolutions store).dispatchJobs = store.dispatchJobs := by
  unfold storeArtifacts
  induction resolutions generalizing store with
  | nil => rfl
  | cons resolution rest ih =>
    rw [List.foldl_cons, ih]
    rfl

theorem has_storeArtifacts (storedAtMs : Number) :
    (storeArtifacts storedAtMs resolutions store).resolutions.has requestId = true ↔
      store.resolutions.has requestId = true ∨ ∃ resolution ∈ resolutions, resolution.requestId = requestId := by
  unfold storeArtifacts
  induction resolutions generalizing store with
  | nil => simp
  | cons resolution rest ih =>
    have stored : (store.storeResolutionArtifact (toArtifact resolution storedAtMs)).resolutions.has requestId = true ↔
        store.resolutions.has requestId = true ∨ resolution.requestId = requestId := by
      rw [Keyed.has, AuctionStateStore.storeResolutionArtifact, Keyed.get_set]
      show (ite (requestId = resolution.requestId) _ _ : Option _).isSome = true ↔ _
      split
      · rename_i same
        simp [same]
      · rename_i other
        simp [Keyed.has, Ne.symm other]
    rw [List.foldl_cons, ih, stored, List.exists_mem_cons_iff, or_assoc]

end Completion

namespace FheosBatchClient

variable (client : FheosBatchClient ε) (jobs : List CoFheDispatchJob)

/-- The first attempt of a range that does not throw is at this place. -/
def AnswersFirst (attempt last : ℕ) (resolutions : List CoFheResolution) : Prop :=
  ∃ place, attempt ≤ place ∧ place ≤ last ∧ client place jobs = .ok resolutions ∧
    ∀ earlier, attempt ≤ earlier → earlier < place → ∃ raised, client earlier jobs = .error raised

/-- The jobs in one batch come back with a resolution of the request. -/
def Resolves (maxRetries : ℕ) (requestId : Text) : Prop :=
  ∃ resolutions, AnswersFirst client jobs 0 maxRetries resolutions ∧
    ∃ resolution ∈ resolutions, resolution.requestId = requestId

end FheosBatchClient

section Dispatch

variable {client : FheosBatchClient ε} {completedAtMs : ℕ → Number} {batch : List CoFheDispatchJob}
  {left attempt : ℕ} {store : AuctionStateStore} {requestId : Text}

/-- The attempts end with the first one that does not throw. -/
theorem dispatchBatch_cases (client : FheosBatchClient ε) (completedAtMs : ℕ → Number)
    (batch : List CoFheDispatchJob) (left attempt : ℕ) (store : AuctionStateStore) :
    (∃ resolutions, FheosBatchClient.AnswersFirst client batch attempt (attempt + left) resolutions ∧
      CofheDispatcher.dispatchBatch client completedAtMs batch left attempt store =
        (.ok resolutions, CofheDispatcher.markBatch completedAtMs resolutions store)) ∨
    (∀ place, attempt ≤ place → place ≤ attempt + left → ∃ raised, client place batch = .error raised) ∧
      ∃ raised, CofheDispatcher.dispatchBatch client completedAtMs batch left attempt store =
        (.error raised, store) := by
  induction left generalizing attempt with
  | zero =>
    unfold CofheDispatcher.dispatchBatch
    cases answered : client attempt batch with
    | ok resolutions =>
      exact .inl ⟨resolutions, ⟨attempt, le_rfl, le_rfl, answered, fun _ from_ before => by omega⟩, rfl⟩
    | error raised =>
      refine .inr ⟨fun place from_ until_ => ⟨raised, ?_⟩, raised, rfl⟩
      rwa [show place = attempt by omega]
  | succ left ih =>
    unfold CofheDispatcher.dispatchBatch
    cases answered : client attempt batch with
    | ok resolutions =>
      exact .inl ⟨resolutions, ⟨attempt, le_rfl, by omega, answered, fun _ from_ before => by omega⟩, rfl⟩
    | error raised =>
      rcases ih (attempt + 1) with ⟨resolutions, ⟨place, from_, until_, found, before⟩, done⟩ | ⟨threw, failed⟩
      · refine .inl ⟨resolutions, ⟨place, by omega, by omega, found, fun earlier start stop => ?_⟩, done⟩
        by_cases first : earlier = attempt
        · exact ⟨raised, by rw [first, answered]⟩
        · exact before earlier (by omega) stop
      · refine .inr ⟨fun place start stop => ?_, failed⟩
        by_cases first : place = attempt
        · exact ⟨raised, by rw [first, answered]⟩
        · exact threw place (by omega) (by omega)

/-- The first attempt that does not throw is one. -/
theorem FheosBatchClient.AnswersFirst.unique {first second : List CoFheResolution} {start last : ℕ}
    (left : FheosBatchClient.AnswersFirst client batch start last first)
    (right : FheosBatchClient.AnswersFirst client batch start last second) : first = second := by
  obtain ⟨place, from_, -, found, before⟩ := left
  obtain ⟨other, fromToo, -, foundToo, beforeToo⟩ := right
  rcases Nat.lt_trichotomy place other with less | rfl | more
  · obtain ⟨raised, threw⟩ := beforeToo place from_ less
    cases found.symm.trans threw
  · exact Except.ok.inj (found.symm.trans foundToo)
  · obtain ⟨raised, threw⟩ := before other fromToo more
    cases foundToo.symm.trans threw

/-- A job of the taken batch is completed by the poll if the batch comes back with a
resolution of its request. -/
theorem pollDispatcher_completes {config : KeeperConfig} {storedAtMs : Number} {job : StoredDispatchJob}
    (taken : job ∈ store.listPendingDispatchJobs config.maxBatchSize) :
    (pollDispatcher config client completedAtMs storedAtMs store).Completed job.requestId ↔
      FheosBatchClient.Resolves client ((store.listPendingDispatchJobs config.maxBatchSize).map toDispatchJob)
        config.maxRetries job.requestId := by
  obtain ⟨member, undispatched⟩ := AuctionStateStore.mem_listPendingDispatchJobs.mp ⟨_, taken⟩
  have found : store.dispatchJobs.get job.requestId = some job := Keyed.get_of_mem member
  have pending : ¬ store.Dispatched job.requestId := by
    rintro ⟨other, same, dispatched⟩
    obtain rfl := Option.some.inj (found.symm.trans same)
    exact dispatched undispatched
  have some_job : ((store.listPendingDispatchJobs config.maxBatchSize).map toDispatchJob).length ≠ 0 := by
    rw [List.length_map]
    exact (List.length_pos_of_mem taken).ne'
  unfold pollDispatcher CofheDispatcher.dispatchPendingBatch
  dsimp only
  rw [if_neg some_job]
  rcases dispatchBatch_cases client completedAtMs
      ((store.listPendingDispatchJobs config.maxBatchSize).map toDispatchJob) config.maxRetries 0 store with
    ⟨resolutions, answers, done⟩ | ⟨threw, raised, failed⟩
  · rw [Nat.zero_add] at answers
    have resolves : FheosBatchClient.Resolves client
        ((store.listPendingDispatchJobs config.maxBatchSize).map toDispatchJob) config.maxRetries job.requestId ↔
          ∃ resolution ∈ resolutions, resolution.requestId = job.requestId := by
      constructor
      · rintro ⟨others, answersToo, resolved⟩
        rwa [answers.unique answersToo]
      · exact fun resolved => ⟨resolutions, answers, resolved⟩
    rw [done, resolves]
    dsimp only
    unfold AuctionStateStore.Completed
    rw [has_storeArtifacts, markBatch_resolutions, AuctionStateStore.Dispatched, storeArtifacts_dispatchJobs,
      ← AuctionStateStore.Dispatched, dispatched_markBatch]
    constructor
    · rintro ⟨before | ⟨-, resolved⟩, -⟩
      · exact absurd before pending
      · exact resolved
    · exact fun resolved => ⟨.inr ⟨Keyed.has_iff.mpr ⟨job, found⟩, resolved⟩, .inr resolved⟩
  · rw [failed]
    refine iff_of_false (fun completed => pending completed.1) ?_
    rintro ⟨resolutions, ⟨place, -, until_, found, -⟩, -⟩
    obtain ⟨raised, threw⟩ := threw place (Nat.zero_le _) (by omega)
    cases found.symm.trans threw

/-- A batch that never comes back leaves the store as it was, so that the next poll takes
the same batch. -/
theorem pollDispatcher_failed {config : KeeperConfig} {storedAtMs : Number}
    (threw : ∀ place ≤ config.maxRetries, ∃ raised,
      client place ((store.listPendingDispatchJobs config.maxBatchSize).map toDispatchJob) = .error raised) :
    pollDispatcher config client completedAtMs storedAtMs store = store := by
  unfold pollDispatcher CofheDispatcher.dispatchPendingBatch
  dsimp only
  split_ifs with empty
  · rfl
  · rcases dispatchBatch_cases client completedAtMs
        ((store.listPendingDispatchJobs config.maxBatchSize).map toDispatchJob) config.maxRetries 0 store with
      ⟨resolutions, ⟨place, -, until_, found, -⟩, -⟩ | ⟨-, raised, failed⟩
    · obtain ⟨raised, none⟩ := threw place (by omega)
      cases found.symm.trans none
    · rw [failed]

end Dispatch

/-- The local client can read every bid of the job. -/
def Readable (job : CoFheDispatchJob) : Prop :=
  ∀ bid ∈ job.bids, ∃ amount, decodeLocalPrototypeEncryptedNumeric bid.encryptedBid = .ok amount

instance decidableSucceeds {outcome : Except ε ℕ} : Decidable (∃ amount, outcome = .ok amount) :=
  match outcome with
  | .ok amount => .isTrue ⟨amount, rfl⟩
  | .error _ => .isFalse nofun

instance : DecidablePred Readable := fun job =>
  inferInstanceAs (Decidable (∀ bid ∈ job.bids,
    ∃ amount, decodeLocalPrototypeEncryptedNumeric bid.encryptedBid = .ok amount))

theorem resolveJob_requestId {job : CoFheDispatchJob} {resolution : CoFheResolution}
    (resolves : LocalCofheBatchClient.resolveJob job = .ok resolution) : resolution.requestId = job.requestId := by
  obtain ⟨picked, -, resolves⟩ := bind_eq_ok.mp resolves
  cases picked with
  | none =>
    obtain rfl := Except.ok.inj resolves
    rfl
  | some winner =>
    obtain ⟨winningAmount, -, resolves⟩ := bind_eq_ok.mp resolves
    obtain rfl := Except.ok.inj resolves
    rfl

theorem resolveBatch_unreadable {jobs : List CoFheDispatchJob} {job : CoFheDispatchJob} (member : job ∈ jobs)
    (unreadable : ¬ Readable job) : ∃ raised, LocalCofheBatchClient.resolveBatch jobs = .error raised := by
  cases resolved : LocalCofheBatchClient.resolveBatch jobs with
  | error raised => exact ⟨raised, rfl⟩
  | ok resolutions =>
    obtain ⟨resolution, -, resolves⟩ := exists_of_mapM_eq_ok resolved member
    exact absurd (resolveJob_succeeds_iff.mp ⟨resolution, resolves⟩) unreadable

/-- It resolves all jobs of a batch or none. -/
theorem localCofheBatchClient_resolves {jobs : List CoFheDispatchJob} {maxRetries : ℕ} {job : CoFheDispatchJob}
    (member : job ∈ jobs) :
    FheosBatchClient.Resolves localCofheBatchClient jobs maxRetries job.requestId ↔
      ∀ other ∈ jobs, Readable other := by
  have readable_iff : (∃ resolutions, LocalCofheBatchClient.resolveBatch jobs = .ok resolutions) ↔
      ∀ other ∈ jobs, Readable other := by
    unfold LocalCofheBatchClient.resolveBatch
    simp only [mapM_succeeds_iff, resolveJob_succeeds_iff, Readable]
  rw [← readable_iff]
  constructor
  · rintro ⟨resolutions, ⟨place, -, -, found, -⟩, -⟩
    exact ⟨resolutions, found⟩
  · rintro ⟨resolutions, found⟩
    obtain ⟨resolution, known, resolves⟩ := exists_of_mapM_eq_ok found member
    refine ⟨resolutions, ⟨0, le_rfl, Nat.zero_le _, found, fun _ _ before => ?_⟩, resolution, known,
      resolveJob_requestId resolves⟩
    exact absurd before (Nat.not_lt_zero _)

end Keeper

open Keeper

/-- A poll of the dispatcher completes every job of the batch that would come back alone if
those come back with the whole batch, for any client. With the local client that is so if
every bid of the batch can be read, or every job has one that cannot. A poll of the
submitter starts a submission for every artifact of its batch whose auction is RESOLVING if
it submits at all, and no earlier turn stops it: the state was read and the store written,
and a submission that failed was found to be of an auction that has moved on. -/
theorem batches_isolated_iff (client : FheosBatchClient ε) (config : KeeperConfig) (completedAtMs : ℕ → Number)
    (storedAtMs : Number) (submitter : SubmitterConfig) (wallet : String → AVSOperatorSigner)
    (answers : StoredResolutionArtifact → TurnAnswers) (store : AuctionStateStore) :
    let taken := store.listPendingDispatchJobs config.maxBatchSize
    let artifacts := store.listPendingResolutionArtifacts submitter.maxBatchSize
    let calls := (pollSubmitter submitter wallet answers store).events
    ((∀ job ∈ taken, client.Resolves [toDispatchJob job] config.maxRetries job.requestId →
        (pollDispatcher config client completedAtMs storedAtMs store).Completed job.requestId) ↔
      ∀ job ∈ taken, client.Resolves [toDispatchJob job] config.maxRetries job.requestId →
        client.Resolves (taken.map toDispatchJob) config.maxRetries job.requestId) ∧
    ((∀ job ∈ taken, localCofheBatchClient.Resolves [toDispatchJob job] config.maxRetries job.requestId →
        (pollDispatcher config localCofheBatchClient completedAtMs storedAtMs store).Completed job.requestId) ↔
      (∀ job ∈ taken, Readable (toDispatchJob job)) ∨ ∀ job ∈ taken, ¬ Readable (toDispatchJob job)) ∧
    ((∀ artifact ∈ artifacts, (answers artifact).Resolving →
        ∃ event ∈ calls, event.Attempts artifact.requestId) ↔
      ∀ before artifact after, artifacts = before ++ artifact :: after → (answers artifact).Resolving →
        submitter.submits wallet = true ∧
          ∀ earlier ∈ before, (answers earlier).Passes submitter (submitter.operatorSigners wallet) earlier) := by
  intro taken artifacts calls
  refine ⟨?_, ?_, ?_⟩
  · refine forall₂_congr fun job member => imp_congr_right fun _ => ?_
    exact pollDispatcher_completes member
  · have alone : ∀ job : StoredDispatchJob,
        localCofheBatchClient.Resolves [toDispatchJob job] config.maxRetries job.requestId ↔
          Readable (toDispatchJob job) := fun job =>
      (localCofheBatchClient_resolves (List.mem_singleton_self (toDispatchJob job))).trans List.forall_mem_singleton
    have together : ∀ job ∈ taken,
        ((pollDispatcher config localCofheBatchClient completedAtMs storedAtMs store).Completed job.requestId ↔
          ∀ other ∈ taken, Readable (toDispatchJob other)) := fun job member =>
      (pollDispatcher_completes member).trans
        ((localCofheBatchClient_resolves (List.mem_map_of_mem member)).trans List.forall_mem_map)
    constructor
    · intro completes
      by_cases some_job : ∃ job ∈ taken, Readable (toDispatchJob job)
      · obtain ⟨job, member, readable⟩ := some_job
        exact .inl ((together job member).mp (completes job member ((alone job).mpr readable)))
      · exact .inr fun job member readable => some_job ⟨job, member, readable⟩
    · rintro (all | none) job member resolves
      · exact (together job member).mpr all
      · exact absurd ((alone job).mp resolves) (none job member)
  · constructor
    · intro attempted before artifact after split resolving
      have pending : artifact ∈ artifacts := by
        rw [split]
        exact List.mem_append_right _ List.mem_cons_self
      obtain ⟨submits, first, other, last, splitToo, passed, same, -⟩ :=
        pollSubmitter_attempts.mp (attempted artifact pending resolving)
      replace splitToo : artifacts = first ++ other :: last := splitToo
      have distinct : (artifacts.map (·.requestId)).Nodup := store.pendingArtifacts_distinct _
      have pendingToo : other ∈ artifacts := by
        rw [splitToo]
        exact List.mem_append_right _ List.mem_cons_self
      obtain rfl := List.inj_on_of_nodup_map distinct pendingToo pending same
      have once : (before ++ other :: after).Nodup := split ▸ distinct.of_map
      obtain ⟨-, later, apart⟩ := List.nodup_append.mp once
      obtain ⟨rfl, -, -⟩ := (List.append_cons_inj_of_notMem
        (fun early => apart other early other List.mem_cons_self rfl) (List.nodup_cons.mp later).1).mp
          (split.symm.trans splitToo)
      exact ⟨submits, passed⟩
    · intro passed artifact pending resolving
      obtain ⟨before, after, split⟩ := List.append_of_mem pending
      obtain ⟨submits, earlier⟩ := passed before artifact after split resolving
      exact pollSubmitter_attempts.mpr ⟨submits, before, artifact, after, split, earlier, rfl, resolving⟩

/-- A job whose only bid has a handle of a truth value, a job that came later, and two artifacts. -/
def stuckJobs : AuctionStateStore :=
  let job (id : ℕ) (encryptedBid : Bytes32) : StoredDispatchJob := {
    auctionId := id
    requestId := .hash (.ofNat 256 id)
    winnerHandle := .hash 0
    amountHandle := .hash 0
    startingPrice := 0
    bids := [{
      bidder := .account 8
      encryptedBid := .hash encryptedBid
      availableEscrow := 100 }]
    enqueuedAtMs := .finite id }
  let artifact (id : ℕ) : StoredResolutionArtifact := {
    requestId := .hash (.ofNat 256 id)
    auctionId := id
    winner := .account 8
    winnerCiphertext := .hash 0
    avsProof := .literal ""
    winningAmount := 60
    storedAtMs := .finite id }
  ((({} : AuctionStateStore).enqueueDispatchJob (job 1 (CofheCiphertextEncoding.encodeEbool true))).enqueueDispatchJob
    (job 2 (CofheCiphertextEncoding.encodeEuint96 60)) |>.storeResolutionArtifact (artifact 3))
      |>.storeResolutionArtifact (artifact 4)

/-- The market reverts every submission, and its auctions stay RESOLVING. -/
def revertingAnswers : TurnAnswers :=
  let retired : RetireAnswers := {
    trackedAtMs := 5
    updated := .ok ()
    submittedAtMs := 5
    marked := .ok () }
  {
    currentState := .ok 2
    retired
    digest := .ok (.keccak [])
    submitted := .error ⟨.literal "execution reverted"⟩
    submittedAtMs := 5
    marked := .ok ()
    refreshedState := .ok 2
    refreshRetired := retired
    recordedAtMs := 5
    recorded := .ok () }

set_option maxRecDepth 4000 in
/-- Poll after poll the dispatcher takes both jobs and completes neither of them, and the
submitter stops at the first of its artifacts. -/
theorem stuckJobs_starve :
    let taken := stuckJobs.listPendingDispatchJobs 10
    let artifacts := stuckJobs.listPendingResolutionArtifacts 10
    let poll := pollDispatcher { maxBatchSize := 10, maxRetries := 4 } localCofheBatchClient (fun _ => 5) 6
    let calls := (pollSubmitter soleSubmitter (soleWallet 41) (fun _ => revertingAnswers) stuckJobs).events
    ¬ (∀ job ∈ taken, localCofheBatchClient.Resolves [toDispatchJob job] 4 job.requestId →
      (poll stuckJobs).Completed job.requestId) ∧
    (∀ polls, poll^[polls] stuckJobs = stuckJobs) ∧
    ¬ ∀ artifact ∈ artifacts, revertingAnswers.Resolving → ∃ event ∈ calls, event.Attempts artifact.requestId := by
  intro taken artifacts poll calls
  have stuck : ∃ job ∈ taken, ¬ Readable (toDispatchJob job) := by decide +kernel
  obtain ⟨job, member, unreadable⟩ := stuck
  obtain ⟨raised, threw⟩ := resolveBatch_unreadable (List.mem_map_of_mem member) unreadable
  refine ⟨fun completes => ?_, fun polls => ?_, fun attempted => ?_⟩
  · have later : ∃ job ∈ taken, Readable (toDispatchJob job) := by decide +kernel
    obtain ⟨other, listed, readable⟩ := later
    have alone : localCofheBatchClient.Resolves [toDispatchJob other] 4 other.requestId :=
      (localCofheBatchClient_resolves (List.mem_singleton_self _)).mpr (List.forall_mem_singleton.mpr readable)
    obtain ⟨resolutions, ⟨place, -, -, found, -⟩, -⟩ :=
      (pollDispatcher_completes listed).mp (completes other listed alone)
    cases found.symm.trans threw
  · apply Function.iterate_fixed
    exact pollDispatcher_failed fun _ _ => ⟨raised, threw⟩
  · have starved : ∃ artifact ∈ artifacts, ¬ ∃ event ∈ calls, event.Attempts artifact.requestId := by
      decide +kernel
    obtain ⟨artifact, pending, unattempted⟩ := starved
    exact unattempted (attempted artifact pending rfl)

end FairMarket
