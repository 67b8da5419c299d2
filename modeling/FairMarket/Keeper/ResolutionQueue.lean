import FairMarket.Keeper.Acceptance
import FairMarket.Keeper.AuctionStateStore

/-! The monitor puts resolution requests into the store and the dispatcher works them off.
Every call of either may throw, and the process may stop between any two of them. -/

namespace FairMarket

namespace Keeper

structure PendingResolutionJob where
  auctionId : ℤ
  requestId : Text
  winnerHandle : Text
  amountHandle : Text
  requestedAt : ℤ

/-- A `bigint` as an argument of a contract call. -/
def toUint256 (value : ℤ) : Except Revert (BitVec 256) := do
  revertIf (value < 0 ∨ 2 ^ 256 ≤ value) .malformedCalldata
  return BitVec.ofInt 256 value

theorem toUint256_natCast {value : ℕ} (fits : value < 2 ^ 256) :
    ∃ word, toUint256 (value : ℤ) = .ok word ∧ word.toNat = value := by
  refine ⟨BitVec.ofInt 256 value, bind_eq_ok.mpr ⟨(), revertIf_eq_ok.mpr (by omega), rfl⟩, ?_⟩
  rw [BitVec.ofInt_natCast, BitVec.toNat_ofNat, Nat.mod_eq_of_lt fits]

theorem toUint256_toNat (word : BitVec 256) : toUint256 (word.toNat : ℤ) = .ok word := by
  obtain ⟨read, reads, same⟩ := toUint256_natCast word.isLt
  rw [reads, BitVec.eq_of_toNat_eq same]

end Keeper

open Keeper

variable {σ : Type}

namespace World

def getResolutionRequest (w : World σ) (auctionId : AuctionId) : Except Revert PendingResolutionRequest := do
  let cell ← w.auctionExists auctionId
  let request := cell.resolutionRequest
  revertIf (¬ request.exists_) (.missingResolutionRequest auctionId)
  return request

def getAuctionStartingPrice (w : World σ) (auctionId : AuctionId) : Except Revert ℕ := do
  let cell ← w.auctionExists auctionId
  return cell.auction.startingPrice

def inspectTriggeredAuction (w : World σ) (auctionId : ℤ) : Except Revert PendingResolutionJob := do
  let request ← w.getResolutionRequest (← toUint256 auctionId)
  return {
    auctionId
    requestId := .hash request.requestId
    winnerHandle := .hash request.winnerHandle
    amountHandle := .hash request.amountHandle
    requestedAt := request.requestedAt }

/-- The bid book and the starting price a turn of the monitor reads. -/
def readBidBook (env : External σ) (w : World σ) (account : Address) (auctionId : ℤ) :
    Except Revert (List StoredDispatchBid × ℤ) := do
  let id ← toUint256 auctionId
  let bids ← w.collectEncryptedBidsFromChain env account id
  let startingPrice ← w.getAuctionStartingPrice id
  return (bids.map fun bid => {
    bidder := bid.bidder
    encryptedBid := bid.encryptedBid
    availableEscrow := bid.availableEscrow
    isShielded := some bid.isShielded }, startingPrice)

end World

namespace Keeper

/-- How a turn of the loop over the auctions ends. -/
inductive Turn where
  | skips
  | aborts
  | enqueues (job : StoredDispatchJob)
  deriving DecidableEq

/-- A turn of `enqueuePendingResolutionJobs`. It makes no write but the last one, and
that one looks again at what the turn has looked at. -/
def turn (store : AuctionStateStore) (auction : StoredAuctionRecord)
    (inspected : Except Revert PendingResolutionJob) (book : Except Revert (List StoredDispatchBid × ℤ))
    (nowMs : Number) : Turn :=
  if auction.state ≠ 2 then .skips
  else
    match inspected with
    | .error _ => .skips
    | .ok request =>
      if store.hasPendingDispatchJob request.requestId then .skips
      else if (store.getResolutionArtifact request.requestId).isSome then .skips
      else
        match book with
        | .error _ => .aborts
        | .ok (bids, startingPrice) => .enqueues {
            auctionId := auction.auctionId
            requestId := request.requestId
            winnerHandle := request.winnerHandle
            amountHandle := request.amountHandle
            startingPrice
            bids
            enqueuedAtMs := nowMs }

/-- The turns for a list of auctions where every call is answered. -/
def enqueueJobs (env : External σ) (w : World σ) (account : Address) (nowMs : Number) :
    List StoredAuctionRecord → AuctionStateStore → AuctionStateStore
  | [], store => store
  | auction :: rest, store =>
    match turn store auction (w.inspectTriggeredAuction auction.auctionId)
      (w.readBidBook env account auction.auctionId) nowMs with
    | .skips => enqueueJobs env w account nowMs rest store
    | .aborts => store
    | .enqueues job => enqueueJobs env w account nowMs rest (store.enqueueDispatchJob job)

def enqueuePendingResolutionJobs (env : External σ) (w : World σ) (account : Address) (nowMs : Number)
    (store : AuctionStateStore) : AuctionStateStore :=
  enqueueJobs env w account nowMs store.listAuctions store

def toDispatchJob (job : StoredDispatchJob) : CoFheDispatchJob where
  auctionId := BitVec.ofInt 256 job.auctionId
  requestId := job.requestId
  winnerHandle := job.winnerHandle
  amountHandle := job.amountHandle
  startingPrice := job.startingPrice
  bids := job.bids.map fun bid => {
    bidder := bid.bidder
    encryptedBid := bid.encryptedBid
    availableEscrow := bid.availableEscrow
    isShielded := bid.isShielded.getD false }

/-- What the dispatcher stores of a resolution. -/
def toArtifact (resolution : CoFheResolution) (storedAtMs : Number) : StoredResolutionArtifact where
  requestId := resolution.requestId
  auctionId := resolution.auctionId.toNat
  winner := normalizeWinnerIdentity resolution.winner
  winnerKind := some resolution.winnerKind
  winnerCiphertext := resolution.winnerCiphertext
  avsProof := resolution.avsProof
  winningAmount := resolution.winningAmount
  storedAtMs

structure KeeperConfig where
  maxBatchSize : ℕ
  maxRetries : ℕ

/-- Where a poll of the dispatcher stands. -/
inductive PollPhase where
  | idle
  | resolving (batch : List CoFheDispatchJob) (attempt : ℕ)
  | marking (batch : List CoFheDispatchJob) (attempt : ℕ) (resolutions todo : List CoFheResolution)
  | storing (storedAtMs : Number) (todo : List CoFheResolution)

/-- A poll, with the requests whose jobs it has marked. -/
structure Poll where
  phase : PollPhase := .idle
  marked : List Text := []

/-- The store, the polls of the dispatcher, of which a slow one is overtaken by the next,
and a record of the requests that were put into the store. -/
structure QueueState where
  store : AuctionStateStore := {}
  polls : ℕ → Poll := fun _ => {}
  enqueued : List Text := []

/-- A call that returns, or `throws` of the call a poll waits for. A store call that writes and
then throws is the two steps after one another, one that throws at once in a turn of the
monitor is none. -/
inductive QueueStep where
  | turn (auction : StoredAuctionRecord) (inspected : Except Revert PendingResolutionJob)
      (book : Except Revert (List StoredDispatchBid × ℤ)) (nowMs : Number)
  | write (write : StoreWrite)
  | takeBatch (poll : ℕ) (nowMs : Number)
  | resolveBatch (poll : ℕ) (resolutions : List CoFheResolution)
  | markCompleted (poll : ℕ) (nowMs : Number)
  | batchResolved (poll : ℕ) (nowMs : Number)
  | storeResolutionArtifact (poll : ℕ)
  | finish (poll : ℕ)
  | throws (poll : ℕ)
  | stop

namespace QueueState

def setPoll (state : QueueState) (poll : ℕ) (next : Poll) : QueueState :=
  { state with polls := Function.update state.polls poll next }

/-- The `catch` of `dispatchBatch` tries the batch again while there are attempts left. Any
other exception ends the poll. -/
def afterThrow (config : KeeperConfig) (poll : Poll) : Poll :=
  match poll.phase with
  | .resolving batch attempt | .marking batch attempt _ _ =>
    if attempt = config.maxRetries then {} else { poll with phase := .resolving batch (attempt + 1) }
  | .idle | .storing .. => {}

def step (config : KeeperConfig) (state : QueueState) : QueueStep → Except Unit QueueState
  | .turn auction inspected book nowMs =>
    match turn state.store auction inspected book nowMs with
    | .enqueues job => .ok { state with
        store := state.store.write (.enqueueDispatchJob job)
        enqueued := job.requestId :: state.enqueued }
    | .skips | .aborts => .ok state
  | .write write =>
    if write.LeavesJobs then .ok { state with store := state.store.write write } else .error ()
  | .takeBatch poll nowMs =>
    match (state.polls poll).phase with
    | .idle =>
      let batch := (state.store.listPendingDispatchJobs config.maxBatchSize).map toDispatchJob
      .ok (state.setPoll poll { state.polls poll with
        phase := if batch.isEmpty then .storing nowMs [] else .resolving batch 0 })
    | _ => .error ()
  | .resolveBatch poll resolutions =>
    match (state.polls poll).phase with
    | .resolving batch attempt => .ok (state.setPoll poll { state.polls poll with
        phase := .marking batch attempt resolutions resolutions })
    | _ => .error ()
  | .markCompleted poll nowMs =>
    match (state.polls poll).phase with
    | .marking batch attempt resolutions (resolution :: todo) =>
      .ok ({ state with
        store := state.store.write (.markDispatchJobCompleted resolution.requestId nowMs) }.setPoll poll {
          phase := .marking batch attempt resolutions todo
          marked := if state.store.dispatchJobs.has resolution.requestId then
            resolution.requestId :: (state.polls poll).marked else (state.polls poll).marked })
    | _ => .error ()
  | .batchResolved poll nowMs =>
    match (state.polls poll).phase with
    | .marking _ _ resolutions [] => .ok (state.setPoll poll { state.polls poll with
        phase := .storing nowMs resolutions })
    | _ => .error ()
  | .storeResolutionArtifact poll =>
    match (state.polls poll).phase with
    | .storing storedAtMs (resolution :: todo) =>
      .ok ({ state with
        store := state.store.write (.storeResolutionArtifact (toArtifact resolution storedAtMs)) }.setPoll poll
          { state.polls poll with phase := .storing storedAtMs todo })
    | _ => .error ()
  | .finish poll =>
    match (state.polls poll).phase with
    | .storing _ [] => .ok (state.setPoll poll {})
    | _ => .error ()
  | .throws poll => .ok (state.setPoll poll (afterThrow config (state.polls poll)))
  | .stop => .ok { state with polls := fun _ => {} }

/-- The step ends a poll: the poll is done, its exception is not caught, or the process stops. -/
def Ends (config : KeeperConfig) (state : QueueState) (poll : ℕ) : QueueStep → Prop
  | .finish finished => finished = poll
  | .throws thrower => thrower = poll ∧ (afterThrow config (state.polls poll)).phase = .idle
  | .stop => True
  | _ => False

/-- A poll the step ends has stored the artifact of each request it has marked. -/
def Delivers (config : KeeperConfig) (state : QueueState) (input : QueueStep) : Prop :=
  ∀ poll, state.Ends config poll input →
    ∀ requestId ∈ (state.polls poll).marked, state.store.resolutions.has requestId = true

end QueueState

/-- The job of the request is listed, its artifact is stored, or the next pass of the
monitor makes it pending again. -/
def AuctionStateStore.Kept (store : AuctionStateStore) (env : External σ) (w : World σ) (account : Address)
    (nowMs : Number) (requestId : Text) : Prop :=
  (∃ limit, ∃ job ∈ store.listPendingDispatchJobs limit, job.requestId = requestId) ∨
    (store.getResolutionArtifact requestId).isSome = true ∨
      (enqueuePendingResolutionJobs env w account nowMs store).hasPendingDispatchJob requestId = true

/-- A pass leaves every job that is there as it is. -/
theorem get_enqueueJobs {env : External σ} {w : World σ} {account : Address} {nowMs : Number} {requestId : Text}
    {found : StoredDispatchJob} (auctions : List StoredAuctionRecord) {store : AuctionStateStore}
    (present : store.dispatchJobs.get requestId = some found) :
    (enqueueJobs env w account nowMs auctions store).dispatchJobs.get requestId = some found := by
  induction auctions generalizing store with
  | nil => exact present
  | cons auction rest ih =>
    unfold enqueueJobs
    split
    · exact ih present
    · exact present
    · exact ih (AuctionStateStore.get_enqueueDispatchJob_of_found present)

/-- A request whose job is dispatched is kept by its artifact alone. -/
theorem AuctionStateStore.kept_of_dispatched {store : AuctionStateStore} {env : External σ} {w : World σ}
    {account : Address} {nowMs : Number} {requestId : Text} {job : StoredDispatchJob}
    (found : store.dispatchJobs.get requestId = some job) (dispatched : job.dispatchedAtMs ≠ none) :
    store.Kept env w account nowMs requestId ↔ store.resolutions.has requestId = true := by
  have idle : ∀ {later : AuctionStateStore}, later.dispatchJobs.get requestId = some job →
      later.hasPendingDispatchJob requestId ≠ true := by
    intro later present pending
    obtain ⟨other, same, undispatched⟩ := hasPendingDispatchJob_iff.mp pending
    obtain rfl := Option.some.inj (present.symm.trans same)
    exact dispatched undispatched
  unfold Kept
  rw [listed_iff_hasPendingDispatchJob]
  constructor
  · rintro (pending | stored | pending)
    · exact absurd pending (idle found)
    · exact stored
    · exact absurd pending (idle (get_enqueueJobs _ found))
  · intro stored
    exact .inr (.inl stored)

theorem turn_undispatched {store : AuctionStateStore} {auction : StoredAuctionRecord}
    {inspected : Except Revert PendingResolutionJob} {book : Except Revert (List StoredDispatchBid × ℤ)}
    {nowMs : Number} {job : StoredDispatchJob} (enqueues : turn store auction inspected book nowMs = .enqueues job) :
    job.dispatchedAtMs = none := by
  unfold turn at enqueues
  repeat' split at enqueues
  all_goals cases enqueues
  rfl

namespace QueueState

variable {config : KeeperConfig} {state next : QueueState} {input : QueueStep}

/-- Requests were enqueued before they are resolved, and a poll answers for what it has
marked until the artifact is there. -/
structure Answered (state : QueueState) : Prop where
  enqueued : ∀ requestId ∈ state.enqueued,
    state.store.dispatchJobs.has requestId = true ∨ state.store.resolutions.has requestId = true
  marked : ∀ poll, ∀ requestId ∈ (state.polls poll).marked,
    ∃ job, state.store.dispatchJobs.get requestId = some job ∧ job.dispatchedAtMs ≠ none
  dispatched : ∀ requestId job, state.store.dispatchJobs.get requestId = some job → job.dispatchedAtMs ≠ none →
    state.store.resolutions.has requestId = true ∨ ∃ poll, requestId ∈ (state.polls poll).marked

theorem answered_initial : Answered {} where
  enqueued := fun _ member => nomatch member
  marked := fun _ _ member => nomatch member
  dispatched := fun _ _ found => nomatch found

/-- After an exception a poll has ended, or goes on and still answers for what it has marked. -/
theorem afterThrow_cases (config : KeeperConfig) (poll : Poll) :
    afterThrow config poll = {} ∨ ∃ phase, afterThrow config poll = { poll with phase } := by
  unfold afterThrow
  split
  · split
    · exact .inl rfl
    · exact .inr ⟨_, rfl⟩
  · split
    · exact .inl rfl
    · exact .inr ⟨_, rfl⟩
  · exact .inl rfl
  · exact .inl rfl

/-- Polls may end that have nothing left to answer for. -/
theorem Answered.polled (answered : state.Answered) (store : next.store = state.store)
    (enqueued : next.enqueued = state.enqueued)
    (kept : ∀ poll, ∀ requestId ∈ (next.polls poll).marked, requestId ∈ (state.polls poll).marked)
    (left : ∀ poll, ∀ requestId ∈ (state.polls poll).marked,
      requestId ∈ (next.polls poll).marked ∨ state.store.resolutions.has requestId = true) : next.Answered where
  enqueued := by
    rw [store, enqueued]
    exact answered.enqueued
  marked := by
    rw [store]
    exact fun poll requestId member => answered.marked poll requestId (kept poll requestId member)
  dispatched := by
    rw [store]
    intro requestId job found dispatched
    rcases answered.dispatched requestId job found dispatched with stored | ⟨poll, member⟩
    · exact .inl stored
    · rcases left poll requestId member with still | stored
      · exact .inr ⟨poll, still⟩
      · exact .inl stored

theorem Answered.setPoll (answered : state.Answered) {poll : ℕ} {phase : PollPhase} :
    (state.setPoll poll { state.polls poll with phase }).Answered := by
  have same : ∀ other, ((state.setPoll poll { state.polls poll with phase }).polls other).marked =
      (state.polls other).marked := by
    intro other
    simp only [QueueState.setPoll, Function.update_apply]
    split
    · rename_i here
      rw [here]
    · rfl
  refine answered.polled rfl rfl (fun other requestId member => ?_) fun other requestId member => ?_
  · rwa [same] at member
  · rw [same]
    exact .inl member

theorem Answered.endPoll (answered : state.Answered) {poll : ℕ}
    (delivered : ∀ requestId ∈ (state.polls poll).marked, state.store.resolutions.has requestId = true) :
    (state.setPoll poll {}).Answered := by
  refine answered.polled rfl rfl (fun other requestId member => ?_) fun other requestId member => ?_
  · simp only [QueueState.setPoll, Function.update_apply] at member
    split at member
    · cases member
    · exact member
  · by_cases here : other = poll
    · subst here
      exact .inr (delivered requestId member)
    · refine .inl ?_
      simpa only [QueueState.setPoll, Function.update_of_ne here] using member

/-- A write that leaves the jobs as they are. -/
theorem Answered.written (answered : state.Answered) {store : AuctionStateStore}
    (jobs : store.dispatchJobs = state.store.dispatchJobs)
    (stored : ∀ requestId, state.store.resolutions.has requestId = true → store.resolutions.has requestId = true) :
    ({ state with store } : QueueState).Answered where
  enqueued := by
    intro requestId member
    show store.dispatchJobs.has requestId = true ∨ store.resolutions.has requestId = true
    rw [jobs]
    exact (answered.enqueued requestId member).imp_right (stored requestId)
  marked := by
    dsimp only
    rw [jobs]
    exact answered.marked
  dispatched := by
    dsimp only
    rw [jobs]
    exact fun requestId job found dispatched =>
      (answered.dispatched requestId job found dispatched).imp_left (stored requestId)

theorem Answered.enqueue (answered : state.Answered) {job : StoredDispatchJob} (fresh : job.dispatchedAtMs = none) :
    ({ state with
      store := state.store.enqueueDispatchJob job
      enqueued := job.requestId :: state.enqueued } : QueueState).Answered where
  enqueued := by
    intro requestId member
    dsimp only at member ⊢
    rw [AuctionStateStore.enqueueDispatchJob_resolutions]
    by_cases stored : state.store.resolutions.has requestId = true
    · exact .inr stored
    refine .inl (Keyed.has_iff.mpr ?_)
    cases found : state.store.dispatchJobs.get requestId with
    | some other => exact ⟨other, AuctionStateStore.get_enqueueDispatchJob_of_found found⟩
    | none =>
      have absent : ¬ state.store.dispatchJobs.has requestId = true := by
        rw [Keyed.has, found]
        exact Bool.false_ne_true
      rcases List.mem_cons.mp member with rfl | before
      · exact ⟨job, by rw [AuctionStateStore.get_enqueueDispatchJob, if_pos ⟨rfl, not_or.mpr ⟨absent, stored⟩⟩]⟩
      · exact absurd (answered.enqueued requestId before) (not_or.mpr ⟨absent, stored⟩)
  marked := by
    intro poll requestId member
    obtain ⟨other, found, dispatched⟩ := answered.marked poll requestId member
    exact ⟨other, AuctionStateStore.get_enqueueDispatchJob_of_found found, dispatched⟩
  dispatched := by
    intro requestId other found dispatched
    dsimp only at found ⊢
    rw [AuctionStateStore.enqueueDispatchJob_resolutions]
    rw [AuctionStateStore.get_enqueueDispatchJob] at found
    split at found
    · cases found
      exact absurd fresh dispatched
    · exact answered.dispatched requestId other found dispatched

theorem Answered.mark (answered : state.Answered) {poll : ℕ} {nowMs : Number} {requestId : Text} {phase : PollPhase} :
    ({ state with store := state.store.markDispatchJobCompleted requestId nowMs }.setPoll poll {
      phase
      marked := if state.store.dispatchJobs.has requestId then requestId :: (state.polls poll).marked
        else (state.polls poll).marked } : QueueState).Answered where
  enqueued := by
    intro other member
    rcases answered.enqueued other member with present | stored
    · refine .inl (Keyed.has_iff.mpr ?_)
      obtain ⟨job, found⟩ := Keyed.has_iff.mp present
      simp only [QueueState.setPoll, AuctionStateStore.get_markDispatchJobCompleted]
      split
      · rename_i same
        rw [← same, found]
        exact ⟨_, rfl⟩
      · exact ⟨job, found⟩
    · refine .inr ?_
      simpa only [QueueState.setPoll, AuctionStateStore.markDispatchJobCompleted_resolutions] using stored
  marked := by
    intro owner other member
    have before : other ∈ (state.polls owner).marked ∨
        (other = requestId ∧ state.store.dispatchJobs.has requestId = true) := by
      simp only [QueueState.setPoll, Function.update_apply] at member
      split at member
      · rename_i here
        subst here
        split at member
        · rename_i present
          rcases List.mem_cons.mp member with rfl | earlier
          · exact .inr ⟨rfl, present⟩
          · exact .inl earlier
        · exact .inl member
      · exact .inl member
    simp only [QueueState.setPoll, AuctionStateStore.get_markDispatchJobCompleted]
    rcases before with earlier | ⟨rfl, present⟩
    · obtain ⟨job, found, dispatched⟩ := answered.marked owner other earlier
      split
      · rename_i same
        rw [← same, found]
        exact ⟨_, rfl, Option.some_ne_none _⟩
      · exact ⟨job, found, dispatched⟩
    · obtain ⟨job, found⟩ := Keyed.has_iff.mp present
      rw [if_pos rfl, found]
      exact ⟨_, rfl, Option.some_ne_none _⟩
  dispatched := by
    intro other job found dispatched
    simp only [QueueState.setPoll, AuctionStateStore.get_markDispatchJobCompleted,
      AuctionStateStore.markDispatchJobCompleted_resolutions] at found ⊢
    split at found
    · rename_i same
      subst same
      obtain ⟨marked, present, -⟩ := Option.map_eq_some_iff.mp found
      refine .inr ⟨poll, ?_⟩
      rw [Function.update_self, if_pos (Keyed.has_iff.mpr ⟨marked, present⟩)]
      exact List.mem_cons_self
    · refine (answered.dispatched other job found dispatched).imp_right ?_
      rintro ⟨owner, member⟩
      refine ⟨owner, ?_⟩
      simp only [Function.update_apply]
      split
      · rename_i here
        rw [here] at member
        dsimp only
        split
        · exact List.mem_cons_of_mem _ member
        · exact member
      · exact member

/-- One step: what a poll leaves behind when it ends is stored. -/
theorem Answered.step (answered : state.Answered) (delivers : state.Delivers config input)
    (done : state.step config input = .ok next) : next.Answered := by
  cases input with
  | turn auction inspected book nowMs =>
    simp only [QueueState.step] at done
    split at done
    · rename_i job enqueues
      cases done
      exact answered.enqueue (turn_undispatched enqueues)
    all_goals
      cases done
      exact answered
  | write write =>
    simp only [QueueState.step] at done
    split at done
    · rename_i leaves
      cases done
      exact answered.written (AuctionStateStore.write_dispatchJobs leaves) fun _ stored =>
        AuctionStateStore.write_resolutions_has stored
    · cases done
  | takeBatch poll nowMs =>
    simp only [QueueState.step] at done
    split at done
    · cases done
      exact answered.setPoll
    · cases done
  | resolveBatch poll resolutions =>
    simp only [QueueState.step] at done
    split at done
    · cases done
      exact answered.setPoll
    · cases done
  | markCompleted poll nowMs =>
    simp only [QueueState.step] at done
    split at done
    · cases done
      exact answered.mark
    · cases done
  | batchResolved poll nowMs =>
    simp only [QueueState.step] at done
    split at done
    · cases done
      exact answered.setPoll
    · cases done
  | storeResolutionArtifact poll =>
    simp only [QueueState.step] at done
    split at done
    · rename_i storedAtMs resolution todo _
      cases done
      have stored : ({ state with
          store := state.store.write (.storeResolutionArtifact (toArtifact resolution storedAtMs)) } :
            QueueState).Answered := answered.written rfl fun _ => AuctionStateStore.write_resolutions_has
      exact stored.setPoll
    · cases done
  | finish poll =>
    simp only [QueueState.step] at done
    split at done
    · cases done
      exact answered.endPoll (delivers poll rfl)
    · cases done
  | throws poll =>
    cases done
    rcases afterThrow_cases config (state.polls poll) with ends | ⟨phase, again⟩
    · rw [ends]
      exact answered.endPoll (delivers poll ⟨rfl, by rw [ends]⟩)
    · rw [again]
      exact answered.setPoll
  | stop =>
    cases done
    exact answered.polled rfl rfl (fun _ _ member => absurd member List.not_mem_nil) fun poll requestId member =>
      .inr (delivers poll trivial requestId member)

theorem run_answered {inputs : List QueueStep}
    (delivers : Along (QueueState.step config) (QueueState.Delivers config) {} inputs) :
    (play (QueueState.step config) {} inputs).Answered :=
  play_preserves_along (fun _ _ _ answered delivers done => answered.step delivers done) answered_initial delivers

end QueueState

end Keeper

/-- The keeper's queue from an empty store, with any turns of the monitor, any polls of the
dispatcher, any answers of the chain and of the client, and any exceptions and stops, as
long as a poll does not end with a job marked whose artifact it has not stored. In every
state reached a request that was enqueued is pending, or resolved, or the next pass makes
it pending again, unless a poll under way has marked its job and has yet to store its
artifact. In between nothing else keeps it. -/
theorem requests_kept (config : KeeperConfig) (inputs : List QueueStep)
    (delivers : Along (QueueState.step config) (QueueState.Delivers config) {} inputs) (env : External σ) (w : World σ)
    (account : Address) (nowMs : Number) (requestId : Text) :
    let state := play (QueueState.step config) {} inputs
    requestId ∈ state.enqueued → (state.store.Kept env w account nowMs requestId ↔
      ∀ poll, requestId ∈ (state.polls poll).marked → state.store.resolutions.has requestId = true) := by
  intro state enqueued
  have answered : state.Answered := QueueState.run_answered delivers
  by_cases stored : state.store.resolutions.has requestId = true
  · exact iff_of_true (.inr (.inl stored)) fun _ _ => stored
  obtain ⟨job, found⟩ := Keyed.has_iff.mp ((answered.enqueued requestId enqueued).resolve_right stored)
  cases dispatched : job.dispatchedAtMs with
  | none =>
    refine iff_of_true (.inl ?_) fun poll member => ?_
    · rw [AuctionStateStore.listed_iff_hasPendingDispatchJob, AuctionStateStore.hasPendingDispatchJob_iff]
      exact ⟨job, found, dispatched⟩
    · obtain ⟨other, same, marked⟩ := answered.marked poll requestId member
      obtain rfl := Option.some.inj (found.symm.trans same)
      exact absurd dispatched marked
  | some dispatchedAtMs =>
    have marked : job.dispatchedAtMs ≠ none := by
      rw [dispatched]
      exact nofun
    rw [AuctionStateStore.kept_of_dispatched found marked]
    refine iff_of_false stored fun owed => ?_
    obtain ⟨poll, member⟩ := (answered.dispatched requestId job found marked).resolve_left stored
    exact stored (owed poll member)

/-- What the local client answers, nothing where it throws. -/
def localAnswer (jobs : List CoFheDispatchJob) : List CoFheResolution :=
  ((LocalCofheBatchClient.resolveBatch jobs).toOption).getD []

/-- The monitor enqueues the request of the only auction, and the dispatcher marks its job. -/
def dispatchOnlyJob (env : External σ) (w : World σ) : List QueueStep :=
  let auction : StoredAuctionRecord := {
    auctionId := 1
    state := 2
    endTime := 1100
    trackedAtMs := 0
    retryCount := 0 }
  let enqueued := [.write (.upsertAuction auction),
    .turn auction (w.inspectTriggeredAuction 1) (w.readBidBook env 8 1) 1]
  let state := play (QueueState.step { maxBatchSize := 10, maxRetries := 4 }) {} enqueued
  enqueued ++ [.takeBatch 0 2,
    .resolveBatch 0 (localAnswer ((state.store.listPendingDispatchJobs 10).map toDispatchJob)),
    .markCompleted 0 3]

set_option maxRecDepth 4000 in
/-- The process stops before it has stored the artifact, and the request is lost. -/
theorem dispatchOnlyJob_stopped_lost :
    let w := shieldedDeployment.run zkChain (fun _ => 9) (onlyBid (CofheCiphertextEncoding.encodeEuint96 60))
    let state := play (QueueState.step { maxBatchSize := 10, maxRetries := 4 }) {} (dispatchOnlyJob zkChain w ++ [.stop])
    let requestId := Text.hash (w.market.auctions 1).resolutionRequest.requestId
    (w.market.auctions 1).auction.state = .resolving ∧ requestId ∈ state.enqueued ∧
      ∀ account nowMs, ¬ state.store.Kept zkChain w account nowMs requestId := by
  intro w state requestId
  have dispatched : (state.store.dispatchJobs.get requestId).map (·.dispatchedAtMs) = some (some 3) := by
    decide +kernel
  obtain ⟨job, found, marked⟩ := Option.map_eq_some_iff.mp dispatched
  refine ⟨by decide +kernel, by decide +kernel, fun account nowMs kept => ?_⟩
  have stored := (AuctionStateStore.kept_of_dispatched found (by rw [marked]; exact nofun)).mp kept
  exact absurd stored (by decide +kernel)

set_option maxRecDepth 4000 in
/-- It stores the artifact first, and the request is kept. -/
theorem dispatchOnlyJob_delivered_kept :
    let w := shieldedDeployment.run zkChain (fun _ => 9) (onlyBid (CofheCiphertextEncoding.encodeEuint96 60))
    let state := play (QueueState.step { maxBatchSize := 10, maxRetries := 4 }) {}
      (dispatchOnlyJob zkChain w ++ [.batchResolved 0 4, .storeResolutionArtifact 0, .finish 0])
    state.store.Kept zkChain w 8 5 (.hash (w.market.auctions 1).resolutionRequest.requestId) := by
  intro w state
  refine (requests_kept { maxBatchSize := 10, maxRetries := 4 } _ ?_ zkChain w 8 5 _ (by decide +kernel)).mpr
    fun _ _ => by decide +kernel
  dsimp only [dispatchOnlyJob, List.cons_append, List.nil_append, Along]
  -- only the last step ends the poll
  refine ⟨fun _ ends => ends.elim, fun _ ends => ends.elim, fun _ ends => ends.elim, fun _ ends => ends.elim,
    fun _ ends => ends.elim, fun _ ends => ends.elim, fun _ ends => ends.elim, fun poll ends => ?_, trivial⟩
  cases ends
  decide +kernel

end FairMarket
