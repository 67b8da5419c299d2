import FairMarket.Keeper.CofheDispatcher
import FairMarket.Lib.Keyed
import Mathlib.Data.List.Sort
import Mathlib.Data.Rat.Defs
import Mathlib.Algebra.Order.Ring.Unbundled.Rat
import Mathlib.Data.Int.Log
import Mathlib.Data.Rat.Floor
import Mathlib.Data.Sign.Defs

/-! What the roles of the keeper remember. Ids and amounts are `bigint`s, everything else
that is counted or timed is a `number`. -/

namespace FairMarket

namespace Keeper

/-- A `number`. Those that are finite are kept as the rationals they are. -/
inductive Number where
  | finite (value : ℚ)
  | infinity
  | negativeInfinity
  | nan
  deriving DecidableEq

instance (n : ℕ) : OfNat Number n := ⟨.finite n⟩

instance : Inhabited Number := ⟨0⟩

/-- The difference of two numbers is not positive, so that a sort by it leaves them in order. -/
def Number.precedes : Number → Number → Bool
  | .finite left, .finite right => left ≤ right
  | .infinity, .finite _ | .infinity, .negativeInfinity | .finite _, .negativeInfinity => false
  | _, _ => true

/-- The number nearest to a value: in doubt the even one, and none from `2 ^ 1024` on. -/
def Number.nearest (value : ℚ) : Number :=
  let spacing : ℚ := 2 ^ (max (Int.log 2 |value|) (-1022) - 52)
  let below := ⌊value / spacing⌋
  let rest := value / spacing - below
  let rounded := (if rest < 1 / 2 ∨ rest = 1 / 2 ∧ 2 ∣ below then below else below + 1) * spacing
  if 2 ^ 1024 ≤ rounded then .infinity
  else if rounded ≤ -2 ^ 1024 then .negativeInfinity
  else .finite rounded

/-- `Number` of a `bigint`. -/
def Number.ofBigInt (value : ℤ) : Number := .nearest value

def Number.sign : Number → SignType
  | .finite value => SignType.sign value
  | .infinity => 1
  | .negativeInfinity => -1
  | .nan => 0

def Number.plus : Number → Number → Number
  | .finite left, .finite right => .nearest (left + right)
  | .nan, _ | _, .nan | .infinity, .negativeInfinity | .negativeInfinity, .infinity => .nan
  | .infinity, _ | _, .infinity => .infinity
  | _, _ => .negativeInfinity

def Number.times : Number → Number → Number
  | .finite left, .finite right => .nearest (left * right)
  | left, right =>
    match left.sign * right.sign with
    | 0 => .nan
    | 1 => .infinity
    | -1 => .negativeInfinity

def Number.atMost (left right : Number) : Bool := left ≠ .nan ∧ right ≠ .nan ∧ left.precedes right

structure StoredAuctionRecord where
  auctionId : ℤ
  state : ℤ
  endTime : ℤ
  sellerDeposit : Option ℤ := none
  trackedAtMs : Number
  lastFinalizeAttemptAtMs : Option Number := none
  retryCount : Number
  deriving DecidableEq

structure FinalizeAttemptRecord where
  auctionId : ℤ
  executionNonce : Number
  keeperId : Text
  success : Bool
  retryCount : Number
  backoffMs : Number
  txHash : Option Text := none
  gasUsed : Option ℤ := none
  incentiveWei : Option ℤ := none
  recordedAtMs : Number
  error : Option Text := none
  deriving DecidableEq

structure RaceConditionRecord where
  auctionId : ℤ
  executionNonce : Number
  keeperId : Text
  reason : Text
  detectedAtMs : Number
  deriving DecidableEq

structure StoredDispatchBid where
  bidder : Text
  encryptedBid : Text
  availableEscrow : ℤ
  isShielded : Option Bool := none
  deriving DecidableEq

structure StoredDispatchJob where
  auctionId : ℤ
  requestId : Text
  winnerHandle : Text
  amountHandle : Text
  startingPrice : ℤ
  bids : List StoredDispatchBid
  enqueuedAtMs : Number
  dispatchedAtMs : Option Number := none
  deriving DecidableEq

structure StoredResolutionArtifact where
  requestId : Text
  auctionId : ℤ
  winner : Text
  winnerKind : Option WinnerKind := none
  winnerCiphertext : Text
  avsProof : Text
  winningAmount : ℤ
  storedAtMs : Number
  submittedAtMs : Option Number := none
  deriving DecidableEq

@[ext] structure AuctionStateStore where
  auctions : Keyed StoredAuctionRecord.auctionId := .empty
  finalizeAttempts : List FinalizeAttemptRecord := []
  raceConditions : List RaceConditionRecord := []
  dispatchJobs : Keyed StoredDispatchJob.requestId := .empty
  resolutions : Keyed StoredResolutionArtifact.requestId := .empty

namespace AuctionStateStore

def upsertAuction (store : AuctionStateStore) (record : StoredAuctionRecord) : AuctionStateStore :=
  { store with auctions := store.auctions.set record }

def updateAuctionState (store : AuctionStateStore) (auctionId state : ℤ) (trackedAtMs : Number) :
    AuctionStateStore :=
  match store.auctions.get auctionId with
  | none => store
  | some existing => { store with auctions := store.auctions.set { existing with state, trackedAtMs } }

def getAuction (store : AuctionStateStore) (auctionId : ℤ) : Option StoredAuctionRecord :=
  store.auctions.get auctionId

def listAuctions (store : AuctionStateStore) : List StoredAuctionRecord := store.auctions.values

def listReadyAuctions (store : AuctionStateStore) (nowMs finalizeLeadSeconds : Number) :
    List StoredAuctionRecord :=
  let finalizeLeadMs := finalizeLeadSeconds.times 1000
  store.listAuctions.filter fun record => record.state = 1 ∧
    ((Number.ofBigInt record.endTime).times 1000).atMost (nowMs.plus finalizeLeadMs)

def recordFinalizeAttempt (store : AuctionStateStore) (record : FinalizeAttemptRecord) : AuctionStateStore :=
  let recorded := { store with finalizeAttempts := store.finalizeAttempts ++ [record] }
  match store.auctions.get record.auctionId with
  | none => recorded
  | some auction => { recorded with
      auctions := store.auctions.set { auction with
        lastFinalizeAttemptAtMs := some record.recordedAtMs
        retryCount := record.retryCount } }

def listFinalizeAttempts (store : AuctionStateStore) : List FinalizeAttemptRecord := store.finalizeAttempts

def recordRaceCondition (store : AuctionStateStore) (record : RaceConditionRecord) : AuctionStateStore :=
  { store with raceConditions := store.raceConditions ++ [record] }

def listRaceConditions (store : AuctionStateStore) : List RaceConditionRecord := store.raceConditions

def enqueueDispatchJob (store : AuctionStateStore) (job : StoredDispatchJob) : AuctionStateStore :=
  if store.dispatchJobs.has job.requestId ∨ store.resolutions.has job.requestId then store
  else { store with dispatchJobs := store.dispatchJobs.set job }

def hasPendingDispatchJob (store : AuctionStateStore) (requestId : Text) : Bool :=
  match store.dispatchJobs.get requestId with
  | none => false
  | some job => job.dispatchedAtMs = none

def listDispatchJobs (store : AuctionStateStore) : List StoredDispatchJob := store.dispatchJobs.values

/-- The undispatched jobs, the longest waiting ones first and as many as fit. -/
def listPendingDispatchJobs (store : AuctionStateStore) (limit : ℕ) : List StoredDispatchJob :=
  ((store.dispatchJobs.values.filter fun job => job.dispatchedAtMs = none).insertionSort
    fun left right => left.enqueuedAtMs.precedes right.enqueuedAtMs).take limit

def markDispatchJobCompleted (store : AuctionStateStore) (requestId : Text) (dispatchedAtMs : Number) :
    AuctionStateStore :=
  match store.dispatchJobs.get requestId with
  | none => store
  | some job => { store with dispatchJobs := store.dispatchJobs.set { job with
      dispatchedAtMs := some dispatchedAtMs } }

def storeResolutionArtifact (store : AuctionStateStore) (artifact : StoredResolutionArtifact) :
    AuctionStateStore :=
  { store with resolutions := store.resolutions.set artifact }

def getResolutionArtifact (store : AuctionStateStore) (requestId : Text) : Option StoredResolutionArtifact :=
  store.resolutions.get requestId

def listResolutionArtifacts (store : AuctionStateStore) : List StoredResolutionArtifact := store.resolutions.values

def listPendingResolutionArtifacts (store : AuctionStateStore) (limit : ℕ) : List StoredResolutionArtifact :=
  ((store.resolutions.values.filter fun artifact => artifact.submittedAtMs = none).insertionSort
    fun left right => left.storedAtMs.precedes right.storedAtMs).take limit

def markResolutionArtifactSubmitted (store : AuctionStateStore) (requestId : Text) (submittedAtMs : Number) :
    AuctionStateStore :=
  match store.resolutions.get requestId with
  | none => store
  | some artifact => { store with resolutions := store.resolutions.set { artifact with
      submittedAtMs := some submittedAtMs } }

end AuctionStateStore

/-- The calls that change a store. -/
inductive StoreWrite where
  | upsertAuction (record : StoredAuctionRecord)
  | updateAuctionState (auctionId state : ℤ) (trackedAtMs : Number)
  | recordFinalizeAttempt (record : FinalizeAttemptRecord)
  | recordRaceCondition (record : RaceConditionRecord)
  | enqueueDispatchJob (job : StoredDispatchJob)
  | markDispatchJobCompleted (requestId : Text) (dispatchedAtMs : Number)
  | storeResolutionArtifact (artifact : StoredResolutionArtifact)
  | markResolutionArtifactSubmitted (requestId : Text) (submittedAtMs : Number)

def AuctionStateStore.write (store : AuctionStateStore) : StoreWrite → AuctionStateStore
  | .upsertAuction record => store.upsertAuction record
  | .updateAuctionState auctionId state trackedAtMs => store.updateAuctionState auctionId state trackedAtMs
  | .recordFinalizeAttempt record => store.recordFinalizeAttempt record
  | .recordRaceCondition record => store.recordRaceCondition record
  | .enqueueDispatchJob job => store.enqueueDispatchJob job
  | .markDispatchJobCompleted requestId dispatchedAtMs => store.markDispatchJobCompleted requestId dispatchedAtMs
  | .storeResolutionArtifact artifact => store.storeResolutionArtifact artifact
  | .markResolutionArtifactSubmitted requestId submittedAtMs =>
    store.markResolutionArtifactSubmitted requestId submittedAtMs

/-- The job for a request, dispatched or not, is not the business of this write. -/
def StoreWrite.LeavesJobs : StoreWrite → Prop
  | .enqueueDispatchJob _ | .markDispatchJobCompleted .. | .storeResolutionArtifact _ => False
  | _ => True

instance : DecidablePred StoreWrite.LeavesJobs := fun write => by
  cases write <;> unfold StoreWrite.LeavesJobs <;> infer_instance

namespace AuctionStateStore

variable {store : AuctionStateStore} {requestId : Text}

theorem updateAuctionState_eq (store : AuctionStateStore) (auctionId state : ℤ) (trackedAtMs : Number) :
    store.updateAuctionState auctionId state trackedAtMs =
      { store with auctions := store.auctions.modify auctionId ({ · with state, trackedAtMs }) } := by
  unfold updateAuctionState Keyed.modify
  cases store.auctions.get auctionId with
  | none => rfl
  | some existing => rfl

theorem recordFinalizeAttempt_eq (store : AuctionStateStore) (record : FinalizeAttemptRecord) :
    store.recordFinalizeAttempt record =
      { store with
        finalizeAttempts := store.finalizeAttempts ++ [record]
        auctions := store.auctions.modify record.auctionId ({ · with
          lastFinalizeAttemptAtMs := some record.recordedAtMs
          retryCount := record.retryCount }) } := by
  unfold recordFinalizeAttempt Keyed.modify
  cases store.auctions.get record.auctionId with
  | none => rfl
  | some auction => rfl

theorem markDispatchJobCompleted_eq (store : AuctionStateStore) (requestId : Text) (nowMs : Number) :
    store.markDispatchJobCompleted requestId nowMs =
      { store with
        dispatchJobs := store.dispatchJobs.modify requestId ({ · with dispatchedAtMs := some nowMs }) } := by
  unfold markDispatchJobCompleted Keyed.modify
  cases store.dispatchJobs.get requestId with
  | none => rfl
  | some job => rfl

theorem markResolutionArtifactSubmitted_eq (store : AuctionStateStore) (requestId : Text) (nowMs : Number) :
    store.markResolutionArtifactSubmitted requestId nowMs =
      { store with
        resolutions := store.resolutions.modify requestId ({ · with submittedAtMs := some nowMs }) } := by
  unfold markResolutionArtifactSubmitted Keyed.modify
  cases store.resolutions.get requestId with
  | none => rfl
  | some artifact => rfl

/-- A job that the store knows of is not enqueued again. -/
theorem enqueueDispatchJob_eq (store : AuctionStateStore) (job : StoredDispatchJob) :
    store.enqueueDispatchJob job = { store with
      dispatchJobs := if store.dispatchJobs.has job.requestId ∨ store.resolutions.has job.requestId
        then store.dispatchJobs else store.dispatchJobs.set job } := by
  unfold enqueueDispatchJob
  split
  · rfl
  · rfl

theorem write_dispatchJobs {write : StoreWrite} (leaves : write.LeavesJobs) :
    (store.write write).dispatchJobs = store.dispatchJobs := by
  cases write with
  | upsertAuction record => rfl
  | updateAuctionState auctionId state trackedAtMs =>
    rw [AuctionStateStore.write, updateAuctionState_eq]
  | recordFinalizeAttempt record =>
    rw [AuctionStateStore.write, recordFinalizeAttempt_eq]
  | recordRaceCondition record => rfl
  | markResolutionArtifactSubmitted requestId submittedAtMs =>
    rw [AuctionStateStore.write, markResolutionArtifactSubmitted_eq]
  | _ => cases leaves

/-- Artifacts are overwritten, never dropped. -/
theorem write_resolutions_has {write : StoreWrite} (stored : store.resolutions.has requestId = true) :
    (store.write write).resolutions.has requestId = true := by
  cases write with
  | upsertAuction record => exact stored
  | updateAuctionState auctionId state trackedAtMs =>
    rw [AuctionStateStore.write, updateAuctionState_eq]
    exact stored
  | recordFinalizeAttempt record =>
    rw [AuctionStateStore.write, recordFinalizeAttempt_eq]
    exact stored
  | recordRaceCondition record => exact stored
  | enqueueDispatchJob job =>
    rw [AuctionStateStore.write, enqueueDispatchJob_eq]
    exact stored
  | markDispatchJobCompleted requestId dispatchedAtMs =>
    rw [AuctionStateStore.write, markDispatchJobCompleted_eq]
    exact stored
  | storeResolutionArtifact artifact =>
    rw [AuctionStateStore.write, storeResolutionArtifact, Keyed.has, Keyed.get_set]
    split
    · rfl
    · exact stored
  | markResolutionArtifactSubmitted requestId submittedAtMs =>
    rw [AuctionStateStore.write, markResolutionArtifactSubmitted_eq, Keyed.has_modify]
    · exact stored
    · exact fun _ => rfl

theorem get_enqueueDispatchJob (store : AuctionStateStore) (job : StoredDispatchJob) (requestId : Text) :
    (store.enqueueDispatchJob job).dispatchJobs.get requestId =
      if requestId = job.requestId ∧ ¬ (store.dispatchJobs.has job.requestId ∨
        store.resolutions.has job.requestId) then some job else store.dispatchJobs.get requestId := by
  unfold enqueueDispatchJob
  by_cases known : store.dispatchJobs.has job.requestId ∨ store.resolutions.has job.requestId
  · rw [if_pos known, if_neg fun fresh => fresh.2 known]
  · rw [if_neg known, Keyed.get_set]
    simp only [known, not_false_eq_true, and_true]

/-- A job that is there is not enqueued again. -/
theorem get_enqueueDispatchJob_of_found {job found : StoredDispatchJob}
    (present : store.dispatchJobs.get requestId = some found) :
    (store.enqueueDispatchJob job).dispatchJobs.get requestId = some found := by
  rw [get_enqueueDispatchJob, if_neg, present]
  rintro ⟨rfl, fresh⟩
  exact fresh (.inl (Keyed.has_iff.mpr ⟨found, present⟩))

theorem get_markDispatchJobCompleted (store : AuctionStateStore) (marked requestId : Text) (nowMs : Number) :
    (store.markDispatchJobCompleted marked nowMs).dispatchJobs.get requestId =
      if requestId = marked then (store.dispatchJobs.get marked).map ({ · with dispatchedAtMs := some nowMs })
      else store.dispatchJobs.get requestId := by
  rw [markDispatchJobCompleted_eq]
  apply Keyed.get_modify
  intro job
  rfl

theorem enqueueDispatchJob_resolutions (store : AuctionStateStore) (job : StoredDispatchJob) :
    (store.enqueueDispatchJob job).resolutions = store.resolutions := by
  rw [enqueueDispatchJob_eq]

theorem markDispatchJobCompleted_resolutions (store : AuctionStateStore) (requestId : Text) (nowMs : Number) :
    (store.markDispatchJobCompleted requestId nowMs).resolutions = store.resolutions := by
  rw [markDispatchJobCompleted_eq]

/-- What is listed as pending are the undispatched jobs of the store. -/
theorem mem_listPendingDispatchJobs {job : StoredDispatchJob} :
    (∃ limit, job ∈ store.listPendingDispatchJobs limit) ↔
      job ∈ store.dispatchJobs.values ∧ job.dispatchedAtMs = none := by
  constructor
  · rintro ⟨limit, listed⟩
    have member := (List.mem_insertionSort _).mp (List.mem_of_mem_take listed)
    simpa using member
  · intro pending
    have member : job ∈ store.dispatchJobs.values.filter fun job => job.dispatchedAtMs = none := by
      simpa using pending
    refine ⟨store.dispatchJobs.values.length, ?_⟩
    unfold listPendingDispatchJobs
    rw [List.take_of_length_le]
    · exact (List.mem_insertionSort _).mpr member
    · rw [List.length_insertionSort]
      exact List.length_filter_le ..

theorem hasPendingDispatchJob_iff : store.hasPendingDispatchJob requestId = true ↔
    ∃ job, store.dispatchJobs.get requestId = some job ∧ job.dispatchedAtMs = none := by
  unfold hasPendingDispatchJob
  cases store.dispatchJobs.get requestId with
  | none => simp
  | some job => simp

/-- A request is listed if its job is pending. -/
theorem listed_iff_hasPendingDispatchJob :
    (∃ limit, ∃ job ∈ store.listPendingDispatchJobs limit, job.requestId = requestId) ↔
      store.hasPendingDispatchJob requestId = true := by
  rw [hasPendingDispatchJob_iff]
  constructor
  · rintro ⟨limit, job, listed, rfl⟩
    obtain ⟨member, undispatched⟩ := mem_listPendingDispatchJobs.mp ⟨limit, listed⟩
    exact ⟨job, Keyed.get_of_mem member, undispatched⟩
  · rintro ⟨job, found, undispatched⟩
    obtain ⟨limit, listed⟩ := mem_listPendingDispatchJobs.mpr ⟨Keyed.mem_of_get found, undispatched⟩
    exact ⟨limit, job, listed, Keyed.key_of_get found⟩

end AuctionStateStore

end Keeper

end FairMarket
