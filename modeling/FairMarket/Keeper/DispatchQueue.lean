import FairMarket.Keeper.ResolutionQueue

/-! The queue in memory and the dispatcher that works it off. A call waits for the client
and for the queue, and other calls go on meanwhile. -/

namespace FairMarket

namespace Keeper

/-- What the dispatcher throws of its own. A turn that no call waits for is not due. -/
inductive DispatchError where
  | duplicateRequestId (requestId : Text)
  | notDue
  deriving DecidableEq

structure InMemoryDispatchQueue where
  pending : Keyed CoFheDispatchJob.requestId := .empty
  completed : Keyed (Prod.fst : Text × CoFheResolution → Text) := .empty
  order : List Text := []

namespace InMemoryDispatchQueue

def enqueue (queue : InMemoryDispatchQueue) (job : CoFheDispatchJob) :
    Except DispatchError InMemoryDispatchQueue := do
  revertIf (queue.pending.has job.requestId ∨ queue.completed.has job.requestId)
    (.duplicateRequestId job.requestId)
  return { queue with
    pending := queue.pending.set job
    order := queue.order ++ [job.requestId] }

def takeBatch (queue : InMemoryDispatchQueue) (maxBatchSize : ℕ) : List CoFheDispatchJob :=
  let requestIds := (queue.order.filter queue.pending.has).take maxBatchSize
  requestIds.filterMap queue.pending.get

def markCompleted (queue : InMemoryDispatchQueue) (requestId : Text) (resolution : CoFheResolution) :
    InMemoryDispatchQueue :=
  { queue with
    pending := queue.pending.erase requestId
    completed := queue.completed.set (requestId, resolution) }

end InMemoryDispatchQueue

structure DispatchMetrics where
  successfulBatches : ℕ := 0
  failedBatches : ℕ := 0
  successfulRequests : ℕ := 0
  failedRequests : ℕ := 0

variable {ε : Type}

/-- Where a call of `dispatch` or `dispatchPendingBatch` stands. -/
inductive DispatchPhase (ε : Type) where
  | waiting (batch : List CoFheDispatchJob) (attempt : ℕ)
  | handed (batch : List CoFheDispatchJob) (attempt : ℕ)
  | marking (resolutions todo : List CoFheResolution)
  | returned (resolutions : List CoFheResolution)
  | threw (lastError : ε)

/-- The calls are in the order they were made. -/
structure CofheDispatcher (ε : Type) where
  queue : InMemoryDispatchQueue := {}
  metrics : DispatchMetrics := {}
  calls : List (DispatchPhase ε) := []

/-- A call of a method, or a turn of one that is under way: it hands its batch to the client,
the client answers or throws, and the resolutions of the answer are marked one by one. -/
inductive DispatcherStep (ε : Type) where
  | enqueue (job : CoFheDispatchJob)
  | dispatch (job : CoFheDispatchJob)
  | dispatchPendingBatch
  | resolveBatch (call : ℕ)
  | answer (call : ℕ) (answer : Except ε (List CoFheResolution))
  | markCompleted (call : ℕ)

namespace CofheDispatcher

def setCall (dispatcher : CofheDispatcher ε) (call : ℕ) (phase : DispatchPhase ε) : CofheDispatcher ε :=
  { dispatcher with calls := dispatcher.calls.set call phase }

def step (config : KeeperConfig) (dispatcher : CofheDispatcher ε) :
    DispatcherStep ε → Except DispatchError (CofheDispatcher ε)
  | .enqueue job => do
    let queue ← dispatcher.queue.enqueue job
    return { dispatcher with queue }
  | .dispatch job => do
    let queue ← dispatcher.queue.enqueue job
    return { dispatcher with
      queue
      calls := dispatcher.calls ++ [.waiting [job] 0] }
  | .dispatchPendingBatch =>
    let batch := dispatcher.queue.takeBatch config.maxBatchSize
    .ok { dispatcher with
      calls := dispatcher.calls ++ [if batch.length = 0 then .returned [] else .waiting batch 0] }
  | .resolveBatch call =>
    match dispatcher.calls[call]? with
    | some (.waiting batch attempt) => .ok (dispatcher.setCall call (.handed batch attempt))
    | _ => .error .notDue
  | .answer call (.ok resolutions) =>
    match dispatcher.calls[call]? with
    | some (.handed _ _) => .ok (dispatcher.setCall call (.marking resolutions resolutions))
    | _ => .error .notDue
  | .answer call (.error lastError) =>
    match dispatcher.calls[call]? with
    | some (.handed batch attempt) =>
      if attempt = config.maxRetries then
        .ok { dispatcher.setCall call (.threw lastError) with
          metrics.failedBatches := dispatcher.metrics.failedBatches + 1
          metrics.failedRequests := dispatcher.metrics.failedRequests + batch.length }
      else .ok (dispatcher.setCall call (.waiting batch (attempt + 1)))
    | _ => .error .notDue
  | .markCompleted call =>
    match dispatcher.calls[call]? with
    | some (.marking resolutions (resolution :: todo)) =>
      .ok { dispatcher.setCall call (.marking resolutions todo) with
        queue := dispatcher.queue.markCompleted resolution.requestId resolution
        metrics.successfulRequests := dispatcher.metrics.successfulRequests + 1 }
    | some (.marking resolutions []) =>
      .ok { dispatcher.setCall call (.returned resolutions) with
        metrics.successfulBatches := dispatcher.metrics.successfulBatches + 1 }
    | _ => .error .notDue

end CofheDispatcher

/-- The job the call puts into the queue. -/
def DispatcherStep.accepts : DispatcherStep ε → List CoFheDispatchJob
  | .enqueue job | .dispatch job => [job]
  | .dispatchPendingBatch | .resolveBatch _ | .answer _ _ | .markCompleted _ => []

section Queue

variable {queue next : InMemoryDispatchQueue} {job : CoFheDispatchJob} {accepted : List CoFheDispatchJob}

theorem InMemoryDispatchQueue.enqueue_eq_ok :
    queue.enqueue job = .ok next ↔
      ¬ (queue.pending.has job.requestId = true ∨ queue.completed.has job.requestId = true) ∧
        { queue with
          pending := queue.pending.set job
          order := queue.order ++ [job.requestId] } = next := by
  simp only [InMemoryDispatchQueue.enqueue, bind_eq_ok, exists_revertIf, pure_eq_ok, Except.ok.injEq]

theorem InMemoryDispatchQueue.enqueue_duplicate
    (known : queue.pending.has job.requestId = true ∨ queue.completed.has job.requestId = true) :
    queue.enqueue job = .error (.duplicateRequestId job.requestId) := by
  rw [InMemoryDispatchQueue.enqueue, revertIf, if_pos known]
  rfl

/-- The queue holds the jobs it has accepted, each as a pending or as a completed one. -/
structure InMemoryDispatchQueue.Accounts (queue : InMemoryDispatchQueue) (accepted : List CoFheDispatchJob) :
    Prop where
  order : queue.order = accepted.map (·.requestId)
  distinct : queue.order.Nodup
  known : ∀ requestId, requestId ∈ queue.order ↔
    queue.pending.has requestId = true ∨ queue.completed.has requestId = true
  apart : ∀ requestId, queue.pending.has requestId = true → ¬ queue.completed.has requestId = true
  stored : ∀ job ∈ accepted, queue.pending.has job.requestId = true →
    queue.pending.get job.requestId = some job

namespace InMemoryDispatchQueue.Accounts

theorem initial : ({} : InMemoryDispatchQueue).Accounts [] where
  order := rfl
  distinct := List.nodup_nil
  known requestId := iff_of_false List.not_mem_nil (by simp [Keyed.has])
  apart requestId pending := absurd pending Bool.false_ne_true
  stored := List.forall_mem_nil _

theorem enqueue (accounts : queue.Accounts accepted) (enqueues : queue.enqueue job = .ok next) :
    next.Accounts (accepted ++ [job]) := by
  obtain ⟨fresh, rfl⟩ := InMemoryDispatchQueue.enqueue_eq_ok.mp enqueues
  have unknown : job.requestId ∉ queue.order := fun member => fresh ((accounts.known _).mp member)
  constructor
  · rw [accounts.order, List.map_append, List.map_singleton]
  · exact accounts.distinct.append (List.nodup_singleton _) (by simpa using unknown)
  · intro requestId
    rw [List.mem_append, List.mem_singleton, accounts.known, Keyed.has_set]
    tauto
  · intro requestId pending
    rcases (Keyed.has_set _ _ _).mp pending with rfl | before
    · exact (not_or.mp fresh).2
    · exact accounts.apart requestId before
  · intro other member pending
    rcases List.mem_append.mp member with before | last
    · have known : other.requestId ∈ queue.order := by
        rw [accounts.order]
        exact List.mem_map_of_mem before
      have differs : other.requestId ≠ job.requestId := by
        intro same
        exact unknown (same ▸ known)
      have remains := ((Keyed.has_set _ _ _).mp pending).resolve_left differs
      exact (Keyed.get_set_of_ne _ differs).trans (accounts.stored other before remains)
    · rw [List.mem_singleton.mp last]
      exact Keyed.get_set_self _ _

theorem markCompleted (accounts : queue.Accounts accepted) {requestId : Text} (known : requestId ∈ queue.order)
    (resolution : CoFheResolution) : (queue.markCompleted requestId resolution).Accounts accepted := by
  constructor
  · exact accounts.order
  · exact accounts.distinct
  · intro other
    rw [InMemoryDispatchQueue.markCompleted, Keyed.has_erase, Keyed.has_set]
    by_cases same : other = requestId
    · subst same
      exact iff_of_true known (.inr (.inl rfl))
    · rw [accounts.known]
      tauto
  · intro other pending completed
    obtain ⟨differs, pending⟩ := (Keyed.has_erase _ _ _).mp pending
    exact accounts.apart other pending (((Keyed.has_set _ _ _).mp completed).resolve_left differs)
  · intro job member pending
    obtain ⟨differs, pending⟩ := (Keyed.has_erase _ _ _).mp pending
    rw [InMemoryDispatchQueue.markCompleted, Keyed.get_erase, if_neg differs]
    exact accounts.stored job member pending

/-- A batch is the oldest jobs that are pending. -/
theorem takeBatch_eq (accounts : queue.Accounts accepted) (maxBatchSize : ℕ) :
    queue.takeBatch maxBatchSize =
      (accepted.filter fun job => queue.pending.has job.requestId).take maxBatchSize := by
  rw [InMemoryDispatchQueue.takeBatch, accounts.order, List.filter_map, ← List.map_take, List.filterMap_map]
  have found : ∀ job ∈ (accepted.filter (queue.pending.has ∘ (·.requestId))).take maxBatchSize,
      (queue.pending.get ∘ (·.requestId)) job = some job := by
    intro job member
    obtain ⟨accepted, pending⟩ := List.mem_filter.mp (List.mem_of_mem_take member)
    exact accounts.stored job accepted pending
  rw [List.filterMap_congr found, List.filterMap_some]
  rfl

theorem takeBatch_nodup (accounts : queue.Accounts accepted) (maxBatchSize : ℕ) :
    ((queue.takeBatch maxBatchSize).map (·.requestId)).Nodup := by
  rw [accounts.takeBatch_eq]
  have oldest : ((accepted.filter fun job => queue.pending.has job.requestId).take maxBatchSize).Sublist accepted :=
    (List.take_sublist maxBatchSize _).trans List.filter_sublist
  have distinct : (accepted.map (·.requestId)).Nodup := accounts.order ▸ accounts.distinct
  exact distinct.sublist (oldest.map _)

theorem takeBatch_pending (accounts : queue.Accounts accepted) {maxBatchSize : ℕ}
    (member : job ∈ queue.takeBatch maxBatchSize) : queue.pending.has job.requestId = true := by
  rw [accounts.takeBatch_eq] at member
  exact (List.mem_filter.mp (List.mem_of_mem_take member)).2

end InMemoryDispatchQueue.Accounts

end Queue

namespace DispatchPhase

/-- The batch of a call that has not been answered. -/
def batch : DispatchPhase ε → Option (List CoFheDispatchJob)
  | .waiting batch _ | .handed batch _ => some batch
  | _ => none

/-- The requests the call may still mark. -/
def requestIds : DispatchPhase ε → List Text
  | .waiting batch _ | .handed batch _ => batch.map (·.requestId)
  | .marking _ todo => todo.map (·.requestId)
  | .returned _ | .threw _ => []

def Settled : DispatchPhase ε → Prop
  | .returned _ | .threw _ => True
  | _ => False

theorem forall_batch {phase : DispatchPhase ε} (answered : phase.batch = none)
    {holds : List CoFheDispatchJob → Prop} : ∀ batch, phase.batch = some batch → holds batch := by
  intro batch under
  rw [answered] at under
  cases under

end DispatchPhase

namespace CofheDispatcher

variable {config : KeeperConfig} {dispatcher next : CofheDispatcher ε} {event : DispatcherStep ε}
  {accepted : List CoFheDispatchJob}

/-- The client resolves no request but those of the batch it was handed. -/
def FromBatch (dispatcher : CofheDispatcher ε) : DispatcherStep ε → Prop
  | .answer call (.ok resolutions) => ∀ batch attempt, dispatcher.calls[call]? = some (.handed batch attempt) →
      ∀ resolution ∈ resolutions, resolution.requestId ∈ batch.map (·.requestId)
  | _ => True

/-- No call is made before the last one is over. -/
def Awaits (dispatcher : CofheDispatcher ε) : DispatcherStep ε → Prop
  | .enqueue _ | .dispatch _ | .dispatchPendingBatch => ∀ phase ∈ dispatcher.calls, phase.Settled
  | _ => True

inductive Moves (config : KeeperConfig) (dispatcher : CofheDispatcher ε) :
    DispatcherStep ε → CofheDispatcher ε → Prop where
  | enqueue {job : CoFheDispatchJob} {queue : InMemoryDispatchQueue}
      (enqueues : dispatcher.queue.enqueue job = .ok queue) :
      Moves config dispatcher (.enqueue job) { dispatcher with queue }
  | dispatch {job : CoFheDispatchJob} {queue : InMemoryDispatchQueue}
      (enqueues : dispatcher.queue.enqueue job = .ok queue) :
      Moves config dispatcher (.dispatch job) { dispatcher with
        queue
        calls := dispatcher.calls ++ [.waiting [job] 0] }
  | idle (empty : dispatcher.queue.takeBatch config.maxBatchSize = []) :
      Moves config dispatcher .dispatchPendingBatch { dispatcher with
        calls := dispatcher.calls ++ [.returned []] }
  | takes (nonempty : dispatcher.queue.takeBatch config.maxBatchSize ≠ []) :
      Moves config dispatcher .dispatchPendingBatch { dispatcher with
        calls := dispatcher.calls ++ [.waiting (dispatcher.queue.takeBatch config.maxBatchSize) 0] }
  | hands {call : ℕ} {batch : List CoFheDispatchJob} {attempt : ℕ}
      (waits : dispatcher.calls[call]? = some (.waiting batch attempt)) :
      Moves config dispatcher (.resolveBatch call) (dispatcher.setCall call (.handed batch attempt))
  | resolves {call : ℕ} {batch : List CoFheDispatchJob} {attempt : ℕ} {resolutions : List CoFheResolution}
      (waits : dispatcher.calls[call]? = some (.handed batch attempt)) :
      Moves config dispatcher (.answer call (.ok resolutions))
        (dispatcher.setCall call (.marking resolutions resolutions))
  | retries {call : ℕ} {batch : List CoFheDispatchJob} {attempt : ℕ} {lastError : ε}
      (waits : dispatcher.calls[call]? = some (.handed batch attempt)) (left : attempt ≠ config.maxRetries) :
      Moves config dispatcher (.answer call (.error lastError))
        (dispatcher.setCall call (.waiting batch (attempt + 1)))
  | throws {call : ℕ} {batch : List CoFheDispatchJob} {lastError : ε}
      (waits : dispatcher.calls[call]? = some (.handed batch config.maxRetries)) :
      Moves config dispatcher (.answer call (.error lastError)) { dispatcher.setCall call (.threw lastError) with
        metrics.failedBatches := dispatcher.metrics.failedBatches + 1
        metrics.failedRequests := dispatcher.metrics.failedRequests + batch.length }
  | marks {call : ℕ} {resolutions todo : List CoFheResolution} {resolution : CoFheResolution}
      (waits : dispatcher.calls[call]? = some (.marking resolutions (resolution :: todo))) :
      Moves config dispatcher (.markCompleted call) { dispatcher.setCall call (.marking resolutions todo) with
        queue := dispatcher.queue.markCompleted resolution.requestId resolution
        metrics.successfulRequests := dispatcher.metrics.successfulRequests + 1 }
  | returns {call : ℕ} {resolutions : List CoFheResolution}
      (waits : dispatcher.calls[call]? = some (.marking resolutions [])) :
      Moves config dispatcher (.markCompleted call) { dispatcher.setCall call (.returned resolutions) with
        metrics.successfulBatches := dispatcher.metrics.successfulBatches + 1 }

theorem step_moves (done : dispatcher.step config event = .ok next) : Moves config dispatcher event next := by
  cases event with
  | enqueue job =>
    obtain ⟨queue, enqueues, same⟩ := bind_eq_ok.mp done
    cases same
    exact .enqueue enqueues
  | dispatch job =>
    obtain ⟨queue, enqueues, same⟩ := bind_eq_ok.mp done
    cases same
    exact .dispatch enqueues
  | dispatchPendingBatch =>
    cases done
    by_cases empty : dispatcher.queue.takeBatch config.maxBatchSize = []
    · simpa [empty] using Moves.idle empty
    · simpa [empty] using Moves.takes empty
  | resolveBatch call =>
    simp only [step] at done
    split at done
    · rename_i waits
      cases done
      exact .hands waits
    · cases done
  | answer call answer =>
    cases answer with
    | ok resolutions =>
      simp only [step] at done
      split at done
      · rename_i waits
        cases done
        exact .resolves waits
      · cases done
    | error lastError =>
      simp only [step] at done
      split at done
      · rename_i waits
        split at done
        · rename_i last
          cases done
          exact .throws (last ▸ waits)
        · rename_i left
          cases done
          exact .retries waits left
      · cases done
  | markCompleted call =>
    simp only [step] at done
    split at done
    · rename_i waits
      cases done
      exact .marks waits
    · rename_i waits
      cases done
      exact .returns waits
    · cases done

/-- The calls that are under way know of no request that was not accepted. -/
structure Accounted (dispatcher : CofheDispatcher ε) (accepted : List CoFheDispatchJob) : Prop where
  queue : dispatcher.queue.Accounts accepted
  inFlight : ∀ phase ∈ dispatcher.calls, ∀ requestId ∈ phase.requestIds, requestId ∈ dispatcher.queue.order

namespace Accounted

theorem initial : ({} : CofheDispatcher ε).Accounted [] where
  queue := .initial
  inFlight := List.forall_mem_nil _

theorem known (accounted : dispatcher.Accounted accepted) {call : ℕ} {phase : DispatchPhase ε}
    (found : dispatcher.calls[call]? = some phase) :
    ∀ requestId ∈ phase.requestIds, requestId ∈ dispatcher.queue.order :=
  accounted.inFlight phase (List.mem_of_getElem? found)

theorem setCall (accounted : dispatcher.Accounted accepted) {call : ℕ} {phase : DispatchPhase ε}
    (known : ∀ requestId ∈ phase.requestIds, requestId ∈ dispatcher.queue.order) :
    ∀ other ∈ (dispatcher.setCall call phase).calls, ∀ requestId ∈ other.requestIds,
      requestId ∈ dispatcher.queue.order := by
  intro other member
  rcases List.mem_or_eq_of_mem_set member with before | rfl
  · exact accounted.inFlight other before
  · exact known

theorem push (accounted : dispatcher.Accounted accepted) {phase : DispatchPhase ε} {order : List Text}
    (grows : dispatcher.queue.order ⊆ order) (known : ∀ requestId ∈ phase.requestIds, requestId ∈ order) :
    ∀ other ∈ dispatcher.calls ++ [phase], ∀ requestId ∈ other.requestIds, requestId ∈ order := by
  intro other member
  rcases List.mem_append.mp member with before | last
  · exact fun requestId mentions => grows (accounted.inFlight other before requestId mentions)
  · rw [List.mem_singleton.mp last]
    exact known

theorem unchanged (silent : event.accepts = []) (accounted : dispatcher.Accounted accepted) :
    dispatcher.Accounted (accepted ++ event.accepts) := by
  rw [silent, List.append_nil]
  exact accounted

theorem step (accounted : dispatcher.Accounted accepted) (honest : dispatcher.FromBatch event)
    (done : dispatcher.step config event = .ok next) : next.Accounted (accepted ++ event.accepts) := by
  cases step_moves done with
  | enqueue enqueues =>
    obtain ⟨-, rfl⟩ := InMemoryDispatchQueue.enqueue_eq_ok.mp enqueues
    refine ⟨accounted.queue.enqueue enqueues, fun phase member requestId mentions => ?_⟩
    exact List.mem_append_left _ (accounted.inFlight phase member requestId mentions)
  | dispatch enqueues =>
    obtain ⟨-, rfl⟩ := InMemoryDispatchQueue.enqueue_eq_ok.mp enqueues
    refine ⟨accounted.queue.enqueue enqueues, accounted.push (List.subset_append_left _ _) ?_⟩
    exact fun requestId mentions => List.mem_append_right _ mentions
  | idle =>
    exact unchanged rfl ⟨accounted.queue, accounted.push (List.Subset.refl _) (List.forall_mem_nil _)⟩
  | takes =>
    refine unchanged rfl ⟨accounted.queue, accounted.push (List.Subset.refl _) fun requestId mentions => ?_⟩
    obtain ⟨job, member, rfl⟩ := List.mem_map.mp mentions
    exact (accounted.queue.known _).mpr (.inl (accounted.queue.takeBatch_pending member))
  | hands waits | retries waits =>
    refine unchanged rfl ⟨accounted.queue, accounted.setCall fun requestId mentions => ?_⟩
    exact accounted.known waits requestId mentions
  | resolves waits =>
    refine unchanged rfl ⟨accounted.queue, accounted.setCall fun requestId mentions => ?_⟩
    obtain ⟨resolution, member, rfl⟩ := List.mem_map.mp mentions
    exact accounted.known waits _ (honest _ _ waits resolution member)
  | marks waits =>
    obtain ⟨taken, rest⟩ := List.forall_mem_cons.mp (accounted.known waits)
    exact unchanged rfl ⟨accounted.queue.markCompleted taken _, accounted.setCall rest⟩
  | throws waits | returns waits =>
    exact unchanged rfl ⟨accounted.queue, accounted.setCall (List.forall_mem_nil _)⟩

end Accounted

/-- The jobs put into the queue, in order, by a run from the empty queue. -/
def acceptedJobs (config : KeeperConfig) (events : List (DispatcherStep ε)) : List CoFheDispatchJob :=
  outputs (step config) (fun _ event => event.accepts) {} events

theorem run_accounted {events : List (DispatcherStep ε)}
    (honest : Along (step config) FromBatch {} events) :
    (play (step config) {} events).Accounted (acceptedJobs config events) := by
  induction events using List.reverseRecOn with
  | nil => exact .initial
  | append_singleton events event ih =>
    obtain ⟨before, last, -⟩ := along_append.mp honest
    have reached := ih before
    cases done : (play (step config) {} events).step config event with
    | ok next =>
      rw [play_accepted done, acceptedJobs, outputs_accepted done]
      exact reached.step last done
    | error raised =>
      rw [play_refused done, acceptedJobs, outputs_refused done]
      exact reached

/-- A completed request stays completed. -/
theorem completed_step {requestId : Text} (completed : dispatcher.queue.completed.has requestId = true)
    (done : dispatcher.step config event = .ok next) : next.queue.completed.has requestId = true := by
  cases step_moves done with
  | enqueue enqueues | dispatch enqueues =>
    obtain ⟨-, rfl⟩ := InMemoryDispatchQueue.enqueue_eq_ok.mp enqueues
    exact completed
  | marks => exact (Keyed.has_set _ _ _).mpr (.inr completed)
  | idle | takes | hands | resolves | retries | throws | returns => exact completed

theorem completed_run {requestId : Text} (completed : dispatcher.queue.completed.has requestId = true)
    (events : List (DispatcherStep ε)) :
    (play (step config) dispatcher events).queue.completed.has requestId = true := by
  refine @play_preserves _ _ _ (step config) (fun state => state.queue.completed.has requestId = true) ?_ _
    completed events
  intro state event next completed done
  exact completed_step completed done

theorem completed_later {before : List (DispatcherStep ε)} {requestId : Text}
    (completed : (play (step config) {} before).queue.completed.has requestId = true)
    (after : List (DispatcherStep ε)) :
    (play (step config) {} (before ++ after)).queue.completed.has requestId = true := by
  rw [play_append]
  exact completed_run completed after

/-- The call has no batch to hand over but this one. -/
def Carries (dispatcher : CofheDispatcher ε) (call : ℕ) (batch : List CoFheDispatchJob) : Prop :=
  ∃ phase, dispatcher.calls[call]? = some phase ∧ ∀ other, phase.batch = some other → other = batch

namespace Carries

variable {call turn : ℕ} {batch : List CoFheDispatchJob} {phase old : DispatchPhase ε}

theorem push (carries : dispatcher.Carries call batch) {queue : InMemoryDispatchQueue} :
    ({ dispatcher with queue, calls := dispatcher.calls ++ [phase] } : CofheDispatcher ε).Carries call batch := by
  obtain ⟨before, found, same⟩ := carries
  have bound := (List.getElem?_eq_some_iff.mp found).1
  exact ⟨before, (List.getElem?_append_left bound).trans found, same⟩

theorem setCall (carries : dispatcher.Carries call batch) (waits : dispatcher.calls[turn]? = some old)
    (keeps : ∀ other, phase.batch = some other → old.batch = some other) :
    (dispatcher.setCall turn phase).Carries call batch := by
  obtain ⟨before, found, same⟩ := carries
  have bound := (List.getElem?_eq_some_iff.mp waits).1
  by_cases here : turn = call
  · subst here
    refine ⟨phase, List.getElem?_set_self bound, fun other under => ?_⟩
    obtain rfl : before = old := Option.some.inj (found.symm.trans waits)
    exact same other (keeps other under)
  · exact ⟨before, (List.getElem?_set_ne here).trans found, same⟩

theorem step (carries : dispatcher.Carries call batch) (done : dispatcher.step config event = .ok next) :
    next.Carries call batch := by
  cases step_moves done with
  | enqueue => exact carries
  | dispatch | idle | takes => exact carries.push
  | hands waits | retries waits => exact carries.setCall waits fun _ under => under
  | resolves waits | throws waits | marks waits | returns waits =>
    exact carries.setCall waits (DispatchPhase.forall_batch rfl)

end Carries

/-- `dispatchPendingBatch` hands over the batch it takes when it is called. -/
theorem takeBatch_carries {before after : List (DispatcherStep ε)} {batch : List CoFheDispatchJob} {attempt : ℕ}
    (handed : (play (step config) {} (before ++ .dispatchPendingBatch :: after)).calls[
      (play (step config) {} before).calls.length]? = some (.handed batch attempt)) :
    batch = (play (step config) {} before).queue.takeBatch config.maxBatchSize := by
  generalize state : play (step config) {} before = taking at handed ⊢
  rw [play_append, play_cons, state] at handed
  have called : (advance (step config) taking .dispatchPendingBatch).Carries taking.calls.length
      (taking.queue.takeBatch config.maxBatchSize) := by
    refine ⟨_, List.getElem?_concat_length, fun other under => ?_⟩
    split at under
    · cases under
    · exact (Option.some.inj under).symm
  obtain ⟨phase, found, same⟩ := play_preserves (fun _ _ _ carries done => Carries.step carries done) called after
  obtain rfl := Option.some.inj (found.symm.trans handed)
  exact same batch rfl

/-- No call is under way but the last one, and its batch is pending. -/
def Sequential (dispatcher : CofheDispatcher ε) : Prop :=
  ∀ call phase, dispatcher.calls[call]? = some phase → ¬ phase.Settled →
    call + 1 = dispatcher.calls.length ∧
      ∀ batch, phase.batch = some batch → ∀ job ∈ batch, dispatcher.queue.pending.has job.requestId = true

namespace Sequential

variable {phase old : DispatchPhase ε} {queue : InMemoryDispatchQueue} {metrics : DispatchMetrics}

theorem of_settled (settled : ∀ phase ∈ dispatcher.calls, phase.Settled) : dispatcher.Sequential := by
  intro call phase found unsettled
  exact absurd (settled phase (List.mem_of_getElem? found)) unsettled

theorem push (settled : ∀ phase ∈ dispatcher.calls, phase.Settled)
    (pending : ∀ batch, phase.batch = some batch → ∀ job ∈ batch, queue.pending.has job.requestId = true) :
    ({ dispatcher with queue, calls := dispatcher.calls ++ [phase] } : CofheDispatcher ε).Sequential := by
  intro call other found unsettled
  rw [List.getElem?_append] at found
  split at found
  · exact absurd (settled other (List.mem_of_getElem? found)) unsettled
  · obtain ⟨bound, rfl⟩ := List.getElem?_eq_some_iff.mp found
    rw [List.length_singleton] at bound
    rw [List.getElem_singleton, List.length_append, List.length_singleton]
    exact ⟨by omega, pending⟩

theorem setCall (sequential : dispatcher.Sequential) {call : ℕ} (waits : dispatcher.calls[call]? = some old)
    (unsettled : ¬ old.Settled)
    (pending : ∀ batch, phase.batch = some batch → ∀ job ∈ batch, queue.pending.has job.requestId = true) :
    (⟨queue, metrics, dispatcher.calls.set call phase⟩ : CofheDispatcher ε).Sequential := by
  intro turn other found ongoing
  have last := (sequential call old waits unsettled).1
  rw [List.length_set]
  rw [List.getElem?_set] at found
  split at found
  · rename_i here
    subst here
    obtain rfl := Option.some.inj (Option.ite_none_right_eq_some.mp found).2
    exact ⟨last, pending⟩
  · rename_i differs
    -- any other call under way would be the last one as well
    have same := (sequential turn other found ongoing).1
    exact absurd (Nat.succ.inj (last.trans same.symm)) differs

theorem pending (sequential : dispatcher.Sequential) {call : ℕ} {batch : List CoFheDispatchJob}
    (found : dispatcher.calls[call]? = some phase) (under : phase.batch = some batch) :
    ∀ job ∈ batch, dispatcher.queue.pending.has job.requestId = true := by
  refine (sequential call phase found fun settled => ?_).2 batch under
  cases phase with
  | returned | threw => cases under
  | waiting | handed | marking => exact settled

theorem step (sequential : dispatcher.Sequential) (accounted : dispatcher.Accounted accepted)
    (awaits : dispatcher.Awaits event) (done : dispatcher.step config event = .ok next) : next.Sequential := by
  cases step_moves done with
  | enqueue => exact .of_settled awaits
  | dispatch enqueues =>
    obtain ⟨-, rfl⟩ := InMemoryDispatchQueue.enqueue_eq_ok.mp enqueues
    refine .push awaits fun batch under job member => ?_
    cases under
    rw [List.mem_singleton.mp member]
    exact (Keyed.has_set _ _ _).mpr (.inl rfl)
  | idle => exact .push awaits (DispatchPhase.forall_batch rfl)
  | takes =>
    refine .push awaits fun batch under job member => ?_
    cases under
    exact accounted.queue.takeBatch_pending member
  | hands waits | retries waits => exact sequential.setCall waits id fun _ under => sequential.pending waits under
  | resolves waits | throws waits | marks waits | returns waits =>
    exact sequential.setCall waits id (DispatchPhase.forall_batch rfl)

end Sequential

theorem run_sequential {events : List (DispatcherStep ε)} (honest : Along (step config) FromBatch {} events)
    (awaits : Along (step config) Awaits {} events) : (play (step config) {} events).Sequential := by
  induction events using List.reverseRecOn with
  | nil => exact .of_settled (List.forall_mem_nil _)
  | append_singleton events event ih =>
    obtain ⟨before, -⟩ := along_append.mp honest
    obtain ⟨earlier, last, -⟩ := along_append.mp awaits
    have reached := ih before earlier
    rw [play_append, play_cons, play_nil]
    rcases advance_cases (step config) (play (step config) {} events) event with kept | taken
    · rwa [kept]
    · exact reached.step (run_accounted before) last taken

end CofheDispatcher

/-- The dispatcher from an empty queue, with any calls of its methods, made one after
another or while others wait, and any client that throws or resolves requests of the batch
it was handed, as often as it likes. At all times an accepted request is either pending or
completed, and it stays completed. `dispatchPendingBatch` hands over the oldest jobs that
are pending when it is called, no more than the batch size and none twice; where every call
is awaited they are still pending at every attempt. A request that is known is refused. -/
theorem dispatch_queue_exact (config : KeeperConfig) (events : List (DispatcherStep ε))
    (honest : Along (CofheDispatcher.step config) CofheDispatcher.FromBatch {} events) :
    let after (events : List (DispatcherStep ε)) := play (CofheDispatcher.step config) {} events
    let queue (events : List (DispatcherStep ε)) := (after events).queue
    (∀ job ∈ CofheDispatcher.acceptedJobs config events,
      Xor ((queue events).pending.has job.requestId = true) ((queue events).completed.has job.requestId = true)) ∧
    (∀ first rest, events = first ++ rest → ∀ requestId, (queue first).completed.has requestId = true →
      (queue events).completed.has requestId = true ∧ ¬ (queue events).pending.has requestId = true) ∧
    (∀ first rest, events = first ++ .dispatchPendingBatch :: rest → ∀ batch attempt,
      (after events).calls[(after first).calls.length]? = some (.handed batch attempt) →
        batch = ((CofheDispatcher.acceptedJobs config first).filter fun job =>
          (queue first).pending.has job.requestId).take config.maxBatchSize ∧
        batch.length ≤ config.maxBatchSize ∧
        (batch.map (·.requestId)).Nodup ∧
        (∀ job ∈ batch, (queue first).pending.has job.requestId = true) ∧
        (∀ earlier later, first = earlier ++ later →
          ∀ job ∈ batch, ¬ (queue earlier).completed.has job.requestId = true) ∧
        (Along (CofheDispatcher.step config) CofheDispatcher.Awaits {} events →
          ∀ job ∈ batch, (queue events).pending.has job.requestId = true)) ∧
    ∀ job event, (queue events).pending.has job.requestId = true ∨
        (queue events).completed.has job.requestId = true →
      event = .enqueue job ∨ event = .dispatch job →
        (after events).step config event = .error (.duplicateRequestId job.requestId) ∧
          after (events ++ [event]) = after events := by
  intro after queue
  have accounted := CofheDispatcher.run_accounted honest
  refine ⟨fun job member => ?_, ?_, ?_, ?_⟩
  · have known : job.requestId ∈ (queue events).order := by
      rw [accounted.queue.order]
      exact List.mem_map_of_mem member
    rcases (accounted.queue.known _).mp known with pending | completed
    · exact .inl ⟨pending, accounted.queue.apart _ pending⟩
    · exact .inr ⟨completed, fun pending => accounted.queue.apart _ pending completed⟩
  · rintro first rest rfl requestId completed
    have remains := CofheDispatcher.completed_later completed rest
    exact ⟨remains, fun pending => accounted.queue.apart _ pending remains⟩
  · rintro first rest rfl batch attempt handed
    have before := CofheDispatcher.run_accounted (along_append.mp honest).1
    have taken := CofheDispatcher.takeBatch_carries handed
    have oldest := taken.trans (before.queue.takeBatch_eq _)
    have pending : ∀ job ∈ batch, (queue first).pending.has job.requestId = true := by
      intro job member
      exact before.queue.takeBatch_pending (taken ▸ member)
    refine ⟨oldest, ?_, ?_, pending, ?_, ?_⟩
    · rw [oldest]
      exact List.length_take_le _ _
    · rw [taken]
      exact before.queue.takeBatch_nodup _
    · rintro earlier later rfl job member completed
      exact before.queue.apart _ (pending job member) (CofheDispatcher.completed_later completed later)
    · intro awaits
      exact (CofheDispatcher.run_sequential honest awaits).pending handed rfl
  · intro job event known called
    have refused : (after events).step config event = .error (.duplicateRequestId job.requestId) := by
      have duplicate := InMemoryDispatchQueue.enqueue_duplicate known
      rcases called with rfl | rfl
      · exact bind_eq_error.mpr (.inl duplicate)
      · exact bind_eq_error.mpr (.inl duplicate)
    exact ⟨refused, play_refused refused⟩

def emptyJob (requestId : Bytes32) : CoFheDispatchJob where
  auctionId := 1
  requestId := .hash requestId
  winnerHandle := zeroHash
  amountHandle := zeroHash
  startingPrice := 0
  bids := []

/-- Three requests in batches of two: the client throws once, then leaves one of the first
two out and resolves the other twice. -/
def repeatsOne : List (DispatcherStep Unit) :=
  let resolved := localAnswer [emptyJob 1, emptyJob 1]
  [.enqueue (emptyJob 1), .enqueue (emptyJob 2), .enqueue (emptyJob 3), .dispatchPendingBatch,
    .resolveBatch 0, .answer 0 (.error ()), .resolveBatch 0, .answer 0 (.ok resolved),
    .markCompleted 0, .markCompleted 0, .markCompleted 0, .dispatchPendingBatch, .resolveBatch 1]

set_option maxRecDepth 4000 in
/-- The one left out comes first in the next batch. -/
theorem dispatch_queue_exact_repeated :
    let dispatcher := play (CofheDispatcher.step { maxBatchSize := 2, maxRetries := 1 }) {} repeatsOne
    dispatcher.queue.completed.has (.hash 1) = true ∧ ¬ dispatcher.queue.pending.has (.hash 1) = true ∧
      (dispatcher.calls[1]?.bind DispatchPhase.batch).map (·.map (·.requestId)) = some [.hash 2, .hash 3] ∧
      ∀ batch attempt, dispatcher.calls[1]? = some (.handed batch attempt) →
        batch.length ≤ 2 ∧ .hash 1 ∉ batch.map (·.requestId) := by
  intro dispatcher
  have honest : Along (CofheDispatcher.step { maxBatchSize := 2, maxRetries := 1 }) CofheDispatcher.FromBatch {}
      repeatsOne := by
    refine ⟨trivial, trivial, trivial, trivial, trivial, trivial, trivial, ?_, trivial, trivial, trivial,
      trivial, trivial, trivial⟩
    intro batch attempt handed
    have named : ((play (CofheDispatcher.step { maxBatchSize := 2, maxRetries := 1 }) {}
        (repeatsOne.take 7)).calls[0]?.bind DispatchPhase.batch).map (·.map (·.requestId)) =
          some [.hash 1, .hash 2] := by decide +kernel
    rw [show (play (CofheDispatcher.step { maxBatchSize := 2, maxRetries := 1 }) {}
        (repeatsOne.take 7)).calls[0]? = some (.handed batch attempt) from handed] at named
    have requestIds : batch.map (·.requestId) = [.hash 1, .hash 2] := Option.some.inj named
    rw [requestIds]
    decide +kernel
  have completed : (play (CofheDispatcher.step { maxBatchSize := 2, maxRetries := 1 }) {}
      (repeatsOne.take 11)).queue.completed.has (.hash 1) = true := by decide +kernel
  obtain ⟨-, stays, hands, -⟩ := dispatch_queue_exact { maxBatchSize := 2, maxRetries := 1 } repeatsOne honest
  obtain ⟨remains, gone⟩ := stays (repeatsOne.take 11) _ (List.take_append_drop 11 _).symm _ completed
  refine ⟨remains, gone, by decide +kernel, fun batch attempt handed => ?_⟩
  obtain ⟨-, bound, -, -, fresh, -⟩ := hands (repeatsOne.take 11) _ rfl batch attempt handed
  refine ⟨bound, fun member => ?_⟩
  obtain ⟨job, present, same⟩ := List.mem_map.mp member
  exact fresh _ [] (List.append_nil _).symm job present (same ▸ completed)

end Keeper

end FairMarket
