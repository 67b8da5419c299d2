import FairMarket.Keeper.Synchronization
import FairMarket.Market.Exit

/-! A round of the monitor over the auctions that are due, on the chain. Between its calls
anyone's transactions are carried out, and what it sends gets into a block, late or never. -/

namespace FairMarket

open Keeper

variable {σ : Type}

namespace Keeper

structure MonitorConfig extends FinalizeConfig where
  finalizeLeadSeconds : Number

def planDueFinalizations (config : MonitorConfig) (store : AuctionStateStore) (nowMs : Number) :
    List StoredAuctionRecord :=
  store.listReadyAuctions nowMs config.finalizeLeadSeconds

/-- The loop over the auctions that are due, with what the calls for each of them answer. -/
def finalizeEach (config : FinalizeConfig) (keeperId : Text) (answers : ℤ → FinalizeAnswers) :
    List StoredAuctionRecord → MonitorProgram (List FinalizeOutcome)
  | [] => return []
  | auction :: rest => do
    let outcome ← attemptFinalize config auction keeperId (answers auction.auctionId)
    let results ← finalizeEach config keeperId answers rest
    return outcome :: results

def executeDueFinalizations (config : MonitorConfig) (keeperId : Text) (answers : ℤ → FinalizeAnswers)
    (store : AuctionStateStore) (nowMs : Number) : MonitorProgram (List FinalizeOutcome) :=
  finalizeEach config.toFinalizeConfig keeperId answers (planDueFinalizations config store nowMs)

/-- The call triggers the auction. -/
def MonitorEvent.triggers (auctionId : ℤ) : MonitorEvent → Bool
  | .triggerFinalize triggered .. => triggered = auctionId
  | _ => false

/-- The locks and the store answer. What else is called may throw at any time. -/
structure FinalizeAnswers.Reliable (answers : FinalizeAnswers) : Prop where
  reservation : answers.reservation.isOk = true
  raceRecorded : answers.raceRecorded.isOk = true
  stores : ∀ attempt, (answers.attempts attempt).Stores
  released : answers.released.isOk = true

section Attempt

variable (config : FinalizeConfig) (auction : StoredAuctionRecord) (keeperId : Text) (executionNonce : ℕ)

/-- An attempt after which there is none: its trigger has returned, or a state other than ACTIVE was read. -/
theorem attemptOnce_last {answers : AttemptAnswers} (stores : answers.Stores) (attempt : ℕ) (last : ¬ answers.Retries) :
    (∃ nonce fee, .triggerFinalize auction.auctionId nonce fee true ∈
      (attemptOnce config auction keeperId executionNonce answers attempt).events) ∨
    ∃ state, state ≠ 1 ∧ .readAuction auction.auctionId (some state) ∈
      (attemptOnce config auction keeperId executionNonce answers attempt).events := by
  obtain ⟨-, -, -, recorded, resynced⟩ := stores
  cases triggered : answers.triggered.isOk with
  | true =>
    obtain ⟨rest, events, -⟩ := attemptOnce_events config auction keeperId executionNonce answers attempt
    left
    refine ⟨executionNonce, config.maxPriorityFeeGwei, ?_⟩
    rw [events, triggered]
    exact List.mem_cons_self
  | false =>
    right
    obtain ⟨state, read, inactive⟩ : ∃ state, answers.resynchronized.reads = some state ∧ state ≠ 1 := by
      by_contra unseen
      apply last
      refine ⟨.inl (by rw [triggered]; exact Bool.false_ne_true), recorded, ?_⟩
      intro _ state read
      by_contra inactive
      exact unseen ⟨state, read, inactive⟩
    refine ⟨state, inactive, ?_⟩
    obtain ⟨raised, submitted⟩ :=
      submitFinalize_untriggered config auction keeperId executionNonce answers attempt triggered
    obtain ⟨record, rest, handled, -, -, reads⟩ :=
      handleFailure_events config auction keeperId executionNonce answers attempt raised
    obtain ⟨others, same, -⟩ := reads recorded
    have member : .readAuction auction.auctionId (some state) ∈
        (handleFailure config auction keeperId executionNonce answers attempt raised).events := by
      rw [handled, same, read]
      exact List.mem_cons_of_mem _ List.mem_cons_self
    unfold attemptOnce
    rw [submitted, Traced.map_of_error rfl, Traced.mk_error_catching]
    apply List.mem_append_right
    rcases handleFailure_result config auction keeperId executionNonce answers attempt raised with
      ⟨-, -, returned⟩ | ⟨-, -, outcome, returned⟩ | ⟨lost, -⟩
    · rw [Traced.bind_of_ok returned]
      exact List.mem_append_left _ member
    · rw [Traced.bind_of_ok returned]
      exact List.mem_append_left _ member
    · rw [recorded] at lost
      cases lost

theorem attemptOnce_returns {answers : AttemptAnswers} (stores : answers.Stores) (attempt : ℕ) :
    ∃ ended, (attemptOnce config auction keeperId executionNonce answers attempt).result = .ok ended := by
  unfold attemptOnce
  rcases submitFinalize_result config auction keeperId executionNonce answers attempt with
    ⟨-, -, outcome, returned⟩ | ⟨-, raised, threw⟩
  · rw [Traced.map_of_ok returned]
    exact ⟨_, rfl⟩
  · rw [Traced.map_of_error threw, Traced.mk_error_catching]
    rcases handleFailure_result config auction keeperId executionNonce answers attempt raised with
      ⟨-, -, returned⟩ | ⟨-, -, outcome, returned⟩ | ⟨lost, -⟩
    · rw [Traced.bind_of_ok returned]
      exact ⟨_, rfl⟩
    · rw [Traced.bind_of_ok returned]
      exact ⟨_, rfl⟩
    · have recorded := stores.2.2.2.1
      rw [recorded] at lost
      cases lost

variable {answers : ℕ → AttemptAnswers} (stores : ∀ attempt, (answers attempt).Stores)

include stores

theorem finalizeLoop_returns (left attempt : ℕ) (lastError : Option Thrown) : ∃ outcome,
    (finalizeLoop config auction keeperId executionNonce answers left attempt lastError).result = .ok outcome := by
  induction left generalizing attempt lastError with
  | zero => exact ⟨_, rfl⟩
  | succ left ih =>
    rw [finalizeLoop]
    obtain ⟨ended, returned⟩ := attemptOnce_returns config auction keeperId executionNonce (stores attempt) attempt
    rw [Traced.bind_of_ok returned]
    cases ended with
    | inl outcome => exact ⟨outcome, rfl⟩
    | inr raised => exact ih (attempt + 1) (some raised)

/-- It uses up its attempts, unless it is told that the auction is ACTIVE no more. -/
theorem finalizeLoop_exhausts (left attempt : ℕ) (lastError : Option Thrown) :
    let events := (finalizeLoop config auction keeperId executionNonce answers left attempt lastError).events
    (∃ nonce fee, .triggerFinalize auction.auctionId nonce fee true ∈ events) ∨
      (∃ state, state ≠ 1 ∧ .readAuction auction.auctionId (some state) ∈ events) ∨
      left ≤ events.countP (·.triggers auction.auctionId) := by
  induction left generalizing attempt lastError with
  | zero => exact .inr (.inr (Nat.zero_le _))
  | succ left ih =>
    obtain ⟨later, events, -, continues⟩ :=
      finalizeLoop_events config auction keeperId executionNonce answers left attempt lastError
    obtain ⟨rest, turn, -⟩ := attemptOnce_events config auction keeperId executionNonce (answers attempt) attempt
    intro calls
    have whole : calls = (attemptOnce config auction keeperId executionNonce (answers attempt) attempt).events ++
        later := events
    by_cases retries : (answers attempt).Retries
    · obtain ⟨raised, rfl⟩ := continues retries
      rcases ih (attempt + 1) (some raised) with ⟨nonce, fee, member⟩ | ⟨state, inactive, member⟩ | counted
      · exact .inl ⟨nonce, fee, whole ▸ List.mem_append_right _ member⟩
      · exact .inr (.inl ⟨state, inactive, whole ▸ List.mem_append_right _ member⟩)
      · right
        right
        have own : (MonitorEvent.triggerFinalize auction.auctionId executionNonce config.maxPriorityFeeGwei
            (answers attempt).triggered.isOk).triggers auction.auctionId = true := decide_eq_true rfl
        rw [whole, turn, List.countP_append, List.countP_cons_of_pos own]
        omega
    · rcases attemptOnce_last config auction keeperId executionNonce (stores attempt) attempt retries with
        ⟨nonce, fee, member⟩ | ⟨state, inactive, member⟩
      · exact .inl ⟨nonce, fee, whole ▸ List.mem_append_left _ member⟩
      · exact .inr (.inl ⟨state, inactive, whole ▸ List.mem_append_left _ member⟩)

end Attempt

section Round

variable (config : FinalizeConfig) (keeperId : Text) {answers : ℤ → FinalizeAnswers}
  (reliable : ∀ auctionId, (answers auctionId).Reliable)

include reliable

theorem attemptFinalize_returns (auction : StoredAuctionRecord) (auctionId : ℤ) :
    ∃ outcome, (attemptFinalize config auction keeperId (answers auctionId)).result = .ok outcome := by
  obtain ⟨reservation, raceRecorded, stores, released⟩ := reliable auctionId
  unfold attemptFinalize Traced.call
  cases reserved : (answers auctionId).reservation with
  | error raised =>
    rw [reserved] at reservation
    cases reservation
  | ok reservation =>
    rw [Traced.mk_ok_bind]
    split
    · obtain ⟨outcome, returned⟩ := finalizeLoop_returns config auction keeperId reservation.executionNonce stores
        (config.maxRetries + 1) 0 none
      cases release : (answers auctionId).released with
      | error raised =>
        rw [release] at released
        cases released
      | ok done => exact ⟨outcome, returned⟩
    · cases race : (answers auctionId).raceRecorded with
      | error raised =>
        rw [race] at raceRecorded
        cases raceRecorded
      | ok done => exact ⟨_, rfl⟩

/-- Each auction of the round gets its attempt. -/
theorem finalizeEach_attempts {due : List StoredAuctionRecord} {auction : StoredAuctionRecord} (member : auction ∈ due) :
    (attemptFinalize config auction keeperId (answers auction.auctionId)).events.Sublist
      (finalizeEach config keeperId answers due).events := by
  induction due with
  | nil => cases member
  | cons first rest ih =>
    obtain ⟨outcome, returned⟩ := attemptFinalize_returns config keeperId reliable first first.auctionId
    rw [finalizeEach, Traced.bind_of_ok returned]
    rcases List.mem_cons.mp member with rfl | later
    · exact List.sublist_append_left ..
    · apply (ih later).trans
      apply List.Sublist.trans _ (List.sublist_append_right ..)
      cases ended : (finalizeEach config keeperId answers rest).result with
      | ok results =>
        rw [Traced.bind_of_ok ended]
        exact List.sublist_append_left ..
      | error raised => rw [Traced.bind_of_error ended]

/-- What a round calls for an auction that is due and whose lock it gets. -/
theorem finalizeEach_exhausts {due : List StoredAuctionRecord} {auction : StoredAuctionRecord} (member : auction ∈ due)
    (acquired : (answers auction.auctionId).Acquired) :
    let events := (finalizeEach config keeperId answers due).events
    (∃ nonce fee, .triggerFinalize auction.auctionId nonce fee true ∈ events) ∨
      (∃ state, state ≠ 1 ∧ .readAuction auction.auctionId (some state) ∈ events) ∨
      config.maxRetries + 1 ≤ events.countP (·.triggers auction.auctionId) := by
  intro events
  have within := finalizeEach_attempts config keeperId reliable member
  obtain ⟨executionNonce, whole⟩ := attemptFinalize_acquired config auction keeperId _ acquired
  rw [whole, List.cons_append] at within
  have loop := ((List.sublist_append_left ..).trans (List.sublist_cons_self ..)).trans within
  rcases finalizeLoop_exhausts config auction keeperId executionNonce (reliable auction.auctionId).stores
    (config.maxRetries + 1) 0 none with ⟨nonce, fee, triggered⟩ | ⟨state, inactive, read⟩ | counted
  · exact .inl ⟨nonce, fee, loop.mem triggered⟩
  · exact .inr (.inl ⟨state, inactive, loop.mem read⟩)
  · exact .inr (.inr (counted.trans loop.countP_le))

end Round

/-- In the numbers the clock and the end times come in, nothing is rounded. -/
theorem planDueFinalizations_due {config : MonitorConfig} {store : AuctionStateStore} {record : StoredAuctionRecord}
    {nowMs lead endTime : ℕ} (leads : config.finalizeLeadSeconds = .finite lead) (ends : record.endTime = endTime)
    (clock : nowMs + lead * 1000 < 2 ^ 53) (listed : record ∈ store.listAuctions) (active : record.state = 1)
    (due : endTime * 1000 ≤ nowMs + lead * 1000) : record ∈ planDueFinalizations config store (.finite nowMs) := by
  have exact_ : ∀ value : ℕ, value < 2 ^ 53 → Number.nearest ((value : ℤ) : ℚ) = .finite value := by
    intro value small
    rw [Number.nearest_intCast]
    · rfl
    · rw [Nat.abs_cast]
      exact_mod_cast small
  have thousand : ∀ value : ℕ, value * 1000 < 2 ^ 53 → (Number.finite value).times 1000 = .finite (value * 1000 : ℕ) := by
    intro value small
    rw [← exact_ _ small]
    change Number.nearest (value * ((1000 : ℕ) : ℚ)) = _
    push_cast
    rfl
  have earlier : (Number.ofBigInt record.endTime).times 1000 = .finite (endTime * 1000 : ℕ) := by
    rw [ends, Number.ofBigInt, exact_ endTime (by omega), thousand endTime (by omega)]
  have now : (Number.finite nowMs).plus (config.finalizeLeadSeconds.times 1000) =
      .finite (nowMs + lead * 1000 : ℕ) := by
    rw [leads, thousand lead (by omega), Number.plus_natCast clock]
  apply List.mem_filter.mpr
  refine ⟨listed, decide_eq_true ⟨active, ?_⟩⟩
  rw [earlier, now]
  apply decide_eq_true
  refine ⟨nofun, nofun, decide_eq_true ?_⟩
  exact_mod_cast due

end Keeper

/-- No transaction adds a contract to the market's own. -/
theorem World.transact_isSystem {env : External σ} {w next : World σ} {input : Msg × Tx σ} (wired : w.Wired env)
    (done : w.transact env input = .ok next) (account : Address) :
    next.isSystem env account = w.isSystem env account := by
  have effects := World.transact_effects wired done
  obtain ⟨-, -, -, touched, flow, transition⟩ := World.transact_transition wired done
  apply World.isSystem_eq
  · exact effects.vaults.isSome_eq
  · exact effects.bindings.isSome_eq
  · exact transition.pots.isSome_eq
  · intro address
    have owners := congrArg Option.isSome (World.transact_settings done (.engine address)).1
    change ((next.engines address).map _).isSome = ((w.engines address).map _).isSome at owners
    rw [Option.isSome_map, Option.isSome_map] at owners
    exact owners

theorem Deployment.run_isSystem (deployment : Deployment) (env : External σ) (outside : σ)
    (inputs : List (Msg × Tx σ)) (account : Address) :
    (deployment.run env outside inputs).isSystem env account =
      (deployment.genesis env outside).isSystem env account := by
  induction inputs using List.reverseRecOn with
  | nil => rfl
  | append_singleton before input ih =>
    rw [deployment.run_append_eq, play_cons, play_nil, ← ih]
    rcases advance_cases (World.transact env) (deployment.run env outside before) input with refused | done
    · rw [refused]
    · exact World.transact_isSystem (deployment.run_wired env outside before) done account

/-- What activation leads to is not left by coming back. -/
theorem AuctionState.Leads.eq_active {state : AuctionState} (leads : state.Leads .active)
    (activated : state ≠ .created) : state = .active :=
  leads.antisymm (AuctionState.active_leads activated)

/-- What becomes of a trigger that the monitor sends. -/
inductive TriggerFate where
  /-- It gets into no block. -/
  | dropped
  /-- It gets into a block of this time, and the monitor is told how it went or not. -/
  | mined (timestamp : ℕ) (told : Bool)

/-- The trigger did not get to the chain while the auction could be triggered. -/
def TriggerFate.Missed (endTime : ℕ) : TriggerFate → Prop
  | .dropped => True
  | .mined timestamp _ => timestamp < endTime

/-- What happens before a call of the monitor, and what becomes of the trigger if it is one. -/
structure RoundTurn (σ : Type) where
  earlier : List (MirrorStep σ) := []
  fate : TriggerFate := .dropped

namespace Mirror

/-- A trigger, and whether the call returns. It throws if the market refuses it. -/
def sendTrigger (env : External σ) (keeper : Address) (m : Mirror σ) (auctionId : ℤ) (returned : Bool) :
    TriggerFate → Except Unit (Mirror σ)
  | .dropped => if returned then .error () else .ok m
  | .mined timestamp told =>
    match toUint256 auctionId with
    | .error _ => if returned then .error () else .ok m
    | .ok id =>
      if timestamp < m.world.timestamp then .error ()
      else
        match m.step env (.transaction ({ sender := keeper, timestamp }, .triggerFinalize id)) with
        | .error _ => if returned then .error () else .ok m
        | .ok next => if returned = told then .ok next else .error ()

/-- A call of the monitor, refused if it cannot have had the outcome that was noted. -/
def perform (env : External σ) (keeper : Address) (m : Mirror σ) (turn : RoundTurn σ) (event : MonitorEvent) :
    Except Unit (Mirror σ) :=
  let called := play (step env) m turn.earlier
  match event with
  | .triggerFinalize auctionId _ _ returned => called.sendTrigger env keeper auctionId returned turn.fate
  | .readAuction auctionId (some state) =>
    match called.world.readAuction auctionId with
    | .error _ => .error ()
    | .ok snapshot => if snapshot.state = state then called.step env (.read auctionId) else .error ()
  | .upsertAuction record => called.step env (.file (.write .auctionMonitor (.upsertAuction record)))
  | .updateAuctionState auctionId state trackedAtMs =>
    called.step env (.file (.write .auctionMonitor (.updateAuctionState auctionId state trackedAtMs)))
  | .recordFinalizeAttempt record => called.step env (.file (.write .auctionMonitor (.recordFinalizeAttempt record)))
  | .recordRaceCondition record => called.step env (.file (.write .auctionMonitor (.recordRaceCondition record)))
  | .readAuction _ none | .getAuction _ | .sleep _ | .reserveLock .. | .releaseLock .. => .ok called

def performs (env : External σ) (keeper : Address) (m : Mirror σ) :
    List (RoundTurn σ × MonitorEvent) → Except Unit (Mirror σ)
  | [] => .ok m
  | (turn, event) :: rest => do
    let next ← m.perform env keeper turn event
    next.performs env keeper rest

variable {env : External σ} {keeper : Address} {m next : Mirror σ} {turn : RoundTurn σ}

theorem sendTrigger_steps {auctionId : ℤ} {returned : Bool} {fate : TriggerFate}
    (done : m.sendTrigger env keeper auctionId returned fate = .ok next) : ∃ steps, next = play (step env) m steps := by
  unfold sendTrigger at done
  split at done
  · split at done
    · cases done
    · exact ⟨[], (Except.ok.inj done).symm⟩
  · split at done
    · split at done
      · cases done
      · exact ⟨[], (Except.ok.inj done).symm⟩
    · split at done
      · cases done
      · split at done
        · split at done
          · cases done
          · exact ⟨[], (Except.ok.inj done).symm⟩
        · rename_i id _ triggered taken
          split at done
          · obtain rfl := Except.ok.inj done
            exact ⟨[_], (advance_ok taken).symm⟩
          · cases done

/-- What a call comes to is something that can happen anyway. -/
theorem perform_steps {event : MonitorEvent} (done : m.perform env keeper turn event = .ok next) :
    ∃ steps, next = play (step env) (play (step env) m turn.earlier) steps := by
  have single : ∀ input, (play (step env) m turn.earlier).step env input = .ok next →
      ∃ steps, next = play (step env) (play (step env) m turn.earlier) steps :=
    fun input taken => ⟨[input], (advance_ok taken).symm⟩
  cases event with
  | triggerFinalize auctionId nonce fee returned => exact sendTrigger_steps done
  | readAuction auctionId state =>
    cases state with
    | none => exact ⟨[], (Except.ok.inj done).symm⟩
    | some state =>
      simp only [perform] at done
      split at done
      · cases done
      · split at done
        · exact single _ done
        · cases done
  | upsertAuction record => exact single (.file (.write _ (.upsertAuction record))) done
  | updateAuctionState auctionId state trackedAtMs =>
    exact single (.file (.write _ (.updateAuctionState auctionId state trackedAtMs))) done
  | recordFinalizeAttempt record => exact single (.file (.write _ (.recordFinalizeAttempt record))) done
  | recordRaceCondition record => exact single (.file (.write _ (.recordRaceCondition record))) done
  | _ => exact ⟨[], (Except.ok.inj done).symm⟩

theorem performs_steps {calls : List (RoundTurn σ × MonitorEvent)} (done : m.performs env keeper calls = .ok next) :
    ∃ steps, next = play (step env) m steps := by
  induction calls generalizing m with
  | nil => exact ⟨[], (Except.ok.inj done).symm⟩
  | cons call rest ih =>
    obtain ⟨middle, first, others⟩ := bind_eq_ok.mp done
    obtain ⟨steps, rfl⟩ := perform_steps first
    obtain ⟨later, rfl⟩ := ih others
    rw [← play_append, ← play_append]
    exact ⟨_, rfl⟩

/-- Its world is one of a run of the market. -/
def Ran (deployment : Deployment) (env : External σ) (outside : σ) (m : Mirror σ) : Prop :=
  ∃ inputs, m.world = deployment.run env outside inputs

theorem Ran.play {deployment : Deployment} {outside : σ} (ran : m.Ran deployment env outside)
    (steps : List (MirrorStep σ)) : Ran deployment env outside (FairMarket.play (step env) m steps) := by
  apply play_preserves _ ran
  intro before input after ⟨inputs, reached⟩ taken
  obtain ⟨sent, world, -, done, rfl⟩ | ⟨-, -, -, -, -, rfl⟩ | ⟨-, -, -, -, -, rfl⟩ := step_cases taken
  · rw [reached] at done
    exact ⟨inputs ++ [sent], (Deployment.run_accepted done).symm⟩
  · exact ⟨inputs, reached⟩
  · exact ⟨inputs, reached⟩

theorem play_advances {id : AuctionId} (sound : m.Sound env)
    (found : (m.world.market.auctions id).auction.exists_ = true) (steps : List (MirrorStep σ)) :
    World.Advances m.world (play (step env) m steps).world id := by
  induction steps generalizing m with
  | nil => exact .refl found
  | cons input rest ih =>
    rw [play_cons]
    rcases advance_cases (step env) m input with refused | taken
    · rw [refused]
      exact ih sound found
    · have later := sound.step input taken
      generalize advance (step env) m input = after at taken later
      have first : World.Advances m.world after.world id := by
        obtain ⟨sent, world, -, done, rfl⟩ | ⟨-, -, -, -, -, rfl⟩ | ⟨-, -, -, -, -, rfl⟩ := step_cases taken
        · exact World.transact_advances sound.wired done found
        · exact .refl found
        · exact .refl found
      exact first.trans (ih later first.found)

/-- So is a pass over the chain. -/
theorem visitAuctions_steps {turns : ℤ → PassTurn σ} {ids : List ℤ} (done : m.visitAuctions env turns ids = .ok next) :
    ∃ steps, next = play (step env) m steps := by
  induction ids generalizing m with
  | nil => exact ⟨[], (Except.ok.inj done).symm⟩
  | cons auctionId rest ih =>
    obtain ⟨visited, visits, others⟩ := bind_eq_ok.mp done
    obtain ⟨later, rfl⟩ := ih others
    have synchronizes : (play (step env) m (turns auctionId).earlier).synchronizeAuction env (turns auctionId)
        auctionId = .ok visited → ∃ steps, visited = play (step env) m steps := by
      intro synchronized
      unfold synchronizeAuction at synchronized
      split at synchronized
      · cases synchronized
      · rw [← play_append] at synchronized
        exact ⟨_, (play_accepted synchronized).symm⟩
    obtain ⟨earlier, rfl⟩ : ∃ steps, visited = play (step env) m steps := by
      unfold visitAuction at visits
      dsimp only at visits
      split at visits
      · exact synchronizes visits
      · split at visits
        · exact synchronizes visits
        · exact ⟨_, (Except.ok.inj visits).symm⟩
    rw [← play_append]
    exact ⟨_, rfl⟩

/-- Where an auction is still ACTIVE later, it is ACTIVE before. -/
theorem Sound.active_before {id : AuctionId} (sound : m.Sound env) (advances : World.Advances m.world next.world id)
    (found : (m.world.market.auctions id).auction.exists_ = true)
    (active : (next.world.market.auctions id).auction.state = .active) :
    (m.world.market.auctions id).auction.state = .active := by
  have activated := sound.numbered.activated id
  rw [World.stateOf, if_pos found] at activated
  have leads := advances.leads
  rw [active] at leads
  exact leads.eq_active fun created => activated (congrArg some created)

/-- What the chain says of an ACTIVE auction when the monitor asks. -/
theorem perform_read {id : AuctionId} {state : ℤ} (sound : m.Sound env)
    (found : (m.world.market.auctions id).auction.exists_ = true)
    (done : m.perform env keeper turn (.readAuction id.toNat (some state)) = .ok next)
    (active : (next.world.market.auctions id).auction.state = .active) : state = 1 := by
  have advances := play_advances sound found turn.earlier
  simp only [perform] at done
  split at done
  · cases done
  · rename_i snapshot answered
    obtain ⟨same, names, -, read⟩ := World.readAuction_ok.mp answered
    obtain rfl : same = id := Except.ok.inj (names.symm.trans (toUint256_toNat id))
    split at done
    · rename_i told
      have unmoved : next.world = (play (step env) m turn.earlier).world := by
        rw [step, answered] at done
        rw [← Except.ok.inj done]
      rw [unmoved] at active
      rw [← told, read, active]
      rfl
    · cases done

/-- A trigger of an auction that is still ACTIVE afterwards has missed it. -/
theorem perform_trigger {deployment : Deployment} {outside : σ} {id : AuctionId} {nonce : ℕ} {fee : Number}
    {returned : Bool} (sound : m.Sound env) (ran : m.Ran deployment env outside) (proxy : env.market ≠ 0)
    (known : keeper ≠ 0) (stranger : (deployment.genesis env outside).isSystem env keeper = false)
    (found : (m.world.market.auctions id).auction.exists_ = true)
    (done : m.perform env keeper turn (.triggerFinalize id.toNat nonce fee returned) = .ok next)
    (active : (next.world.market.auctions id).auction.state = .active)
    (deposit : (next.world.market.auctions id).auction.sellerDeposit < 2 ^ 128)
    (clock : ∀ timestamp told, turn.fate = .mined timestamp told → timestamp < 2 ^ 64) :
    returned = false ∧ turn.fate.Missed (next.world.market.auctions id).auction.endTime := by
  have there := (play_advances sound found turn.earlier).found
  obtain ⟨inputs, reached⟩ := ran.play turn.earlier
  simp only [perform] at done
  generalize play (step env) m turn.earlier = called at done there reached
  generalize sent : turn.fate = fate at done clock
  cases fate with
  | dropped =>
    cases returned with
    | true => cases done
    | false => exact ⟨rfl, trivial⟩
  | mined timestamp told =>
    rw [sendTrigger, toUint256_toNat] at done
    dsimp only at done
    split at done
    · cases done
    · rename_i timely
      split at done
      · rename_i raised refused
        cases returned with
        | true => cases done
        | false =>
          obtain rfl : called = next := Except.ok.inj done
          refine ⟨rfl, Nat.lt_of_not_le fun late => ?_⟩
          -- nothing but the closing time makes the market refuse it
          have isOpen : called.world.Open env id := by
            rw [reached] at active deposit ⊢
            exact Deployment.run_open active deposit proxy
          have user : called.world.isSystem env keeper = false := by
            rw [reached, deployment.run_isSystem]
            exact stranger
          obtain ⟨after, triggered, -⟩ := @World.Open.triggers _ _ _ { sender := keeper, timestamp } _ isOpen late
            (Nat.le_of_not_lt timely) (clock timestamp told rfl) known user rfl
          rw [step, triggered] at refused
          cases refused
      · rename_i after taken
        split at done
        · obtain rfl : after = next := Except.ok.inj done
          obtain ⟨input, world, same, triggered, rfl⟩ | ⟨_, _, _, _, ⟨other, -⟩ | ⟨other, -⟩, -⟩ |
            ⟨_, _, other, -⟩ := step_cases taken
          · cases same
            obtain ⟨-, executed, executes, rfl⟩ := World.transact_ok.mp triggered
            obtain ⟨-, resolving, -⟩ := World.triggerFinalize_ok executes
            rw [resolving] at active
            cases active
          · cases other
          · cases other
          · cases other
        · cases done

/-- No call has told the monitor that the auction is ACTIVE no more, and its triggers have missed it. -/
structure Unnoticed (id : AuctionId) (endTime : ℕ) (call : RoundTurn σ × MonitorEvent) : Prop where
  untriggered : ∀ nonce fee, call.2 ≠ .triggerFinalize id.toNat nonce fee true
  unread : ∀ state, call.2 = .readAuction id.toNat (some state) → state = 1
  missed : call.2.triggers id.toNat = true → call.1.fate.Missed endTime

theorem performs_unnoticed {deployment : Deployment} {outside : σ} {id : AuctionId}
    {calls : List (RoundTurn σ × MonitorEvent)} (sound : m.Sound env) (ran : m.Ran deployment env outside)
    (proxy : env.market ≠ 0) (known : keeper ≠ 0)
    (stranger : (deployment.genesis env outside).isSystem env keeper = false)
    (found : (m.world.market.auctions id).auction.exists_ = true) (done : m.performs env keeper calls = .ok next)
    (active : (next.world.market.auctions id).auction.state = .active)
    (deposit : (next.world.market.auctions id).auction.sellerDeposit < 2 ^ 128)
    (clock : ∀ call ∈ calls, ∀ timestamp told, call.1.fate = .mined timestamp told → timestamp < 2 ^ 64) :
    ∀ call ∈ calls, Unnoticed id (next.world.market.auctions id).auction.endTime call := by
  induction calls generalizing m with
  | nil => exact List.forall_mem_nil _
  | cons call rest ih =>
    obtain ⟨turn, event⟩ := call
    obtain ⟨middle, first, others⟩ := bind_eq_ok.mp done
    obtain ⟨own, clocks⟩ := List.forall_mem_cons.mp clock
    have reached : middle.Sound env ∧ middle.Ran deployment env outside ∧
        World.Advances m.world middle.world id := by
      obtain ⟨steps, same⟩ := perform_steps first
      rw [← play_append] at same
      rw [same]
      exact ⟨sound_play sound _, ran.play _, play_advances sound found _⟩
    obtain ⟨later, after, advances⟩ := reached
    have onward : World.Advances middle.world next.world id := by
      obtain ⟨steps, same⟩ := performs_steps others
      rw [same]
      exact play_advances later advances.found steps
    have waiting := later.active_before onward advances.found active
    refine List.forall_mem_cons.mpr ⟨?_, ih later after advances.found others clocks⟩
    have triggers : ∀ nonce fee returned, event = .triggerFinalize id.toNat nonce fee returned →
        returned = false ∧ turn.fate.Missed (next.world.market.auctions id).auction.endTime := by
      rintro nonce fee returned rfl
      rw [onward.endTime]
      rw [onward.sellerDeposit] at deposit
      exact perform_trigger sound ran proxy known stranger found first waiting deposit own
    constructor
    · intro nonce fee triggered
      exact Bool.noConfusion (triggers nonce fee true triggered).1
    · rintro state rfl
      exact perform_read sound found first waiting
    · intro about
      cases event with
      | triggerFinalize auctionId nonce fee returned =>
        exact (triggers nonce fee returned (by rw [of_decide_eq_true about])).2
      | _ => cases about

end Mirror

/-- One loop of the monitor attends to every auction that is due. Whatever others do meanwhile, its pass
goes through, and an auction that is still ACTIVE after the round is not due by the monitor's clock, is
locked by another keeper, or every one of its triggers was lost or got to the chain before its end. -/
theorem due_attended (deployment : Deployment) (env : External σ) (outside : σ) (steps : List (MirrorStep σ))
    (turns : ℤ → PassTurn σ) (config : MonitorConfig) (keeper : Address) (keeperId : Text) (nowMs lead : ℕ)
    (answers : ℤ → FinalizeAnswers) :
    let start := play (Mirror.step env) (.initial (deployment.genesis env outside)) steps
    start.files.running .auctionMonitor = true →
    start.world.market.auctionCounter < 2 ^ 53 →
    (∀ auctionId, (turns auctionId).earlier.all MirrorStep.foreign = true ∧
      (turns auctionId).meanwhile.all MirrorStep.foreign = true) →
    config.finalizeLeadSeconds = .finite lead → nowMs + lead * 1000 < 2 ^ 53 →
    (∀ auctionId, (answers auctionId).Reliable) →
    env.market ≠ 0 → keeper ≠ 0 → (deployment.genesis env outside).isSystem env keeper = false →
      ∃ synced, start.synchronizeAuctionsFromChain env turns = .ok synced ∧
        ∀ calls finish,
          (executeDueFinalizations config keeperId answers synced.monitor (.finite nowMs)).events =
            calls.map Prod.snd →
          synced.performs env keeper calls = .ok finish →
          (∀ call ∈ calls, ∀ timestamp told, call.1.fate = .mined timestamp told → timestamp < 2 ^ 64) →
          ∀ id, (start.world.market.auctions id).auction.exists_ = true →
            let auction := (finish.world.market.auctions id).auction
            auction.sellerDeposit < 2 ^ 128 → auction.state = .active →
              nowMs + lead * 1000 < auction.endTime * 1000 ∨ ¬ (answers id.toNat).Acquired ∨
                config.maxRetries + 1 ≤ calls.countP (·.2.triggers id.toNat) ∧
                  ∀ call ∈ calls, call.2.triggers id.toNat = true → call.1.fate.Missed auction.endTime := by
  intro start running small foreign leads clock reliable proxy known stranger
  have sound : start.Sound env := Mirror.sound_play (deployment.mirror_sound env outside) steps
  have ran : start.Ran deployment env outside := Mirror.Ran.play ⟨[], rfl⟩ steps
  obtain ⟨synced, done, since, covers⟩ := Mirror.synchronizeAuctionsFromChain_covers sound running small foreign
  refine ⟨synced, done, ?_⟩
  intro calls finish performed carriedOut clocks id found auction deposit active
  obtain ⟨record, past, stored, knows, -⟩ := covers id found
  have present := (since.advances id found).found
  have reached : synced.Ran deployment env outside := by
    obtain ⟨passed, rfl⟩ := Mirror.visitAuctions_steps done
    exact ran.play passed
  have onward : World.Advances synced.world finish.world id := by
    obtain ⟨later, rfl⟩ := Mirror.performs_steps carriedOut
    exact Mirror.play_advances since.sound present later
  have unnoticed := Mirror.performs_unnoticed since.sound reached proxy known stranger present carriedOut active
    deposit clocks
  by_contra attended
  simp only [not_or, Nat.not_lt, not_not] at attended
  obtain ⟨due, acquired, untried⟩ := attended
  -- the record is ACTIVE as the auction is, so that it is among those of the round
  have waiting : past = .active := by
    have leads := knows.leads
    rw [since.sound.active_before onward present active] at leads
    exact leads.eq_active knows.activated
  have listed : record ∈ planDueFinalizations config synced.monitor (.finite nowMs) := by
    apply planDueFinalizations_due leads knows.endTime clock (Keyed.mem_of_get stored)
    · have state := knows.state
      rw [waiting] at state
      exact state
    · rw [← onward.endTime]
      exact due
  have named : record.auctionId = id.toNat := Keyed.key_of_get stored
  rw [← named] at acquired
  have missed : ∀ call ∈ calls, call.2.triggers id.toNat = true → call.1.fate.Missed auction.endTime :=
    fun call member => (unnoticed call member).missed
  rcases finalizeEach_exhausts config.toFinalizeConfig keeperId reliable listed acquired with
    ⟨nonce, fee, triggered⟩ | ⟨state, inactive, read⟩ | exhausted
  · rw [named] at triggered
    obtain ⟨call, member, same⟩ := List.mem_map.mp (performed ▸ triggered)
    exact (unnoticed call member).untriggered nonce fee same
  · rw [named] at read
    obtain ⟨call, member, same⟩ := List.mem_map.mp (performed ▸ read)
    exact inactive ((unnoticed call member).unread state same)
  · apply untried
    refine ⟨?_, missed⟩
    rw [named] at exhausted
    have counted := performed ▸ exhausted
    rw [List.countP_map] at counted
    exact counted

/-- Two auctions, of which the second one ends later. -/
def twoRunning : List (MirrorStep (ℕ → Address)) :=
  [.file (.start .auctionMonitor),
    .transaction ({ sender := 9, value := 10, timestamp := 1000 }, .createAuction 5 7 100 0 10 false),
    .transaction ({ sender := 9, value := 10, timestamp := 1000 }, .createAuction 5 8 200 0 10 false)]

def undisturbed : PassTurn (ℕ → Address) where
  earlier := []
  meanwhile := []
  trackedAtMs := 1200000

/-- The chain is read, and the store answers. -/
def readAs (auctionId state endTime : ℤ) : SynchronizeAnswers where
  read := .ok { auctionId, state, endTime, sellerDeposit := some 10 }
  existing := .ok none
  trackedAtMs := 1200000
  upserted := .ok ()

/-- The first auction is triggered, and the second one by a clock that is ahead of the chain. -/
def aheadOfChain (auctionId : ℤ) : FinalizeAnswers where
  reservation := .ok { acquired := true, executionNonce := 1 }
  detectedAtMs := 1200000
  raceRecorded := .ok ()
  attempts _ := {
    triggered := if auctionId = 1 then .ok {} else .error { message := .literal "execution reverted" }
    synchronized := readAs 1 2 1100
    updatedAtMs := 1200000
    updated := .ok ()
    recordedAtMs := 1200000
    recorded := .ok ()
    failedAtMs := 1200000
    failureRecorded := .ok ()
    resynchronized := readAs 2 1 1200 }
  released := .ok ()

def oneRetryAtOnce : MonitorConfig := { oneRetry with finalizeLeadSeconds := .finite (0 : ℕ) }

/-- The calls of the round over the auctions that are due. What it sends gets into a block at once. -/
def roundAhead (due : List StoredAuctionRecord) : List (RoundTurn (ℕ → Address) × MonitorEvent) :=
  (finalizeEach oneRetry (.literal "auction-monitor") aheadOfChain due).events.map fun event =>
    ({ fate := .mined 1150 true }, event)

def twoListedThen : Mirror (ℕ → Address) :=
  play (Mirror.step tokenChain) (.initial (tokenDeployment.genesis tokenChain fun _ => 9)) twoRunning

set_option maxRecDepth 4000 in
theorem roundAhead_attended :
    ∃ synced finish, twoListedThen.synchronizeAuctionsFromChain tokenChain (fun _ => undisturbed) = .ok synced ∧
      synced.performs tokenChain 20 (roundAhead synced.monitor.listAuctions) = .ok finish ∧
      (finish.world.market.auctions 1).auction.state = .resolving ∧
      (finish.world.market.auctions 2).auction.state = .active ∧
      2 ≤ (roundAhead synced.monitor.listAuctions).countP (·.2.triggers 2) := by
  obtain ⟨synced, done, attended⟩ := due_attended tokenDeployment tokenChain (fun _ => 9) twoRunning
    (fun _ => undisturbed) oneRetryAtOnce 20 (.literal "auction-monitor")
    1200000 0 aheadOfChain (by decide +kernel) (by decide +kernel) (fun _ => ⟨rfl, rfl⟩) rfl (by decide)
    (fun auctionId => ⟨rfl, rfl, fun _ => ⟨rfl, rfl, rfl, rfl, rfl⟩, rfl⟩) (by decide +kernel) (by decide)
    (by decide +kernel)
  change twoListedThen.synchronizeAuctionsFromChain tokenChain (fun _ => undisturbed) = .ok synced at done
  have known : ∀ record ∈ synced.monitor.listAuctions, record.state = 1 ∧ record.endTime = record.endTime.toNat ∧
      record.endTime.toNat ≤ 1200 := by
    have computed : (twoListedThen.synchronizeAuctionsFromChain tokenChain fun _ => undisturbed).toOption.map
        (fun synced => synced.monitor.listAuctions.map fun record => (record.state, record.endTime)) =
          some [(1, 1100), (1, 1200)] := by
      decide +kernel
    rw [done] at computed
    have pairs : synced.monitor.listAuctions.map (fun record => (record.state, record.endTime)) =
        [(1, 1100), (1, 1200)] := Option.some.inj computed
    intro record member
    have listed := List.mem_map_of_mem (f := fun record => (record.state, record.endTime)) member
    rw [pairs] at listed
    simp only [List.mem_cons, Prod.mk.injEq, List.not_mem_nil, or_false] at listed
    rcases listed with ⟨state, endTime⟩ | ⟨state, endTime⟩
    · exact ⟨state, by rw [endTime]; rfl, by rw [endTime]; decide⟩
    · exact ⟨state, by rw [endTime]; rfl, by rw [endTime]; decide⟩
  have planned : planDueFinalizations oneRetryAtOnce synced.monitor (.finite (1200000 : ℕ)) =
      synced.monitor.listAuctions := by
    apply List.filter_eq_self.mpr
    intro record member
    obtain ⟨active, ends, due⟩ := known record member
    exact (List.mem_filter.mp (planDueFinalizations_due rfl ends (by decide) member active (by omega))).2
  have ended : ∃ finish, synced.performs tokenChain 20 (roundAhead synced.monitor.listAuctions) = .ok finish ∧
      (finish.world.market.auctions 1).auction.state = .resolving ∧
      (finish.world.market.auctions 2).auction.state = .active ∧
      (finish.world.market.auctions 2).auction.sellerDeposit = 10 ∧
      (finish.world.market.auctions 2).auction.endTime = 1200 := by
    have computed : ((twoListedThen.synchronizeAuctionsFromChain tokenChain fun _ => undisturbed).bind fun synced =>
        synced.performs tokenChain 20 (roundAhead synced.monitor.listAuctions)).toOption.map (fun finish =>
          ((finish.world.market.auctions 1).auction.state, (finish.world.market.auctions 2).auction.state,
            (finish.world.market.auctions 2).auction.sellerDeposit, (finish.world.market.auctions 2).auction.endTime)) =
        some (.resolving, .active, 10, 1200) := by
      decide +kernel
    rw [done] at computed
    change (synced.performs tokenChain 20 (roundAhead synced.monitor.listAuctions)).toOption.map _ = _ at computed
    cases performed : synced.performs tokenChain 20 (roundAhead synced.monitor.listAuctions) with
    | error raised =>
      rw [performed] at computed
      cases computed
    | ok finish =>
      rw [performed] at computed
      have fields := Option.some.inj computed
      simp only [Prod.mk.injEq] at fields
      exact ⟨finish, rfl, fields⟩
  obtain ⟨finish, performed, triggered, active, deposit, endTime⟩ := ended
  refine ⟨synced, finish, done, performed, triggered, active, ?_⟩
  have clocks : ∀ call ∈ roundAhead synced.monitor.listAuctions, ∀ timestamp told,
      call.1.fate = .mined timestamp told → timestamp < 2 ^ 64 := by
    intro call member timestamp told same
    obtain ⟨event, -, rfl⟩ := List.mem_map.mp member
    cases same
    decide
  have events : (executeDueFinalizations oneRetryAtOnce (.literal "auction-monitor") aheadOfChain synced.monitor
      (.finite (1200000 : ℕ))).events = (roundAhead synced.monitor.listAuctions).map Prod.snd := by
    rw [executeDueFinalizations, planned, roundAhead, List.map_map]
    exact (List.map_id _).symm
  rcases attended _ finish events performed clocks 2 (by decide +kernel) (deposit ▸ by decide) active with
    early | refused | ⟨counted, -⟩
  · rw [endTime] at early
    exact absurd early (by decide)
  · exact absurd ⟨_, rfl, rfl⟩ refused
  · exact counted

end FairMarket
