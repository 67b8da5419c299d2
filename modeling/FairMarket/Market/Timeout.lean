import FairMarket.Market.Fallback

/-! The fallback window against the samples it is made of. Every transaction of every user
may add a sample, so the bounds come from the averaging alone. -/

namespace FairMarket

variable {σ : Type}

/-- The old mean counts `weight` times as much as the sample, rounded down. -/
def weightedMean (weight mean sample : ℕ) : ℕ := (mean * weight + sample) / (weight + 1)

theorem min_le_weightedMean (weight mean sample : ℕ) : min mean sample ≤ weightedMean weight mean sample := by
  rw [weightedMean, Nat.le_div_iff_mul_le (Nat.succ_pos weight), Nat.mul_add_one]
  exact Nat.add_le_add (Nat.mul_le_mul_right _ (min_le_left ..)) (min_le_right ..)

theorem weightedMean_le_max (weight mean sample : ℕ) : weightedMean weight mean sample ≤ max mean sample := by
  apply Nat.div_le_of_le_mul
  rw [Nat.add_one_mul, Nat.mul_comm weight]
  exact Nat.add_le_add (Nat.mul_le_mul_right _ (le_max_left ..)) (le_max_right ..)

namespace NetworkObservation

/-- The observation in plain integers: without a first moment nothing is sampled, repeated
and long gaps leave the average alone, the first sample is the average. -/
def sample (network : NetworkObservation) (timestamp : ℕ) : NetworkObservation where
  lastObservationTimestamp := timestamp
  movingAverageBlockDelta :=
    let delta := timestamp - network.lastObservationTimestamp
    if network.lastObservationTimestamp = 0 ∨ delta = 0 ∨ networkSampleCeiling < delta then
      network.movingAverageBlockDelta
    else if network.movingAverageBlockDelta = 0 then delta
    else weightedMean 7 network.movingAverageBlockDelta delta

variable {network observed : NetworkObservation} {timestamp : ℕ}

/-- An observation on the clock wraps nowhere. -/
theorem Paced.observe_eq (paced : network.Paced timestamp) (clock : timestamp < 2 ^ 64) :
    network.observe timestamp = .ok (network.sample timestamp) := by
  have same : toUint64 timestamp = timestamp := Nat.mod_eq_of_lt clock
  have past := paced.past
  have short : network.movingAverageBlockDelta ≤ 600 := paced.average
  have mean : toUint64 ((network.movingAverageBlockDelta * 7 +
      (timestamp - network.lastObservationTimestamp)) / 8) =
        weightedMean 7 network.movingAverageBlockDelta (timestamp - network.lastObservationTimestamp) :=
    Nat.mod_eq_of_lt (by omega)
  obtain ⟨last, average⟩ := network
  dsimp only at past mean
  unfold NetworkObservation.observe sample
  dsimp only
  rw [same]
  by_cases first : last < 1
  · rw [if_pos first, if_pos (.inl (by omega))]
  · rw [if_neg first, checkedSub, if_pos past, ok_bind, mean, pure_eq_ok]
    by_cases repeated : timestamp - last < 1
    · have now : last = timestamp := by omega
      rw [if_pos repeated, if_pos (.inr (.inl (by omega))), now]
    · rw [if_neg repeated]
      by_cases long : timestamp - last > networkSampleCeiling
      · rw [if_pos long, if_pos (.inr (.inr long))]
      · have sampled : ¬ (last = 0 ∨ timestamp - last = 0 ∨ networkSampleCeiling < timestamp - last) := by
          omega
        rw [if_neg long, if_neg sampled]
        by_cases fresh : average = 0
        · rw [if_pos (by omega), if_pos fresh]
        · rw [if_neg (by omega), if_neg fresh]

/-- What one observation can do to the average, whenever it is made. -/
structure Smooths (network : NetworkObservation) (timestamp : ℕ) (observed : NetworkObservation) : Prop where
  bounded : network.movingAverageBlockDelta ≤ networkSampleCeiling →
    observed.movingAverageBlockDelta ≤ networkSampleCeiling
  nonzero : network.movingAverageBlockDelta ≠ 0 → observed.movingAverageBlockDelta ≠ 0
  between : network.movingAverageBlockDelta ≠ 0 →
    min network.movingAverageBlockDelta (timestamp - network.lastObservationTimestamp) ≤
        observed.movingAverageBlockDelta ∧
      observed.movingAverageBlockDelta ≤
        max network.movingAverageBlockDelta (timestamp - network.lastObservationTimestamp)
  gaps : networkSampleCeiling < timestamp - network.lastObservationTimestamp →
    observed.movingAverageBlockDelta = network.movingAverageBlockDelta

theorem smooths_sample (network : NetworkObservation) (timestamp : ℕ) :
    network.Smooths timestamp (network.sample timestamp) := by
  have low := min_le_weightedMean 7 network.movingAverageBlockDelta
    (timestamp - network.lastObservationTimestamp)
  have high := weightedMean_le_max 7 network.movingAverageBlockDelta
    (timestamp - network.lastObservationTimestamp)
  constructor
  · intro short
    dsimp only [sample]
    split
    · exact short
    · split <;> omega
  · intro nonzero
    dsimp only [sample]
    rw [if_neg nonzero]
    split <;> omega
  · intro nonzero
    dsimp only [sample]
    rw [if_neg nonzero]
    split
    · exact ⟨min_le_left .., le_max_left ..⟩
    · exact ⟨low, high⟩
  · intro long
    exact if_pos (.inr (.inr long))

/-- The engine's window for any average. -/
theorem Paced.computeDynamicTimeout_bounds (paced : network.Paced timestamp) :
    ∃ timeoutWindow, SettlementEngine.computeDynamicTimeout network.movingAverageBlockDelta = .ok timeoutWindow ∧
      15 * 60 ≤ timeoutWindow ∧ timeoutWindow ≤ 2 * 60 * 60 := by
  obtain ⟨timeoutWindow, short, computed⟩ := paced.computeDynamicTimeout_succeeds
  have clamped : ∀ chosen, 15 * 60 ≤
      (if chosen < SettlementEngine.minDynamicTimeout then SettlementEngine.minDynamicTimeout
        else if chosen > SettlementEngine.maxDynamicTimeout then SettlementEngine.maxDynamicTimeout
        else chosen) := by
    intro chosen
    unfold SettlementEngine.minDynamicTimeout SettlementEngine.maxDynamicTimeout
    split
    · exact Nat.le_refl _
    · split <;> omega
  refine ⟨timeoutWindow, computed, ?_, short⟩
  unfold SettlementEngine.computeDynamicTimeout at computed
  split at computed
  · obtain rfl := Except.ok.inj computed
    exact clamped _
  · obtain ⟨chosen, -, done⟩ := bind_eq_ok.mp computed
    obtain rfl := Except.ok.inj done
    exact clamped chosen

end NetworkObservation

/-- How long `triggerFallbackVoid` lets an auction wait. -/
def World.HasTimeout (w : World σ) (auctionId : AuctionId) (timeoutWindow : ℕ) : Prop :=
  w.previewDynamicTimeout (w.market.auctions auctionId) = .ok timeoutWindow ∧
    if (w.snapshot auctionId).settlementEngine = 0 then timeoutWindow = 30 * 60
    else 15 * 60 ≤ timeoutWindow ∧ timeoutWindow ≤ 2 * 60 * 60

theorem World.Wired.hasTimeout {env : External σ} {w : World σ} {auctionId : AuctionId}
    (wired : w.Wired env) (paced : w.market.network.Paced w.timestamp)
    (found : (w.market.auctions auctionId).auction.exists_ = true) :
    ∃ timeoutWindow, w.HasTimeout auctionId timeoutWindow := by
  have address : w.auctionSettlementEngine (w.market.auctions auctionId) =
      (w.snapshot auctionId).settlementEngine := if_pos (wired.initialized auctionId found)
  unfold HasTimeout previewDynamicTimeout withEngine
  dsimp only
  rw [address]
  split
  · exact ⟨defaultDynamicTimeout, rfl, rfl⟩
  · rename_i set
    obtain ⟨engine, present⟩ :=
      Option.isSome_iff_exists.mp ((wired.snapshots auctionId found).engine.resolve_left set)
    obtain ⟨timeoutWindow, computed, bounds⟩ := paced.computeDynamicTimeout_bounds
    refine ⟨timeoutWindow, bind_eq_ok.mpr ⟨engine, ?_, computed⟩, bounds⟩
    exact requireSome_eq_ok.mpr present

theorem World.HasTimeout.le {w : World σ} {auctionId : AuctionId} {timeoutWindow : ℕ}
    (window : w.HasTimeout auctionId timeoutWindow) : timeoutWindow ≤ 2 * 60 * 60 := by
  obtain ⟨-, bounds⟩ := window
  split at bounds <;> omega

/-- The auction left bidding at a moment, if it still waits. -/
structure WaitsSince (since : ℕ) (v : AuctionView) : Prop where
  found : v.cell.auction.exists_ = true
  departed : v.cell.auction.state ≠ .active
  unmoved : v.cell.auction.state = .resolving → v.cell.auction.resolvingSince = since

/-- No step moves the start of the wait. -/
theorem AuctionStep.waitsSince {refundKey : Bytes32 → Bytes32} {auctionId : AuctionId} {now since : ℕ}
    {flow : Flow} {v next : AuctionView} (step : AuctionStep refundKey auctionId now flow v next)
    (waits : WaitsSince since v) : WaitsSince since next := by
  obtain ⟨found, departed, unmoved⟩ := waits
  cases step with
  | created _ _ _ _ _ _ _ _ _ fresh =>
    rw [fresh] at found
    cases found
  | escrowLocked _ _ _ active => exact absurd active departed
  | shieldedEscrowLocked _ _ _ _ _ active => exact absurd active departed
  | bidPlaced _ _ _ _ active => exact absurd active departed
  | shieldedBidPlaced _ _ _ _ active => exact absurd active departed
  | finalizeTriggered _ _ _ _ _ active => exact absurd active departed
  | cancelled _ _ active => exact absurd active departed
  | resolved => exact ⟨by simpa using found, by simp, by simp⟩
  | shieldedResolved => exact ⟨by simpa using found, by simp, by simp⟩
  | voided => exact ⟨by simpa using found, by simp, by simp⟩
  | _ => exact ⟨found, departed, unmoved⟩

namespace World

variable {env : External σ} {w next : World σ} {input : Msg × Tx σ}

theorem transact_samples (paced : w.market.network.Paced w.timestamp) (clock : input.1.timestamp < 2 ^ 64)
    (done : w.transact env input = .ok next) : next.market.network = w.market.network ∨
      next.market.network = w.market.network.sample input.1.timestamp := by
  obtain ⟨msg, tx⟩ := input
  obtain ⟨⟨-, -, later, -⟩, executed, executes, rfl⟩ := transact_ok.mp done
  rcases (execute_touches executes).network with same | observed
  · exact .inl same
  · rw [(paced.mono later).observe_eq clock] at observed
    exact .inr (Except.ok.inj observed).symm

/-- An average that exists goes on to exist. -/
theorem play_averaged (paced : w.market.network.Paced w.timestamp)
    (nonzero : w.market.network.movingAverageBlockDelta ≠ 0) {more : List (Msg × Tx σ)}
    (clock : ∀ input ∈ more, input.1.timestamp < 2 ^ 64) :
    (play (transact env) w more).market.network.movingAverageBlockDelta ≠ 0 := by
  let averaged : World σ → Prop := fun w =>
    w.market.network.Paced w.timestamp ∧ w.market.network.movingAverageBlockDelta ≠ 0
  have kept : ∀ w input next, averaged w → input.1.timestamp < 2 ^ 64 →
      transact env w input = .ok next → averaged next := by
    intro w input next ⟨paced, nonzero⟩ clock done
    refine ⟨transact_paced paced done, ?_⟩
    rcases transact_samples paced clock done with same | sampled
    · rwa [same]
    · rw [sampled]
      exact (NetworkObservation.smooths_sample ..).nonzero nonzero
  exact (play_preserves_along kept ⟨paced, nonzero⟩ (Along.of_mem w clock)).2

end World

/-- In every state of every run the average is none or between one second and ten minutes,
the next observation is exact and smooths it, and it is the only thing a transaction can
do to it. So every auction's window is within the engine's, and once its longest is over
the wait is, whatever other users did in the meantime. -/
theorem fallback_timeout_bounded (deployment : Deployment) (env : External σ) (outside : σ)
    (inputs : List (Msg × Tx σ)) :
    let w := deployment.run env outside inputs
    let network := w.market.network
    (network.movingAverageBlockDelta = 0 ∨
        1 ≤ network.movingAverageBlockDelta ∧ network.movingAverageBlockDelta ≤ 600) ∧
      (∀ timestamp, w.timestamp ≤ timestamp → timestamp < 2 ^ 64 →
        toUint64 timestamp = timestamp ∧ network.lastObservationTimestamp ≤ timestamp ∧
          network.observe timestamp = .ok (network.sample timestamp) ∧
          network.Smooths timestamp (network.sample timestamp)) ∧
      (∀ input next, input.1.timestamp < 2 ^ 64 → w.transact env input = .ok next →
        next.market.network = network ∨ next.market.network = network.sample input.1.timestamp) ∧
      (∀ auctionId, (w.market.auctions auctionId).auction.exists_ = true →
        ∃ timeoutWindow, w.HasTimeout auctionId timeoutWindow) ∧
      ∀ more, (∀ input ∈ more, input.1.timestamp < 2 ^ 64) →
        let later := deployment.run env outside (inputs ++ more)
        (network.movingAverageBlockDelta ≠ 0 → later.market.network.movingAverageBlockDelta ≠ 0) ∧
          ∀ auctionId since, (w.market.auctions auctionId).auction.state = .resolving →
            (w.market.auctions auctionId).auction.resolvingSince = since →
            (later.market.auctions auctionId).auction.state = .resolving →
            (later.market.auctions auctionId).auction.resolvingSince = since ∧
              ∀ timestamp, since + 2 * 60 * 60 ≤ timestamp → ∃ timeoutWindow elapsed,
                later.HasTimeout auctionId timeoutWindow ∧
                  checkedSub timestamp since = .ok elapsed ∧ timeoutWindow ≤ elapsed := by
  intro w network
  have paced : network.Paced w.timestamp := deployment.run_paced env outside inputs
  have wired : w.Wired env := deployment.run_wired env outside inputs
  refine ⟨?_, ?_, ?_, ?_, ?_⟩
  · have short : network.movingAverageBlockDelta ≤ 600 := paced.average
    omega
  · intro timestamp later clock
    have now := paced.mono later
    exact ⟨Nat.mod_eq_of_lt clock, now.past, now.observe_eq clock, network.smooths_sample timestamp⟩
  · intro input next clock done
    exact World.transact_samples paced clock done
  · intro auctionId found
    exact wired.hasTimeout paced found
  · intro more clock later
    constructor
    · intro nonzero
      have kept : (play (World.transact env) w more).market.network.movingAverageBlockDelta ≠ 0 :=
        World.play_averaged paced nonzero clock
      rwa [← deployment.run_append_eq] at kept
    · intro auctionId since resolving began still
      have history := deployment.run_append env outside inputs more auctionId
      have departed : (w.market.auctions auctionId).auction.state ≠ .active := by
        rw [resolving]
        nofun
      have waits : WaitsSince since (later.view auctionId) := history.preserves
        (fun _ _ _ _ step => step.waitsSince)
        ⟨wired.found_of_state resolving nofun, departed, fun _ => began⟩
      refine ⟨waits.unmoved still, fun timestamp late => ?_⟩
      obtain ⟨timeoutWindow, window⟩ := (deployment.run_wired env outside (inputs ++ more)).hasTimeout
        (deployment.run_paced env outside (inputs ++ more)) waits.found
      have short := window.le
      exact ⟨timeoutWindow, timestamp - since, window, checkedSub_eq_ok.mpr ⟨by omega, rfl⟩, by omega⟩

end FairMarket
