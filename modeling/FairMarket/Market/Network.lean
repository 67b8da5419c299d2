import FairMarket.Market.Spared

/-! The two numbers the market keeps about the network. They are written by observations
at the time of the block only, and they bound the fallback window. -/

namespace FairMarket

variable {σ : Type}

namespace NetworkObservation

/-- Observed in the past, with an average no longer than one admissible sample. -/
structure Paced (network : NetworkObservation) (timestamp : ℕ) : Prop where
  past : network.lastObservationTimestamp ≤ timestamp
  average : network.movingAverageBlockDelta ≤ networkSampleCeiling

variable {network observed : NetworkObservation} {before timestamp : ℕ}

theorem Paced.mono (paced : network.Paced before) (later : before ≤ timestamp) :
    network.Paced timestamp := ⟨paced.past.trans later, paced.average⟩

theorem toUint64_le (number : ℕ) : toUint64 number ≤ number := Nat.mod_le ..

/-- A weighted mean of two short delays is short. -/
theorem average_le {average delta : ℕ} (short : average ≤ networkSampleCeiling)
    (sampled : delta ≤ networkSampleCeiling) :
    toUint64 ((average * 7 + delta) / 8) ≤ networkSampleCeiling := by
  refine (toUint64_le _).trans ?_
  omega

theorem Paced.observe (paced : network.Paced before) (later : before ≤ timestamp)
    (done : network.observe timestamp = .ok observed) : observed.Paced timestamp := by
  have clock := toUint64_le timestamp
  unfold NetworkObservation.observe at done
  dsimp only at done
  split at done
  · cases done
    exact ⟨clock, paced.average⟩
  · simp only [bind_eq_ok, checkedSub_eq_ok, pure_eq_ok, Except.ok.injEq] at done
    obtain ⟨delta, -, rfl⟩ := done
    split
    · exact paced.mono later
    · split
      · exact ⟨clock, paced.average⟩
      · rename_i sampled
        have short : delta ≤ networkSampleCeiling := Nat.not_lt.mp sampled
        split
        · exact ⟨clock, short⟩
        · exact ⟨clock, average_le paced.average short⟩

/-- No block can fail to be observed. -/
theorem Paced.observe_succeeds (paced : network.Paced timestamp) (clock : timestamp < 2 ^ 64) :
    ∃ observed, network.observe timestamp = .ok observed := by
  have same : toUint64 timestamp = timestamp := Nat.mod_eq_of_lt clock
  unfold NetworkObservation.observe
  dsimp only
  rw [same]
  split
  · exact ⟨_, rfl⟩
  · exact ⟨_, by rw [checkedSub, if_pos paced.past, ok_bind, pure_eq_ok]⟩

/-- The engine's window is never longer than its maximum. -/
theorem Paced.computeDynamicTimeout_succeeds (paced : network.Paced timestamp) :
    ∃ timeoutWindow ≤ SettlementEngine.maxDynamicTimeout,
      SettlementEngine.computeDynamicTimeout network.movingAverageBlockDelta = .ok timeoutWindow := by
  have average : network.movingAverageBlockDelta ≤ 600 := paced.average
  have fits : FitsUint256 (network.movingAverageBlockDelta * SettlementEngine.dynamicTimeoutMultiplier) := by
    unfold FitsUint256 SettlementEngine.dynamicTimeoutMultiplier
    omega
  have clamped : ∀ chosen,
      (if chosen < SettlementEngine.minDynamicTimeout then SettlementEngine.minDynamicTimeout
        else if chosen > SettlementEngine.maxDynamicTimeout then SettlementEngine.maxDynamicTimeout
        else chosen) ≤ SettlementEngine.maxDynamicTimeout := by
    intro chosen
    unfold SettlementEngine.minDynamicTimeout SettlementEngine.maxDynamicTimeout
    split
    · decide
    · split <;> omega
  unfold SettlementEngine.computeDynamicTimeout
  split
  · exact ⟨_, clamped _, rfl⟩
  · have scaled := checkedMul_eq_ok.mpr ⟨fits, rfl⟩
    refine ⟨_, clamped (network.movingAverageBlockDelta * SettlementEngine.dynamicTimeoutMultiplier), ?_⟩
    exact bind_eq_ok.mpr ⟨_, scaled, rfl⟩

end NetworkObservation

namespace World

variable {env : External σ} {w next : World σ} {msg : Msg} {auctionId : AuctionId}

theorem transact_paced (paced : w.market.network.Paced w.timestamp) {input : Msg × Tx σ}
    (done : w.transact env input = .ok next) : next.market.network.Paced next.timestamp := by
  obtain ⟨msg, tx⟩ := input
  obtain ⟨⟨-, -, later, -⟩, executed, executes, rfl⟩ := transact_ok.mp done
  rcases (execute_touches executes).network with same | observed
  · dsimp only
    rw [same]
    exact paced.mono later
  · exact paced.observe later observed

end World

/-- In every run the network numbers are of the past and small. -/
theorem Deployment.run_paced (deployment : Deployment) (env : External σ) (outside : σ)
    (inputs : List (Msg × Tx σ)) : (deployment.run env outside inputs).market.network.Paced
      (deployment.run env outside inputs).timestamp := by
  let paced : World σ → Prop := fun w => w.market.network.Paced w.timestamp
  refine play_preserves (show ∀ w input next, paced w → _ → paced next from ?_) ?_ inputs
  · intro w input next before done
    exact World.transact_paced before done
  · exact ⟨Nat.zero_le _, Nat.zero_le _⟩

end FairMarket
