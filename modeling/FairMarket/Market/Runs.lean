import FairMarket.Market.Transition

/-! Runs from the deployed market, and what a run does to a single auction. -/

namespace FairMarket

variable {σ : Type}

/-- The history of one auction between two moments: it takes steps, and in between
the clock moves on. -/
inductive AuctionRun (refundKey : Bytes32 → Bytes32) (auctionId : AuctionId) (start : ℕ)
    (first : AuctionView) : ℕ → AuctionView → Prop where
  | here : AuctionRun refundKey auctionId start first start first
  | wait {now later : ℕ} {v : AuctionView} (run : AuctionRun refundKey auctionId start first now v)
      (monotone : now ≤ later) : AuctionRun refundKey auctionId start first later v
  | step {past now : ℕ} {flow : Flow} {v next : AuctionView}
      (run : AuctionRun refundKey auctionId start first past v) (monotone : past ≤ now)
      (step : AuctionStep refundKey auctionId now flow v next) :
      AuctionRun refundKey auctionId start first now next

namespace AuctionRun

variable {refundKey : Bytes32 → Bytes32} {auctionId : AuctionId} {start middle now : ℕ}
  {first v next : AuctionView}

theorem trans (before : AuctionRun refundKey auctionId start first middle v)
    (after : AuctionRun refundKey auctionId middle v now next) :
    AuctionRun refundKey auctionId start first now next := by
  induction after with
  | here => exact before
  | wait _ monotone ih => exact .wait ih monotone
  | step _ monotone step ih => exact .step ih monotone step

/-- What every step keeps, a history keeps. -/
theorem preserves {invariant : AuctionView → Prop}
    (preserved : ∀ now flow v next, AuctionStep refundKey auctionId now flow v next →
      invariant v → invariant next)
    (run : AuctionRun refundKey auctionId start first now v) (initial : invariant first) :
    invariant v := by
  induction run with
  | here => exact initial
  | wait _ _ ih => exact ih
  | step _ _ step ih => exact preserved _ _ _ _ step ih

theorem start_le (run : AuctionRun refundKey auctionId start first now v) : start ≤ now := by
  induction run with
  | here => exact Nat.le_refl _
  | wait _ monotone ih => exact ih.trans monotone
  | step _ monotone _ ih => exact ih.trans monotone

end AuctionRun

/-- The views an auction can reach from nothing. -/
def Reachable (refundKey : Bytes32 → Bytes32) (auctionId : AuctionId) (v : AuctionView) : Prop :=
  ∃ now, AuctionRun refundKey auctionId 0 {} now v

namespace World

theorem Transition.run {env : External σ} {past now : ℕ} {touched auctionId : AuctionId} {flow : Flow}
    {w next : World σ} (transition : Transition env now touched flow w next) (monotone : past ≤ now) :
    AuctionRun env.refundKey auctionId past (w.view auctionId) now (next.view auctionId) := by
  by_cases same : auctionId = touched
  · subst same
    rcases transition.step with ⟨-, kept⟩ | step
    · rw [kept]
      exact .wait .here monotone
    · exact .step .here monotone step
  · rw [transition.others auctionId same]
    exact .wait .here monotone

/-- Every auction's view between two moments of a run has a history of its own. -/
theorem Wired.play_run {env : External σ} {w : World σ} (wired : w.Wired env)
    (inputs : List (Msg × Tx σ)) :
    (play (transact env) w inputs).Wired env ∧ ∀ auctionId, AuctionRun env.refundKey auctionId
      w.timestamp (w.view auctionId) (play (transact env) w inputs).timestamp
        ((play (transact env) w inputs).view auctionId) := by
  induction inputs generalizing w with
  | nil => exact ⟨wired, fun _ => .here⟩
  | cons input rest ih =>
    rcases advance_cases (transact env) w input with kept | taken
    · rw [play_cons, kept]
      exact ih wired
    · obtain ⟨nextWired, monotone, clock, touched, flow, transition⟩ := transact_transition wired taken
      obtain ⟨lastWired, later⟩ := ih nextWired
      rw [clock] at later
      exact ⟨lastWired, fun auctionId => (transition.run monotone).trans (later auctionId)⟩

/-- The same, from a moment that none of the run's transactions precedes. -/
theorem Wired.play_run_from {env : External σ} {w : World σ} (wired : w.Wired env) {moment : ℕ}
    (inputs : List (Msg × Tx σ))
    (late : ∀ input ∈ inputs, moment ≤ max w.timestamp input.1.timestamp) (auctionId : AuctionId) :
    AuctionRun env.refundKey auctionId (max moment w.timestamp) (w.view auctionId)
      (max moment (play (transact env) w inputs).timestamp)
      ((play (transact env) w inputs).view auctionId) := by
  induction inputs generalizing w with
  | nil => exact .here
  | cons input rest ih =>
    have reached := late input List.mem_cons_self
    have others := fun other member => late other (List.mem_cons_of_mem input member)
    rcases advance_cases (transact env) w input with kept | taken
    · rw [play_cons, kept]
      exact ih wired others
    · obtain ⟨nextWired, monotone, clock, touched, flow, transition⟩ := transact_transition wired taken
      have later := ih nextWired fun other member => by
        have bound := others other member
        omega
      have same : max moment (advance (transact env) w input).timestamp = input.1.timestamp := by
        omega
      rw [same] at later
      exact (transition.run (by omega)).trans later

end World

theorem Deployment.genesis_wired (deployment : Deployment) (env : External σ) (outside : σ) :
    (deployment.genesis env outside).Wired env := by
  obtain ⟨vaults, registries, pots, engines⟩ := deployment.noneAtZero
  constructor
  · intro address vault present
    simp only [genesis, Option.map_eq_some_iff] at present
    obtain ⟨owner, -, rfl⟩ := present
    rfl
  · intro address vault auctionId present _
    simp only [genesis, Option.map_eq_some_iff] at present
    obtain ⟨owner, -, rfl⟩ := present
    rfl
  · intro address pot present
    simp only [genesis, Option.ite_none_right_eq_some, Option.some.injEq] at present
    obtain ⟨-, rfl⟩ := present
    rfl
  · intro address pot auctionId present _
    simp only [genesis, Option.ite_none_right_eq_some, Option.some.injEq] at present
    obtain ⟨-, rfl⟩ := present
    rfl
  · intro address registry present
    simp only [genesis, Option.ite_none_right_eq_some, Option.some.injEq] at present
    obtain ⟨-, rfl⟩ := present
    rfl
  · refine ⟨?_, ?_, ?_, ?_⟩
    · exact congrArg (Option.map _) vaults
    · exact if_neg (by rw [registries]; exact Bool.false_ne_true)
    · exact if_neg (by rw [pots]; exact Bool.false_ne_true)
    · exact congrArg (Option.map _) engines
  · exact fun _ found => absurd found Bool.false_ne_true
  · exact fun _ _ => ⟨rfl, rfl⟩
  · exact fun _ found => absurd found Bool.false_ne_true
  · exact fun _ found => absurd found Bool.false_ne_true

theorem Deployment.run_wired (deployment : Deployment) (env : External σ) (outside : σ)
    (inputs : List (Msg × Tx σ)) : (deployment.run env outside inputs).Wired env :=
  ((deployment.genesis_wired env outside).play_run inputs).1

/-- Every view of a run is reachable by the auction alone. -/
theorem Deployment.run_reachable (deployment : Deployment) (env : External σ) (outside : σ)
    (inputs : List (Msg × Tx σ)) (auctionId : AuctionId) :
    Reachable env.refundKey auctionId ((deployment.run env outside inputs).view auctionId) := by
  have wired := deployment.genesis_wired env outside
  have history := (wired.play_run inputs).2 auctionId
  rw [wired.view_blank rfl] at history
  exact ⟨_, history⟩

theorem Deployment.run_append_eq (deployment : Deployment) (env : External σ) (outside : σ)
    (before after : List (Msg × Tx σ)) : deployment.run env outside (before ++ after) =
      play (World.transact env) (deployment.run env outside before) after := play_append ..

/-- A run that goes on with a transaction that is accepted. -/
theorem Deployment.run_accepted {deployment : Deployment} {env : External σ} {outside : σ}
    {inputs : List (Msg × Tx σ)} {input : Msg × Tx σ} {next : World σ}
    (done : (deployment.run env outside inputs).transact env input = .ok next) :
    deployment.run env outside (inputs ++ [input]) = next := by
  rw [deployment.run_append_eq, play_cons, play_nil, advance, done]

/-- A run and its continuation, seen from one auction. -/
theorem Deployment.run_append (deployment : Deployment) (env : External σ) (outside : σ)
    (before after : List (Msg × Tx σ)) (auctionId : AuctionId) :
    AuctionRun env.refundKey auctionId (deployment.run env outside before).timestamp
      ((deployment.run env outside before).view auctionId)
      (deployment.run env outside (before ++ after)).timestamp
      ((deployment.run env outside (before ++ after)).view auctionId) := by
  have history := ((deployment.run_wired env outside before).play_run after).2 auctionId
  rw [deployment.run_append_eq]
  exact history

end FairMarket
