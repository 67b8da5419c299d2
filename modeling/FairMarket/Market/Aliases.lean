import FairMarket.Contracts.IdentityBindings
import FairMarket.Market.Deposits
import FairMarket.Market.Spared

/-! The identities of shielded deposits. The registry of an auction pairs its deposits
with identities one to one, and no other registry knows of them. -/

namespace FairMarket

variable {σ : Type}

namespace World

variable {env : External σ} {w next : World σ} {msg : Msg} {auctionId : AuctionId}

/-- The tables of each registry. -/
def bindings (w : World σ) (address : Address) :
    Option ((AuctionId → Bytes32 → Bytes32) × (AuctionId → Bytes32 → Bytes32)) :=
  (w.registries address).map fun registry => (registry.identityToCommitment, registry.commitmentToIdentity)

theorem execute_registries {tx : Tx σ} (unbound : ∀ auctionId identityHash commitmentHash claimAuthority,
      tx ≠ .lockShieldedEscrow auctionId identityHash commitmentHash claimAuthority)
    (unmarked : ∀ auctionId winnerIdentityHash winnerCiphertext winningAmount avsProof,
      tx ≠ .submitShieldedResolution auctionId winnerIdentityHash winnerCiphertext winningAmount avsProof)
    (done : w.execute env msg tx = .ok next) : next.registries = w.registries := by
  apply (execute_touches done).registries
  cases tx with
  | lockShieldedEscrow => exact absurd rfl (unbound _ _ _ _)
  | submitShieldedResolution => exact absurd rfl (unmarked _ _ _ _ _)
  | _ => rfl

/-- A shielded resolution marks its winner in the auction's registry, if it is accepted. -/
theorem submitShieldedResolution_marks {winnerIdentityHash winnerCiphertext : Bytes32} {winningAmount : ℕ}
    {avsProof : Proof} (done : w.execute env msg (.submitShieldedResolution auctionId winnerIdentityHash
      winnerCiphertext winningAmount avsProof) = .ok next) (address : Address) :
    next.registries address = w.registries address ∨ ∃ registry marked,
      w.registries address = some registry ∧ next.registries address = some marked ∧
      marked = { registry with
        winningIdentity := Function.update registry.winningIdentity auctionId winnerIdentityHash } := by
  obtain ⟨accepted, submitted⟩ := afterResolution_ok.mp done
  simp only [submitShieldedResolution, bind_eq_ok, exists_revertIf, Prod.exists] at submitted
  obtain ⟨cell, -, -, -, -, -, commitmentHash, -, engine, -, proofAccepted, outside, -, submitted⟩ := submitted
  split at submitted
  · cases submitted
    exact .inl rfl
  · simp only [recordResolution, settleWinningCommitment, markWinningIdentity,
      ShieldedIdentityRegistry.markWinningIdentity, bind_eq_ok, exists_revertIf, requireSome_eq_ok,
      pure_eq_ok, Except.ok.injEq, Prod.mk.injEq, Prod.exists] at submitted
    obtain ⟨recorded, ⟨network, -, auction, -, rfl⟩, settled, ⟨vault, -, remaining, changed, -, rfl⟩,
      opened, opens, marked, ⟨registry, deployed, _, ⟨-, -, -, -, -, rfl⟩, rfl⟩, -, rfl⟩ := submitted
    have same : opened.registries = w.registries := (openShieldedRefundPath_spares opens).registries
    by_cases own : address = opened.auctionShieldedIdentityRegistry (opened.market.auctions auctionId)
    · rw [← own, same] at deployed
      refine .inr ⟨registry, _, deployed, ?_, rfl⟩
      simp only [setRegistry, ← own, Function.update_self]
    · left
      simp only [setRegistry, Function.update_of_ne own, same]

/-- Only a shielded lock binds identities. -/
theorem execute_bindings {tx : Tx σ} (unbound : ∀ auctionId identityHash commitmentHash claimAuthority,
      tx ≠ .lockShieldedEscrow auctionId identityHash commitmentHash claimAuthority)
    (done : w.execute env msg tx = .ok next) : next.bindings = w.bindings := by
  by_cases resolves : ∃ auctionId winnerIdentityHash winnerCiphertext winningAmount avsProof,
      tx = .submitShieldedResolution auctionId winnerIdentityHash winnerCiphertext winningAmount avsProof
  · obtain ⟨auctionId, winnerIdentityHash, winnerCiphertext, winningAmount, avsProof, rfl⟩ := resolves
    funext address
    rcases submitShieldedResolution_marks done address with same | ⟨registry, marked, before, after, rfl⟩
    · rw [bindings, bindings, same]
    · rw [bindings, bindings, before, after]
      rfl
  · have same := execute_registries unbound (fun auctionId winnerIdentityHash winnerCiphertext winningAmount
      avsProof resolution => resolves ⟨_, _, _, _, _, resolution⟩) done
    exact funext fun address => by rw [bindings, bindings, same]

/-- The registries pair deposits with identities, each for the auctions created with it,
and every deposit has an identity. -/
structure Aliased (w : World σ) : Prop where
  paired : ∀ address registry, w.registries address = some registry → registry.Paired
  homed : ∀ address registry auctionId c, w.registries address = some registry →
    registry.commitmentToIdentity auctionId c ≠ 0 →
      (w.market.auctions auctionId).auction.exists_ = true ∧
        (w.snapshot auctionId).shieldedIdentityRegistry = address
  named : ∀ address vault c, w.vaults address = some vault → (vault.commitments c).auctionId ≠ 0 →
    ∃ registry, w.registries (w.snapshot (vault.commitments c).auctionId).shieldedIdentityRegistry =
        some registry ∧
      registry.commitmentToIdentity (vault.commitments c).auctionId c ≠ 0

/-- What a shielded lock does to the registries. -/
theorem lockShieldedEscrow_binds (wired : w.Wired env) {identityHash commitmentHash : Bytes32}
    {claimAuthority : Address}
    (done : w.lockShieldedEscrow env msg auctionId identityHash commitmentHash claimAuthority = .ok next) :
    (w.market.auctions auctionId).auction.exists_ = true ∧ ∃ registry bound,
      w.registries (w.snapshot auctionId).shieldedIdentityRegistry = some registry ∧
      registry.bindIdentity env.market auctionId identityHash commitmentHash = .ok bound ∧
      next.registries =
        Function.update w.registries (w.snapshot auctionId).shieldedIdentityRegistry (some bound) := by
  simp only [lockShieldedEscrow, bind_eq_ok, auctionExists_ok, exists_revertIf, requireSome_eq_ok,
    pure_eq_ok, Except.ok.injEq] at done
  obtain ⟨cell, ⟨found, rfl⟩, -, -, -, -, -, -, vault, -, registry, deployed, network, -, bound, binds,
    locked, -, rfl⟩ := done
  rw [wired.auctionRegistry found] at deployed
  refine ⟨found, registry, bound, deployed, binds, ?_⟩
  rw [← wired.auctionRegistry found]
  rfl

/-- A registry after a transaction, and one it came from that reads the same except where
the transaction binds. -/
theorem transact_bindings (wired : w.Wired env) {tx : Tx σ} (done : w.transact env (msg, tx) = .ok next)
    (paired : ∀ address registry, w.registries address = some registry → registry.Paired) :
    Tables (fun address registry changed => changed.Paired ∧ ∀ auctionId c,
      changed.commitmentToIdentity auctionId c = registry.commitmentToIdentity auctionId c ∨
        changed.commitmentToIdentity auctionId c ≠ 0 ∧
          (w.market.auctions auctionId).auction.exists_ = true ∧
          (w.snapshot auctionId).shieldedIdentityRegistry = address) w.registries next.registries := by
  obtain ⟨-, executed, executes, rfl⟩ := transact_ok.mp done
  dsimp only
  by_cases locks : ∃ auctionId identityHash commitmentHash claimAuthority,
      tx = .lockShieldedEscrow auctionId identityHash commitmentHash claimAuthority
  · obtain ⟨auctionId, identityHash, commitmentHash, claimAuthority, rfl⟩ := locks
    obtain ⟨found, registry, bound, deployed, binds, registries⟩ := lockShieldedEscrow_binds wired executes
    intro address
    rw [registries]
    by_cases own : address = (w.snapshot auctionId).shieldedIdentityRegistry
    · subst own
      rw [Function.update_self, deployed]
      have before := paired _ registry deployed
      obtain ⟨reads, others⟩ := before.bindIdentity_reads binds
      refine .some ⟨before.bindIdentity binds, fun auction c => ?_⟩
      rcases others auction c with same | ⟨rfl, rfl⟩
      · exact .inl same
      · refine .inr ⟨?_, found, rfl⟩
        rw [reads]
        exact (ShieldedIdentityRegistry.bindIdentity_cases binds).1
    · rw [Function.update_of_ne own]
      cases present : w.registries address with
      | none => exact .none
      | some registry => exact .some ⟨paired address registry present, fun _ _ => .inl rfl⟩
  · have same := execute_bindings (fun auctionId identityHash commitmentHash claimAuthority lock =>
      locks ⟨auctionId, identityHash, commitmentHash, claimAuthority, lock⟩) executes
    intro address
    have tables := congrFun same address
    simp only [bindings] at tables
    cases present : w.registries address with
    | none =>
      rw [present, Option.map_none, Option.map_eq_none_iff] at tables
      rw [tables]
      exact .none
    | some registry =>
      rw [present, Option.map_some, Option.map_eq_some_iff] at tables
      obtain ⟨changed, after, reads⟩ := tables
      obtain ⟨forth, back⟩ := Prod.mk.inj reads
      rw [after]
      refine .some ⟨?_, fun auctionId c => .inl (by rw [back])⟩
      constructor
      · rw [forth, back]
        exact (paired address registry present).identity
      · rw [forth, back]
        exact (paired address registry present).commitment

/-- An auction whose winner is marked in a registry has ended. -/
theorem transact_marks (wired : w.Wired env) {tx : Tx σ} (done : w.transact env (msg, tx) = .ok next) :
    Tables (fun _ registry changed => ∀ auctionId,
      changed.winningIdentity auctionId = registry.winningIdentity auctionId ∨
        (next.market.auctions auctionId).auction.state = .finalized) w.registries next.registries := by
  intro address
  have kept : next.registries address = w.registries address → Option.Rel (fun registry changed =>
      ∀ auctionId, changed.winningIdentity auctionId = registry.winningIdentity auctionId ∨
        (next.market.auctions auctionId).auction.state = .finalized) (w.registries address)
        (next.registries address) := by
    intro same
    rw [same]
    cases w.registries address with
    | none => exact .none
    | some registry => exact .some fun _ => .inl rfl
  obtain ⟨-, executed, executes, same⟩ := transact_ok.mp done
  have registries : next.registries = executed.registries := by rw [← same]
  by_cases locks : ∃ auctionId identityHash commitmentHash claimAuthority,
      tx = .lockShieldedEscrow auctionId identityHash commitmentHash claimAuthority
  · obtain ⟨auctionId, identityHash, commitmentHash, claimAuthority, rfl⟩ := locks
    obtain ⟨-, registry, bound, deployed, binds, changed⟩ := lockShieldedEscrow_binds wired executes
    rw [registries, changed] at kept ⊢
    by_cases own : address = (w.snapshot auctionId).shieldedIdentityRegistry
    · subst own
      rw [Function.update_self, deployed]
      refine .some fun other => .inl ?_
      obtain ⟨-, -, ⟨rfl, -⟩ | ⟨-, -, rfl⟩⟩ := ShieldedIdentityRegistry.bindIdentity_cases binds
      · rfl
      · rfl
    · exact kept (Function.update_of_ne own ..)
  by_cases resolves : ∃ auctionId winnerIdentityHash winnerCiphertext winningAmount avsProof,
      tx = .submitShieldedResolution auctionId winnerIdentityHash winnerCiphertext winningAmount avsProof
  · obtain ⟨auctionId, winnerIdentityHash, winnerCiphertext, winningAmount, avsProof, rfl⟩ := resolves
    rcases submitShieldedResolution_ends wired done with ⟨-, unchanged⟩ | finalized
    · exact kept (congrFun unchanged address)
    rcases submitShieldedResolution_marks executes address with unchanged | ⟨registry, marked, before, after, rfl⟩
    · exact kept ((congrFun registries address).trans unchanged)
    · rw [before, registries, after]
      refine .some fun other => ?_
      by_cases about : other = auctionId
      · exact .inr (about ▸ finalized)
      · exact .inl (Function.update_of_ne about ..)
  · refine kept ((congrFun registries address).trans (congrFun ?_ address))
    exact execute_registries (fun _ _ _ _ lock => locks ⟨_, _, _, _, lock⟩)
      (fun _ _ _ _ _ resolution => resolves ⟨_, _, _, _, _, resolution⟩) executes

/-- No winner is marked for an auction that still runs, or that is not created yet. -/
def Unmarked (w : World σ) (auctionId : AuctionId) : Prop :=
  (w.market.auctions auctionId).auction.exists_ = false ∨
      (w.market.auctions auctionId).auction.state.running = true →
    ∀ address registry, w.registries address = some registry → registry.winningIdentity auctionId = 0

theorem Unmarked.step (unmarked : w.Unmarked auctionId) (wired : w.Wired env) {tx : Tx σ}
    (done : w.transact env (msg, tx) = .ok next) : next.Unmarked auctionId := by
  intro unfinished address changed present
  obtain ⟨nextWired, -, -, touched, flow, transition⟩ := transact_transition wired done
  have before : (w.market.auctions auctionId).auction.exists_ = false ∨
      (w.market.auctions auctionId).auction.state.running = true := by
    by_cases found : (w.market.auctions auctionId).auction.exists_ = true
    · rcases unfinished with absent | running
      · exact absurd (((transition.kept auctionId).found found).symm.trans absent) Bool.noConfusion
      · exact .inr (transition.running found running)
    · exact .inl (Bool.eq_false_iff.mpr found)
  obtain ⟨registry, deployed, marks⟩ := (transact_marks wired done).exists_before present
  rcases marks auctionId with same | finalized
  · exact same.trans (unmarked before address registry deployed)
  · rcases unfinished with absent | running
    · rw [nextWired.found_of_state finalized nofun] at absent
      cases absent
    · rw [finalized] at running
      cases running

theorem Aliased.step (aliased : w.Aliased) (deposited : w.Deposited) (wired : w.Wired env) {tx : Tx σ}
    (done : w.transact env (msg, tx) = .ok next) : next.Aliased := by
  have effects := transact_effects wired done
  obtain ⟨-, -, -, touched, flow, transition⟩ := transact_transition wired done
  have tables := transact_bindings wired done aliased.paired
  have keeps : ∀ auctionId, (w.market.auctions auctionId).auction.exists_ = true →
      (next.market.auctions auctionId).auction.exists_ = true ∧
        next.snapshot auctionId = w.snapshot auctionId :=
    fun auctionId found => ⟨(transition.kept auctionId).found found, (transition.kept auctionId).snapshot found⟩
  constructor
  · intro address changed present
    obtain ⟨registry, -, paired, -⟩ := tables.exists_before present
    exact paired
  · intro address changed auctionId c present nonzero
    obtain ⟨registry, before, -, reads⟩ := tables.exists_before present
    rcases reads auctionId c with same | ⟨-, found, own⟩
    · rw [same] at nonzero
      obtain ⟨found, own⟩ := aliased.homed address registry auctionId c before nonzero
      obtain ⟨still, snapshot⟩ := keeps auctionId found
      exact ⟨still, by rw [snapshot, own]⟩
    · obtain ⟨still, snapshot⟩ := keeps auctionId found
      exact ⟨still, by rw [snapshot, own]⟩
  · intro address changed c present nonzero
    obtain ⟨vault, before, move⟩ := effects.vaults.exists_before present
    have slot := move.slot c
    generalize changed.commitments c = after at slot nonzero ⊢
    have stays : after.auctionId = (vault.commitments c).auctionId →
        ∃ registry, next.registries (next.snapshot after.auctionId).shieldedIdentityRegistry =
          some registry ∧ registry.commitmentToIdentity after.auctionId c ≠ 0 := by
      intro same
      rw [same] at nonzero ⊢
      obtain ⟨found, -⟩ := deposited.homed address vault c before nonzero
      obtain ⟨-, snapshot⟩ := keeps _ found
      obtain ⟨registry, deployed, named⟩ := aliased.named address vault c before nonzero
      obtain ⟨bound, presents, -, reads⟩ := tables.exists_after deployed
      rw [snapshot]
      refine ⟨bound, presents, ?_⟩
      rcases reads (vault.commitments c).auctionId c with same | ⟨known, -⟩
      · rw [same]
        exact named
      · exact known
    cases slot with
    | kept => exact stays rfl
    | settled => exact stays rfl
    | refunded => exact stays rfl
    | @locked auctionId identityHash claimAuthority same =>
      subst same
      obtain ⟨-, executed, executes, rfl⟩ := transact_ok.mp done
      obtain ⟨found, registry, bound, deployed, binds, registries⟩ := lockShieldedEscrow_binds wired executes
      obtain ⟨-, snapshot⟩ := keeps auctionId found
      dsimp only at snapshot registries ⊢
      rw [snapshot, registries, Function.update_self]
      refine ⟨bound, rfl, ?_⟩
      rw [((aliased.paired _ registry deployed).bindIdentity_reads binds).1]
      exact (ShieldedIdentityRegistry.bindIdentity_cases binds).1

end World

theorem Deployment.genesis_aliased (deployment : Deployment) (env : External σ) (outside : σ) :
    (deployment.genesis env outside).Aliased := by
  have blank : ∀ address registry, (deployment.genesis env outside).registries address = some registry →
      registry = { owner := deployment.registryOwner address, market := env.market } := by
    intro address registry present
    simp only [genesis, Option.ite_none_right_eq_some, Option.some.injEq] at present
    exact present.2.symm
  constructor
  · intro address registry present
    rw [blank address registry present]
    exact ⟨fun _ _ _ nonzero reads => absurd reads.symm nonzero, fun _ _ _ nonzero reads => absurd reads.symm nonzero⟩
  · intro address registry auctionId c present nonzero
    rw [blank address registry present] at nonzero
    exact absurd rfl nonzero
  · intro address vault c present nonzero
    simp only [genesis, Option.map_eq_some_iff] at present
    obtain ⟨owner, -, rfl⟩ := present
    exact absurd rfl nonzero

theorem Deployment.run_unmarked (deployment : Deployment) (env : External σ) (outside : σ)
    (inputs : List (Msg × Tx σ)) (auctionId : AuctionId) :
    (deployment.run env outside inputs).Unmarked auctionId := by
  have kept : ∀ (w : World σ) input next, w.Wired env ∧ w.Unmarked auctionId →
      w.transact env input = .ok next → next.Wired env ∧ next.Unmarked auctionId := by
    intro w input next before done
    exact ⟨(World.transact_transition before.1 done).1, before.2.step before.1 done⟩
  have initial : (deployment.genesis env outside).Unmarked auctionId := by
    intro _ address registry present
    simp only [genesis, Option.ite_none_right_eq_some, Option.some.injEq] at present
    obtain ⟨-, rfl⟩ := present
    rfl
  exact (play_preserves kept ⟨deployment.genesis_wired env outside, initial⟩ inputs).2

theorem Deployment.run_aliased (deployment : Deployment) (env : External σ) (outside : σ)
    (inputs : List (Msg × Tx σ)) : (deployment.run env outside inputs).Aliased := by
  have kept : ∀ (w : World σ) input next, (w.Wired env ∧ w.Deposited) ∧ w.Aliased →
      w.transact env input = .ok next → (next.Wired env ∧ next.Deposited) ∧ next.Aliased := by
    rintro w input next ⟨⟨wired, deposited⟩, aliased⟩ done
    exact ⟨⟨(World.transact_transition wired done).1, deposited.step wired done⟩,
      aliased.step deposited wired done⟩
  exact (play_preserves kept ⟨⟨deployment.genesis_wired env outside,
    deployment.genesis_deposited env outside⟩, deployment.genesis_aliased env outside⟩ inputs).2

end FairMarket
