import FairMarket.Market.Accounted

/-! The deposits behind shielded bids. While an auction runs its vault holds each of
them as it was locked, whatever happens to other auctions of the same vault. -/

namespace FairMarket

variable {σ : Type}

/-- The auction takes bids or waits for its resolution. -/
def AuctionState.running : AuctionState → Bool
  | .active | .resolving => true
  | _ => false

theorem AuctionState.not_terminal_of_running {state : AuctionState} (running : state.running = true) :
    state.terminal = false := by
  cases state <;> first
    | rfl
    | cases running

/-- An auction that runs after a step ran before it, unless it is new. -/
theorem AuctionStep.running {refundKey : Bytes32 → Bytes32} {auctionId : AuctionId} {now : ℕ} {flow : Flow}
    {v next : AuctionView} (step : AuctionStep refundKey auctionId now flow v next)
    (found : v.cell.auction.exists_ = true) (running : next.cell.auction.state.running = true) :
    v.cell.auction.state.running = true := by
  cases step with
  | created _ _ _ _ _ _ _ _ _ fresh =>
    subst fresh
    cases found
  | finalizeTriggered _ _ _ _ _ active =>
    rw [active]
    rfl
  | resolved => simp [AuctionState.running] at running
  | shieldedResolved => simp [AuctionState.running] at running
  | cancelled => simp [AuctionState.running] at running
  | voided => simp [AuctionState.running] at running
  | _ => exact running

namespace World

variable {env : External σ} {w next : World σ} {msg : Msg} {auctionId : AuctionId}

theorem Transition.running {now : ℕ} {touched : AuctionId} {flow : Flow}
    (transition : Transition env now touched flow w next)
    (found : (w.market.auctions auctionId).auction.exists_ = true)
    (running : (next.market.auctions auctionId).auction.state.running = true) :
    (w.market.auctions auctionId).auction.state.running = true := by
  by_cases same : auctionId = touched
  · subst same
    rcases transition.step with ⟨-, unchanged⟩ | step
    · have state := congrArg (·.cell.auction.state) unchanged
      exact (congrArg AuctionState.running state).symm.trans running
    · exact step.running found running
  · have state := congrArg (·.cell.auction.state) (transition.others auctionId same)
    exact (congrArg AuctionState.running state).symm.trans running

/-- A rejected resolution touches no vault and no registry, and an accepted one ends its auction. -/
theorem submitShieldedResolution_ends (wired : w.Wired env)
    {winnerIdentityHash winnerCiphertext : Bytes32} {winningAmount : ℕ} {avsProof : Proof}
    (done : w.transact env (msg, .submitShieldedResolution auctionId winnerIdentityHash winnerCiphertext
      winningAmount avsProof) = .ok next) :
    next.vaults = w.vaults ∧ next.registries = w.registries ∨
      (next.market.auctions auctionId).auction.state = .finalized := by
  obtain ⟨-, executed, executes, rfl⟩ := transact_ok.mp done
  obtain ⟨accepted, submitted⟩ := afterResolution_ok.mp executes
  simp only [submitShieldedResolution, onlyAuctionState, bind_eq_ok, auctionExists_ok, exists_revertIf,
    requireSome_eq_ok, Prod.exists, ne_eq, not_not] at submitted
  obtain ⟨cell, ⟨found, rfl⟩, resolving, -, -, commitmentHash, valid, engine, -, proofAccepted, outside,
    -, submitted⟩ := submitted
  split at submitted
  · cases submitted
    exact .inl ⟨rfl, rfl⟩
  · simp only [bind_eq_ok, pure_eq_ok, Except.ok.injEq, Prod.mk.injEq] at submitted
    obtain ⟨recorded, records, settled, settles, opened, opens, marked, marks, -, rfl⟩ := submitted
    obtain ⟨first, -⟩ := recordResolution_changes records
    have recordedFound := first.frame.found.trans found
    have recordedWired := wired.of_frame first.frame found
    obtain ⟨lane, -, -, second, -⟩ := settleWinningCommitment_changes recordedWired recordedFound settles
    obtain ⟨third, -⟩ := openShieldedRefundPath_changes
      (recordedWired.of_frame second.frame recordedFound) (second.frame.found.trans recordedFound) opens
    obtain ⟨fourth, -⟩ := markWinningIdentity_changes marks
    right
    have state := congrArg (·.cell.auction.state) fourth.view
    rw [third.view, second.view, first.view] at state
    exact state.trans (by simp)

/-- What a transaction can do to one deposit of the vault at an address. -/
inductive SlotMove (env : External σ) (w : World σ) (msg : Msg) (tx : Tx σ) (address : Address)
    (commitmentHash : Bytes32) (slot : CommitmentDeposit) : CommitmentDeposit → Prop where
  | kept : SlotMove env w msg tx address commitmentHash slot slot
  | locked {auctionId : AuctionId} {identityHash : Bytes32} {claimAuthority : Address}
      (same : tx = .lockShieldedEscrow auctionId identityHash commitmentHash claimAuthority)
      (own : (w.snapshot auctionId).shieldedEscrowVault = address)
      (active : (w.market.auctions auctionId).auction.state = .active)
      (vacant : slot.amount = 0) (unclaimed : slot.claimed = false) (nonzero : msg.value ≠ 0) :
      SlotMove env w msg tx address commitmentHash slot
        { slot with auctionId, amount := msg.value, claimAuthority }
  | settled {winnerIdentityHash winnerCiphertext : Bytes32} {winningAmount : ℕ} {avsProof : Proof}
      (amount : ℕ) (same : tx = .submitShieldedResolution slot.auctionId winnerIdentityHash
        winnerCiphertext winningAmount avsProof) :
      SlotMove env w msg tx address commitmentHash slot { slot with amount }
  | refunded {recipient : Address} {deadline : ℕ} {signature : Signature}
      (same : tx = .claimRefundWithAuthorization address commitmentHash recipient deadline signature)
      (terminal : (w.market.auctions slot.auctionId).auction.state.terminal = true) :
      SlotMove env w msg tx address commitmentHash slot { slot with claimed := true, amount := 0 }

theorem VaultMove.slot {tx : Tx σ} {address : Address} {vault changed : ShieldedEscrowVault}
    (move : VaultMove env w msg tx address vault changed) (c : Bytes32) :
    SlotMove env w msg tx address c (vault.commitments c) (changed.commitments c) := by
  cases move with
  | driven requests permitted driven =>
    by_cases settles : ∃ request ∈ requests, ¬ request.leaves (vault.commitments c).auctionId
    · obtain ⟨request, member, settles⟩ := settles
      obtain ⟨amount, same⟩ := driven.settles (fun other member => ⟨Allowed.free (permitted other member), by
        have allowed := permitted other member
        cases other with
        | claimRefundWithAuthorization => exact allowed.elim
        | _ => rfl⟩) c
      rw [same]
      have allowed := permitted request member
      cases request with
      | settleWinningCommitment _ settled =>
        obtain rfl := not_not.mp settles
        obtain ⟨_, _, _, _, same⟩ := allowed
        exact .settled amount same
      | lockEscrow => exact allowed.elim
      | claimRefundWithAuthorization => exact allowed.elim
      | _ => exact absurd trivial settles
    · have leaves : ∀ request ∈ requests, request.leaves (vault.commitments c).auctionId := by
        intro request member
        by_contra settled
        exact settles ⟨request, member, settled⟩
      rw [driven.leaves leaves rfl]
      exact .kept
  | @locked _ _ commitmentHash claimAuthority same own active locks =>
    obtain ⟨⟨-, nonzero, -, -, vacant, unclaimed, -⟩, rfl⟩ := ShieldedEscrowVault.lockEscrow_ok.mp locks
    dsimp only
    by_cases about : c = commitmentHash
    · subst about
      rw [Function.update_self]
      exact .locked same own active vacant unclaimed nonzero
    · rw [Function.update_of_ne about]
      exact .kept
  | @refunded commitmentHash recipient deadline signature same settled refunds =>
    simp only [ShieldedEscrowVault.call, bind_eq_ok, exists_revertIf, pure_eq_ok,
      Except.ok.injEq] at refunds
    obtain ⟨released, done, -, rfl⟩ := refunds
    obtain ⟨digest, consumed, -, authorized, paid⟩ :=
      ShieldedEscrowVault.claimRefundWithAuthorization_ok.mp done
    obtain ⟨-, -, rfl⟩ := ShieldedEscrowVault.consumeClaimAuthorization_ok.mp authorized
    obtain ⟨-, after⟩ := ShieldedEscrowVault.releaseRefund_ok paid
    rw [after]
    dsimp only
    by_cases about : c = commitmentHash
    · subst about
      rw [Function.update_self]
      exact .refunded same settled
    · rw [Function.update_of_ne about]
      exact .kept

/-- Each deposit is in the vault of its auction and was recorded, and while the auction
runs the deposits are those recorded, still whole. An auction has one authority for each. -/
structure Deposited (w : World σ) : Prop where
  homed : ∀ address vault c, w.vaults address = some vault → (vault.commitments c).auctionId ≠ 0 →
    (w.market.auctions (vault.commitments c).auctionId).auction.exists_ = true ∧
      (w.snapshot (vault.commitments c).auctionId).shieldedEscrowVault = address
  whole : ∀ address vault c, w.vaults address = some vault → (vault.commitments c).auctionId ≠ 0 →
    (w.market.auctions (vault.commitments c).auctionId).auction.state.running = true →
      (vault.commitments c).amount ≠ 0 ∧ (vault.commitments c).claimed = false ∧
        .shieldedEscrowLocked (vault.commitments c).auctionId c (vault.commitments c).amount ∈ w.log
  signed : ∀ address vault c, w.vaults address = some vault → (vault.commitments c).auctionId ≠ 0 →
    .shieldedClaimAuthorityRegistered (vault.commitments c).auctionId c
      (vault.commitments c).claimAuthority ∈ w.log
  held : ∀ auctionId c amount, .shieldedEscrowLocked auctionId c amount ∈ w.log →
    (w.market.auctions auctionId).auction.exists_ = true ∧
      ((w.market.auctions auctionId).auction.state.running = true → ∃ vault,
        w.vaults (w.snapshot auctionId).shieldedEscrowVault = some vault ∧
          (vault.commitments c).auctionId = auctionId ∧ (vault.commitments c).amount = amount)
  signer : ∀ auctionId c claimAuthority,
    .shieldedClaimAuthorityRegistered auctionId c claimAuthority ∈ w.log →
      (w.market.auctions auctionId).auction.exists_ = true ∧
        ((w.market.auctions auctionId).auction.state.running = true → ∃ vault,
          w.vaults (w.snapshot auctionId).shieldedEscrowVault = some vault ∧
            (vault.commitments c).auctionId = auctionId) ∧
        ∀ vault, w.vaults (w.snapshot auctionId).shieldedEscrowVault = some vault →
          (vault.commitments c).auctionId = auctionId →
            (vault.commitments c).claimAuthority = claimAuthority

/-- A deposit of an auction that still runs after a transaction is not touched by it. -/
theorem transact_running_slot (wired : w.Wired env) {tx : Tx σ}
    (done : w.transact env (msg, tx) = .ok next) {address : Address} {vault changed : ShieldedEscrowVault}
    {c : Bytes32} (before : w.vaults address = some vault) (after : next.vaults address = some changed)
    (found : (w.market.auctions (vault.commitments c).auctionId).auction.exists_ = true)
    (running : (next.market.auctions (vault.commitments c).auctionId).auction.state.running = true)
    (funded : (vault.commitments c).amount ≠ 0) : changed.commitments c = vault.commitments c := by
  obtain ⟨-, -, -, touched, flow, transition⟩ := transact_transition wired done
  have ran := transition.running found running
  obtain ⟨_, present, move⟩ := (transact_effects wired done).vaults.exists_before after
  obtain rfl := Option.some.inj (before.symm.trans present)
  have slot := move.slot c
  generalize became : changed.commitments c = after at slot
  cases slot with
  | kept => rfl
  | locked _ _ _ vacant => exact absurd vacant funded
  | settled amount same =>
    subst same
    rcases submitShieldedResolution_ends wired done with ⟨unchanged, -⟩ | finalized
    · rw [unchanged, before] at after
      rw [← became, Option.some.inj after]
    · rw [finalized] at running
      cases running
  | refunded _ terminal =>
    rw [AuctionState.not_terminal_of_running ran] at terminal
    cases terminal

/-- A deposit of an auction that still runs is there afterwards as it was. -/
theorem Deposited.kept (deposited : w.Deposited) (wired : w.Wired env) {tx : Tx σ}
    (done : w.transact env (msg, tx) = .ok next) {address : Address} {vault : ShieldedEscrowVault} {c : Bytes32}
    (before : w.vaults address = some vault)
    (found : (w.market.auctions (vault.commitments c).auctionId).auction.exists_ = true)
    (running : (next.market.auctions (vault.commitments c).auctionId).auction.state.running = true) :
    ∃ changed, next.vaults address = some changed ∧ changed.commitments c = vault.commitments c := by
  obtain ⟨-, -, -, touched, flow, transition⟩ := transact_transition wired done
  obtain ⟨changed, present, -⟩ := (transact_effects wired done).vaults.exists_after before
  have funded := (deposited.whole _ vault c before (wired.counted _ found).1 (transition.running found running)).1
  exact ⟨changed, present, transact_running_slot wired done before present found running funded⟩

theorem Deposited.step (deposited : w.Deposited) (wired : w.Wired env) {tx : Tx σ}
    (done : w.transact env (msg, tx) = .ok next) : next.Deposited := by
  have effects := transact_effects wired done
  obtain ⟨-, -, -, touched, flow, transition⟩ := transact_transition wired done
  have keeps : ∀ auctionId, (w.market.auctions auctionId).auction.exists_ = true →
      (next.market.auctions auctionId).auction.exists_ = true ∧
        next.snapshot auctionId = w.snapshot auctionId :=
    fun auctionId found => ⟨(transition.kept auctionId).found found, (transition.kept auctionId).snapshot found⟩
  constructor
  · intro address changed c present nonzero
    obtain ⟨vault, before, move⟩ := effects.vaults.exists_before present
    have slot := move.slot c
    have homed := deposited.homed address vault c before
    generalize changed.commitments c = after at slot nonzero ⊢
    have stays : after.auctionId = (vault.commitments c).auctionId →
        (next.market.auctions after.auctionId).auction.exists_ = true ∧
          (next.snapshot after.auctionId).shieldedEscrowVault = address := by
      intro same
      rw [same] at nonzero ⊢
      obtain ⟨found, own⟩ := homed nonzero
      obtain ⟨still, snapshot⟩ := keeps _ found
      exact ⟨still, by rw [snapshot, own]⟩
    cases slot with
    | kept => exact stays rfl
    | settled => exact stays rfl
    | refunded => exact stays rfl
    | locked _ own active =>
      obtain ⟨still, snapshot⟩ := keeps _ (wired.found_of_state active nofun)
      exact ⟨still, by rw [snapshot, own]⟩
  · intro address changed c present nonzero running
    obtain ⟨vault, before, move⟩ := effects.vaults.exists_before present
    have slot := move.slot c
    have stays : (changed.commitments c).auctionId = (vault.commitments c).auctionId →
        (changed.commitments c).amount ≠ 0 ∧ (changed.commitments c).claimed = false ∧
          .shieldedEscrowLocked (changed.commitments c).auctionId c (changed.commitments c).amount ∈ next.log := by
      intro same
      rw [same] at nonzero running
      obtain ⟨found, -⟩ := deposited.homed address vault c before nonzero
      obtain ⟨funded, unclaimed, event⟩ :=
        deposited.whole address vault c before nonzero (transition.running found running)
      rw [transact_running_slot wired done before present found running funded]
      exact ⟨funded, unclaimed, effects.history _ event⟩
    generalize changed.commitments c = after at slot stays ⊢
    cases slot with
    | kept => exact stays rfl
    | settled => exact stays rfl
    | refunded => exact stays rfl
    | locked same _ _ _ unclaimed paid =>
      subst same
      exact ⟨paid, unclaimed, (lockShieldedEscrow_logs done).1⟩
  · intro address changed c present nonzero
    obtain ⟨vault, before, move⟩ := effects.vaults.exists_before present
    have slot := move.slot c
    have signed := deposited.signed address vault c before
    generalize changed.commitments c = after at slot nonzero ⊢
    cases slot with
    | kept => exact effects.history _ (signed nonzero)
    | settled => exact effects.history _ (signed nonzero)
    | refunded => exact effects.history _ (signed nonzero)
    | locked same =>
      subst same
      exact (lockShieldedEscrow_logs done).2
  · intro auctionId c amount event
    rcases effects.deposits auctionId c amount event with old | ⟨found, vault, present, about, same⟩
    · obtain ⟨found, held⟩ := deposited.held auctionId c amount old
      obtain ⟨still, snapshot⟩ := keeps _ found
      refine ⟨still, fun running => ?_⟩
      have ran := transition.running found running
      obtain ⟨vault, before, about, same⟩ := held ran
      subst about
      obtain ⟨changed, present, kept⟩ := deposited.kept wired done before found running
      rw [snapshot]
      exact ⟨changed, present, by rw [kept], by rw [kept]; exact same⟩
    · obtain ⟨still, snapshot⟩ := keeps _ found
      rw [snapshot]
      exact ⟨still, fun _ => ⟨vault, present, about, same⟩⟩
  · intro auctionId c claimAuthority event
    rcases effects.registrations auctionId c claimAuthority event with old | ⟨found, vault, present, about, same⟩
    · obtain ⟨found, held, signer⟩ := deposited.signer auctionId c claimAuthority old
      obtain ⟨still, snapshot⟩ := keeps _ found
      rw [snapshot]
      refine ⟨still, fun running => ?_, fun changed present about => ?_⟩
      · have ran := transition.running found running
        obtain ⟨vault, before, about⟩ := held ran
        subst about
        obtain ⟨changed, present, kept⟩ := deposited.kept wired done before found running
        exact ⟨changed, present, by rw [kept]⟩
      · obtain ⟨vault, before, move⟩ := effects.vaults.exists_before present
        have slot := move.slot c
        generalize changed.commitments c = after at slot about ⊢
        cases slot with
        | kept => exact signer vault before about
        | settled => exact signer vault before about
        | refunded => exact signer vault before about
        | locked _ _ active vacant =>
          -- An auction that takes bids still holds what was registered in it.
          obtain rfl := about
          obtain ⟨_, same, about⟩ := held (by rw [active]; rfl)
          obtain rfl := Option.some.inj (before.symm.trans same)
          have nonzero : (vault.commitments c).auctionId ≠ 0 := by
            rw [about]
            exact (wired.counted _ found).1
          exact absurd vacant (deposited.whole _ vault c before nonzero (by rw [about, active]; rfl)).1
    · obtain ⟨still, snapshot⟩ := keeps _ found
      rw [snapshot]
      refine ⟨still, fun _ => ⟨vault, present, about⟩, fun other again _ => ?_⟩
      obtain rfl := Option.some.inj (present.symm.trans again)
      exact same

end World

theorem Deployment.genesis_deposited (deployment : Deployment) (env : External σ) (outside : σ) :
    (deployment.genesis env outside).Deposited := by
  have empty : ∀ address vault c, (deployment.genesis env outside).vaults address = some vault →
      (vault.commitments c).auctionId = 0 := by
    intro address vault c present
    simp only [genesis, Option.map_eq_some_iff] at present
    obtain ⟨owner, -, rfl⟩ := present
    rfl
  exact ⟨fun address vault c present nonzero => absurd (empty address vault c present) nonzero,
    fun address vault c present nonzero => absurd (empty address vault c present) nonzero,
    fun address vault c present nonzero => absurd (empty address vault c present) nonzero,
    fun _ _ _ event => absurd event List.not_mem_nil, fun _ _ _ event => absurd event List.not_mem_nil⟩

theorem Deployment.run_deposited (deployment : Deployment) (env : External σ) (outside : σ)
    (inputs : List (Msg × Tx σ)) : (deployment.run env outside inputs).Deposited := by
  have kept : ∀ (w : World σ) input next, w.Wired env ∧ w.Deposited →
      w.transact env input = .ok next → next.Wired env ∧ next.Deposited := by
    intro w input next before done
    exact ⟨(World.transact_transition before.1 done).1, before.2.step before.1 done⟩
  exact (play_preserves kept
    ⟨deployment.genesis_wired env outside, deployment.genesis_deposited env outside⟩ inputs).2

end FairMarket
