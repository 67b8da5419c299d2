import FairMarket.Market.Authority
import FairMarket.Market.Bystander
import FairMarket.Market.Entitlements

/-! Once everybody has claimed, in any order, an auction has paid out every wei it
took in, up to the dust that rounding leaves in the pot. -/

namespace FairMarket

open Event

variable {σ : Type}

/-- What the claims of an auction rest on. -/
structure AuctionView.SameTerms (v next : AuctionView) : Prop where
  state : next.cell.auction.state = v.cell.auction.state
  seller : next.cell.auction.seller = v.cell.auction.seller
  executor : next.cell.finalizationExecutor = v.cell.finalizationExecutor
  deposited : next.deposited = v.deposited

/-- What a settled auction owes its seller, whatever has been claimed of its escrow. -/
def AuctionStorage.sellerDue (cell : AuctionStorage) : ℕ :=
  match cell.auction.state with
  | .finalized => cell.auction.sellerDeposit + cell.auction.winningAmount - cell.finalizationReward
  | .cancelled => cell.auction.sellerDeposit - cell.auction.slashAmount
  | .voided =>
    if cell.auction.slashAmount = 0 then cell.auction.sellerDeposit - cell.finalizationReward else 0
  | _ => 0

section View

variable {v : AuctionView} {amounts : Bytes32 → ℕ} {auctionId : AuctionId}

theorem Settled.sellerPayout_eq (settled : Settled v) : v.sellerPayout = v.cell.sellerDue := by
  unfold AuctionView.sellerPayout AuctionStorage.sellerDue
  rcases AuctionState.terminal_cases settled.terminal with state | state | state
  · simp only [state]
  · simp only [state]
  · simp only [state]
    by_cases unslashed : v.cell.auction.slashAmount = 0
    · rw [if_pos unslashed, if_pos ⟨unslashed, settled.voided state unslashed⟩]
    · rw [if_neg unslashed, if_neg fun both => unslashed both.1]

theorem deposited_emit {event : Event} (unlocked : publicEscrow event = 0)
    (unshielded : shieldedEscrow event = 0) : (v.emit event).deposited = v.deposited := by
  simp only [AuctionView.deposited, AuctionView.emit_cell, AuctionView.emit_log, total_cons, unlocked,
    unshielded, Nat.zero_add]

theorem entitled_withdraw {claimant : Address} (due : v.refundOf claimant ≠ 0) (event : Event)
    (other : Entitlement) :
    ((v.withdraw claimant).emit event).Entitled amounts other ↔
      v.Entitled amounts other ∧ other ≠ .refund claimant := by
  cases other with
  | refund p =>
    change (v.withdraw claimant).refundOf p ≠ 0 ↔ v.refundOf p ≠ 0 ∧ _
    rw [withdraw_refundOf due]
    by_cases same : p = claimant
    · simp [same]
    · simp [same]
  | shieldedRefund => exact ⟨fun left => ⟨left, nofun⟩, And.left⟩
  | sellerProceeds => exact ⟨fun left => ⟨left, nofun⟩, And.left⟩
  | finalizeReward => exact ⟨fun left => ⟨left, nofun⟩, And.left⟩

theorem entitled_sellerProceeds (event : Event) (other : Entitlement) :
    ({ v with cell := { v.cell with auction.sellerClaimed := true } }.emit event).Entitled amounts other ↔
      v.Entitled amounts other ∧ other ≠ .sellerProceeds := by
  cases other with
  | refund => exact ⟨fun left => ⟨left, nofun⟩, And.left⟩
  | shieldedRefund => exact ⟨fun left => ⟨left, nofun⟩, And.left⟩
  | sellerProceeds => exact ⟨fun left => absurd left.1 Bool.noConfusion, fun left => absurd rfl left.2⟩
  | finalizeReward => exact ⟨fun left => ⟨left, nofun⟩, And.left⟩

theorem entitled_finalizeReward (event : Event) (other : Entitlement) :
    ({ v with cell := { v.cell with finalizationRewardClaimed := true } }.emit event).Entitled amounts
        other ↔
      v.Entitled amounts other ∧ other ≠ .finalizeReward := by
  cases other with
  | refund => exact ⟨fun left => ⟨left, nofun⟩, And.left⟩
  | shieldedRefund => exact ⟨fun left => ⟨left, nofun⟩, And.left⟩
  | sellerProceeds => exact ⟨fun left => ⟨left, nofun⟩, And.left⟩
  | finalizeReward => exact ⟨fun left => absurd left.1 Bool.noConfusion, fun left => absurd rfl left.2⟩

end View

namespace World

variable {env : External σ} {w next : World σ} {msg : Msg} {auctionId : AuctionId}

/-- One entitlement is gone, and the others rest on what they rested on. -/
structure Drawn (env : External σ) (w next : World σ) (auctionId : AuctionId) (taken : Entitlement) :
    Prop where
  entitled : ∀ other, next.Entitled auctionId other ↔ w.Entitled auctionId other ∧ other ≠ taken
  frame : Frame auctionId w next
  terms : (w.view auctionId).SameTerms (next.view auctionId)
  authorities : ∀ vault, w.vaults (w.snapshot auctionId).shieldedEscrowVault = some vault →
    ∃ changed, next.vaults (w.snapshot auctionId).shieldedEscrowVault = some changed ∧
      ∀ c, (changed.commitments c).claimAuthority = (vault.commitments c).claimAuthority

/-- A claim that leaves the vaults alone. -/
theorem Drawn.of_changes {taken : Entitlement} {after : AuctionView}
    (changes : Changes auctionId w next after) (vaults : next.vaults = w.vaults)
    (terms : (w.view auctionId).SameTerms after)
    (entitled : ∀ amounts other, after.Entitled amounts other ↔
      (w.view auctionId).Entitled amounts other ∧ other ≠ taken) : Drawn env w next auctionId taken where
  entitled := by
    intro other
    have amounts : next.shieldedAmount auctionId = w.shieldedAmount auctionId := by
      funext c
      rw [shieldedAmount, shieldedAmount, vaults, changes.frame.snapshot]
    unfold Entitled
    rw [amounts, changes.view]
    exact entitled _ other
  frame := changes.frame
  terms := by
    rw [changes.view]
    exact terms
  authorities := fun vault deployed => ⟨vault, by rw [vaults, deployed], fun _ => rfl⟩

theorem claimRefund_drawn (wired : w.Wired env) (done : w.claimRefund env msg auctionId = .ok next) :
    Drawn env w next auctionId (.refund msg.sender) := by
  obtain ⟨⟨-, -, some⟩, changes, -, -, vaults, -⟩ := claimRefund_changes wired done
  exact .of_changes changes vaults ⟨rfl, rfl, rfl, deposited_emit rfl rfl⟩
    fun _ => entitled_withdraw (AuctionView.refundOf_ne_zero some) _

theorem claimSellerProceeds_drawn (wired : w.Wired env)
    (done : w.claimSellerProceeds env msg auctionId = .ok next) :
    Drawn env w next auctionId .sellerProceeds := by
  obtain ⟨-, changes, -, -, -, vaults⟩ := claimSellerProceeds_changes wired done
  exact .of_changes changes vaults ⟨rfl, rfl, rfl, deposited_emit rfl rfl⟩
    fun _ => @entitled_sellerProceeds (w.view auctionId) _ _

theorem claimFinalizeReward_drawn (done : w.claimFinalizeReward env msg auctionId = .ok next) :
    Drawn env w next auctionId .finalizeReward := by
  obtain ⟨-, changes, -, -, -, vaults⟩ := claimFinalizeReward_changes done
  exact .of_changes changes vaults ⟨rfl, rfl, rfl, deposited_emit rfl rfl⟩
    fun _ => @entitled_finalizeReward (w.view auctionId) _ _

/-- A released refund takes just its own commitment's amount away. -/
theorem RefundReleased.shieldedAmount_eq {vault changed : ShieldedEscrowVault} {commitmentHash : Bytes32}
    {recipient : Address}
    (released : RefundReleased env w next auctionId vault changed commitmentHash recipient) :
    next.shieldedAmount auctionId = Function.update (w.shieldedAmount auctionId) commitmentHash 0 := by
  funext c
  unfold shieldedAmount
  rw [released.changes.frame.snapshot, released.vaults, Function.update_self, released.deployed,
    Option.elim_some, released.commitments]
  by_cases own : c = commitmentHash
  · rw [own, Function.update_self, Function.update_self]
    exact ite_self _
  · rw [Function.update_of_ne own, Function.update_of_ne own]
    rfl

theorem RefundReleased.drawn {vault changed : ShieldedEscrowVault} {commitmentHash : Bytes32}
    {recipient : Address} (settled : Settled (w.view auctionId))
    (released : RefundReleased env w next auctionId vault changed commitmentHash recipient) :
    Drawn env w next auctionId (.shieldedRefund commitmentHash) where
  entitled := by
    have view := released.changes.view
    have after := @Settled.shieldedRefunded _ settled (vault.lane auctionId) (env.refundKey commitmentHash)
      _ (view_lane released.deployed) released.funded released.bounded (.shieldedRefundClaimed auctionId
        commitmentHash recipient (vault.commitments commitmentHash).amount
          (ShieldedEscrowVault.compensationShare (vault.commitments commitmentHash).amount
            (vault.lane auctionId).reserve (vault.lane auctionId).total))
    have payout : (next.view auctionId).sellerPayout = (w.view auctionId).sellerPayout := by
      rw [view, settled.sellerPayout_eq]
      exact after.sellerPayout_eq
    have amounts := released.shieldedAmount_eq
    intro other
    unfold Entitled
    cases other with
    | refund p =>
      rw [view]
      exact ⟨fun left => ⟨left, nofun⟩, And.left⟩
    | shieldedRefund c =>
      change next.shieldedAmount auctionId c ≠ 0 ↔ w.shieldedAmount auctionId c ≠ 0 ∧ _
      rw [amounts]
      by_cases own : c = commitmentHash
      · simp [own]
      · simp [own]
    | sellerProceeds =>
      change _ ∧ (next.view auctionId).sellerPayout ≠ 0 ↔ _
      rw [payout, view]
      exact ⟨fun left => ⟨left, nofun⟩, And.left⟩
    | finalizeReward =>
      rw [view]
      exact ⟨fun left => ⟨left, nofun⟩, And.left⟩
  frame := released.changes.frame
  terms := by
    rw [released.changes.view]
    exact ⟨rfl, rfl, rfl, deposited_emit rfl rfl⟩
  authorities := by
    intro before deployed
    rw [released.deployed, Option.some.injEq] at deployed
    subst deployed
    refine ⟨changed, by rw [released.vaults, Function.update_self], fun c => ?_⟩
    rw [released.commitments]
    by_cases own : c = commitmentHash
    · rw [own, Function.update_self]
    · rw [Function.update_of_ne own]

theorem Frame.isSystem_eq (frame : Frame auctionId w next) (account : Address) :
    next.isSystem env account = w.isSystem env account := by
  apply World.isSystem_eq
  · exact frame.vaults.isSome_eq
  · exact frame.registries.isSome_eq
  · exact frame.pots.isSome_eq
  · exact fun address => by rw [frame.engines]

/-- A claim that was prepared stays good while others claim. -/
theorem Exercises.drawn {entitlement taken : Entitlement} {input : Msg × Tx σ}
    (exercises : Exercises env w auctionId entitlement input) (drawn : Drawn env w next auctionId taken) :
    Exercises env next auctionId entitlement input := by
  have accepts : ∀ {account}, w.AcceptsEther env account → next.AcceptsEther env account :=
    fun party => ⟨party.known, (drawn.frame.isSystem_eq _).trans party.stranger, party.accepts⟩
  cases exercises with
  | refund unpaid claimant => exact .refund unpaid (accepts claimant)
  | shieldedRefund unpaid known stranger paid deployed unexpired signed =>
    obtain ⟨changed, present, same⟩ := drawn.authorities _ deployed
    rw [← same] at signed
    rw [← drawn.frame.snapshot] at present signed ⊢
    exact .shieldedRefund unpaid known ((drawn.frame.isSystem_eq _).trans stranger) (accepts paid) present
      unexpired signed
  | sellerProceeds unpaid seller own =>
    exact .sellerProceeds unpaid (accepts seller) (own.trans drawn.terms.seller.symm)
  | finalizeReward unpaid executor own =>
    exact .finalizeReward unpaid (accepts executor) (own.trans drawn.terms.executor.symm)

/-- A claim of an entitled party is accepted and takes just its own entitlement away. -/
theorem Settling.claim (settling : w.Settling env auctionId) (free : env.CollisionFree)
    {entitlement : Entitlement} {input : Msg × Tx σ}
    (exercises : Exercises env w auctionId entitlement input)
    (entitled : w.Entitled auctionId entitlement) (timely : w.timestamp ≤ input.1.timestamp) :
    ∃ next, w.transact env input = .ok next ∧ next.timestamp = input.1.timestamp ∧
      Drawn env w next auctionId entitlement := by
  have accepted : ∀ {msg : Msg} {tx : Tx σ} {executed : World σ}, tx.creates = false → msg.sender ≠ 0 →
      w.isSystem env msg.sender = false → msg.value = 0 → w.timestamp ≤ msg.timestamp →
      w.execute env msg tx = .ok executed → Drawn env w executed auctionId entitlement →
      ∃ next, w.transact env (msg, tx) = .ok next ∧ next.timestamp = msg.timestamp ∧
        Drawn env w next auctionId entitlement := by
    intro msg tx executed existing known stranger unpaid timely executes drawn
    refine ⟨{ executed with timestamp := msg.timestamp },
      transact_unpaid existing known stranger timely unpaid executes, rfl, ?_⟩
    exact ⟨drawn.entitled, { drawn.frame with }, drawn.terms, drawn.authorities⟩
  cases exercises with
  | refund unpaid claimant =>
    obtain ⟨executed, executes⟩ := settling.claimRefund_succeeds free claimant entitled
    exact accepted rfl claimant.known claimant.stranger unpaid timely executes
      (claimRefund_drawn settling.wired executes)
  | @shieldedRefund msg c recipient deadline signature vault unpaid known stranger paid deployed unexpired
      signed =>
    change w.shieldedAmount auctionId c ≠ 0 at entitled
    unfold shieldedAmount at entitled
    rw [deployed, Option.elim_some, CommitmentDeposit.amountIn] at entitled
    obtain ⟨about, funded⟩ := ite_ne_right_iff.mp entitled
    obtain ⟨executed, executes⟩ := settling.claimRefundWithAuthorization_succeeds free deployed about
      funded paid unexpired signed
    obtain ⟨other, before, changed, own, released⟩ :=
      claimRefundWithAuthorization_released settling.wired executes
    have same := released.deployed
    rw [own, deployed, Option.some.injEq] at same
    have auction : other = auctionId := by
      rw [← released.about, ← about, same]
    subst auction
    exact accepted rfl known stranger unpaid timely executes (released.drawn settling.settled)
  | sellerProceeds unpaid seller own =>
    obtain ⟨executed, executes⟩ :=
      settling.claimSellerProceeds_succeeds seller own entitled.1 entitled.2
    exact accepted rfl seller.known seller.stranger unpaid timely executes
      (claimSellerProceeds_drawn settling.wired executes)
  | finalizeReward unpaid executor own =>
    obtain ⟨executed, executes⟩ :=
      settling.claimFinalizeReward_succeeds executor own entitled.1 entitled.2
    exact accepted rfl executor.known executor.stranger unpaid timely executes
      (claimFinalizeReward_drawn executes)

theorem Transition.conserved {now : ℕ} {touched : AuctionId} {flow : Flow}
    (transition : Transition env now touched flow w next) (conserved : Conserved (w.view auctionId)) :
    Conserved (next.view auctionId) := by
  by_cases same : auctionId = touched
  · subst same
    rcases transition.step with ⟨-, kept⟩ | step
    · rw [kept]
      exact conserved
    · exact conserved.step step
  · rw [transition.others auctionId same]
    exact conserved

theorem Settling.drawn (settling : w.Settling env auctionId) {taken : Entitlement} {input : Msg × Tx σ}
    (done : w.transact env input = .ok next) (drawn : Drawn env w next auctionId taken) :
    next.Settling env auctionId := by
  obtain ⟨wired, -, -, touched, flow, transition⟩ := transact_transition settling.wired done
  have conserved := transition.conserved settling.conserved
  constructor
  · exact wired
  · exact transition.solvent settling.solvent
  · exact settling.accounted.step settling.wired done
  · exact conserved
  · refine conserved.sound.settled_of_terminal (drawn.frame.found.trans settling.found) ?_
    rw [drawn.terms.state]
    exact settling.terminal
  · rw [drawn.terms.deposited]
    exact settling.supply

/-- All entitled parties claim, in whatever order. -/
theorem Settling.claims (settling : w.Settling env auctionId) (free : env.CollisionFree)
    {order : List Entitlement} {claims : List (Msg × Tx σ)} (once : order.Nodup)
    (all : ∀ entitlement, w.Entitled auctionId entitlement ↔ entitlement ∈ order)
    (exercised : List.Forall₂ (Exercises env w auctionId) order claims)
    (timely : List.IsChain (· ≤ ·) (w.timestamp :: claims.map (·.1.timestamp))) :
    Along (transact env) (fun w input => ∃ next, w.transact env input = .ok next) w claims ∧
      (play (transact env) w claims).Settling env auctionId ∧
      (w.view auctionId).SameTerms ((play (transact env) w claims).view auctionId) ∧
      ∀ entitlement, ¬ (play (transact env) w claims).Entitled auctionId entitlement := by
  induction order generalizing w claims with
  | nil =>
    cases exercised
    refine ⟨trivial, settling, ⟨rfl, rfl, rfl, rfl⟩, fun entitlement entitled => ?_⟩
    exact absurd ((all entitlement).mp entitled) List.not_mem_nil
  | cons entitlement order ih =>
    cases exercised with | @cons _ input _ claims exercises rest =>
    obtain ⟨first, later⟩ := List.isChain_cons_cons.mp timely
    dsimp only at first later
    obtain ⟨next, done, clock, drawn⟩ :=
      settling.claim free exercises ((all entitlement).mpr List.mem_cons_self) first
    have stepped : advance (transact env) w input = next := by
      unfold advance
      rw [done]
    obtain ⟨fresh, once⟩ := List.nodup_cons.mp once
    have others : ∀ other, next.Entitled auctionId other ↔ other ∈ order := by
      intro other
      rw [drawn.entitled other, all other, List.mem_cons]
      constructor
      · rintro ⟨same | member, different⟩
        · exact absurd same different
        · exact member
      · intro member
        refine ⟨.inr member, ?_⟩
        rintro rfl
        exact fresh member
    rw [← clock] at later
    obtain ⟨along, last, terms, nothing⟩ := ih (settling.drawn done drawn) once others
      (rest.imp fun _ _ prepared => prepared.drawn drawn) later
    rw [play_cons, stepped]
    refine ⟨⟨⟨next, done⟩, by rw [stepped]; exact along⟩, last, ?_, nothing⟩
    exact ⟨terms.state.trans drawn.terms.state, terms.seller.trans drawn.terms.seller,
      terms.executor.trans drawn.terms.executor, terms.deposited.trans drawn.terms.deposited⟩

theorem Settling.of_run {deployment : Deployment} {outside : σ} {inputs : List (Msg × Tx σ)}
    (reached : deployment.run env outside inputs = w)
    (ended : (w.market.auctions auctionId).auction.state.terminal = true)
    (supply : (w.view auctionId).deposited < 2 ^ 128) : w.Settling env auctionId := by
  subst reached
  obtain ⟨wired, solvent⟩ := deployment.run_solvent env outside inputs
  have conserved := (deployment.run_reachable env outside inputs auctionId).conserved
  have found : ((deployment.run env outside inputs).market.auctions auctionId).auction.exists_ = true := by
    by_contra absent
    rw [(wired.blank auctionId (Bool.eq_false_iff.mpr absent)).1] at ended
    cases ended
  exact ⟨wired, solvent, deployment.run_accounted env outside inputs, conserved,
    conserved.sound.settled_of_terminal found ended, supply⟩

section Emptied

variable (settling : w.Settling env auctionId)
  (nothing : ∀ entitlement, ¬ w.Entitled auctionId entitlement)
include settling nothing

theorem Settling.dues_eq_zero : (w.view auctionId).dues = 0 := by
  have payout : (w.market.auctions auctionId).auction.sellerClaimed = false →
      (w.market.auctions auctionId).sellerDue = 0 := by
    intro unclaimed
    have none := nothing .sellerProceeds
    by_contra due
    refine none ⟨unclaimed, ?_⟩
    rw [settling.settled.sellerPayout_eq]
    exact due
  have reward : (w.market.auctions auctionId).auction.state = .finalized ∨
      (w.market.auctions auctionId).auction.state = .voided →
      (w.market.auctions auctionId).finalizationRewardClaimed = true := by
    intro ended
    by_contra unclaimed
    exact nothing .finalizeReward ⟨by simpa using unclaimed, ended⟩
  unfold AuctionView.dues
  unfold AuctionStorage.sellerDue at payout
  rw [view_cell]
  generalize (w.market.auctions auctionId).auction.sellerClaimed = claimed at payout ⊢
  rcases AuctionState.terminal_cases settling.terminal with state | state | state
  · have drawn := reward (.inl state)
    simp only [state, drawn] at payout ⊢
    cases claimed with
    | true => rfl
    | false => simpa using payout rfl
  · simp only [state] at payout ⊢
    cases claimed with
    | true => rfl
    | false => simpa using payout rfl
  · have drawn := reward (.inr state)
    simp only [state, drawn] at payout ⊢
    cases claimed with
    | true => rfl
    | false =>
      by_cases unslashed : (w.market.auctions auctionId).auction.slashAmount = 0
      · simpa [unslashed] using payout rfl
      · simp [unslashed]

/-- Nothing of the auction is left in any vault. -/
theorem Settling.vaults_drained {address : Address} {vault : ShieldedEscrowVault}
    (deployed : w.vaults address = some vault) :
    vault.auctionTotals auctionId = 0 ∧ vault.shieldedSlashReserves auctionId = 0 ∧
      ∀ c, (vault.commitments c).amountIn auctionId = 0 := by
  have backed := settling.accounted.backed address vault deployed
  by_cases own : (w.snapshot auctionId).shieldedEscrowVault = address
  · subst own
    have empty : ∀ c, (vault.commitments c).amountIn auctionId = 0 := by
      intro c
      have none := nothing (.shieldedRefund c)
      change ¬ w.shieldedAmount auctionId c ≠ 0 at none
      rw [shieldedAmount, deployed, Option.elim_some, not_not] at none
      exact none
    have total : vault.auctionTotals auctionId = 0 := by
      rw [backed.totals]
      exact Finset.sum_eq_zero fun c _ => empty c
    have lane := view_lane deployed
    have reserve := settling.settled.drained (by
      rw [AuctionView.shieldedTotal, lane]
      exact total)
    rw [AuctionView.reserve, lane] at reserve
    exact ⟨total, reserve, empty⟩
  · have lane := settling.wired.lanes address vault auctionId deployed fun _ => own
    have total : vault.auctionTotals auctionId = 0 := congrArg Lane.total lane
    refine ⟨total, congrArg Lane.reserve lane, fun c => ?_⟩
    rw [backed.totals] at total
    exact (Finset.sum_eq_zero_iff.mp total) c (Finset.mem_univ c)

theorem Settling.shieldedTotal_eq_zero : (w.view auctionId).shieldedTotal = 0 := by
  cases deployed : w.vaults (w.snapshot auctionId).shieldedEscrowVault with
  | none => simp [AuctionView.shieldedTotal, view, deployed]
  | some vault =>
    rw [AuctionView.shieldedTotal, view_lane deployed]
    exact (settling.vaults_drained nothing deployed).1

end Emptied

end World

/-- From any reachable world in which an auction is settled, let all parties that are
still entitled claim once, in any order. Every claim is accepted. Afterwards what the
auction has paid out and what is left of its penalty in the pot come to all that was
deposited, the pot keeps less than one wei for each public escrow holder and has paid
no more than was registered, and neither the market nor any vault holds anything. -/
theorem auction_pays_out (deployment : Deployment) (env : External σ) (outside : σ)
    (inputs : List (Msg × Tx σ)) (auctionId : AuctionId) (free : env.CollisionFree) {w : World σ}
    (reached : deployment.run env outside inputs = w)
    (ended : (w.market.auctions auctionId).auction.state.terminal = true)
    (supply : (w.view auctionId).deposited < 2 ^ 128) (order : List Entitlement)
    (claims : List (Msg × Tx σ)) (once : order.Nodup)
    (all : ∀ entitlement, w.Entitled auctionId entitlement ↔ entitlement ∈ order)
    (exercised : List.Forall₂ (w.Exercises env auctionId) order claims)
    (timely : List.IsChain (· ≤ ·) (w.timestamp :: claims.map (·.1.timestamp))) :
    let last := deployment.run env outside (inputs ++ claims)
    let v := last.view auctionId
    Along (World.transact env) (fun w input => ∃ next, w.transact env input = .ok next) w claims ∧
      total paid v.log + (v.pot.totalSlash - total compensation v.log) = (w.view auctionId).deposited ∧
      v.pot.totalSlash - total compensation v.log ≤ v.publicHolders.card - 1 ∧
      total compensation v.log ≤ v.pot.totalSlash ∧
      last.market.balance =
        last.unsolicited + ∑ other ∈ Finset.univ.erase auctionId, (last.view other).owed ∧
      ∀ address vault, last.vaults address = some vault →
        vault.auctionTotals auctionId = 0 ∧ vault.shieldedSlashReserves auctionId = 0 ∧
          ∀ c, (vault.commitments c).auctionId = auctionId → (vault.commitments c).amount = 0 := by
  intro last v
  obtain ⟨along, settling, terms, nothing⟩ :=
    (World.Settling.of_run reached ended supply).claims free once all exercised timely
  have final : last = play (World.transact env) w claims := by
    rw [← reached]
    exact deployment.run_append_eq env outside inputs claims
  rw [← final] at settling terms nothing
  have refunded : ∀ p, v.refundOf p = 0 := fun p => by
    by_contra due
    exact nothing (.refund p) due
  obtain ⟨owed, reserve, value⟩ := settling.conserved.paid_out settling.settled refunded
    (settling.dues_eq_zero nothing) (settling.shieldedTotal_eq_zero nothing)
  refine ⟨along, value.trans terms.deposited, settling.conserved.dust settling.settled refunded,
    settling.conserved.compensation_le, ?_, ?_⟩
  · have balance := settling.solvent.balance
    unfold World.owed at balance
    rw [← Finset.add_sum_erase Finset.univ _ (Finset.mem_univ auctionId), owed, Nat.zero_add] at balance
    exact balance
  · intro address vault deployed
    obtain ⟨total, reserve, empty⟩ := settling.vaults_drained nothing deployed
    refine ⟨total, reserve, fun c about => ?_⟩
    have amount := empty c
    rwa [CommitmentDeposit.amountIn, if_pos about] at amount

theorem tokenChain_collisionFree : tokenChain.CollisionFree where
  refundKey := by
    intro left right same
    simpa [External.refundKey, ShieldedEscrowVault.compensationKey, tokenChain, Word.ofBytes32] using same
  claimKey := by
    intro left right same
    have numbers := congrArg BitVec.toNat same
    simp only [tokenChain, Word.ofAddress, BitVec.toNat_ofNat] at numbers
    apply BitVec.eq_of_toNat_eq
    omega

/-- A bidder with one wei in the open and another with two commitments, of one and of two
wei. Their auction is cancelled for a penalty of 26. -/
def bothLanes : List (Msg × Tx (ℕ → Address)) :=
  [({ sender := 1, timestamp := 1000 }, .setShieldedEscrowVault 12),
    ({ sender := 1, timestamp := 1000 }, .setShieldedIdentityRegistry 13),
    ({ sender := 1, timestamp := 1000 }, .setSettlementEngine 14),
    ({ sender := 9, value := 100, timestamp := 1000 }, .createAuction 5 7 100 0 100 false),
    ({ sender := 7, value := 1, timestamp := 1001 }, .lockEscrow 1),
    ({ sender := 8, value := 1, timestamp := 1001 }, .lockShieldedEscrow 1 21 31 41),
    ({ sender := 8, value := 2, timestamp := 1001 }, .lockShieldedEscrow 1 22 32 42)]

def cancelBothLanes : Msg × Tx (ℕ → Address) := ({ sender := 9, timestamp := 1002 }, .cancelAuction 1)

def claimSmall : Msg × Tx (ℕ → Address) :=
  ({ sender := 8, timestamp := 1003 }, .claimRefundWithAuthorization 12 31 50 2000 [41])

def claimLarge : Msg × Tx (ℕ → Address) :=
  ({ sender := 8, timestamp := 1003 }, .claimRefundWithAuthorization 12 32 50 2000 [42])

/-- Everybody claims, the small commitment last. -/
def claimBothLanes : List (Msg × Tx (ℕ → Address)) :=
  [claimLarge, ({ sender := 7, timestamp := 1003 }, .claimRefund 1),
    ({ sender := 9, timestamp := 1003 }, .claimSellerProceeds 1), claimSmall]

@[irreducible] def cancelledBothLanes : World (ℕ → Address) :=
  shieldedDeployment.run tokenChain (fun _ => 9) (bothLanes ++ [cancelBothLanes])

theorem cancelledBothLanes_eq :
    shieldedDeployment.run tokenChain (fun _ => 9) (bothLanes ++ [cancelBothLanes]) = cancelledBothLanes := by
  unfold cancelledBothLanes
  rfl

theorem cancelledBothLanes_vault : ∃ vault, cancelledBothLanes.vaults 12 = some vault ∧ vault.auctionTotals 1 = 3 ∧
    (vault.commitments 31).amountIn 1 = 1 ∧ (vault.commitments 31).claimAuthority = 41 ∧
    (vault.commitments 32).amountIn 1 = 2 ∧ (vault.commitments 32).claimAuthority = 42 := by
  have facts : (cancelledBothLanes.vaults 12).map (fun vault => (vault.auctionTotals 1,
      ((vault.commitments 31).amountIn 1, (vault.commitments 31).claimAuthority),
      (vault.commitments 32).amountIn 1, (vault.commitments 32).claimAuthority)) =
        some (3, (1, 41), 2, 42) := by decide +kernel
  obtain ⟨vault, deployed, known⟩ := Option.map_eq_some_iff.mp facts
  simp only [Prod.mk.injEq] at known
  obtain ⟨total, ⟨small, smallAuthority⟩, large, largeAuthority⟩ := known
  exact ⟨vault, deployed, total, small, smallAuthority, large, largeAuthority⟩

theorem cancelledBothLanes_pinned : (cancelledBothLanes.snapshot 1).shieldedEscrowVault = 12 := by decide +kernel

/-- No third commitment has an amount, as the two have what the vault holds. -/
theorem cancelledBothLanes_shielded (c : Bytes32) :
    cancelledBothLanes.shieldedAmount 1 c ≠ 0 ↔ c = 31 ∨ c = 32 := by
  obtain ⟨vault, deployed, total, small, -, large, -⟩ := cancelledBothLanes_vault
  have amount : cancelledBothLanes.shieldedAmount 1 c = (vault.commitments c).amountIn 1 := by
    rw [World.shieldedAmount, cancelledBothLanes_pinned, deployed]
    rfl
  rw [amount]
  constructor
  · intro nonzero
    by_contra other
    obtain ⟨notSmall, notLarge⟩ := not_or.mp other
    have accounted : cancelledBothLanes.Accounted tokenChain := by
      rw [← cancelledBothLanes_eq]
      exact shieldedDeployment.run_accounted tokenChain (fun _ => 9) (bothLanes ++ [cancelBothLanes])
    have part : ∑ c ∈ {c, 31, 32}, (vault.commitments c).amountIn 1 ≤ ∑ c, (vault.commitments c).amountIn 1 :=
      Finset.sum_le_univ_sum_of_nonneg fun _ => Nat.zero_le _
    have apart : c ∉ ({31, 32} : Finset Bytes32) := by simpa using ⟨notSmall, notLarge⟩
    rw [← (accounted.backed 12 vault deployed).totals 1, total, Finset.sum_insert apart,
      Finset.sum_pair (by decide), small, large] at part
    omega
  · rintro (rfl | rfl)
    · rw [small]
      decide
    · rw [large]
      decide

theorem cancelledBothLanes_entitled (entitlement : Entitlement) : cancelledBothLanes.Entitled 1 entitlement ↔
    entitlement ∈ [.shieldedRefund 32, .refund 7, .sellerProceeds, .shieldedRefund 31] := by
  cases entitlement with
  | refund claimant =>
    by_cases bidder : claimant = 7
    · subst bidder
      exact iff_of_true (show (cancelledBothLanes.view 1).refundOf 7 ≠ 0 by decide +kernel) (by simp)
    · refine iff_of_false (fun entitled : (cancelledBothLanes.view 1).refundOf claimant ≠ 0 => ?_) (by simpa using bidder)
      have idle : ∀ input ∈ bothLanes ++ [cancelBothLanes], World.Idle 1 claimant input := by
        simpa [World.Idle, bothLanes, cancelBothLanes, Tx.writesEntry] using bidder
      have kept : World.Leaves 1 claimant (shieldedDeployment.genesis tokenChain (fun _ => 9)) cancelledBothLanes := by
        rw [← cancelledBothLanes_eq]
        exact World.play_leaves idle
      have none : (cancelledBothLanes.view 1).cell.escrowBalances claimant = 0 := congrArg AccountEntry.escrow kept
      exact entitled (Nat.le_zero.mp (none ▸ (cancelledBothLanes.view 1).refundOf_le_escrow claimant))
  | shieldedRefund commitmentHash =>
    refine (cancelledBothLanes_shielded commitmentHash).trans ?_
    simp [or_comm]
  | sellerProceeds =>
    exact iff_of_true ⟨by decide +kernel, by decide +kernel⟩ (by simp)
  | finalizeReward =>
    refine iff_of_false (fun entitled => ?_) (by simp)
    rcases entitled.2 with state | state
    · exact absurd state (by decide +kernel)
    · exact absurd state (by decide +kernel)

/-- The bidder, the holder of the commitments and the seller of a cancelled auction draw all that was
deposited for it, in both lanes. -/
theorem bothLanes_paid_out :
    let v := (shieldedDeployment.run tokenChain (fun _ => 9) (bothLanes ++ [cancelBothLanes] ++ claimBothLanes)).view 1
    total Event.paid v.log + (v.pot.totalSlash - total Event.compensation v.log) = 104 := by
  obtain ⟨vault, deployed, -, -, small, -, large⟩ := cancelledBothLanes_vault
  have accepts : ∀ account, account = 7 ∨ account = 9 ∨ account = 50 →
      cancelledBothLanes.AcceptsEther tokenChain account := by
    rintro account (rfl | rfl | rfl)
    · exact ⟨by decide, by decide +kernel, fun _ _ => rfl⟩
    · exact ⟨by decide, by decide +kernel, fun _ _ => rfl⟩
    · exact ⟨by decide, by decide +kernel, fun _ _ => rfl⟩
  have shieldedRefund : ∀ (c : Bytes32) (signature : Signature), tokenChain.recover (ShieldedEscrowVault.claimDigest
      tokenChain.toChain 12 ShieldedEscrowVault.refundClaimTag 1 c 50 2000) signature =
        some (vault.commitments c).claimAuthority →
      cancelledBothLanes.Exercises tokenChain 1 (.shieldedRefund c)
        ({ sender := 8, timestamp := 1003 }, .claimRefundWithAuthorization 12 c 50 2000 signature) := by
    intro c signature signed
    have exercises := @World.Exercises.shieldedRefund _ tokenChain cancelledBothLanes 1
      { sender := 8, timestamp := 1003 } c 50 2000 signature vault rfl (by decide) (by decide +kernel)
      (accepts 50 (.inr (.inr rfl)))
    rw [cancelledBothLanes_pinned] at exercises
    exact exercises deployed (by decide) signed
  have refund : cancelledBothLanes.Exercises tokenChain 1 (.refund 7)
      ({ sender := 7, timestamp := 1003 }, .claimRefund 1) :=
    @World.Exercises.refund _ _ _ _ { sender := 7, timestamp := 1003 } rfl (accepts 7 (.inl rfl))
  have proceeds : cancelledBothLanes.Exercises tokenChain 1 .sellerProceeds
      ({ sender := 9, timestamp := 1003 }, .claimSellerProceeds 1) :=
    .sellerProceeds rfl (accepts 9 (.inr (.inl rfl))) (by decide +kernel)
  obtain ⟨-, value, -⟩ := auction_pays_out shieldedDeployment tokenChain (fun _ => 9) (bothLanes ++ [cancelBothLanes]) 1
    tokenChain_collisionFree cancelledBothLanes_eq (by decide +kernel) (by decide +kernel)
    [.shieldedRefund 32, .refund 7, .sellerProceeds, .shieldedRefund 31] claimBothLanes (by decide)
    cancelledBothLanes_entitled
    (.cons (shieldedRefund 32 [42] (by rw [large]; rfl)) (.cons refund (.cons proceeds
      (.cons (shieldedRefund 31 [41] (by rw [small]; rfl)) .nil))))
    (by decide +kernel)
  intro v
  refine value.trans ?_
  decide +kernel

end FairMarket
