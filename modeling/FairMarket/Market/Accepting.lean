import FairMarket.Market.Fallback
import FairMarket.Market.Listed

/-! What the market accepts once the service attests: exactly the resolutions its own
guards let through, and what the vault and the registry do after them never fails. -/

namespace FairMarket

variable {σ : Type}

/-- The same outside with services that attest whatever they are asked about. -/
def External.attesting (env : External σ) : External σ :=
  { env with
    verifyAttestation := fun outside _ _ _ _ _ _ _ _ => .ok (true, outside)
    verifyShieldedAttestation := fun outside _ _ _ _ _ _ _ _ => .ok (true, outside) }

namespace World

/-- An auction waits for its resolution, an engine with a service is configured, and a
message comes in time. The market is at an address, so not at zero. -/
structure Ready (env : External σ) (w : World σ) (auctionId : AuctionId) (msg : Msg) : Prop where
  coherent : w.Coherent env auctionId
  accounted : w.Accounted env
  resolving : (w.market.auctions auctionId).auction.state = .resolving
  engine : ∃ engine, w.engines (w.snapshot auctionId).settlementEngine = some engine ∧ engine.avs ≠ 0
  deployed : env.market ≠ 0
  paced : w.market.network.Paced msg.timestamp
  clock : msg.timestamp < 2 ^ 64

variable {env : External σ} {w : World σ} {auctionId : AuctionId} {msg : Msg}

/-- The wiring does not depend on what services attest. -/
theorem Wired.attesting (wired : w.Wired env) : w.Wired env.attesting :=
  ⟨wired.vaultMarket, wired.lanes, wired.potMarket, wired.pots, wired.registryMarket, wired.zero,
    wired.counted, wired.blank, wired.initialized, wired.snapshots⟩

namespace Ready

theorem running (ready : w.Ready env auctionId msg) :
    (w.market.auctions auctionId).auction.state.running = true := by
  rw [ready.resolving]
  rfl

theorem found (ready : w.Ready env auctionId msg) :
    (w.market.auctions auctionId).auction.exists_ = true :=
  ready.coherent.wired.found_of_running ready.running

theorem bidding (ready : w.Ready env auctionId msg) : Bidding (w.view auctionId) :=
  ready.coherent.reachable.sound.bidding_of_resolving ready.found ready.resolving

theorem auctionEngine (ready : w.Ready env auctionId msg) :
    w.auctionSettlementEngine (w.market.auctions auctionId) = (w.snapshot auctionId).settlementEngine :=
  if_pos (ready.coherent.wired.initialized auctionId ready.found)

theorem engine_ne_zero (ready : w.Ready env auctionId msg) :
    (w.snapshot auctionId).settlementEngine ≠ 0 := by
  obtain ⟨engine, present, -⟩ := ready.engine
  intro unset
  rw [unset, ready.coherent.wired.zero.2.2.2] at present
  cases present

/-- The market's own writes for an accepted resolution go through. -/
theorem recordResolution_succeeds (ready : w.Ready env auctionId msg) (outside : σ) (winner : Address)
    (winningCommitment winnerCiphertext : Bytes32) (winningAmount : ℕ) :
    ∃ recorded, (w.setOutside outside).recordResolution msg auctionId (w.market.auctions auctionId) winner
        winningCommitment winnerCiphertext winningAmount = .ok recorded ∧
      recorded.vaults = w.vaults ∧ recorded.registries = w.registries ∧ Frame auctionId w recorded := by
  obtain ⟨network, observed⟩ := ready.paced.observe_succeeds ready.clock
  have valid : validTransition (w.market.auctions auctionId).auction.state .finalized = true := by
    rw [ready.resolving]
    rfl
  have records : ∃ recorded, (w.setOutside outside).recordResolution msg auctionId
      (w.market.auctions auctionId) winner winningCommitment winnerCiphertext winningAmount = .ok recorded ∧
      recorded.vaults = w.vaults ∧ recorded.registries = w.registries := by
    simp only [recordResolution, bind_eq_ok, pure_eq_ok, Except.ok.injEq, transitionState_ok]
    exact ⟨_, ⟨network, observed, _, ⟨valid, rfl⟩, rfl⟩, rfl, rfl⟩
  obtain ⟨recorded, records, vaults, registries⟩ := records
  obtain ⟨changes, -⟩ := recordResolution_changes records
  exact ⟨recorded, records, vaults, registries, changes.frame⟩

theorem submits (ready : w.Ready env auctionId msg) :
    (w.market.auctions auctionId).resolutionRequest.exists_ = true :=
  ready.bidding.request.mpr ready.resolving

/-- A public resolution, or one without a winner, is accepted if the guards let it pass. -/
theorem submitResolution_iff (ready : w.Ready env auctionId msg) {winner : Address}
    {winnerCiphertext : Bytes32} {winningAmount : ℕ} {avsProof : Proof} :
    (∃ next, w.submitResolution env.attesting msg auctionId winner winnerCiphertext winningAmount avsProof =
        .ok (true, next)) ↔
      w.validatePublicWinner env auctionId (w.market.auctions auctionId) winner winnerCiphertext
        winningAmount = .ok () := by
  have same : w.validatePublicWinner env.attesting = w.validatePublicWinner env := rfl
  constructor
  · rintro ⟨next, done⟩
    simp only [submitResolution, bind_eq_ok, auctionExists_ok, exists_revertIf] at done
    obtain ⟨cell, ⟨-, rfl⟩, -, -, -, -, ⟨⟩, valid, -⟩ := done
    exact valid
  · intro valid
    obtain ⟨engine, present, service⟩ := ready.engine
    obtain ⟨recorded, records, -, -, frame⟩ := ready.recordResolution_succeeds w.outside winner
      (w.market.auctions auctionId).winningCommitment winnerCiphertext winningAmount
    obtain ⟨opened, opens⟩ := openShieldedRefundPath_succeeds
      (ready.coherent.wired.of_frame frame ready.found).attesting (frame.found.trans ready.found)
    refine ⟨opened, ?_⟩
    simp only [submitResolution, onlyAuctionState, bind_eq_ok, auctionExists_ok, exists_revertIf]
    refine ⟨_, ⟨ready.found, rfl⟩, not_not.mpr ready.resolving, not_not.mpr ready.submits, ?_, (),
      valid, engine, ?_, (true, w.outside), ?_, ?_⟩
    · rw [ready.auctionEngine]
      exact ready.engine_ne_zero
    · rw [ready.auctionEngine, present]
      rfl
    · exact bind_eq_ok.mpr ⟨(), revertIf_eq_ok.mpr fun unset => unset.elim ready.deployed service, rfl⟩
    · dsimp only
      rw [if_neg (not_not.mpr rfl), records, ok_bind, opens]
      rfl

/-- What the guards ask of a shielded resolution that names a listed commitment. -/
theorem validateShieldedResolutionBid_iff (ready : w.Ready env auctionId msg)
    {commitmentHash accepted winnerCiphertext : Bytes32} {winningAmount : ℕ} {vault : ShieldedEscrowVault}
    {registry : ShieldedIdentityRegistry} (standing : w.Standing auctionId commitmentHash vault registry) :
    w.validateShieldedResolutionBid auctionId (w.market.auctions auctionId)
        (registry.commitmentToIdentity auctionId commitmentHash) winnerCiphertext winningAmount
        (w.market.auctions auctionId).auction.startingPrice = .ok accepted ↔
      (winningAmount ≠ 0 ∧ (w.market.auctions auctionId).auction.startingPrice ≤ winningAmount ∧
        (w.market.auctions auctionId).shieldedEncryptedBids commitmentHash ≠ 0 ∧
        (w.market.auctions auctionId).shieldedEncryptedBids commitmentHash = winnerCiphertext) ∧
        commitmentHash = accepted := by
  have paired := ready.coherent.aliased.paired _ registry standing.registered
  obtain ⟨nonzero, bound⟩ := paired.identity auctionId _ commitmentHash standing.named rfl
  have resolves : ∀ resolved, w.resolveShieldedCommitment auctionId (w.market.auctions auctionId)
      (registry.commitmentToIdentity auctionId commitmentHash) = .ok resolved ↔ commitmentHash = resolved := by
    intro resolved
    simp only [resolveShieldedCommitment, bind_eq_ok, exists_revertIf, requireSome_eq_ok, pure_eq_ok,
      Except.ok.injEq, ready.coherent.wired.auctionRegistry ready.found, standing.registered,
      ShieldedIdentityRegistry.commitmentForIdentity, Option.some.injEq]
    constructor
    · rintro ⟨-, _, rfl, -, -, same⟩
      exact bound.symm.trans same
    · rintro rfl
      exact ⟨standing.named, registry, rfl, (), revertIf_eq_ok.mpr (by rw [bound]; exact nonzero), bound⟩
  have stands : ¬ ((vault.commitmentState commitmentHash).1 ≠ auctionId ∨
      (vault.commitmentState commitmentHash).2.2 = true) := by
    simp [ShieldedEscrowVault.commitmentState, standing.about, standing.unclaimed]
  simp only [validateShieldedResolutionBid, bind_eq_ok, exists_revertIf, requireSome_eq_ok, pure_eq_ok,
    Except.ok.injEq, resolves, ready.coherent.wired.auctionVault ready.found, Nat.not_lt, ne_eq, not_not]
  constructor
  · rintro ⟨-, some_, floor, _, rfl, stored, same, _, -, -, rfl⟩
    exact ⟨⟨some_, floor, stored, same⟩, rfl⟩
  · rintro ⟨⟨some_, floor, stored, same⟩, rfl⟩
    exact ⟨standing.named, some_, floor, commitmentHash, rfl, stored, same, vault, standing.deployed, stands, rfl⟩

/-- The vault pays out what a listed commitment covers. -/
theorem settles_iff (ready : w.Ready env auctionId msg) {commitmentHash : Bytes32} {winningAmount : ℕ}
    {vault : ShieldedEscrowVault} {registry : ShieldedIdentityRegistry}
    (standing : w.Standing auctionId commitmentHash vault registry) :
    (∃ remaining settled, vault.settleWinningCommitment env.market auctionId commitmentHash winningAmount =
        .ok (remaining, settled)) ↔ winningAmount ≤ (vault.commitments commitmentHash).amount := by
  constructor
  · rintro ⟨remaining, settled, done⟩
    obtain ⟨⟨-, -, -, -, -, -, covered, -, -⟩, -, -⟩ := ShieldedEscrowVault.settleWinningCommitment_ok.mp done
    exact covered
  · intro covered
    have backed := ready.accounted.backed _ vault standing.deployed
    have total := backed.amount_le_total commitmentHash
    have balance := backed.covers commitmentHash auctionId
    rw [standing.about] at total
    have paired := ready.coherent.aliased.paired _ registry standing.registered
    have nonzero := (paired.identity auctionId _ commitmentHash standing.named rfl).1
    have market := ready.coherent.wired.vaultMarket _ vault standing.deployed
    exact ⟨_, _, ShieldedEscrowVault.settleWinningCommitment_ok.mpr ⟨⟨market.symm, standing.locked, nonzero,
      standing.undecided, standing.funded, standing.about, covered, by omega, by omega⟩, rfl, rfl⟩⟩

/-- A shielded resolution is accepted exactly if the guards let it pass and its deposit covers it. -/
theorem submitShieldedResolution_iff (ready : w.Ready env auctionId msg)
    {commitmentHash winnerCiphertext : Bytes32} {winningAmount : ℕ} {avsProof : Proof}
    {vault : ShieldedEscrowVault} {registry : ShieldedIdentityRegistry}
    (standing : w.Standing auctionId commitmentHash vault registry) :
    (∃ next, w.submitShieldedResolution env.attesting msg auctionId
        (registry.commitmentToIdentity auctionId commitmentHash) winnerCiphertext winningAmount avsProof =
          .ok (true, next)) ↔
      (winningAmount ≠ 0 ∧ (w.market.auctions auctionId).auction.startingPrice ≤ winningAmount ∧
        (w.market.auctions auctionId).shieldedEncryptedBids commitmentHash ≠ 0 ∧
        (w.market.auctions auctionId).shieldedEncryptedBids commitmentHash = winnerCiphertext) ∧
        winningAmount ≤ (vault.commitments commitmentHash).amount := by
  obtain ⟨engine, present, service⟩ := ready.engine
  obtain ⟨recorded, records, vaults, registries, frame⟩ := ready.recordResolution_succeeds w.outside 0
    (registry.commitmentToIdentity auctionId commitmentHash) winnerCiphertext winningAmount
  have wired := ready.coherent.wired.of_frame frame ready.found
  have found := frame.found.trans ready.found
  have snapshot : recorded.snapshot auctionId = w.snapshot auctionId := frame.snapshot
  have holds : recorded.vaults (recorded.auctionShieldedEscrowVault (recorded.market.auctions auctionId)) =
      some vault := by
    rw [wired.auctionVault found, vaults, snapshot]
    exact standing.deployed
  constructor
  · rintro ⟨next, done⟩
    simp only [submitShieldedResolution, bind_eq_ok, auctionExists_ok, exists_revertIf, Prod.exists] at done
    obtain ⟨cell, ⟨-, rfl⟩, -, -, -, -, accepted, valid, _, -, proofAccepted, outside, verified, done⟩ := done
    obtain ⟨guards, rfl⟩ := (ready.validateShieldedResolutionBid_iff standing).mp valid
    refine ⟨guards, ?_⟩
    obtain ⟨-, -, verified⟩ := bind_eq_ok.mp verified
    obtain ⟨rfl, rfl⟩ := Prod.mk.inj (Except.ok.inj verified)
    rw [if_neg (not_not.mpr rfl)] at done
    obtain ⟨_, again, settled, settles, -⟩ := by
      simpa only [bind_eq_ok] using done
    obtain rfl := Except.ok.inj (records.symm.trans again)
    simp only [settleWinningCommitment, bind_eq_ok, requireSome_eq_ok, holds, Option.some.injEq,
      Prod.exists] at settles
    obtain ⟨_, rfl, remaining, paid, pays, -⟩ := settles
    exact (ready.settles_iff standing).mp ⟨remaining, paid, pays⟩
  · rintro ⟨guards, covered⟩
    have valid := (ready.validateShieldedResolutionBid_iff standing).mpr ⟨guards, rfl⟩
    obtain ⟨remaining, paid, pays⟩ := (ready.settles_iff standing).mpr covered
    have settles : recorded.settleWinningCommitment env auctionId commitmentHash winningAmount = .ok _ :=
      bind_eq_ok.mpr ⟨vault, requireSome_eq_ok.mpr holds, bind_eq_ok.mpr ⟨_, pays, rfl⟩⟩
    obtain ⟨lane, -, -, changes, -⟩ := settleWinningCommitment_changes wired found settles
    have settledWired := wired.of_frame changes.frame found
    have settledFound := changes.frame.found.trans found
    obtain ⟨opened, opens⟩ := openShieldedRefundPath_succeeds settledWired settledFound
    obtain ⟨opening, -⟩ := openShieldedRefundPath_changes settledWired settledFound opens
    have openedWired := settledWired.of_frame opening.frame settledFound
    have openedFound := opening.frame.found.trans settledFound
    have kept : opened.registries (opened.auctionShieldedIdentityRegistry (opened.market.auctions auctionId)) =
        some registry := by
      rw [openedWired.auctionRegistry openedFound, (openShieldedRefundPath_spares opens).registries]
      have pinned : opened.snapshot auctionId = w.snapshot auctionId :=
        opening.frame.snapshot.trans (changes.frame.snapshot.trans snapshot)
      rw [pinned]
      exact (congrFun registries _).trans standing.registered
    have paired := ready.coherent.aliased.paired _ registry standing.registered
    obtain ⟨nonzero, bound⟩ := paired.identity auctionId _ commitmentHash standing.named rfl
    have market := ready.coherent.wired.registryMarket _ registry standing.registered
    have marks : ∃ marked, registry.markWinningIdentity env.market auctionId
        (registry.commitmentToIdentity auctionId commitmentHash) = .ok marked := by
      simp only [ShieldedIdentityRegistry.markWinningIdentity, ShieldedIdentityRegistry.onlyMarket,
        bind_eq_ok, exists_revertIf, pure_eq_ok, Except.ok.injEq, bound]
      exact ⟨_, not_not.mpr market.symm, standing.named, nonzero, fun marked => marked.1 standing.unmarked, rfl⟩
    obtain ⟨marked, marks⟩ := marks
    refine ⟨opened.setRegistry (opened.auctionShieldedIdentityRegistry (opened.market.auctions auctionId)) marked, ?_⟩
    simp only [submitShieldedResolution, onlyAuctionState, bind_eq_ok, auctionExists_ok, exists_revertIf]
    refine ⟨_, ⟨ready.found, rfl⟩, not_not.mpr ready.resolving, not_not.mpr ready.submits, ?_, commitmentHash,
      valid, engine, ?_, (true, w.outside), ?_, ?_⟩
    · rw [ready.auctionEngine]
      exact ready.engine_ne_zero
    · rw [ready.auctionEngine, present]
      rfl
    · exact bind_eq_ok.mpr ⟨(), revertIf_eq_ok.mpr fun unset => unset.elim ready.deployed service, rfl⟩
    · dsimp only
      rw [if_neg (not_not.mpr rfl), records, ok_bind]
      refine bind_eq_ok.mpr ⟨_, settles, bind_eq_ok.mpr ⟨opened, opens, bind_eq_ok.mpr ⟨_, ?_, rfl⟩⟩⟩
      exact bind_eq_ok.mpr ⟨registry, requireSome_eq_ok.mpr kept, bind_eq_ok.mpr ⟨marked, marks, rfl⟩⟩

end Ready

end World

end FairMarket
