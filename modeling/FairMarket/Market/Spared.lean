import FairMarket.Market.Transition

/-! What a transaction leaves alone besides other auctions: the registries, the
authorizations that the vaults have used up, and the market's numbers about the network. -/

namespace FairMarket

variable {σ : Type}

namespace World

variable {env : External σ} {w middle next : World σ} {msg : Msg} {auctionId : AuctionId}

/-- The authorizations each vault has used up. -/
def spent (w : World σ) (address : Address) : Option (Digest → Bool) :=
  (w.vaults address).map (·.usedClaimAuthorizations)

theorem spent_of_update {address : Address} {vault changed : ShieldedEscrowVault}
    (vaults : next.vaults = Function.update w.vaults address (some changed))
    (deployed : w.vaults address = some vault)
    (same : changed.usedClaimAuthorizations = vault.usedClaimAuthorizations) : next.spent = w.spent := by
  funext other
  rw [spent, spent, vaults]
  by_cases own : other = address
  · rw [own, Function.update_self, deployed, Option.map_some, Option.map_some, same]
  · rw [Function.update_of_ne own]

/-- Neither a registry nor an authorization nor a network number has changed. -/
structure Spares (w next : World σ) : Prop where
  registries : next.registries = w.registries
  network : next.market.network = w.market.network
  spent : next.spent = w.spent

theorem Spares.refl (w : World σ) : w.Spares w := ⟨rfl, rfl, rfl⟩

theorem Spares.trans (first : w.Spares middle) (second : middle.Spares next) : w.Spares next where
  registries := second.registries.trans first.registries
  network := second.network.trans first.network
  spent := second.spent.trans first.spent

theorem sendValue_spares {recipient : Address} {amount : ℕ} (done : w.sendValue env recipient amount = .ok next) :
    w.Spares next := by
  obtain ⟨-, outside, -, rfl⟩ := sendValue_ok.mp done
  exact ⟨rfl, rfl, rfl⟩

theorem payReward_spares {recipient : Address} {reward : ℕ} (done : w.payReward env recipient reward = .ok next) :
    w.Spares next := by
  obtain ⟨-, outside, rfl⟩ := payReward_ok done
  exact ⟨rfl, rfl, rfl⟩

theorem openShieldedRefundPath_spares (done : w.openShieldedRefundPath env auctionId = .ok next) :
    w.Spares next := by
  unfold openShieldedRefundPath at done
  dsimp only at done
  split at done
  · cases done
    exact .refl w
  · split at done
    · cases done
      exact ⟨rfl, rfl, rfl⟩
    · rename_i vault deployed
      simp only [bind_eq_ok, pure_eq_ok, Except.ok.injEq] at done
      obtain ⟨unlocked, unlocks, rfl⟩ := done
      obtain ⟨-, rfl⟩ := ShieldedEscrowVault.unlockRefunds_ok.mp unlocks
      exact ⟨rfl, rfl, spent_of_update rfl deployed rfl⟩

theorem allocateSlash_spares {totalEscrow slashAmount share : ℕ}
    (done : w.allocateSlash env auctionId totalEscrow slashAmount = .ok (share, next)) : w.Spares next := by
  unfold allocateSlash at done
  dsimp only at done
  split at done
  · cases done
    exact .refl w
  · rename_i vault deployed
    simp only [bind_eq_ok, exists_revertIf, Prod.exists, pure_eq_ok, Except.ok.injEq, Prod.mk.injEq] at done
    obtain ⟨-, _, changed, allocation, -, rfl⟩ := done
    obtain ⟨-, rfl⟩ := ShieldedEscrowVault.allocateSlash_ok allocation
    exact ⟨rfl, rfl, spent_of_update rfl deployed rfl⟩

theorem registerSlash_spares {totalEscrow slashAmount : ℕ}
    (done : w.registerSlash env auctionId totalEscrow slashAmount = .ok next) : w.Spares next := by
  unfold registerSlash at done
  split at done
  · cases done
    exact .refl w
  · simp only [bind_eq_ok, Prod.exists] at done
    obtain ⟨share, allocated, allocates, done⟩ := done
    have first := allocateSlash_spares allocates
    split at done
    · cases done
      exact first
    · simp only [bind_eq_ok, exists_revertIf, pure_eq_ok, Except.ok.injEq] at done
      obtain ⟨pot, -, -, registered, -, rfl⟩ := done
      exact first.trans ⟨rfl, rfl, rfl⟩

theorem settleWinningCommitment_spares {commitmentHash : Bytes32} {winningAmount : ℕ}
    (done : w.settleWinningCommitment env auctionId commitmentHash winningAmount = .ok next) :
    w.Spares next := by
  simp only [settleWinningCommitment, bind_eq_ok, requireSome_eq_ok, pure_eq_ok, Except.ok.injEq,
    Prod.exists] at done
  obtain ⟨vault, deployed, remaining, settled, settles, rfl⟩ := done
  obtain ⟨-, -, rfl⟩ := ShieldedEscrowVault.settleWinningCommitment_ok.mp settles
  exact ⟨rfl, rfl, spent_of_update rfl deployed rfl⟩

theorem payEscrowRefund_spares {cell : AuctionStorage} {claimant : Address} {escrowRefund : ℕ}
    (done : w.payEscrowRefund env auctionId cell claimant escrowRefund = .ok next) : w.Spares next := by
  unfold payEscrowRefund at done
  split at done
  · cases done
    exact .refl w
  · have spares := sendValue_spares done
    exact ⟨spares.registries, spares.network, spares.spent⟩

theorem payCompensation_spares {claimant : Address} {escrowRefund compensation paid : ℕ}
    (done : w.payCompensation env auctionId claimant escrowRefund compensation = .ok (paid, next)) :
    w.Spares next := by
  unfold payCompensation at done
  split at done
  · cases done
    exact .refl w
  · simp only [bind_eq_ok, Prod.exists] at done
    obtain ⟨pot, -, amount, claimed, -, done⟩ := done
    split at done
    · cases done
      exact ⟨rfl, rfl, rfl⟩
    · simp only [bind_eq_ok, pure_eq_ok, Except.ok.injEq, Prod.mk.injEq] at done
      obtain ⟨outside, -, -, rfl⟩ := done
      exact ⟨rfl, rfl, rfl⟩

theorem payRefund_spares {recipient : Address} {amount : ℕ}
    (done : w.payRefund env recipient amount = .ok next) : w.Spares next := by
  unfold payRefund at done
  split at done
  · cases done
    exact ⟨rfl, rfl, rfl⟩
  · split at done
    · cases done
    · simp only [bind_eq_ok, pure_eq_ok, Except.ok.injEq] at done
      obtain ⟨outside, -, rfl⟩ := done
      exact ⟨rfl, rfl, rfl⟩

/-- The market's network numbers are as before, or observed in this block. -/
def Observes (timestamp : ℕ) (w next : World σ) : Prop :=
  next.market.network = w.market.network ∨
    w.market.network.observe timestamp = .ok next.market.network

end World

def Tx.writesRegistry : Tx σ → Bool
  | .lockShieldedEscrow .. | .submitShieldedResolution .. => true
  | _ => false

def Tx.presentsAuthorization : Tx σ → Bool
  | .claimRefundWithAuthorization .. | .claimShieldedAssetWithAuthorization .. => true
  | _ => false

namespace World

variable {env : External σ} {w middle next : World σ} {msg : Msg} {auctionId : AuctionId}

/-- What a transaction may do to registries, authorizations and network numbers. -/
structure Touches (timestamp : ℕ) (tx : Tx σ) (w next : World σ) : Prop where
  registries : tx.writesRegistry = false → next.registries = w.registries
  spent : tx.presentsAuthorization = false → next.spent = w.spent
  network : w.Observes timestamp next

theorem submitResolution_touches {winner : Address} {winnerCiphertext : Bytes32} {winningAmount : ℕ}
    {avsProof : Proof} {accepted : Bool} {tx : Tx σ}
    (done : w.submitResolution env msg auctionId winner winnerCiphertext winningAmount avsProof =
      .ok (accepted, next)) : Touches msg.timestamp tx w next := by
  simp only [submitResolution, bind_eq_ok, auctionExists_ok, exists_revertIf, Prod.exists] at done
  obtain ⟨cell, ⟨-, rfl⟩, -, -, -, -, -, -, engine, -, proofAccepted, outside, -, done⟩ := done
  split at done
  · cases done
    exact ⟨fun _ => rfl, fun _ => rfl, .inl rfl⟩
  · simp only [recordResolution, bind_eq_ok, pure_eq_ok, Except.ok.injEq, Prod.mk.injEq] at done
    obtain ⟨recorded, ⟨network, observes, auction, -, rfl⟩, opened, opens, -, rfl⟩ := done
    have spares := openShieldedRefundPath_spares opens
    have observed := observes.trans (congrArg Except.ok spares.network.symm)
    exact ⟨fun _ => spares.registries, fun _ => spares.spent, .inr observed⟩

theorem submitShieldedResolution_touches {winnerIdentityHash winnerCiphertext : Bytes32}
    {winningAmount : ℕ} {avsProof : Proof} {accepted : Bool}
    (done : w.submitShieldedResolution env msg auctionId winnerIdentityHash winnerCiphertext winningAmount
      avsProof = .ok (accepted, next)) :
    Touches msg.timestamp (.submitShieldedResolution auctionId winnerIdentityHash winnerCiphertext
      winningAmount avsProof) w next := by
  simp only [submitShieldedResolution, bind_eq_ok, auctionExists_ok, exists_revertIf, Prod.exists] at done
  obtain ⟨cell, ⟨-, rfl⟩, -, -, -, -, commitmentHash, -, engine, -, proofAccepted, outside, -, done⟩ := done
  split at done
  · cases done
    exact ⟨fun own => Bool.noConfusion own, fun _ => rfl, .inl rfl⟩
  · simp only [recordResolution, markWinningIdentity, bind_eq_ok, pure_eq_ok, Except.ok.injEq,
      Prod.mk.injEq] at done
    obtain ⟨recorded, ⟨network, observes, auction, -, rfl⟩, settled, settles, opened, opens, marked,
      ⟨registry, -, bound, -, rfl⟩, -, rfl⟩ := done
    have spares := (settleWinningCommitment_spares settles).trans (openShieldedRefundPath_spares opens)
    have observed := observes.trans (congrArg Except.ok spares.network.symm)
    exact ⟨fun own => Bool.noConfusion own, fun _ => spares.spent, .inr observed⟩

theorem claimRefund_touches {tx : Tx σ} (done : w.claimRefund env msg auctionId = .ok next) :
    Touches msg.timestamp tx w next := by
  simp only [claimRefund, bind_eq_ok, auctionExists_ok, exists_revertIf, Prod.exists, pure_eq_ok,
    Except.ok.injEq] at done
  obtain ⟨cell, ⟨-, rfl⟩, -, escrowRefund, compensation, -, -, refunded, refunds, paid, compensated,
    compensates, rfl⟩ := done
  have spares := (payEscrowRefund_spares refunds).trans (payCompensation_spares compensates)
  exact ⟨fun _ => spares.registries, fun _ => spares.spent, .inl spares.network⟩

theorem claimRefundWithAuthorization_touches {vault recipient : Address} {commitmentHash : Bytes32}
    {deadline : ℕ} {signature : Signature}
    (done : w.claimRefundWithAuthorization env msg vault commitmentHash recipient deadline signature =
      .ok next) :
    Touches msg.timestamp (.claimRefundWithAuthorization vault commitmentHash recipient deadline signature)
      w next := by
  simp only [claimRefundWithAuthorization, bind_eq_ok, pure_eq_ok, Except.ok.injEq] at done
  obtain ⟨vault, -, released, releases, paid, pays, rfl⟩ := done
  obtain ⟨digest, consumed, -, -, refunds⟩ :=
    ShieldedEscrowVault.claimRefundWithAuthorization_ok.mp releases
  obtain ⟨⟨-, -, -, -, -, settles⟩, -⟩ := ShieldedEscrowVault.releaseRefund_ok refunds
  obtain ⟨-, settled⟩ := settleShieldedRefund_ok.mp settles
  have first : released.source.network = w.market.network := by rw [← settled]
  have spares := payRefund_spares pays
  exact ⟨fun _ => spares.registries, fun own => Bool.noConfusion own, .inl (spares.network.trans first)⟩

/-- Registries change by shielded locks and shielded resolutions only, authorizations are
used up by claims that present them only. -/
theorem execute_touches {tx : Tx σ} (done : w.execute env msg tx = .ok next) :
    Touches msg.timestamp tx w next := by
  cases tx with
  | createAuction =>
    simp only [execute, createAuction, bind_eq_ok, exists_revertIf, pure_eq_ok, Except.ok.injEq] at done
    obtain ⟨-, -, -, -, owner, -, -, approved, -, approvedForAll, -, -, counter, -, endTime, -, network,
      observes, auction, -, outside, -, rfl⟩ := done
    exact ⟨fun _ => rfl, fun _ => rfl, .inr observes⟩
  | lockEscrow =>
    simp only [execute, lockEscrow, bind_eq_ok, exists_revertIf, pure_eq_ok, Except.ok.injEq] at done
    obtain ⟨cell, -, -, -, -, -, escrow, -, total, -, network, observes, rfl⟩ := done
    exact ⟨fun _ => rfl, fun _ => rfl, .inr observes⟩
  | lockShieldedEscrow =>
    simp only [execute, lockShieldedEscrow, bind_eq_ok, exists_revertIf, requireSome_eq_ok, pure_eq_ok,
      Except.ok.injEq] at done
    obtain ⟨cell, -, -, -, -, -, -, -, vault, deployed, registry, -, network, observes, bound, -, locked,
      locks, rfl⟩ := done
    obtain ⟨-, rfl⟩ := ShieldedEscrowVault.lockEscrow_ok.mp locks
    exact ⟨fun own => Bool.noConfusion own, fun _ => spent_of_update rfl deployed rfl, .inr observes⟩
  | placeBid =>
    simp only [execute, placeBid, bind_eq_ok, exists_revertIf, pure_eq_ok, Except.ok.injEq] at done
    obtain ⟨cell, -, -, -, -, -, -, -, covered, -, -, bidCount, -, network, observes, rfl⟩ := done
    exact ⟨fun _ => rfl, fun _ => rfl, .inr observes⟩
  | placeShieldedBid =>
    simp only [execute, placeShieldedBid, bind_eq_ok, exists_revertIf, pure_eq_ok, Except.ok.injEq] at done
    obtain ⟨cell, -, -, -, -, -, vault, -, -, -, -, -, -, -, bidCount, -, network, observes, rfl⟩ := done
    exact ⟨fun _ => rfl, fun _ => rfl, .inr observes⟩
  | triggerFinalize =>
    simp only [execute, triggerFinalize, bind_eq_ok, exists_revertIf, pure_eq_ok, Except.ok.injEq] at done
    obtain ⟨cell, -, -, -, -, -, network, observes, auction, -, nonce, -, reward, -, request, -, rfl⟩ := done
    exact ⟨fun _ => rfl, fun _ => rfl, .inr observes⟩
  | submitResolution =>
    obtain ⟨accepted, submitted⟩ := afterResolution_ok.mp done
    exact submitResolution_touches submitted
  | submitShieldedResolution =>
    obtain ⟨accepted, submitted⟩ := afterResolution_ok.mp done
    exact submitShieldedResolution_touches submitted
  | cancelAuction =>
    simp only [execute, cancelAuction, releaseFromEscrow, bind_eq_ok, auctionExists_ok, pure_eq_ok,
      Except.ok.injEq, exists_revertIf] at done
    obtain ⟨cell, ⟨-, rfl⟩, -, -, -, -, -, slashAmount, -, network, observes, auction, -, registered,
      registers, opened, opens, outside, -, rfl⟩ := done
    have spares := (registerSlash_spares registers).trans (openShieldedRefundPath_spares opens)
    have observed := observes.trans (congrArg Except.ok spares.network.symm)
    exact ⟨fun _ => spares.registries, fun _ => spares.spent, .inr observed⟩
  | triggerFallbackVoid =>
    simp only [execute, triggerFallbackVoid, releaseFromEscrow, bind_eq_ok, auctionExists_ok, pure_eq_ok,
      Except.ok.injEq, exists_revertIf] at done
    obtain ⟨cell, ⟨-, rfl⟩, -, -, timeoutWindow, -, elapsed, -, total, -, -, network, observes, auction, -,
      registered, registers, opened, opens, released, ⟨outside, -, rfl⟩, rfl⟩ := done
    have spares := (registerSlash_spares registers).trans (openShieldedRefundPath_spares opens)
    have observed := observes.trans (congrArg Except.ok spares.network.symm)
    exact ⟨fun _ => spares.registries, fun _ => spares.spent, .inr observed⟩
  | claimRefund => exact claimRefund_touches done
  | claimSellerProceeds =>
    simp only [execute, claimSellerProceeds, bind_eq_ok, exists_revertIf, pure_eq_ok,
      Except.ok.injEq] at done
    obtain ⟨cell, -, -, -, -, payout, -, -, sent, sends, rfl⟩ := done
    have spares := sendValue_spares sends
    exact ⟨fun _ => spares.registries, fun _ => spares.spent, .inl spares.network⟩
  | claimFinalizeReward =>
    simp only [execute, claimFinalizeReward, bind_eq_ok, exists_revertIf, pure_eq_ok,
      Except.ok.injEq] at done
    obtain ⟨cell, -, -, -, -, sent, sends, rfl⟩ := done
    have spares := payReward_spares sends
    exact ⟨fun _ => spares.registries, fun _ => spares.spent, .inl spares.network⟩
  | claimAsset =>
    simp only [execute, claimAsset, releaseFromEscrow, bind_eq_ok, exists_revertIf, pure_eq_ok,
      Except.ok.injEq] at done
    obtain ⟨cell, -, -, -, -, -, -, outside, -, rfl⟩ := done
    exact ⟨fun _ => rfl, fun _ => rfl, .inl rfl⟩
  | claimShieldedAssetWithAuthorization =>
    simp only [execute, claimShieldedAssetWithAuthorization, releaseFromEscrow, bind_eq_ok,
      exists_revertIf, Prod.exists, pure_eq_ok, Except.ok.injEq] at done
    obtain ⟨cell, -, -, -, -, -, vault, -, -, commitmentHash, -, digest, authorized, -, outside, -,
      rfl⟩ := done
    exact ⟨fun _ => rfl, fun own => Bool.noConfusion own, .inl rfl⟩
  | claimRefundWithAuthorization => exact claimRefundWithAuthorization_touches done
  | receive =>
    obtain rfl := Except.ok.inj done
    exact ⟨fun _ => rfl, fun _ => rfl, .inl rfl⟩
  | setAVS =>
    simp only [execute, setAVS, bind_eq_ok, pure_eq_ok, Except.ok.injEq] at done
    obtain ⟨_, -, _, -, rfl⟩ := done
    exact ⟨fun _ => rfl, fun _ => rfl, .inl rfl⟩
  | setShieldedBidVerifier =>
    simp only [execute, setShieldedBidVerifier, ShieldedEscrowVault.setShieldedBidVerifier, bind_eq_ok,
      exists_revertIf, requireSome_eq_ok, pure_eq_ok, Except.ok.injEq] at done
    obtain ⟨vault, deployed, _, ⟨-, rfl⟩, rfl⟩ := done
    exact ⟨fun _ => rfl, fun _ => spent_of_update rfl deployed rfl, .inl rfl⟩
  | setPreviewReader =>
    simp only [execute, setPreviewReader, ShieldedEscrowVault.setPreviewReader, bind_eq_ok,
      exists_revertIf, requireSome_eq_ok, pure_eq_ok, Except.ok.injEq] at done
    obtain ⟨vault, deployed, _, ⟨-, -, rfl⟩, rfl⟩ := done
    exact ⟨fun _ => rfl, fun _ => spent_of_update rfl deployed rfl, .inl rfl⟩
  | outside outside =>
    simp only [execute, bind_eq_ok, exists_revertIf, pure_eq_ok, Except.ok.injEq] at done
    obtain ⟨-, rfl⟩ := done
    exact ⟨fun _ => rfl, fun _ => rfl, .inl rfl⟩
  | _ =>
    simp only [execute, setCofheAdapter, setSettlementEngine, setSlashedPot, setShieldedEscrowVault,
      setShieldedIdentityRegistry, bind_eq_ok, pure_eq_ok, Except.ok.injEq] at done
    obtain ⟨-, -, -, -, rfl⟩ := done
    exact ⟨fun _ => rfl, fun _ => rfl, .inl rfl⟩

end World

end FairMarket
