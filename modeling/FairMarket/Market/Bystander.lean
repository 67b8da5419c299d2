import FairMarket.Market.Transition

/-! The escrow of an account is written by the account's own locks and refunds only. -/

namespace FairMarket

variable {σ : Type}

/-- What an auction keeps for an account. -/
structure AccountEntry where
  escrow : ℕ
  withdrawn : Bool

def AuctionStorage.entry (cell : AuctionStorage) (account : Address) : AccountEntry where
  escrow := cell.escrowBalances account
  withdrawn := cell.hasWithdrawn account

/-- The transaction locks escrow of its sender or takes it out. A bid does neither. -/
def Tx.writesEntry (auctionId : AuctionId) : Tx σ → Bool
  | .lockEscrow touched | .claimRefund touched => touched == auctionId
  | _ => false

namespace World

variable {env : External σ} {w middle next : World σ} {msg : Msg} {auctionId touched : AuctionId} {account : Address}

/-- The auction keeps for the account what it kept before. -/
def Leaves (auctionId : AuctionId) (account : Address) (w next : World σ) : Prop :=
  (next.market.auctions auctionId).entry account = (w.market.auctions auctionId).entry account

namespace Leaves

theorem refl (w : World σ) : Leaves auctionId account w w := rfl

theorem trans (first : Leaves auctionId account w middle) (second : Leaves auctionId account middle next) :
    Leaves auctionId account w next := Eq.trans second first

theorem of_eq (auctions : next.market.auctions = w.market.auctions) : Leaves auctionId account w next := by
  unfold Leaves
  rw [auctions]

/-- An auction is written, but not what it keeps for the account. -/
theorem of_update {cell : AuctionStorage}
    (auctions : next.market.auctions = Function.update w.market.auctions touched cell)
    (same : touched = auctionId → cell.entry account = (w.market.auctions touched).entry account) :
    Leaves auctionId account w next := by
  unfold Leaves
  rw [auctions]
  by_cases own : touched = auctionId
  · rw [← own, Function.update_self]
    exact same own
  · rw [Function.update_of_ne (Ne.symm own)]

end Leaves

theorem setAuction_self (w : World σ) (auctionId : AuctionId) (cell : AuctionStorage) :
    (w.setAuction auctionId cell).market.auctions auctionId = cell := Function.update_self ..

theorem sendValue_leaves {recipient : Address} {amount : ℕ} (done : w.sendValue env recipient amount = .ok next) :
    Leaves auctionId account w next := by
  obtain ⟨-, outside, -, rfl⟩ := sendValue_ok.mp done
  exact .refl w

theorem payReward_leaves {recipient : Address} {reward : ℕ} (done : w.payReward env recipient reward = .ok next) :
    Leaves auctionId account w next := by
  obtain ⟨-, outside, rfl⟩ := payReward_ok done
  exact .refl w

theorem releaseFromEscrow_leaves {recipient : Address}
    (done : w.releaseFromEscrow env touched recipient = .ok next) : Leaves auctionId account w next := by
  simp only [releaseFromEscrow, bind_eq_ok, pure_eq_ok, Except.ok.injEq] at done
  obtain ⟨outside, -, rfl⟩ := done
  exact .refl w

theorem openShieldedRefundPath_leaves (done : w.openShieldedRefundPath env touched = .ok next) :
    Leaves auctionId account w next := by
  unfold openShieldedRefundPath at done
  dsimp only at done
  split at done
  · cases done
    exact .refl w
  · split at done
    · cases done
      exact .refl w
    · simp only [bind_eq_ok, pure_eq_ok, Except.ok.injEq] at done
      obtain ⟨unlocked, -, rfl⟩ := done
      exact .of_update rfl fun _ => rfl

theorem allocateSlash_leaves {totalEscrow slashAmount share : ℕ}
    (done : w.allocateSlash env touched totalEscrow slashAmount = .ok (share, next)) :
    Leaves auctionId account w next := by
  unfold allocateSlash at done
  dsimp only at done
  split at done
  · cases done
    exact .refl w
  · simp only [bind_eq_ok, exists_revertIf, Prod.exists, pure_eq_ok, Except.ok.injEq, Prod.mk.injEq] at done
    obtain ⟨-, _, allocated, -, -, rfl⟩ := done
    exact .refl w

theorem registerSlash_leaves {totalEscrow slashAmount : ℕ}
    (done : w.registerSlash env touched totalEscrow slashAmount = .ok next) : Leaves auctionId account w next := by
  unfold registerSlash at done
  split at done
  · cases done
    exact .refl w
  · simp only [bind_eq_ok, Prod.exists] at done
    obtain ⟨share, allocated, allocates, done⟩ := done
    have first : Leaves auctionId account w allocated := allocateSlash_leaves allocates
    split at done
    · cases done
      exact first
    · simp only [bind_eq_ok, exists_revertIf, pure_eq_ok, Except.ok.injEq] at done
      obtain ⟨pot, -, -, registered, -, rfl⟩ := done
      exact first

theorem submitResolution_leaves {winner : Address} {winnerCiphertext : Bytes32} {winningAmount : ℕ}
    {avsProof : Proof} {accepted : Bool}
    (done : w.submitResolution env msg touched winner winnerCiphertext winningAmount avsProof =
      .ok (accepted, next)) : Leaves auctionId account w next := by
  simp only [submitResolution, bind_eq_ok, auctionExists_ok, exists_revertIf, Prod.exists] at done
  obtain ⟨cell, ⟨-, rfl⟩, -, -, -, -, -, -, engine, -, proofAccepted, outside, -, done⟩ := done
  split at done
  · cases done
    exact .refl w
  · simp only [recordResolution, bind_eq_ok, transitionState_ok, pure_eq_ok, Except.ok.injEq, Prod.mk.injEq] at done
    obtain ⟨recorded, ⟨network, -, auction, ⟨-, rfl⟩, rfl⟩, opened, opens, -, rfl⟩ := done
    refine .trans ?_ (openShieldedRefundPath_leaves opens)
    exact .of_update rfl fun _ => rfl

theorem submitShieldedResolution_leaves {winnerIdentityHash winnerCiphertext : Bytes32} {winningAmount : ℕ}
    {avsProof : Proof} {accepted : Bool}
    (done : w.submitShieldedResolution env msg touched winnerIdentityHash winnerCiphertext winningAmount
      avsProof = .ok (accepted, next)) : Leaves auctionId account w next := by
  simp only [submitShieldedResolution, bind_eq_ok, auctionExists_ok, exists_revertIf, Prod.exists] at done
  obtain ⟨cell, ⟨-, rfl⟩, -, -, -, -, commitmentHash, -, engine, -, proofAccepted, outside, -, done⟩ := done
  split at done
  · cases done
    exact .refl w
  · simp only [recordResolution, settleWinningCommitment, markWinningIdentity, bind_eq_ok, transitionState_ok,
      requireSome_eq_ok, pure_eq_ok, Except.ok.injEq, Prod.mk.injEq, Prod.exists] at done
    obtain ⟨recorded, ⟨network, -, auction, ⟨-, rfl⟩, rfl⟩, settled, ⟨vault, -, remaining, released, -, rfl⟩,
      opened, opens, marked, ⟨registry, -, bound, -, rfl⟩, -, rfl⟩ := done
    refine .trans ?_ ((openShieldedRefundPath_leaves opens).trans (.of_eq rfl))
    exact .of_update rfl fun _ => rfl

theorem cancelAuction_leaves (done : w.cancelAuction env msg touched = .ok next) : Leaves auctionId account w next := by
  simp only [cancelAuction, bind_eq_ok, auctionExists_ok, transitionState_ok] at done
  obtain ⟨cell, ⟨-, rfl⟩, -, -, -, -, -, -, slashAmount, -, network, -, auction, ⟨-, rfl⟩, registered, registers,
    opened, opens, releases⟩ := done
  refine .trans ?_ ((registerSlash_leaves registers).trans
    ((openShieldedRefundPath_leaves opens).trans (releaseFromEscrow_leaves releases)))
  exact .of_update rfl fun _ => rfl

theorem triggerFallbackVoid_leaves (done : w.triggerFallbackVoid env msg touched = .ok next) :
    Leaves auctionId account w next := by
  simp only [triggerFallbackVoid, bind_eq_ok, auctionExists_ok, transitionState_ok, pure_eq_ok,
    Except.ok.injEq] at done
  obtain ⟨cell, ⟨-, rfl⟩, -, -, timeoutWindow, -, elapsed, -, total, -, -, -, network, -, auction, ⟨-, rfl⟩,
    registered, registers, opened, opens, released, releases, rfl⟩ := done
  refine .trans ?_ ((registerSlash_leaves registers).trans
    ((openShieldedRefundPath_leaves opens).trans ((releaseFromEscrow_leaves releases).trans (.of_eq rfl))))
  exact .of_update rfl fun _ => rfl

/-- A refund is written for its claimant. -/
theorem claimRefund_leaves (other : touched = auctionId → account ≠ msg.sender)
    (done : w.claimRefund env msg touched = .ok next) : Leaves auctionId account w next := by
  simp only [claimRefund, bind_eq_ok, auctionExists_ok, exists_revertIf, Prod.exists, pure_eq_ok,
    Except.ok.injEq] at done
  obtain ⟨cell, ⟨-, rfl⟩, -, escrowRefund, compensation, -, -, refunded, refunds, paid, compensated,
    compensates, rfl⟩ := done
  have marked : Leaves auctionId account w (w.setAuction touched { w.market.auctions touched with
      hasWithdrawn := Function.update (w.market.auctions touched).hasWithdrawn msg.sender true }) :=
    .of_update rfl fun own => by simp only [AuctionStorage.entry, Function.update_of_ne (other own)]
  have first : Leaves auctionId account w refunded := by
    unfold payEscrowRefund at refunds
    split at refunds
    · cases refunds
      exact marked
    · refine marked.trans (.trans (.of_update rfl fun own => ?_) (sendValue_leaves refunds))
      simp only [AuctionStorage.entry, setAuction_self, Function.update_of_ne (other own)]
  refine first.trans ?_
  unfold payCompensation at compensates
  split at compensates
  · cases compensates
    exact .of_eq rfl
  · simp only [bind_eq_ok, requireSome_eq_ok, Prod.exists] at compensates
    obtain ⟨pot, -, amount, claimed, -, compensates⟩ := compensates
    split at compensates
    · cases compensates
      exact .of_eq rfl
    · simp only [bind_eq_ok, requireSome_eq_ok, pure_eq_ok, Except.ok.injEq, Prod.mk.injEq] at compensates
      obtain ⟨outside, -, -, rfl⟩ := compensates
      exact .of_eq rfl

theorem claimRefundWithAuthorization_leaves {vaultAddress recipient : Address} {commitmentHash : Bytes32}
    {deadline : ℕ} {signature : Signature}
    (done : w.claimRefundWithAuthorization env msg vaultAddress commitmentHash recipient deadline signature =
      .ok next) : Leaves auctionId account w next := by
  simp only [claimRefundWithAuthorization, bind_eq_ok, pure_eq_ok, Except.ok.injEq] at done
  obtain ⟨vault, -, released, releases, paid, pays, rfl⟩ := done
  obtain ⟨digest, consumed, -, -, refunds⟩ :=
    ShieldedEscrowVault.claimRefundWithAuthorization_ok.mp releases
  obtain ⟨⟨-, -, -, -, -, settles⟩, -⟩ := ShieldedEscrowVault.releaseRefund_ok refunds
  obtain ⟨-, settled⟩ := settleShieldedRefund_ok.mp settles
  have first : Leaves auctionId account w { w with market := released.source } := by
    refine .of_update (congrArg FhenixFairMarket.auctions settled.symm) fun _ => ?_
    rfl
  refine first.trans (.trans ?_ (.of_eq rfl))
  unfold payRefund at pays
  split at pays
  · cases pays
    exact .of_eq rfl
  · split at pays
    · cases pays
    · simp only [bind_eq_ok, requireSome_eq_ok, pure_eq_ok, Except.ok.injEq] at pays
      obtain ⟨outside, -, rfl⟩ := pays
      exact .of_eq rfl

/-- What a transaction leaves of an account that neither locks nor claims by it. -/
theorem execute_leaves {tx : Tx σ} (other : tx.writesEntry auctionId = true → account ≠ msg.sender)
    (done : w.execute env msg tx = .ok next) : Leaves auctionId account w next := by
  cases tx with
  | createAuction =>
    obtain ⟨-, -, -, -, network, outside, -, rfl⟩ := createAuction_ok done
    exact .of_update rfl fun _ => rfl
  | lockEscrow =>
    simp only [execute, lockEscrow, bind_eq_ok, auctionExists_ok, exists_revertIf, pure_eq_ok,
      Except.ok.injEq] at done
    obtain ⟨cell, ⟨-, rfl⟩, -, -, -, -, escrow, -, total, -, network, -, rfl⟩ := done
    refine .of_update rfl fun own => ?_
    simp only [AuctionStorage.entry, Function.update_of_ne (other (beq_iff_eq.mpr own))]
  | lockShieldedEscrow =>
    simp only [execute, lockShieldedEscrow, bind_eq_ok, auctionExists_ok, exists_revertIf, pure_eq_ok,
      Except.ok.injEq] at done
    obtain ⟨cell, ⟨-, rfl⟩, -, -, -, -, -, -, vault, -, registry, -, network, -, bound, -, locked, -, rfl⟩ := done
    exact .of_update rfl fun _ => rfl
  | placeBid =>
    simp only [execute, placeBid, bind_eq_ok, auctionExists_ok, exists_revertIf, pure_eq_ok,
      Except.ok.injEq] at done
    obtain ⟨cell, ⟨-, rfl⟩, -, -, -, -, -, -, covered, -, -, bidCount, -, network, -, rfl⟩ := done
    exact .of_update rfl fun _ => rfl
  | placeShieldedBid =>
    simp only [execute, placeShieldedBid, bind_eq_ok, auctionExists_ok, exists_revertIf, pure_eq_ok,
      Except.ok.injEq] at done
    obtain ⟨cell, ⟨-, rfl⟩, -, -, -, -, vault, -, -, -, -, -, -, -, bidCount, -, network, -, rfl⟩ := done
    exact .of_update rfl fun _ => rfl
  | triggerFinalize =>
    simp only [execute, triggerFinalize, bind_eq_ok, auctionExists_ok, exists_revertIf, transitionState_ok,
      pure_eq_ok, Except.ok.injEq] at done
    obtain ⟨cell, ⟨-, rfl⟩, -, -, -, -, network, -, auction, ⟨-, rfl⟩, nonce, -, reward, -, request, -, rfl⟩ := done
    exact .of_update rfl fun _ => rfl
  | submitResolution =>
    obtain ⟨accepted, submitted⟩ := afterResolution_ok.mp done
    exact submitResolution_leaves submitted
  | submitShieldedResolution =>
    obtain ⟨accepted, submitted⟩ := afterResolution_ok.mp done
    exact submitShieldedResolution_leaves submitted
  | cancelAuction => exact cancelAuction_leaves done
  | triggerFallbackVoid => exact triggerFallbackVoid_leaves done
  | claimRefund => exact claimRefund_leaves (fun own => other (beq_iff_eq.mpr own)) done
  | claimSellerProceeds =>
    simp only [execute, claimSellerProceeds, bind_eq_ok, auctionExists_ok, exists_revertIf, pure_eq_ok,
      Except.ok.injEq] at done
    obtain ⟨cell, ⟨-, rfl⟩, -, -, -, payout, -, -, sent, sends, rfl⟩ := done
    refine .trans ?_ ((sendValue_leaves sends).trans (.of_eq rfl))
    exact .of_update rfl fun _ => rfl
  | claimFinalizeReward =>
    simp only [execute, claimFinalizeReward, bind_eq_ok, auctionExists_ok, exists_revertIf, pure_eq_ok,
      Except.ok.injEq] at done
    obtain ⟨cell, ⟨-, rfl⟩, -, -, -, sent, sends, rfl⟩ := done
    refine .trans ?_ ((payReward_leaves sends).trans (.of_eq rfl))
    exact .of_update rfl fun _ => rfl
  | claimAsset =>
    simp only [execute, claimAsset, bind_eq_ok, auctionExists_ok, exists_revertIf] at done
    obtain ⟨cell, ⟨-, rfl⟩, -, -, -, -, -, releases⟩ := done
    refine .trans ?_ (releaseFromEscrow_leaves releases)
    exact .of_update rfl fun _ => rfl
  | claimShieldedAssetWithAuthorization =>
    simp only [execute, claimShieldedAssetWithAuthorization, bind_eq_ok, auctionExists_ok, exists_revertIf,
      Prod.exists] at done
    obtain ⟨cell, ⟨-, rfl⟩, -, -, -, -, vault, -, -, commitmentHash, -, digest, authorized, -, releases⟩ := done
    refine .trans ?_ (releaseFromEscrow_leaves releases)
    exact .of_update rfl fun _ => rfl
  | claimRefundWithAuthorization => exact claimRefundWithAuthorization_leaves done
  | receive =>
    obtain rfl := Except.ok.inj done
    exact .of_eq rfl
  | setAVS | setShieldedBidVerifier | setPreviewReader =>
    simp only [execute, setAVS, setShieldedBidVerifier, setPreviewReader, bind_eq_ok, pure_eq_ok,
      Except.ok.injEq] at done
    obtain ⟨_, -, _, -, rfl⟩ := done
    exact .of_eq rfl
  | outside outside =>
    simp only [execute, bind_eq_ok, exists_revertIf, pure_eq_ok, Except.ok.injEq] at done
    obtain ⟨-, rfl⟩ := done
    exact .of_eq rfl
  | setCofheAdapter | setSettlementEngine | setSlashedPot | setShieldedEscrowVault
  | setShieldedIdentityRegistry =>
    simp only [execute, setCofheAdapter, setSettlementEngine, setSlashedPot, setShieldedEscrowVault,
      setShieldedIdentityRegistry, bind_eq_ok, pure_eq_ok, Except.ok.injEq] at done
    obtain ⟨-, -, -, -, rfl⟩ := done
    exact .of_eq rfl

theorem transact_leaves {tx : Tx σ} (other : tx.writesEntry auctionId = true → account ≠ msg.sender)
    (done : w.transact env (msg, tx) = .ok next) : Leaves auctionId account w next := by
  obtain ⟨-, executed, executes, rfl⟩ := transact_ok.mp done
  exact (execute_leaves other executes).trans (.of_eq rfl)

/-- The account neither locks in the auction nor claims from it. -/
def Idle (auctionId : AuctionId) (account : Address) (input : Msg × Tx σ) : Prop :=
  input.2.writesEntry auctionId = true → account ≠ input.1.sender

theorem play_leaves {inputs : List (Msg × Tx σ)} (idle : ∀ input ∈ inputs, Idle auctionId account input) :
    Leaves auctionId account w (play (World.transact env) w inputs) :=
  @play_preserves_along _ _ _ (World.transact env) (fun next => Leaves auctionId account w next)
    (fun _ => Idle auctionId account) (fun _ _ _ before idle done => before.trans (transact_leaves idle done))
    w (.refl w) inputs (.of_mem w idle)

end World

end FairMarket
