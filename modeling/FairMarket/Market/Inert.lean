import FairMarket.Market.Rejection

/-! What only a submitted resolution can do: finalize an auction, or have an attestation
service judge a proof. -/

namespace FairMarket

variable {τ : Type}

namespace World

variable {base : External τ} {w middle next : World (Hosted τ)} {msg : Msg} {auctionId : AuctionId}

/-- No service has been asked, and no auction has been finalized. -/
structure Inert (w next : World (Hosted τ)) : Prop where
  services : next.outside.services = w.outside.services
  finalized : ∀ auctionId, (next.market.auctions auctionId).auction.state = .finalized →
    (w.market.auctions auctionId).auction.state = .finalized

namespace Inert

theorem refl (w : World (Hosted τ)) : Inert w w := ⟨rfl, fun _ => id⟩

theorem trans (first : Inert w middle) (second : Inert middle next) : Inert w next where
  services := second.services.trans first.services
  finalized := fun auctionId done => first.finalized auctionId (second.finalized auctionId done)

/-- Nothing is written into an auction. -/
theorem of_eq (services : next.outside.services = w.outside.services)
    (auctions : next.market.auctions = w.market.auctions) : Inert w next :=
  ⟨services, fun auctionId done => by rwa [auctions] at done⟩

/-- One auction is written. -/
theorem of_update {cell : AuctionStorage} (services : next.outside.services = w.outside.services)
    (auctions : next.market.auctions = Function.update w.market.auctions auctionId cell)
    (state : cell.auction.state = .finalized → (w.market.auctions auctionId).auction.state = .finalized) :
    Inert w next := by
  refine ⟨services, fun other done => ?_⟩
  rw [auctions] at done
  by_cases same : other = auctionId
  · rw [same, Function.update_self] at done
    rw [same]
    exact state done
  · rwa [Function.update_of_ne same] at done

/-- One auction moves into another state than the final one. -/
theorem of_moved {cell : AuctionStorage} (state : AuctionState) (services : next.outside.services = w.outside.services)
    (auctions : next.market.auctions = Function.update w.market.auctions auctionId cell)
    (moved : cell.auction.state = state) (unsettled : state ≠ .finalized) : Inert w next :=
  .of_update services auctions fun finalized => absurd (moved.symm.trans finalized) unsettled

end Inert

theorem hosting_receiveEther {s t : Hosted τ} {recipient : Address} {amount : ℕ}
    (received : base.hosting.receiveEther s recipient amount = some t) : t.services = s.services := by
  simp only [External.hosting, Option.map_eq_some_iff] at received
  obtain ⟨rest, -, rfl⟩ := received
  rfl

theorem hosting_safeTransferFrom {s t : Hosted τ} {nft sender recipient : Address} {tokenId : ℕ}
    (transferred : base.hosting.safeTransferFrom s nft sender recipient tokenId = .ok t) :
    t.services = s.services := by
  simp only [External.hosting, bind_eq_ok, pure_eq_ok, Except.ok.injEq] at transferred
  obtain ⟨rest, -, rfl⟩ := transferred
  rfl

theorem sendValue_inert {recipient : Address} {amount : ℕ}
    (done : w.sendValue base.hosting recipient amount = .ok next) : Inert w next := by
  obtain ⟨-, outside, received, rfl⟩ := sendValue_ok.mp done
  exact .of_eq (hosting_receiveEther received) rfl

theorem payReward_inert {recipient : Address} {reward : ℕ}
    (done : w.payReward base.hosting recipient reward = .ok next) : Inert w next := by
  unfold payReward at done
  split at done
  · cases done
    exact .refl w
  · exact sendValue_inert done

theorem releaseFromEscrow_inert {recipient : Address}
    (done : w.releaseFromEscrow base.hosting auctionId recipient = .ok next) : Inert w next := by
  simp only [releaseFromEscrow, bind_eq_ok, pure_eq_ok, Except.ok.injEq] at done
  obtain ⟨outside, transferred, rfl⟩ := done
  exact .of_eq (hosting_safeTransferFrom transferred) rfl

theorem openShieldedRefundPath_inert (done : w.openShieldedRefundPath base.hosting auctionId = .ok next) :
    Inert w next := by
  unfold openShieldedRefundPath at done
  dsimp only at done
  split at done
  · cases done
    exact .refl w
  · split at done
    · cases done
      exact .refl w
    · simp only [bind_eq_ok, pure_eq_ok, Except.ok.injEq] at done
      obtain ⟨unlocked, -, rfl⟩ := done
      exact .of_update rfl rfl id

theorem allocateSlash_inert {totalEscrow slashAmount share : ℕ}
    (done : w.allocateSlash base.hosting auctionId totalEscrow slashAmount = .ok (share, next)) :
    Inert w next := by
  unfold allocateSlash at done
  dsimp only at done
  split at done
  · cases done
    exact .refl w
  · simp only [bind_eq_ok, exists_revertIf, Prod.exists, pure_eq_ok, Except.ok.injEq, Prod.mk.injEq] at done
    obtain ⟨-, _, allocated, -, -, rfl⟩ := done
    exact .of_eq rfl rfl

theorem registerSlash_inert {totalEscrow slashAmount : ℕ}
    (done : w.registerSlash base.hosting auctionId totalEscrow slashAmount = .ok next) : Inert w next := by
  unfold registerSlash at done
  split at done
  · cases done
    exact .refl w
  · simp only [bind_eq_ok, Prod.exists] at done
    obtain ⟨share, allocated, allocates, done⟩ := done
    have first := allocateSlash_inert allocates
    split at done
    · cases done
      exact first
    · simp only [bind_eq_ok, exists_revertIf, pure_eq_ok, Except.ok.injEq] at done
      obtain ⟨pot, -, -, registered, -, rfl⟩ := done
      exact first.trans (.of_eq rfl rfl)

theorem payEscrowRefund_inert {cell : AuctionStorage} {claimant : Address} {escrowRefund : ℕ}
    (same : cell.auction = (w.market.auctions auctionId).auction)
    (done : w.payEscrowRefund base.hosting auctionId cell claimant escrowRefund = .ok next) : Inert w next := by
  unfold payEscrowRefund at done
  split at done
  · cases done
    exact .refl w
  · refine .trans ?_ (sendValue_inert done)
    refine .of_update rfl rfl fun state => ?_
    rwa [← same]

theorem payCompensation_inert {claimant : Address} {escrowRefund compensation paid : ℕ}
    (done : w.payCompensation base.hosting auctionId claimant escrowRefund compensation = .ok (paid, next)) :
    Inert w next := by
  unfold payCompensation at done
  split at done
  · cases done
    exact .refl w
  · simp only [bind_eq_ok, requireSome_eq_ok, Prod.exists] at done
    obtain ⟨pot, -, amount, claimed, -, done⟩ := done
    split at done
    · cases done
      exact .of_eq rfl rfl
    · simp only [bind_eq_ok, requireSome_eq_ok, pure_eq_ok, Except.ok.injEq, Prod.mk.injEq] at done
      obtain ⟨outside, received, -, rfl⟩ := done
      exact .of_eq (hosting_receiveEther received) rfl

theorem payRefund_inert {recipient : Address} {amount : ℕ}
    (done : w.payRefund base.hosting recipient amount = .ok next) : Inert w next := by
  unfold payRefund at done
  split at done
  · cases done
    exact .of_eq rfl rfl
  · split at done
    · cases done
    · simp only [bind_eq_ok, requireSome_eq_ok, pure_eq_ok, Except.ok.injEq] at done
      obtain ⟨outside, received, rfl⟩ := done
      exact .of_eq (hosting_receiveEther received) rfl

theorem createAuction_inert {nftContract : Address} {tokenId duration startingPrice sellerDeposit : ℕ}
    {isVickrey : Bool}
    (done : w.createAuction base.hosting msg nftContract tokenId duration startingPrice sellerDeposit
      isVickrey = .ok next) : Inert w next := by
  obtain ⟨-, -, -, -, network, outside, transferred, rfl⟩ := createAuction_ok done
  exact .of_moved .active (hosting_safeTransferFrom transferred) rfl rfl (by decide)

theorem cancelAuction_inert (done : w.cancelAuction base.hosting msg auctionId = .ok next) : Inert w next := by
  simp only [cancelAuction, bind_eq_ok, transitionState_ok] at done
  obtain ⟨cell, -, -, -, -, -, -, -, slashAmount, -, network, -, auction, ⟨-, rfl⟩, registered, registers,
    opened, opens, releases⟩ := done
  refine .trans ?_ ((registerSlash_inert registers).trans
    ((openShieldedRefundPath_inert opens).trans (releaseFromEscrow_inert releases)))
  exact .of_moved .cancelled rfl rfl rfl (by decide)

theorem triggerFallbackVoid_inert (done : w.triggerFallbackVoid base.hosting msg auctionId = .ok next) :
    Inert w next := by
  simp only [triggerFallbackVoid, bind_eq_ok, transitionState_ok, pure_eq_ok, Except.ok.injEq] at done
  obtain ⟨cell, -, -, -, timeoutWindow, -, elapsed, -, total, -, -, -, network, -, auction, ⟨-, rfl⟩,
    registered, registers, opened, opens, released, releases, rfl⟩ := done
  refine .trans ?_ ((registerSlash_inert registers).trans
    ((openShieldedRefundPath_inert opens).trans ((releaseFromEscrow_inert releases).trans (.of_eq rfl rfl))))
  exact .of_moved .voided rfl rfl rfl (by decide)

theorem claimRefund_inert (done : w.claimRefund base.hosting msg auctionId = .ok next) : Inert w next := by
  simp only [claimRefund, bind_eq_ok, auctionExists_ok, exists_revertIf, Prod.exists, pure_eq_ok,
    Except.ok.injEq] at done
  obtain ⟨cell, ⟨-, rfl⟩, -, escrowRefund, compensation, -, -, refunded, refunds, paid, compensated,
    compensates, rfl⟩ := done
  have refund := payEscrowRefund_inert (by simp [setAuction]) refunds
  refine .trans ?_ (refund.trans ((payCompensation_inert compensates).trans (.of_eq rfl rfl)))
  exact .of_update rfl rfl id

theorem claimRefundWithAuthorization_inert {vaultAddress recipient : Address} {commitmentHash : Bytes32}
    {deadline : ℕ} {signature : Signature}
    (done : w.claimRefundWithAuthorization base.hosting msg vaultAddress commitmentHash recipient deadline
      signature = .ok next) : Inert w next := by
  simp only [claimRefundWithAuthorization, bind_eq_ok, pure_eq_ok, Except.ok.injEq] at done
  obtain ⟨vault, -, released, releases, paid, pays, rfl⟩ := done
  obtain ⟨digest, consumed, -, -, refunds⟩ :=
    ShieldedEscrowVault.claimRefundWithAuthorization_ok.mp releases
  obtain ⟨⟨-, -, -, -, -, settles⟩, -⟩ := ShieldedEscrowVault.releaseRefund_ok refunds
  obtain ⟨-, settled⟩ := settleShieldedRefund_ok.mp settles
  refine .trans ?_ ((payRefund_inert pays).trans (.of_eq rfl rfl))
  refine .of_update rfl (congrArg FhenixFairMarket.auctions settled.symm) ?_
  exact id

/-- Only a resolution has a service asked or an auction finalized, besides changes outside
that come by themselves. -/
theorem execute_inert {tx : Tx (Hosted τ)} (resolves : tx.resolves = false) (own : ∀ outside, tx ≠ .outside outside)
    (done : w.execute base.hosting msg tx = .ok next) : Inert w next := by
  cases tx with
  | createAuction => exact createAuction_inert done
  | lockEscrow =>
    simp only [execute, lockEscrow, bind_eq_ok, auctionExists_ok, exists_revertIf, pure_eq_ok,
      Except.ok.injEq] at done
    obtain ⟨cell, ⟨-, rfl⟩, -, -, -, -, escrow, -, total, -, network, -, rfl⟩ := done
    exact .of_update rfl rfl id
  | lockShieldedEscrow =>
    simp only [execute, lockShieldedEscrow, bind_eq_ok, auctionExists_ok, exists_revertIf, pure_eq_ok,
      Except.ok.injEq] at done
    obtain ⟨cell, ⟨-, rfl⟩, -, -, -, -, -, -, vault, -, registry, -, network, -, bound, -, locked, -, rfl⟩ := done
    exact .of_update rfl rfl id
  | placeBid =>
    simp only [execute, placeBid, bind_eq_ok, auctionExists_ok, exists_revertIf, pure_eq_ok,
      Except.ok.injEq] at done
    obtain ⟨cell, ⟨-, rfl⟩, -, -, -, -, -, -, covered, -, -, bidCount, -, network, -, rfl⟩ := done
    exact .of_update rfl rfl id
  | placeShieldedBid =>
    simp only [execute, placeShieldedBid, bind_eq_ok, auctionExists_ok, exists_revertIf, pure_eq_ok,
      Except.ok.injEq] at done
    obtain ⟨cell, ⟨-, rfl⟩, -, -, -, -, vault, -, -, -, -, -, -, -, bidCount, -, network, -, rfl⟩ := done
    exact .of_update rfl rfl id
  | triggerFinalize =>
    simp only [execute, triggerFinalize, bind_eq_ok, auctionExists_ok, exists_revertIf, transitionState_ok,
      pure_eq_ok, Except.ok.injEq] at done
    obtain ⟨cell, ⟨-, rfl⟩, -, -, -, -, network, -, auction, ⟨-, rfl⟩, nonce, -, reward, -, request, -, rfl⟩ := done
    exact .of_moved .resolving rfl rfl rfl (by decide)
  | submitResolution => cases resolves
  | submitShieldedResolution => cases resolves
  | cancelAuction => exact cancelAuction_inert done
  | triggerFallbackVoid => exact triggerFallbackVoid_inert done
  | claimRefund => exact claimRefund_inert done
  | claimSellerProceeds =>
    simp only [execute, claimSellerProceeds, bind_eq_ok, auctionExists_ok, exists_revertIf, pure_eq_ok,
      Except.ok.injEq] at done
    obtain ⟨cell, ⟨-, rfl⟩, -, -, -, payout, -, -, sent, sends, rfl⟩ := done
    refine .trans ?_ ((sendValue_inert sends).trans (.of_eq rfl rfl))
    exact .of_update rfl rfl id
  | claimFinalizeReward =>
    simp only [execute, claimFinalizeReward, bind_eq_ok, auctionExists_ok, exists_revertIf, pure_eq_ok,
      Except.ok.injEq] at done
    obtain ⟨cell, ⟨-, rfl⟩, -, -, -, sent, sends, rfl⟩ := done
    refine .trans ?_ ((payReward_inert sends).trans (.of_eq rfl rfl))
    exact .of_update rfl rfl id
  | claimAsset =>
    simp only [execute, claimAsset, bind_eq_ok, auctionExists_ok, exists_revertIf] at done
    obtain ⟨cell, ⟨-, rfl⟩, -, -, -, -, -, releases⟩ := done
    refine .trans ?_ (releaseFromEscrow_inert releases)
    exact .of_update rfl rfl id
  | claimShieldedAssetWithAuthorization =>
    simp only [execute, claimShieldedAssetWithAuthorization, bind_eq_ok, auctionExists_ok, exists_revertIf,
      Prod.exists] at done
    obtain ⟨cell, ⟨-, rfl⟩, -, -, -, -, vault, -, -, commitmentHash, -, digest, authorized, -, releases⟩ := done
    refine .trans ?_ (releaseFromEscrow_inert releases)
    exact .of_update rfl rfl id
  | claimRefundWithAuthorization => exact claimRefundWithAuthorization_inert done
  | receive =>
    obtain rfl := Except.ok.inj done
    exact .of_eq rfl rfl
  | setAVS | setShieldedBidVerifier | setPreviewReader =>
    simp only [execute, setAVS, setShieldedBidVerifier, setPreviewReader, bind_eq_ok, pure_eq_ok,
      Except.ok.injEq] at done
    obtain ⟨_, -, _, -, rfl⟩ := done
    exact .of_eq rfl rfl
  | outside outside => exact absurd rfl (own outside)
  | setCofheAdapter | setSettlementEngine | setSlashedPot | setShieldedEscrowVault
  | setShieldedIdentityRegistry =>
    simp only [execute, setCofheAdapter, setSettlementEngine, setSlashedPot, setShieldedEscrowVault,
      setShieldedIdentityRegistry, bind_eq_ok, pure_eq_ok, Except.ok.injEq] at done
    obtain ⟨-, -, -, -, rfl⟩ := done
    exact .of_eq rfl rfl

theorem transact_inert {tx : Tx (Hosted τ)} (resolves : tx.resolves = false)
    (own : ∀ outside, tx ≠ .outside outside) (done : w.transact base.hosting (msg, tx) = .ok next) :
    Inert w next := by
  obtain ⟨-, executed, executes, rfl⟩ := transact_ok.mp done
  have inert := execute_inert resolves own executes
  exact ⟨inert.services, inert.finalized⟩

end World

end FairMarket
