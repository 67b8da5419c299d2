import FairMarket.Market.Lifecycle

/-! Custody of the auctioned tokens. A token the market owns and has approved nobody
for stays where it is until the market itself hands it over. -/

namespace FairMarket

variable {σ : Type}

section ERC721

variable (env : External σ) (nft : Address)

/-- The market has made nobody an operator of its tokens. -/
def Unapproved (s : σ) : Prop :=
  ∀ operator, env.isApprovedForAll s nft env.market operator ≠ some true

/-- The market owns a token that nobody is approved for. -/
def Held (s : σ) (tokenId : ℕ) : Prop :=
  env.ownerOf s nft tokenId = some env.market ∧ env.getApproved s nft tokenId = some 0

/-- What others do takes no token from the market and no approval in its name. -/
def Undisturbed (s next : σ) : Prop :=
  Unapproved env nft s → Unapproved env nft next ∧ ∀ tokenId, Held env nft s tokenId → Held env nft next tokenId

/-- A token contract as the standard has it. Ownership moves only through the owner
or an approved operator, so calls the market does not make leave its tokens alone;
a transfer requires the stated owner, clears the approval and touches no other token. -/
structure LawfulERC721 : Prop where
  receiveEther : ∀ s next recipient amount, env.receiveEther s recipient amount = some next →
    Undisturbed env nft s next
  verifyAttestation : ∀ s next service market auctionId requestId winner ciphertext amount proof accepted,
    env.verifyAttestation s service market auctionId requestId winner ciphertext amount proof =
      .ok (accepted, next) → Undisturbed env nft s next
  verifyShieldedAttestation : ∀ s next service market auctionId requestId identityHash ciphertext amount
    proof accepted, env.verifyShieldedAttestation s service market auctionId requestId identityHash
      ciphertext amount proof = .ok (accepted, next) → Undisturbed env nft s next
  admits : ∀ s next, env.admits s next = true → Undisturbed env nft s next
  elsewhere : ∀ s next other sender recipient tokenId, other ≠ nft →
    env.safeTransferFrom s other sender recipient tokenId = .ok next → Undisturbed env nft s next
  moved : ∀ s next sender recipient tokenId,
    env.safeTransferFrom s nft sender recipient tokenId = .ok next →
      env.ownerOf s nft tokenId = some sender ∧
      (Unapproved env nft s → Unapproved env nft next ∧
        (∀ other, other ≠ tokenId → Held env nft s other → Held env nft next other) ∧
        (recipient = env.market → Held env nft next tokenId))

end ERC721

/-- The states in which the market holds an auction's token. -/
def Auction.inCustody (auction : Auction) : Bool :=
  match auction.state with
  | .active | .resolving => true
  | .finalized => !auction.assetClaimed
  | _ => false

section View

variable {refundKey : Bytes32 → Bytes32} {auctionId : AuctionId} {now : ℕ} {flow : Flow}
  {v next : AuctionView}

theorem Sound.inCustody_eq (sound : Sound v) :
    v.cell.auction.inCustody = (v.cell.auction.exists_ && !v.assetGone) := by
  unfold Auction.inCustody AuctionView.assetGone
  rcases sound with rfl | bidding | settled
  · rfl
  · rw [bidding.found, bidding.assetHeld]
    rcases bidding.running with active | resolving
    · rw [active]
      rfl
    · rw [resolving]
      rfl
  · rw [settled.found]
    rcases AuctionState.terminal_cases settled.terminal with finalized | cancelled | voided
    · simp [finalized]
    · simp [cancelled]
    · simp [voided]

/-- The token and the seller of an auction. -/
def Auction.consignment (auction : Auction) : Address × ℕ × Address :=
  (auction.nftContract, auction.tokenId, auction.seller)

/-- A step keeps an auction's token, and takes no token back into custody. -/
theorem AuctionStep.consignment_eq (step : AuctionStep refundKey auctionId now flow v next)
    (found : v.cell.auction.exists_ = true) :
    next.cell.auction.exists_ = true ∧
      next.cell.auction.consignment = v.cell.auction.consignment ∧
      (next.cell.auction.inCustody = true → v.cell.auction.inCustody = true) := by
  cases step with
  | created _ _ _ _ _ _ _ _ _ fresh =>
    rw [fresh] at found
    cases found
  | escrowLocked => exact ⟨found, rfl, id⟩
  | shieldedEscrowLocked => exact ⟨found, rfl, id⟩
  | bidPlaced => exact ⟨found, rfl, id⟩
  | shieldedBidPlaced => exact ⟨found, rfl, id⟩
  | finalizeTriggered _ _ _ _ _ active =>
    exact ⟨found, rfl, fun _ => by rw [Auction.inCustody, active]⟩
  | resolutionRejected => exact ⟨found, rfl, id⟩
  | resolved _ _ _ _ resolving =>
    refine ⟨by simpa using found, by simp [Auction.consignment], fun _ => ?_⟩
    rw [Auction.inCustody, resolving]
  | shieldedResolved _ _ _ _ _ _ resolving =>
    refine ⟨by simpa using found, by simp [Auction.consignment], fun _ => ?_⟩
    rw [Auction.inCustody, resolving]
  | cancelled =>
    refine ⟨by simpa using found, by simp [Auction.consignment], fun held => ?_⟩
    simp [Auction.inCustody] at held
  | voided =>
    refine ⟨by simpa using found, by simp [Auction.consignment], fun held => ?_⟩
    simp [Auction.inCustody] at held
  | refundClaimed => exact ⟨found, rfl, id⟩
  | sellerProceedsClaimed => exact ⟨found, rfl, id⟩
  | finalizeRewardClaimed => exact ⟨found, rfl, id⟩
  | assetClaimed _ _ finalized =>
    refine ⟨found, rfl, fun held => ?_⟩
    simp [Auction.inCustody, finalized] at held
  | shieldedRefunded => exact ⟨found, rfl, id⟩

theorem Event.isAssetRelease_about (event : Event) (released : Event.isAssetRelease auctionId event = true) :
    event.auctionId = auctionId := by
  cases event <;> first
    | cases released
    | exact of_decide_eq_true released

/-- Custody ends exactly with the release. -/
theorem Reachable.inCustody_eq_of_count {v next : AuctionView} (before : Reachable refundKey auctionId v)
    (after : Reachable refundKey auctionId next) (found : v.cell.auction.exists_ = true)
    (kept : next.cell.auction.exists_ = true)
    (same : next.log.countP (Event.isAssetRelease auctionId) =
      v.log.countP (Event.isAssetRelease auctionId)) :
    next.cell.auction.inCustody = v.cell.auction.inCustody := by
  rw [before.counted.assetRelease, after.counted.assetRelease] at same
  have gone : next.assetGone = v.assetGone := by
    generalize next.assetGone = x, v.assetGone = y at same
    cases x <;> cases y <;> first
      | rfl
      | cases same
  rw [before.sound.inCustody_eq, after.sound.inCustody_eq, found, kept, gone]

end View

namespace World

variable {env : External σ} {w middle next : World σ} {msg : Msg} {auctionId : AuctionId}

/-- No token of the market moves and no release is recorded. -/
structure Still (env : External σ) (w next : World σ) : Prop where
  undisturbed : ∀ nft, LawfulERC721 env nft → Undisturbed env nft w.outside next.outside
  released : ∀ auctionId, next.log.countP (Event.isAssetRelease auctionId) =
    w.log.countP (Event.isAssetRelease auctionId)

namespace Still

/-- The contracts of this world keep to themselves. -/
theorem of_eq (outside : next.outside = w.outside) (log : next.log = w.log) : Still env w next where
  undisturbed := fun nft _ unapproved => by
    rw [outside]
    exact ⟨unapproved, fun _ held => held⟩
  released := fun _ => by rw [log]

theorem trans (first : Still env w middle) (second : Still env middle next) : Still env w next where
  undisturbed := fun nft lawful unapproved => by
    obtain ⟨unapproved₁, held₁⟩ := first.undisturbed nft lawful unapproved
    obtain ⟨unapproved₂, held₂⟩ := second.undisturbed nft lawful unapproved₁
    exact ⟨unapproved₂, fun tokenId held => held₂ tokenId (held₁ tokenId held)⟩
  released := fun auctionId => (second.released auctionId).trans (first.released auctionId)

theorem record (events : List Event) (still : Still env w middle) (outside : next.outside = middle.outside)
    (log : next.log = events ++ middle.log)
    (other : ∀ auctionId, events.countP (Event.isAssetRelease auctionId) = 0) : Still env w next where
  undisturbed := by
    rw [outside]
    exact still.undisturbed
  released := fun auctionId => by
    rw [log, List.countP_append, other auctionId, Nat.zero_add]
    exact still.released auctionId

/-- Others run, and the contracts of this world record nothing. -/
theorem called (log : next.log = w.log)
    (undisturbed : ∀ nft, LawfulERC721 env nft → Undisturbed env nft w.outside next.outside) :
    Still env w next where
  undisturbed := undisturbed
  released := fun _ => by rw [log]

end Still

theorem openShieldedRefundPath_inward (done : w.openShieldedRefundPath env auctionId = .ok next) :
    next.outside = w.outside ∧ next.log = w.log := by
  unfold openShieldedRefundPath at done
  dsimp only at done
  split at done
  · cases done
    exact ⟨rfl, rfl⟩
  · split at done
    · cases done
      exact ⟨rfl, rfl⟩
    · simp only [bind_eq_ok, pure_eq_ok, Except.ok.injEq] at done
      obtain ⟨_, -, rfl⟩ := done
      exact ⟨rfl, rfl⟩

theorem allocateSlash_inward {totalEscrow slashAmount share : ℕ}
    (done : w.allocateSlash env auctionId totalEscrow slashAmount = .ok (share, next)) :
    next.outside = w.outside ∧ next.market.auctions = w.market.auctions := by
  unfold allocateSlash at done
  dsimp only at done
  split at done
  · cases done
    exact ⟨rfl, rfl⟩
  · simp only [bind_eq_ok, exists_revertIf, Prod.exists, pure_eq_ok, Except.ok.injEq,
      Prod.mk.injEq] at done
    obtain ⟨-, _, _, -, -, rfl⟩ := done
    exact ⟨rfl, rfl⟩

theorem registerSlash_inward {totalEscrow slashAmount : ℕ}
    (done : w.registerSlash env auctionId totalEscrow slashAmount = .ok next) :
    next.outside = w.outside ∧ next.market.auctions = w.market.auctions := by
  unfold registerSlash at done
  split at done
  · cases done
    exact ⟨rfl, rfl⟩
  · simp only [bind_eq_ok, Prod.exists] at done
    obtain ⟨share, allocated, allocates, done⟩ := done
    have inward := allocateSlash_inward allocates
    split at done
    · simp only [pure_eq_ok, Except.ok.injEq] at done
      rw [← done]
      exact inward
    · simp only [bind_eq_ok, exists_revertIf, requireSome_eq_ok, pure_eq_ok, Except.ok.injEq] at done
      obtain ⟨-, -, _, -, _, -, rfl⟩ := done
      exact inward

theorem sendValue_still {recipient : Address} {amount : ℕ}
    (done : w.sendValue env recipient amount = .ok next) : Still env w next := by
  obtain ⟨-, outside, received, rfl⟩ := sendValue_ok.mp done
  exact .called rfl fun _ lawful => lawful.receiveEther _ _ _ _ received

theorem payReward_still {recipient : Address} {reward : ℕ}
    (done : w.payReward env recipient reward = .ok next) : Still env w next := by
  unfold payReward at done
  split at done
  · cases done
    exact .of_eq rfl rfl
  · exact sendValue_still done

theorem payEscrowRefund_still {cell : AuctionStorage} {claimant : Address} {escrowRefund : ℕ}
    (done : w.payEscrowRefund env auctionId cell claimant escrowRefund = .ok next) : Still env w next := by
  unfold payEscrowRefund at done
  split at done
  · cases done
    exact .of_eq rfl rfl
  · have paid := sendValue_still done
    exact ⟨paid.undisturbed, paid.released⟩

theorem payCompensation_still {claimant : Address} {escrowRefund compensation paid : ℕ}
    (done : w.payCompensation env auctionId claimant escrowRefund compensation = .ok (paid, next)) :
    Still env w next := by
  unfold payCompensation at done
  split at done
  · cases done
    exact .of_eq rfl rfl
  · simp only [bind_eq_ok, requireSome_eq_ok, Prod.exists] at done
    obtain ⟨pot, -, amount, claimed, -, done⟩ := done
    split at done
    · cases done
      exact .of_eq rfl rfl
    · simp only [bind_eq_ok, requireSome_eq_ok, pure_eq_ok, Except.ok.injEq, Prod.mk.injEq] at done
      obtain ⟨outside, received, -, rfl⟩ := done
      exact .called rfl fun _ lawful => lawful.receiveEther _ _ _ _ received

theorem payRefund_still {recipient : Address} {amount : ℕ}
    (done : w.payRefund env recipient amount = .ok next) : Still env w next := by
  unfold payRefund at done
  split at done
  · cases done
    exact .of_eq rfl rfl
  · split at done
    · cases done
    · simp only [bind_eq_ok, requireSome_eq_ok, pure_eq_ok, Except.ok.injEq] at done
      obtain ⟨outside, received, rfl⟩ := done
      exact .called rfl fun _ lawful => lawful.receiveEther _ _ _ _ received

theorem claimRefund_still (done : w.claimRefund env msg auctionId = .ok next) : Still env w next := by
  simp only [claimRefund, bind_eq_ok, exists_revertIf, Prod.exists, pure_eq_ok, Except.ok.injEq] at done
  obtain ⟨cell, -, -, escrowRefund, compensation, -, -, refunded, refunds, paid, compensated, compensates,
    rfl⟩ := done
  have refunded := payEscrowRefund_still refunds
  have paid : Still env w compensated :=
    .trans ⟨refunded.undisturbed, refunded.released⟩ (payCompensation_still compensates)
  exact paid.record [_] rfl rfl fun _ => rfl

theorem claimSellerProceeds_still (done : w.claimSellerProceeds env msg auctionId = .ok next) :
    Still env w next := by
  simp only [claimSellerProceeds, bind_eq_ok, exists_revertIf, pure_eq_ok, Except.ok.injEq] at done
  obtain ⟨cell, -, -, -, -, payout, -, -, sent, sends, rfl⟩ := done
  have paid := sendValue_still sends
  exact Still.record [_] ⟨paid.undisturbed, paid.released⟩ rfl rfl fun _ => rfl

theorem claimFinalizeReward_still (done : w.claimFinalizeReward env msg auctionId = .ok next) :
    Still env w next := by
  simp only [claimFinalizeReward, bind_eq_ok, exists_revertIf, pure_eq_ok, Except.ok.injEq] at done
  obtain ⟨cell, -, -, -, -, sent, sends, rfl⟩ := done
  have paid := payReward_still sends
  exact Still.record [_] ⟨paid.undisturbed, paid.released⟩ rfl rfl fun _ => rfl

theorem claimRefundWithAuthorization_still {vaultAddress recipient : Address} {commitmentHash : Bytes32}
    {deadline : ℕ} {signature : Signature}
    (done : w.claimRefundWithAuthorization env msg vaultAddress commitmentHash recipient deadline
      signature = .ok next) : Still env w next := by
  simp only [claimRefundWithAuthorization, bind_eq_ok, requireSome_eq_ok, pure_eq_ok,
    Except.ok.injEq] at done
  obtain ⟨vault, -, released, -, sent, sends, rfl⟩ := done
  have paid := payRefund_still sends
  exact Still.record [_] ⟨paid.undisturbed, paid.released⟩ rfl rfl fun _ => rfl

theorem recordResolution_still {cell : AuctionStorage} {winner : Address}
    {winningCommitment winnerCiphertext : Bytes32} {winningAmount : ℕ}
    (done : w.recordResolution msg auctionId cell winner winningCommitment winnerCiphertext winningAmount =
      .ok next) : Still env w next := by
  simp only [recordResolution, bind_eq_ok, pure_eq_ok, Except.ok.injEq] at done
  obtain ⟨network, -, auction, -, rfl⟩ := done
  exact Still.record [_, _] (.of_eq rfl rfl) rfl rfl fun _ => rfl

theorem submitResolution_still {winner : Address} {winnerCiphertext : Bytes32} {winningAmount : ℕ}
    {avsProof : Proof} {accepted : Bool}
    (done : w.submitResolution env msg auctionId winner winnerCiphertext winningAmount avsProof =
      .ok (accepted, next)) : Still env w next := by
  simp only [submitResolution, SettlementEngine.verifyResolutionProof,
    SettlementEngine.verifyProof, bind_eq_ok, exists_revertIf, requireSome_eq_ok, Prod.exists] at done
  obtain ⟨cell, -, -, -, -, -, -, -, engine, -, proofAccepted, outside, ⟨-, verified⟩, done⟩ := done
  have checked : Still env w (w.setOutside outside) :=
    .called rfl fun _ lawful => lawful.verifyAttestation _ _ _ _ _ _ _ _ _ _ _ verified
  split at done
  · cases done
    exact checked.record [_] rfl rfl fun _ => rfl
  · simp only [bind_eq_ok, pure_eq_ok, Except.ok.injEq, Prod.mk.injEq] at done
    obtain ⟨recorded, records, opened, opens, -, rfl⟩ := done
    obtain ⟨sameOutside, sameLog⟩ := openShieldedRefundPath_inward opens
    exact (checked.trans (recordResolution_still records)).trans (.of_eq sameOutside sameLog)

theorem submitShieldedResolution_still {winnerIdentityHash winnerCiphertext : Bytes32}
    {winningAmount : ℕ} {avsProof : Proof} {accepted : Bool}
    (done : w.submitShieldedResolution env msg auctionId winnerIdentityHash winnerCiphertext
      winningAmount avsProof = .ok (accepted, next)) : Still env w next := by
  simp only [submitShieldedResolution, SettlementEngine.verifyShieldedResolutionProof,
    SettlementEngine.verifyProof, bind_eq_ok, exists_revertIf, requireSome_eq_ok,
    Prod.exists] at done
  obtain ⟨cell, -, -, -, -, -, commitmentHash, -, engine, -, proofAccepted, outside, ⟨-, verified⟩,
    done⟩ := done
  have checked : Still env w (w.setOutside outside) :=
    .called rfl fun _ lawful => lawful.verifyShieldedAttestation _ _ _ _ _ _ _ _ _ _ _ verified
  split at done
  · cases done
    exact checked.record [_] rfl rfl fun _ => rfl
  · simp only [bind_eq_ok, settleWinningCommitment, markWinningIdentity, requireSome_eq_ok, Prod.exists,
      pure_eq_ok, Except.ok.injEq, Prod.mk.injEq] at done
    obtain ⟨recorded, records, _, ⟨_, -, _, _, -, rfl⟩, opened, opens, _, ⟨_, -, _, -, rfl⟩, -, rfl⟩ := done
    obtain ⟨sameOutside, sameLog⟩ := openShieldedRefundPath_inward opens
    exact (checked.trans (recordResolution_still records)).trans (.of_eq sameOutside sameLog)

/-- The transactions that make no call outside. -/
theorem lockEscrow_still (done : w.lockEscrow msg auctionId = .ok next) : Still env w next := by
  simp only [lockEscrow, bind_eq_ok, exists_revertIf, pure_eq_ok, Except.ok.injEq] at done
  obtain ⟨cell, -, -, -, -, -, escrow, -, total, -, network, -, rfl⟩ := done
  exact Still.record [_] (.of_eq rfl rfl) rfl rfl fun _ => rfl

theorem lockShieldedEscrow_still {identityHash commitmentHash : Bytes32} {claimAuthority : Address}
    (done : w.lockShieldedEscrow env msg auctionId identityHash commitmentHash claimAuthority =
      .ok next) : Still env w next := by
  simp only [lockShieldedEscrow, bind_eq_ok, exists_revertIf, pure_eq_ok, Except.ok.injEq] at done
  obtain ⟨cell, -, -, -, -, -, -, -, vault, -, registry, -, network, -, bound, -, locked, -, rfl⟩ := done
  exact Still.record [_, _] (.of_eq rfl rfl) rfl rfl fun _ => rfl

theorem placeBid_still {encryptedBid : Bytes32}
    (done : w.placeBid env msg auctionId encryptedBid = .ok next) : Still env w next := by
  simp only [placeBid, bind_eq_ok, exists_revertIf, pure_eq_ok, Except.ok.injEq] at done
  obtain ⟨cell, -, -, -, -, -, -, -, covered, -, -, bidCount, -, network, -, rfl⟩ := done
  exact Still.record [_] (.of_eq rfl rfl) rfl rfl fun _ => rfl

theorem placeShieldedBid_still {commitmentHash encryptedBid : Bytes32} {coverageDeadline : ℕ}
    {coverageProof : List UInt8}
    (done : w.placeShieldedBid env msg auctionId commitmentHash encryptedBid coverageDeadline
      coverageProof = .ok next) : Still env w next := by
  simp only [placeShieldedBid, bind_eq_ok, exists_revertIf, pure_eq_ok, Except.ok.injEq] at done
  obtain ⟨cell, -, -, -, -, -, vault, -, -, -, -, -, -, -, bidCount, -, network, -, rfl⟩ := done
  exact Still.record [_] (.of_eq rfl rfl) rfl rfl fun _ => rfl

theorem triggerFinalize_still (done : w.triggerFinalize env msg auctionId = .ok next) :
    Still env w next := by
  simp only [triggerFinalize, bind_eq_ok, exists_revertIf, pure_eq_ok, Except.ok.injEq] at done
  obtain ⟨cell, -, -, -, -, -, network, -, auction, -, nonce, -, reward, -, request, -, rfl⟩ := done
  exact Still.record [_, _] (.of_eq rfl rfl) rfl rfl fun _ => rfl

/-- Who may receive an auction's token: its seller when nobody won, the public
winner, or whoever the claim authority of the winning identity's commitment names. -/
inductive Rightful (env : External σ) (w : World σ) (now : ℕ) (auctionId : AuctionId)
    (cell : AuctionStorage) : Address → Prop where
  | seller
      (unsold : cell.auction.state = .cancelled ∨ cell.auction.state = .voided ∨
        cell.auction.state = .finalized ∧ cell.auction.winner = 0 ∧ cell.winningCommitment = 0) :
      Rightful env w now auctionId cell cell.auction.seller
  | winner (finalized : cell.auction.state = .finalized) (won : cell.auction.winner ≠ 0)
      (inTheOpen : cell.winningCommitment = 0) :
      Rightful env w now auctionId cell cell.auction.winner
  | authorized {vault : ShieldedEscrowVault} {registry : ShieldedIdentityRegistry}
      {commitmentHash : Bytes32} {deadline : ℕ} {signature : Signature} (recipient : Address)
      (finalized : cell.auction.state = .finalized) (shielded : cell.winningCommitment ≠ 0)
      (deployed : w.vaults (w.snapshot auctionId).shieldedEscrowVault = some vault)
      (registered : w.registries (w.snapshot auctionId).shieldedIdentityRegistry = some registry)
      (bound : registry.commitmentForIdentity auctionId cell.winningCommitment = commitmentHash)
      (locked : (vault.commitments commitmentHash).auctionId = auctionId)
      (unexpired : now ≤ deadline)
      (signed : env.recover (ShieldedEscrowVault.claimDigest env.toChain
        (w.snapshot auctionId).shieldedEscrowVault ShieldedEscrowVault.assetClaimTag auctionId
          commitmentHash recipient deadline) signature =
        some (vault.commitments commitmentHash).claimAuthority) :
      Rightful env w now auctionId cell recipient

/-- An auction's token leaves the market. -/
structure Releases (env : External σ) (w next : World σ) (now : ℕ) (auctionId : AuctionId)
    (recipient : Address) : Prop where
  held : (w.market.auctions auctionId).auction.inCustody = true
  released : (next.market.auctions auctionId).auction.inCustody = false
  transfer : env.safeTransferFrom w.outside (w.market.auctions auctionId).auction.nftContract env.market
    recipient (w.market.auctions auctionId).auction.tokenId = .ok next.outside
  recorded : .assetReleased auctionId recipient ∈ next.log
  rightful : Rightful env w now auctionId (next.market.auctions auctionId) recipient

theorem openShieldedRefundPath_auction (done : w.openShieldedRefundPath env auctionId = .ok next) :
    (next.market.auctions auctionId).auction = (w.market.auctions auctionId).auction := by
  unfold openShieldedRefundPath at done
  dsimp only at done
  split at done
  · cases done
    rfl
  · split at done
    · cases done
      rfl
    · simp only [bind_eq_ok, pure_eq_ok, Except.ok.injEq] at done
      obtain ⟨_, -, rfl⟩ := done
      simp only [setVault, setAuction, Function.update_self]

/-- Handing the token back to the seller once the auction is cancelled or voided. -/
theorem release_to_seller {registered opened : World σ} {totalEscrow slashAmount now : ℕ} {outside : σ}
    (held : (w.market.auctions auctionId).auction.inCustody = true)
    (registers : middle.registerSlash env auctionId totalEscrow slashAmount = .ok registered)
    (opens : registered.openShieldedRefundPath env auctionId = .ok opened)
    (transferred : env.safeTransferFrom opened.outside (opened.market.auctions auctionId).auction.nftContract
      env.market (w.market.auctions auctionId).auction.seller
        (opened.market.auctions auctionId).auction.tokenId = .ok outside)
    (same : middle.outside = w.outside) (consigned :
      (middle.market.auctions auctionId).auction.consignment =
        (w.market.auctions auctionId).auction.consignment)
    (ended : (middle.market.auctions auctionId).auction.state = .cancelled ∨
      (middle.market.auctions auctionId).auction.state = .voided)
    (cells : next.market.auctions = opened.market.auctions) (last : next.outside = outside)
    (recorded : .assetReleased auctionId (w.market.auctions auctionId).auction.seller ∈ next.log) :
    ∃ recipient, Releases env w next now auctionId recipient := by
  have auctionEq := openShieldedRefundPath_auction opens
  rw [(registerSlash_inward registers).2] at auctionEq
  rw [(openShieldedRefundPath_inward opens).1, (registerSlash_inward registers).1, same,
    auctionEq, ← last] at transferred
  simp only [Auction.consignment, Prod.mk.injEq] at consigned
  obtain ⟨nftContract, tokenId, seller⟩ := consigned
  rw [nftContract, tokenId] at transferred
  have final : (next.market.auctions auctionId).auction = (middle.market.auctions auctionId).auction := by
    rw [cells, auctionEq]
  refine ⟨(w.market.auctions auctionId).auction.seller, held, ?_, transferred, recorded, ?_⟩
  · rw [final]
    rcases ended with cancelled | voided
    · rw [Auction.inCustody, cancelled]
    · rw [Auction.inCustody, voided]
  · have rightful : Rightful env w now auctionId (next.market.auctions auctionId)
        (next.market.auctions auctionId).auction.seller := by
      refine .seller ?_
      rw [final]
      exact ended.imp_right .inl
    rw [← seller]
    rwa [final] at rightful

theorem cancelAuction_releases (done : w.cancelAuction env msg auctionId = .ok next) :
    ∃ recipient, Releases env w next msg.timestamp auctionId recipient := by
  simp only [cancelAuction, onlyAuctionSeller, onlyAuctionState, releaseFromEscrow, bind_eq_ok,
    auctionExists_ok, exists_revertIf, transitionState_ok, pure_eq_ok, Except.ok.injEq, ne_eq,
    not_not] at done
  obtain ⟨cell, ⟨found, rfl⟩, -, active, -, slashAmount, -, network, -, auction, ⟨-, rfl⟩,
    registered, registers, opened, opens, outside, transferred, rfl⟩ := done
  refine release_to_seller (by rw [Auction.inCustody, active]) registers opens transferred rfl ?_
    (.inl ?_) rfl rfl List.mem_cons_self
  · simp [emit, setAuction, setNetwork, Auction.consignment]
  · simp [emit, setAuction, setNetwork]

theorem triggerFallbackVoid_releases (done : w.triggerFallbackVoid env msg auctionId = .ok next) :
    ∃ recipient, Releases env w next msg.timestamp auctionId recipient := by
  simp only [triggerFallbackVoid, onlyAuctionState, releaseFromEscrow, bind_eq_ok, auctionExists_ok,
    exists_revertIf, transitionState_ok, pure_eq_ok, Except.ok.injEq, ne_eq, not_not] at done
  obtain ⟨cell, ⟨found, rfl⟩, resolving, timeoutWindow, -, elapsed, -, total, -, -, network, -,
    auction, ⟨-, rfl⟩, registered, registers, opened, opens, released, ⟨outside, transferred, rfl⟩,
    rfl⟩ := done
  refine release_to_seller (by rw [Auction.inCustody, resolving]) registers opens transferred rfl ?_
    (.inr ?_) rfl rfl (List.mem_cons_of_mem _ List.mem_cons_self)
  · simp [emit, setAuction, setNetwork, Auction.consignment]
  · simp [emit, setAuction, setNetwork]

theorem claimAsset_releases (done : w.claimAsset env msg auctionId = .ok next) :
    ∃ recipient, Releases env w next msg.timestamp auctionId recipient := by
  simp only [claimAsset, onlyAuctionState, releaseFromEscrow, bind_eq_ok, auctionExists_ok,
    exists_revertIf, pure_eq_ok, Except.ok.injEq, ne_eq, not_not, Bool.not_eq_true] at done
  obtain ⟨cell, ⟨found, rfl⟩, finalized, unclaimed, inTheOpen, -, outside, transferred, rfl⟩ := done
  simp only [setAuction, Function.update_self] at transferred
  refine ⟨expectedRecipient (w.market.auctions auctionId).auction, ?_, ?_, transferred,
    List.mem_cons_self, ?_⟩
  · rw [Auction.inCustody, finalized, unclaimed]
    rfl
  · simp [emit, setOutside, setAuction, Auction.inCustody, finalized]
  · simp only [emit, setOutside, setAuction, Function.update_self]
    unfold expectedRecipient
    split
    · rename_i unsold
      exact .seller (.inr (.inr ⟨finalized, unsold, inTheOpen⟩))
    · rename_i won
      exact .winner finalized won inTheOpen

theorem claimShieldedAsset_releases (wired : w.Wired env) {winnerIdentityHash : Bytes32}
    {recipient : Address} {deadline : ℕ} {signature : Signature}
    (done : w.claimShieldedAssetWithAuthorization env msg auctionId winnerIdentityHash recipient
      deadline signature = .ok next) :
    Releases env w next msg.timestamp auctionId recipient := by
  simp only [claimShieldedAssetWithAuthorization, onlyAuctionState, releaseFromEscrow,
    resolveShieldedCommitment, bind_eq_ok, auctionExists_ok, exists_revertIf, requireSome_eq_ok,
    pure_eq_ok, Except.ok.injEq, Prod.exists, ne_eq, not_or, not_not, Bool.not_eq_true] at done
  obtain ⟨cell, ⟨found, rfl⟩, finalized, unclaimed, -, vault, deployed, ⟨shielded, rfl⟩,
    commitmentHash, ⟨-, registry, registered, -, bound⟩, digest, authorized, authorizes, outside,
    transferred, rfl⟩ := done
  rw [wired.auctionVault found] at deployed authorizes
  rw [wired.auctionRegistry found] at registered
  obtain ⟨-, locked, consumed⟩ := ShieldedEscrowVault.authorizeAssetClaim_ok.mp authorizes
  obtain ⟨⟨-, unexpired, -, -, -, signed⟩, -⟩ := ShieldedEscrowVault.consumeClaimAuthorization_ok.mp consumed
  simp only [setAuction, setVault, Function.update_self] at transferred
  refine ⟨?_, ?_, transferred, List.mem_cons_self, ?_⟩
  · rw [Auction.inCustody, finalized, unclaimed]
    rfl
  · simp [emit, setOutside, setAuction, setVault, Auction.inCustody, finalized]
  · simp only [emit, setOutside, setAuction, setVault, Function.update_self]
    exact .authorized recipient finalized shielded deployed registered bound locked unexpired signed

/-- A new auction's token enters the market from the account that creates it. -/
structure Deposits (env : External σ) (w next : World σ) (sender : Address) : Prop where
  owner : env.ownerOf w.outside (next.market.auctions w.nextAuctionId).auction.nftContract
    (next.market.auctions w.nextAuctionId).auction.tokenId = some sender
  transfer : env.safeTransferFrom w.outside
    (next.market.auctions w.nextAuctionId).auction.nftContract sender env.market
      (next.market.auctions w.nextAuctionId).auction.tokenId = .ok next.outside
  others : ∀ other, other ≠ w.nextAuctionId → next.market.auctions other = w.market.auctions other
  fresh : (w.market.auctions w.nextAuctionId).auction.exists_ = false

theorem createAuction_deposits (wired : w.Wired env) {nftContract : Address}
    {tokenId duration startingPrice sellerDeposit : ℕ} {isVickrey : Bool}
    (done : w.createAuction env msg nftContract tokenId duration startingPrice sellerDeposit isVickrey =
      .ok next) : Deposits env w next msg.sender := by
  obtain ⟨fits, -, -, owner, network, outside, transferred, rfl⟩ := createAuction_ok done
  constructor
  · simpa [emit, credit, setOutside, setAuction, setNetwork] using owner
  · simpa [emit, credit, setOutside, setAuction, setNetwork] using transferred
  · exact fun other different => Function.update_of_ne different ..
  · exact wired.nextAuctionId_absent fits

/-- What a transaction does to tokens: nothing, one deposit or one release. -/
inductive AssetMove (env : External σ) (w next : World σ) (msg : Msg) : Bool → Prop where
  | still (still : Still env w next) : AssetMove env w next msg false
  | deposited (deposits : Deposits env w next msg.sender) : AssetMove env w next msg true
  | released (auctionId : AuctionId) (recipient : Address)
      (releases : Releases env w next msg.timestamp auctionId recipient) : AssetMove env w next msg false

theorem AssetMove.of_releases
    (releases : ∃ recipient, Releases env w next msg.timestamp auctionId recipient) :
    AssetMove env w next msg false := by
  obtain ⟨recipient, releases⟩ := releases
  exact .released auctionId recipient releases

theorem execute_assets (wired : w.Wired env) {tx : Tx σ} (done : w.execute env msg tx = .ok next) :
    AssetMove env w next msg tx.creates := by
  cases tx with
  | createAuction => exact .deposited (createAuction_deposits wired done)
  | lockEscrow => exact .still (lockEscrow_still done)
  | lockShieldedEscrow => exact .still (lockShieldedEscrow_still done)
  | placeBid => exact .still (placeBid_still done)
  | placeShieldedBid => exact .still (placeShieldedBid_still done)
  | triggerFinalize => exact .still (triggerFinalize_still done)
  | submitResolution =>
    obtain ⟨accepted, submitted⟩ := afterResolution_ok.mp done
    exact .still (submitResolution_still submitted)
  | submitShieldedResolution =>
    obtain ⟨accepted, submitted⟩ := afterResolution_ok.mp done
    exact .still (submitShieldedResolution_still submitted)
  | cancelAuction => exact .of_releases (cancelAuction_releases done)
  | triggerFallbackVoid => exact .of_releases (triggerFallbackVoid_releases done)
  | claimRefund => exact .still (claimRefund_still done)
  | claimSellerProceeds => exact .still (claimSellerProceeds_still done)
  | claimFinalizeReward => exact .still (claimFinalizeReward_still done)
  | claimAsset => exact .of_releases (claimAsset_releases done)
  | claimShieldedAssetWithAuthorization =>
    exact .released _ _ (claimShieldedAsset_releases wired done)
  | claimRefundWithAuthorization => exact .still (claimRefundWithAuthorization_still done)
  | receive =>
    obtain rfl := Except.ok.inj done
    exact .still (.of_eq rfl rfl)
  | setCofheAdapter =>
    simp only [execute, setCofheAdapter, bind_eq_ok, pure_eq_ok, Except.ok.injEq] at done
    obtain ⟨-, -, -, -, rfl⟩ := done
    exact .still (.of_eq rfl rfl)
  | setSettlementEngine =>
    simp only [execute, setSettlementEngine, bind_eq_ok, pure_eq_ok, Except.ok.injEq] at done
    obtain ⟨-, -, -, -, rfl⟩ := done
    exact .still (.of_eq rfl rfl)
  | setSlashedPot =>
    simp only [execute, setSlashedPot, bind_eq_ok, pure_eq_ok, Except.ok.injEq] at done
    obtain ⟨-, -, -, -, rfl⟩ := done
    exact .still (.of_eq rfl rfl)
  | setShieldedEscrowVault =>
    simp only [execute, setShieldedEscrowVault, bind_eq_ok, pure_eq_ok, Except.ok.injEq] at done
    obtain ⟨-, -, -, -, rfl⟩ := done
    exact .still (.of_eq rfl rfl)
  | setShieldedIdentityRegistry =>
    simp only [execute, setShieldedIdentityRegistry, bind_eq_ok, pure_eq_ok, Except.ok.injEq] at done
    obtain ⟨-, -, -, -, rfl⟩ := done
    exact .still (.of_eq rfl rfl)
  | setAVS =>
    simp only [execute, setAVS, bind_eq_ok, pure_eq_ok, Except.ok.injEq] at done
    obtain ⟨_, -, _, -, rfl⟩ := done
    exact .still (.of_eq rfl rfl)
  | setShieldedBidVerifier =>
    simp only [execute, setShieldedBidVerifier, bind_eq_ok, pure_eq_ok, Except.ok.injEq] at done
    obtain ⟨_, -, _, -, rfl⟩ := done
    exact .still (.of_eq rfl rfl)
  | setPreviewReader =>
    simp only [execute, setPreviewReader, bind_eq_ok, pure_eq_ok, Except.ok.injEq] at done
    obtain ⟨_, -, _, -, rfl⟩ := done
    exact .still (.of_eq rfl rfl)
  | outside outside =>
    simp only [execute, bind_eq_ok, exists_revertIf, not_not, pure_eq_ok, Except.ok.injEq] at done
    obtain ⟨admitted, rfl⟩ := done
    exact .still (.called rfl fun _ lawful => lawful.admits _ _ admitted)

theorem transact_assets (wired : w.Wired env) {tx : Tx σ} (done : w.transact env (msg, tx) = .ok next) :
    msg.sender ≠ env.market ∧ AssetMove env w next msg tx.creates := by
  obtain ⟨⟨-, stranger, -⟩, executed, executes, rfl⟩ := transact_ok.mp done
  refine ⟨fun own => ?_, ?_⟩
  · rw [own] at stranger
    simp [isSystem] at stranger
  · have move := execute_assets wired executes
    generalize tx.creates = creation at move ⊢
    cases move with
    | still still => exact .still ⟨still.undisturbed, still.released⟩
    | deposited deposits => exact .deposited ⟨deposits.owner, deposits.transfer, deposits.others, deposits.fresh⟩
    | released auctionId recipient releases =>
      exact .released auctionId recipient
        ⟨releases.held, releases.released, releases.transfer, releases.recorded, releases.rightful⟩

theorem Transition.consignment {now : ℕ} {touched : AuctionId} {flow : Flow}
    (transition : Transition env now touched flow w next)
    (found : (w.market.auctions auctionId).auction.exists_ = true) :
    (next.market.auctions auctionId).auction.consignment =
        (w.market.auctions auctionId).auction.consignment ∧
      ((next.market.auctions auctionId).auction.inCustody = true →
        (w.market.auctions auctionId).auction.inCustody = true) := by
  have kept : ∀ v : AuctionView, v = w.view auctionId →
      v.cell.auction.consignment = (w.market.auctions auctionId).auction.consignment ∧
        (v.cell.auction.inCustody = true → (w.market.auctions auctionId).auction.inCustody = true) := by
    rintro v rfl
    exact ⟨rfl, id⟩
  by_cases same : auctionId = touched
  · subst same
    rcases transition.step with ⟨-, unchanged⟩ | step
    · exact kept _ unchanged
    · exact (step.consignment_eq found).2
  · exact kept _ (transition.others auctionId same)

theorem Wired.found_of_inCustody (wired : w.Wired env)
    (held : (w.market.auctions auctionId).auction.inCustody = true) :
    (w.market.auctions auctionId).auction.exists_ = true := by
  by_contra absent
  rw [(wired.blank auctionId (Bool.eq_false_iff.mpr absent)).1] at held
  cases held

/-- The market owns the token of every auction that has not released it, and no two
of them share one. -/
structure Custody (env : External σ) (nft : Address) (w : World σ) : Prop where
  unapproved : Unapproved env nft w.outside
  held : ∀ auctionId, (w.market.auctions auctionId).auction.inCustody = true →
    (w.market.auctions auctionId).auction.nftContract = nft →
      Held env nft w.outside (w.market.auctions auctionId).auction.tokenId
  exclusive : ∀ first second, (w.market.auctions first).auction.inCustody = true →
    (w.market.auctions second).auction.inCustody = true →
    (w.market.auctions first).auction.nftContract = nft →
    (w.market.auctions second).auction.nftContract = nft →
    (w.market.auctions first).auction.tokenId = (w.market.auctions second).auction.tokenId →
      first = second

namespace Custody

variable {nft : Address}

/-- Custody survives when no auction is added and each token still in custody is still held. -/
theorem of_sub (custody : Custody env nft w) (unapproved : Unapproved env nft next.outside)
    (sub : ∀ auctionId, (next.market.auctions auctionId).auction.inCustody = true →
      (w.market.auctions auctionId).auction.inCustody = true ∧
        (next.market.auctions auctionId).auction.consignment =
          (w.market.auctions auctionId).auction.consignment)
    (kept : ∀ auctionId, (next.market.auctions auctionId).auction.inCustody = true →
      (w.market.auctions auctionId).auction.nftContract = nft →
      Held env nft w.outside (w.market.auctions auctionId).auction.tokenId →
        Held env nft next.outside (w.market.auctions auctionId).auction.tokenId) :
    Custody env nft next := by
  have same : ∀ auctionId, (next.market.auctions auctionId).auction.inCustody = true →
      (next.market.auctions auctionId).auction.nftContract =
          (w.market.auctions auctionId).auction.nftContract ∧
        (next.market.auctions auctionId).auction.tokenId =
          (w.market.auctions auctionId).auction.tokenId := by
    intro auctionId inCustody
    have consigned := (sub auctionId inCustody).2
    simp only [Auction.consignment, Prod.mk.injEq] at consigned
    exact ⟨consigned.1, consigned.2.1⟩
  refine ⟨unapproved, ?_, ?_⟩
  · intro auctionId inCustody ours
    obtain ⟨nftContract, tokenId⟩ := same auctionId inCustody
    rw [nftContract] at ours
    rw [tokenId]
    exact kept auctionId inCustody ours (custody.held auctionId (sub auctionId inCustody).1 ours)
  · intro first second firstHeld secondHeld firstOurs secondOurs shared
    obtain ⟨firstContract, firstToken⟩ := same first firstHeld
    obtain ⟨secondContract, secondToken⟩ := same second secondHeld
    rw [firstContract] at firstOurs
    rw [secondContract] at secondOurs
    rw [firstToken, secondToken] at shared
    exact custody.exclusive first second (sub first firstHeld).1 (sub second secondHeld).1 firstOurs
      secondOurs shared

theorem deposits (custody : Custody env nft w) (lawful : LawfulERC721 env nft)
    (stranger : msg.sender ≠ env.market) (deposits : Deposits env w next msg.sender) :
    Custody env nft next := by
  by_cases ours : (next.market.auctions w.nextAuctionId).auction.nftContract = nft
  · have transferred := deposits.transfer
    have owner := deposits.owner
    rw [ours] at transferred owner
    obtain ⟨-, moved⟩ := lawful.moved _ _ _ _ _ transferred
    obtain ⟨unapproved, others, arrived⟩ := moved custody.unapproved
    -- A token the market already holds is not the creator's to deposit.
    have fresh : ∀ auctionId, (w.market.auctions auctionId).auction.inCustody = true →
        (w.market.auctions auctionId).auction.nftContract = nft →
        (w.market.auctions auctionId).auction.tokenId ≠
          (next.market.auctions w.nextAuctionId).auction.tokenId := by
      intro auctionId inCustody sameContract shared
      have held := (custody.held auctionId inCustody sameContract).1
      rw [shared, owner] at held
      exact stranger (Option.some.inj held)
    refine ⟨unapproved, ?_, ?_⟩
    · intro auctionId inCustody sameContract
      by_cases new : auctionId = w.nextAuctionId
      · rw [new]
        exact arrived rfl
      · rw [deposits.others auctionId new] at inCustody sameContract ⊢
        exact others _ (fresh auctionId inCustody sameContract)
          (custody.held auctionId inCustody sameContract)
    · intro first second firstHeld secondHeld firstOurs secondOurs shared
      by_cases firstNew : first = w.nextAuctionId
      · by_cases secondNew : second = w.nextAuctionId
        · rw [firstNew, secondNew]
        · rw [deposits.others second secondNew] at secondHeld secondOurs shared
          rw [firstNew] at shared
          exact absurd shared.symm (fresh second secondHeld secondOurs)
      · rw [deposits.others first firstNew] at firstHeld firstOurs shared
        by_cases secondNew : second = w.nextAuctionId
        · rw [secondNew] at shared
          exact absurd shared (fresh first firstHeld firstOurs)
        · rw [deposits.others second secondNew] at secondHeld secondOurs shared
          exact custody.exclusive first second firstHeld secondHeld firstOurs secondOurs shared
  · obtain ⟨unapproved, kept⟩ := lawful.elsewhere _ _ _ _ _ _ ours deposits.transfer custody.unapproved
    have old : ∀ auctionId, (next.market.auctions auctionId).auction.nftContract = nft →
        next.market.auctions auctionId = w.market.auctions auctionId := by
      intro auctionId sameContract
      refine deposits.others auctionId fun new => ?_
      rw [new] at sameContract
      exact ours sameContract
    refine ⟨unapproved, ?_, ?_⟩
    · intro auctionId inCustody sameContract
      have same := old auctionId sameContract
      rw [same] at inCustody sameContract ⊢
      exact kept _ (custody.held auctionId inCustody sameContract)
    · intro first second firstHeld secondHeld firstOurs secondOurs shared
      have firstOld := old first firstOurs
      have secondOld := old second secondOurs
      rw [firstOld] at firstHeld firstOurs shared
      rw [secondOld] at secondHeld secondOurs shared
      exact custody.exclusive first second firstHeld secondHeld firstOurs secondOurs shared

/-- Every transaction keeps custody of the tokens it does not release. -/
theorem step (custody : Custody env nft w) (lawful : LawfulERC721 env nft) (wired : w.Wired env)
    {tx : Tx σ} (done : w.transact env (msg, tx) = .ok next) : Custody env nft next := by
  obtain ⟨nextWired, -, -, touched, flow, transition⟩ := transact_transition wired done
  obtain ⟨stranger, move⟩ := transact_assets wired done
  have sub : tx.creates = false → ∀ auctionId,
      (next.market.auctions auctionId).auction.inCustody = true →
        (w.market.auctions auctionId).auction.inCustody = true ∧
          (next.market.auctions auctionId).auction.consignment =
            (w.market.auctions auctionId).auction.consignment := by
    intro creates auctionId inCustody
    have found := nextWired.found_of_inCustody inCustody
    rw [transact_sameAuctions wired creates done auctionId] at found
    obtain ⟨consigned, held⟩ := transition.consignment found
    exact ⟨held inCustody, consigned⟩
  generalize creates : tx.creates = creation at move sub
  cases move with
  | still still =>
    obtain ⟨unapproved, kept⟩ := still.undisturbed nft lawful custody.unapproved
    exact custody.of_sub unapproved (sub rfl) fun auctionId _ _ held => kept _ held
  | deposited deposits => exact custody.deposits lawful stranger deposits
  | released auctionId recipient releases =>
    by_cases ours : (w.market.auctions auctionId).auction.nftContract = nft
    · have transferred := releases.transfer
      rw [ours] at transferred
      obtain ⟨-, moved⟩ := lawful.moved _ _ _ _ _ transferred
      obtain ⟨unapproved, others, -⟩ := moved custody.unapproved
      refine custody.of_sub unapproved (sub rfl) fun other inCustody sameContract held => ?_
      refine others _ (fun shared => ?_) held
      obtain rfl := custody.exclusive other auctionId (sub rfl other inCustody).1 releases.held
        sameContract ours shared
      rw [releases.released] at inCustody
      cases inCustody
    · obtain ⟨unapproved, kept⟩ :=
        lawful.elsewhere _ _ _ _ _ _ ours releases.transfer custody.unapproved
      exact custody.of_sub unapproved (sub rfl) fun other _ _ held => kept _ held

end Custody

/-- An auction that leaves custody is the one the transaction releases. -/
theorem AssetMove.release {inputs : List (Msg × Tx σ)} {tx : Tx σ} {deployment : Deployment} {outside : σ}
    (done : (deployment.run env outside inputs).transact env (msg, tx) = .ok next)
    (held : ((deployment.run env outside inputs).market.auctions auctionId).auction.inCustody = true)
    (gone : (next.market.auctions auctionId).auction.inCustody = false) :
    ∃ recipient,
      Releases env (deployment.run env outside inputs) next msg.timestamp auctionId recipient := by
  have wired := deployment.run_wired env outside inputs
  obtain ⟨nextWired, -, -, touched, flow, transition⟩ := transact_transition wired done
  have found := wired.found_of_inCustody held
  have move := (transact_assets wired done).2
  have last : deployment.run env outside (inputs ++ [(msg, tx)]) = next := Deployment.run_accepted done
  generalize creates : tx.creates = creation at move
  cases move with
  | still still =>
    have before := deployment.run_reachable env outside inputs auctionId
    have after := deployment.run_reachable env outside (inputs ++ [(msg, tx)]) auctionId
    rw [last] at after
    have count := still.released auctionId
    rw [countP_view _ auctionId Event.isAssetRelease_about,
      countP_view _ auctionId Event.isAssetRelease_about] at count
    have kept := before.inCustody_eq_of_count after found
      ((transact_sameAuctions wired creates done auctionId).trans found) count
    exact absurd (held.symm.trans (kept.symm.trans gone)) Bool.noConfusion
  | deposited deposits =>
    have old : auctionId ≠ (deployment.run env outside inputs).nextAuctionId := by
      rintro rfl
      exact absurd (found.symm.trans deposits.fresh) Bool.noConfusion
    rw [deposits.others auctionId old, held] at gone
    cases gone
  | released other recipient releases =>
    have touches : ∀ id, ((deployment.run env outside inputs).market.auctions id).auction.inCustody = true →
        (next.market.auctions id).auction.inCustody = false → id = touched := by
      intro id before after
      by_contra away
      have same := congrArg (·.cell.auction.inCustody) (transition.others id away)
      exact absurd (before.symm.trans (same.symm.trans after)) Bool.noConfusion
    have same : other = auctionId :=
      (touches other releases.held releases.released).trans (touches auctionId held gone).symm
    exact ⟨recipient, same ▸ releases⟩

end World

theorem Deployment.run_custody (deployment : Deployment) {env : External σ} {outside : σ} {nft : Address}
    (lawful : LawfulERC721 env nft) (unapproved : Unapproved env nft outside)
    (inputs : List (Msg × Tx σ)) : World.Custody env nft (deployment.run env outside inputs) := by
  have preserved : ∀ (w : World σ) (input : Msg × Tx σ) (next : World σ),
      w.Wired env ∧ World.Custody env nft w → w.transact env input = .ok next →
        next.Wired env ∧ World.Custody env nft next :=
    fun w input next before done => ⟨(World.transact_transition before.1 done).1,
      before.2.step lawful before.1 done⟩
  refine (play_preserves preserved ⟨deployment.genesis_wired env outside, ?_⟩ inputs).2
  exact ⟨unapproved, nofun, nofun⟩

/-- Custody of the auctioned tokens, for a token contract that behaves as the standard
says and in which the market starts out with no operator. In every run the market
owns the token of every auction that is active, resolving or finalized with its asset
unclaimed, and no two of these share a token; every auction's token is released once
when it leaves custody and not before; and the transaction that takes an auction out
of custody transfers its token to a rightful recipient. -/
theorem nft_custody (deployment : Deployment) (env : External σ) (outside : σ) (nft : Address)
    (lawful : LawfulERC721 env nft) (unapproved : Unapproved env nft outside) :
    (∀ inputs auctionId,
      let w := deployment.run env outside inputs
      let auction := (w.market.auctions auctionId).auction
      auction.inCustody = true → auction.nftContract = nft →
        env.ownerOf w.outside nft auction.tokenId = some env.market) ∧
    (∀ inputs first second,
      let w := deployment.run env outside inputs
      let left := (w.market.auctions first).auction
      let right := (w.market.auctions second).auction
      left.inCustody = true → right.inCustody = true → left.nftContract = nft →
        right.nftContract = nft → left.tokenId = right.tokenId → first = second) ∧
    (∀ inputs auctionId,
      let w := deployment.run env outside inputs
      let auction := (w.market.auctions auctionId).auction
      auction.exists_ = true →
        w.log.countP (Event.isAssetRelease auctionId) = if auction.inCustody then 0 else 1) ∧
    ∀ inputs msg tx next auctionId,
      let w := deployment.run env outside inputs
      let auction := (w.market.auctions auctionId).auction
      w.transact env (msg, tx) = .ok next → auction.inCustody = true →
        (next.market.auctions auctionId).auction.inCustody = false →
          ∃ recipient,
            env.safeTransferFrom w.outside auction.nftContract env.market recipient auction.tokenId =
                .ok next.outside ∧
              .assetReleased auctionId recipient ∈ next.log ∧
              World.Rightful env w msg.timestamp auctionId (next.market.auctions auctionId) recipient := by
  have custody := deployment.run_custody lawful unapproved
  refine ⟨?_, ?_, ?_, ?_⟩
  · intro inputs auctionId w auction inCustody ours
    exact ((custody inputs).held auctionId inCustody ours).1
  · intro inputs first second w left right leftHeld rightHeld leftOurs rightOurs shared
    exact (custody inputs).exclusive first second leftHeld rightHeld leftOurs rightOurs shared
  · intro inputs auctionId w auction found
    have reachable := deployment.run_reachable env outside inputs auctionId
    have held : auction.inCustody = !(w.view auctionId).assetGone := by
      rw [← Bool.true_and (!_), ← found]
      exact reachable.sound.inCustody_eq
    rw [World.countP_view w auctionId Event.isAssetRelease_about, held]
    exact reachable.counted.assetRelease.trans (by cases (w.view auctionId).assetGone <;> rfl)
  · intro inputs msg tx next auctionId w auction done held gone
    obtain ⟨recipient, releases⟩ := World.AssetMove.release done held gone
    exact ⟨recipient, releases.transfer, releases.recorded, releases.rightful⟩

/-- A chain with one token contract, at 5, whose owners are the whole state outside.
Everybody else approves the market for all of theirs. Hashes keep numbers apart, and
a signature names its signer. -/
def tokenChain : External (ℕ → Address) where
  chainId := 1
  keccak := fun words => match words with
    | [.value number] | [.text _, .value number] => .ofNat 256 number
    | _ => 0
  recover := fun _ signature => signature.head?.map fun signer => .ofNat 160 signer.toNat
  market := 100
  isContract := fun _ _ => true
  gt := fun _ _ _ _ => some true
  lte := fun _ _ _ _ => some true
  verifyBidCoverage := fun _ _ _ _ _ _ _ _ _ => some true
  verifyAttestation := fun owners _ _ _ _ _ _ _ _ => .ok (true, owners)
  verifyShieldedAttestation := fun owners _ _ _ _ _ _ _ _ => .ok (true, owners)
  ownerOf := fun owners nft tokenId => if nft = 5 then some (owners tokenId) else none
  getApproved := fun owners nft tokenId =>
    if nft = 5 then some (if owners tokenId = 100 then 0 else 100) else none
  isApprovedForAll := fun _ _ _ _ => some false
  safeTransferFrom := fun owners nft sender recipient tokenId =>
    if nft = 5 ∧ owners tokenId = sender then .ok (Function.update owners tokenId recipient)
    else .error .callFailed
  receiveEther := fun owners _ _ => some owners
  admits := fun _ _ => false

theorem tokenChain_lawful : LawfulERC721 tokenChain 5 where
  receiveEther := by
    rintro owners next _ _ ⟨⟩ unapproved
    exact ⟨unapproved, fun _ held => held⟩
  verifyAttestation := by
    rintro owners next _ _ _ _ _ _ _ _ _ ⟨⟩ unapproved
    exact ⟨unapproved, fun _ held => held⟩
  verifyShieldedAttestation := by
    rintro owners next _ _ _ _ _ _ _ _ _ ⟨⟩ unapproved
    exact ⟨unapproved, fun _ held => held⟩
  admits := by
    intro owners next admitted
    cases admitted
  elsewhere := by
    intro owners next other sender recipient tokenId different transferred
    simp only [tokenChain, different, false_and, if_false] at transferred
    cases transferred
  moved := by
    intro owners next sender recipient tokenId transferred
    simp only [tokenChain] at transferred
    split at transferred
    · rename_i owned
      obtain rfl := Except.ok.inj transferred
      refine ⟨congrArg some owned.2, fun _ => ⟨fun _ => nofun, fun other different held => ?_, ?_⟩⟩
      · simpa [Held, tokenChain, different] using held
      · rintro rfl
        simp [Held, tokenChain]
    · cases transferred

def tokenDeployment : Deployment where
  pots := fun address => address = 11
  owner := 1
  cofheAdapter := 2
  slashedPot := 11
  noneAtZero := ⟨rfl, rfl, rfl, rfl⟩

/-- An account that creates an auction of its token and cancels it. -/
def consignAndCancel : List (Msg × Tx (ℕ → Address)) :=
  [({ sender := 9, value := 10, timestamp := 1000 }, .createAuction 5 7 100 0 10 false),
    ({ sender := 9, timestamp := 1001 }, .cancelAuction 1)]

/-- The token of the sample auction is the market's until its seller cancels. -/
theorem consignAndCancel_custody :
    let w := tokenDeployment.run tokenChain (fun _ => 9) (consignAndCancel.take 1)
    tokenChain.ownerOf w.outside 5 7 = some 100 ∧
      ∃ recipient, .assetReleased 1 recipient ∈
        (tokenDeployment.run tokenChain (fun _ => 9) consignAndCancel).log := by
  obtain ⟨owned, -, -, released⟩ := nft_custody tokenDeployment tokenChain (fun _ => 9) 5
    tokenChain_lawful (fun _ => nofun)
  refine ⟨owned (consignAndCancel.take 1) 1 (by decide +kernel) (by decide +kernel), ?_⟩
  obtain ⟨recipient, -, recorded, -⟩ := released (consignAndCancel.take 1) _ _ _ 1
    (show World.transact tokenChain _ ({ sender := 9, timestamp := 1001 }, .cancelAuction 1) = .ok
      (tokenDeployment.run tokenChain (fun _ => 9) consignAndCancel) from rfl) (by decide +kernel)
      (by decide +kernel)
  exact ⟨recipient, recorded⟩

end FairMarket
