import FairMarket.Market.Transition
import FairMarket.Vault.Slots

/-! What a transaction does to the tables behind the auctions: the commitments of
the vaults, the bindings of the registries, and the marks of paid claims. -/

namespace FairMarket

variable {σ : Type}

/-- The event records a deposit or its authority. -/
def Event.registers : Event → Bool
  | .shieldedEscrowLocked .. | .shieldedClaimAuthorityRegistered .. => true
  | _ => false

/-- The bid book of an auction and the verdict on it. -/
structure BidRecord where
  encryptedBids : Address → Bytes32
  knownBidders : Address → Bool
  bidders : List Address
  shieldedEncryptedBids : Bytes32 → Bytes32
  knownShieldedCommitments : Bytes32 → Bool
  shieldedCommitments : List Bytes32
  bidCount : ℕ
  winner : Address
  winningCommitment : Bytes32
  winnerCiphertext : Bytes32
  winningAmount : ℕ

def AuctionStorage.record (cell : AuctionStorage) : BidRecord where
  encryptedBids := cell.encryptedBids
  knownBidders := cell.knownBidders
  bidders := cell.bidders
  shieldedEncryptedBids := cell.shieldedEncryptedBids
  knownShieldedCommitments := cell.knownShieldedCommitments
  shieldedCommitments := cell.shieldedCommitments
  bidCount := cell.auction.bidCount
  winner := cell.auction.winner
  winningCommitment := cell.winningCommitment
  winnerCiphertext := cell.auction.winnerCiphertext
  winningAmount := cell.auction.winningAmount

/-- What a transaction may write into a bid record, and whose commitments it may settle. -/
structure Allowed where
  writes : AuctionId → BidRecord → Prop
  settles : AuctionId → Prop

/-- The vault calls of a part of a transaction that neither locks nor refunds. -/
def Allowed.permits (allowed : Allowed) : VaultCall → Prop
  | .lockEscrow .. | .claimRefundWithAuthorization .. => False
  | .settleWinningCommitment _ auctionId _ _ => allowed.settles auctionId
  | _ => True

theorem Allowed.free {allowed : Allowed} {request : VaultCall} (permitted : allowed.permits request) :
    request.locks = false := by
  cases request with
  | lockEscrow => exact permitted.elim
  | _ => rfl

namespace World

open ShieldedEscrowVault (Driven)

/-- The auction's registry has a commitment for the identity. -/
def Bound (w : World σ) (auctionId : AuctionId) (identityHash : Bytes32) : Prop :=
  ∃ registry, w.registries (w.snapshot auctionId).shieldedIdentityRegistry = some registry ∧
    registry.identityToCommitment auctionId identityHash ≠ 0

/-- The bid passes the auction's starting price. -/
def AtFloor (env : External σ) (w : World σ) (auctionId : AuctionId) (encryptedBid : Bytes32) : Prop :=
  (w.market.auctions auctionId).auction.startingPrice = 0 ∨
    env.gt w.outside (w.snapshot auctionId).cofheAdapter encryptedBid
      ((w.market.auctions auctionId).auction.startingPrice - 1) = some true

/-- The auction's engine accepts the proof of a public resolution. -/
def Attests (env : External σ) (w : World σ) (auctionId : AuctionId) (winner : Address)
    (winnerCiphertext : Bytes32) (winningAmount : ℕ) (avsProof : Proof) : Prop :=
  ∃ engine outside, w.engines (w.auctionSettlementEngine (w.market.auctions auctionId)) = some engine ∧
    engine.verifyResolutionProof (env.verifyAttestation w.outside) env.market auctionId
      (w.market.auctions auctionId).resolutionRequest.requestId winner winnerCiphertext winningAmount
      avsProof = .ok (true, outside)

/-- The writes of a transaction into a bid record, with what it has checked. -/
inductive Writes (env : External σ) (w : World σ) (msg : Msg) : Tx σ → AuctionId → BidRecord → Prop where
  | placeBid {auctionId : AuctionId} {encryptedBid : Bytes32} {bidCount : ℕ}
      (active : (w.market.auctions auctionId).auction.state = .active)
      (early : msg.timestamp < (w.market.auctions auctionId).auction.endTime)
      (floor : w.AtFloor env auctionId encryptedBid)
      (covered : env.lte w.outside (w.snapshot auctionId).cofheAdapter encryptedBid
        ((w.market.auctions auctionId).escrowBalances msg.sender) = some true)
      (counted : nextBidCount (w.market.auctions auctionId).auction.bidCount
        ((w.market.auctions auctionId).encryptedBids msg.sender = 0) = .ok bidCount) :
      Writes env w msg (.placeBid auctionId encryptedBid) auctionId
        { (w.market.auctions auctionId).record with
          encryptedBids :=
            Function.update (w.market.auctions auctionId).encryptedBids msg.sender encryptedBid
          knownBidders := Function.update (w.market.auctions auctionId).knownBidders msg.sender true
          bidders := if (w.market.auctions auctionId).knownBidders msg.sender then
            (w.market.auctions auctionId).bidders
            else (w.market.auctions auctionId).bidders ++ [msg.sender]
          bidCount }
  | placeShieldedBid {auctionId : AuctionId} {commitmentHash encryptedBid : Bytes32}
      {coverageDeadline : ℕ} {coverageProof : List UInt8} {bidCount : ℕ} {vault : ShieldedEscrowVault}
      (active : (w.market.auctions auctionId).auction.state = .active)
      (early : msg.timestamp < (w.market.auctions auctionId).auction.endTime)
      (nonzero : commitmentHash ≠ 0)
      (deployed : w.vaults (w.snapshot auctionId).shieldedEscrowVault = some vault)
      (own : (vault.commitments commitmentHash).auctionId = auctionId)
      (unclaimed : (vault.commitments commitmentHash).claimed = false)
      (floor : w.AtFloor env auctionId encryptedBid)
      (covered : vault.verifyBidCoverageProof (env.verifyBidCoverage w.outside)
        (w.snapshot auctionId).shieldedEscrowVault msg.timestamp commitmentHash encryptedBid
        coverageDeadline coverageProof = .ok ())
      (counted : nextBidCount (w.market.auctions auctionId).auction.bidCount
        ((w.market.auctions auctionId).shieldedEncryptedBids commitmentHash = 0) = .ok bidCount) :
      Writes env w msg
        (.placeShieldedBid auctionId commitmentHash encryptedBid coverageDeadline coverageProof) auctionId
        { (w.market.auctions auctionId).record with
          shieldedEncryptedBids := Function.update
            (w.market.auctions auctionId).shieldedEncryptedBids commitmentHash encryptedBid
          knownShieldedCommitments := Function.update
            (w.market.auctions auctionId).knownShieldedCommitments commitmentHash true
          shieldedCommitments :=
            if (w.market.auctions auctionId).knownShieldedCommitments commitmentHash then
              (w.market.auctions auctionId).shieldedCommitments
            else (w.market.auctions auctionId).shieldedCommitments ++ [commitmentHash]
          bidCount }
  | submitResolution {auctionId : AuctionId} {winner : Address} {winnerCiphertext : Bytes32}
      {winningAmount : ℕ} {avsProof : Proof}
      (resolving : (w.market.auctions auctionId).auction.state = .resolving)
      (valid : w.validatePublicWinner env auctionId (w.market.auctions auctionId) winner
        winnerCiphertext winningAmount = .ok ())
      (attested : w.Attests env auctionId winner winnerCiphertext winningAmount avsProof) :
      Writes env w msg
        (.submitResolution auctionId winner winnerCiphertext winningAmount avsProof) auctionId
        { (w.market.auctions auctionId).record with winner, winnerCiphertext, winningAmount }
  | submitShieldedResolution {auctionId : AuctionId} {winnerIdentityHash winnerCiphertext : Bytes32}
      {winningAmount : ℕ} {avsProof : Proof} {commitmentHash : Bytes32}
      (resolving : (w.market.auctions auctionId).auction.state = .resolving)
      (valid : w.validateShieldedResolutionBid auctionId (w.market.auctions auctionId)
        winnerIdentityHash winnerCiphertext winningAmount
        (w.market.auctions auctionId).auction.startingPrice = .ok commitmentHash) :
      Writes env w msg
        (.submitShieldedResolution auctionId winnerIdentityHash winnerCiphertext winningAmount avsProof)
        auctionId { (w.market.auctions auctionId).record with
          winner := 0
          winningCommitment := winnerIdentityHash
          winnerCiphertext
          winningAmount }

/-- What a transaction is allowed. -/
def allowedBy (env : External σ) (w : World σ) (msg : Msg) (tx : Tx σ) : Allowed where
  writes := Writes env w msg tx
  settles := fun auctionId => ∃ winnerIdentityHash winnerCiphertext winningAmount avsProof,
    tx = .submitShieldedResolution auctionId winnerIdentityHash winnerCiphertext winningAmount avsProof

variable {env : External σ} {allowed : Allowed} {w middle next : World σ} {msg : Msg}
  {auctionId : AuctionId}

/-- A part of a transaction that locks and refunds no commitment, binds no identity, draws
no compensation from a pot, marks no refund, and settles and records only what it may. -/
structure Routine (env : External σ) (allowed : Allowed) (w next : World σ) : Prop where
  vaults : Tables (fun address vault changed => ∃ requests,
    (∀ request ∈ requests, allowed.permits request) ∧
      Driven env.toChain address vault requests changed) w.vaults next.vaults
  bindings : Tables (fun _ registry changed =>
    changed.identityToCommitment = registry.identityToCommitment) w.registries next.registries
  compensations : Tables (fun _ pot changed =>
    changed.hasClaimedCompensation = pot.hasClaimedCompensation ∧
      changed.hasClaimedCompensationByKey = pot.hasClaimedCompensationByKey) w.pots next.pots
  refunds : ∀ auctionId, (next.market.auctions auctionId).shieldedRefundClaimed =
    (w.market.auctions auctionId).shieldedRefundClaimed
  records : ∀ auctionId,
    (next.market.auctions auctionId).record = (w.market.auctions auctionId).record ∨
      allowed.writes auctionId (next.market.auctions auctionId).record
  log : ∃ events, next.log = events ++ w.log ∧ ∀ event ∈ events, event.registers = false

namespace Routine

theorem undriven (address : Address) (vault : ShieldedEscrowVault) :
    ∃ requests : List VaultCall, (∀ request ∈ requests, allowed.permits request) ∧
      Driven env.toChain address vault requests vault :=
  ⟨[], nofun, .here⟩

theorem refl (w : World σ) : Routine env allowed w w where
  vaults := .refl undriven
  bindings := .refl fun _ _ => rfl
  compensations := .refl fun _ _ => ⟨rfl, rfl⟩
  refunds := fun _ => rfl
  records := fun _ => .inl rfl
  log := ⟨[], rfl, nofun⟩

/-- None of the tables is touched. -/
theorem of_eq (vaults : next.vaults = w.vaults) (registries : next.registries = w.registries)
    (pots : next.pots = w.pots) (auctions : next.market.auctions = w.market.auctions)
    (log : next.log = w.log) : Routine env allowed w next where
  vaults := by
    rw [vaults]
    exact (refl w : Routine env allowed w w).vaults
  bindings := by
    rw [registries]
    exact (refl w : Routine env allowed w w).bindings
  compensations := by
    rw [pots]
    exact (refl w : Routine env allowed w w).compensations
  refunds := fun _ => by rw [auctions]
  records := fun _ => .inl (by rw [auctions])
  log := ⟨[], log, nofun⟩

theorem trans (first : Routine env allowed w middle) (second : Routine env allowed middle next) :
    Routine env allowed w next where
  vaults := by
    refine first.vaults.trans ?_ second.vaults
    rintro address x y z ⟨before, free, near⟩ ⟨after, stillFree, far⟩
    refine ⟨before ++ after, fun request member => ?_, near.trans far⟩
    exact (List.mem_append.mp member).elim (free request) (stillFree request)
  bindings := first.bindings.trans (fun _ _ _ _ near far => far.trans near) second.bindings
  compensations := first.compensations.trans
    (fun _ _ _ _ near far => ⟨far.1.trans near.1, far.2.trans near.2⟩) second.compensations
  refunds := fun auctionId => (second.refunds auctionId).trans (first.refunds auctionId)
  records := by
    intro auctionId
    rcases second.records auctionId with same | new
    · rw [same]
      exact first.records auctionId
    · exact .inr new
  log := by
    obtain ⟨before, grown, silent⟩ := first.log
    obtain ⟨after, grownAgain, stillSilent⟩ := second.log
    refine ⟨after ++ before, by rw [grownAgain, grown, List.append_assoc], fun event member => ?_⟩
    exact (List.mem_append.mp member).elim (stillSilent event) (silent event)

theorem history (routine : Routine env allowed w next) {event : Event} (member : event ∈ w.log) :
    event ∈ next.log := by
  obtain ⟨events, grown, -⟩ := routine.log
  rw [grown]
  exact List.mem_append_right events member

/-- Nothing is registered. -/
theorem logged (routine : Routine env allowed w next) {event : Event} (registers : event.registers = true)
    (member : event ∈ next.log) : event ∈ w.log := by
  obtain ⟨events, grown, silent⟩ := routine.log
  rw [grown] at member
  rcases List.mem_append.mp member with new | old
  · rw [silent event new] at registers
    cases registers
  · exact old

theorem setNetwork (network : NetworkObservation) (routine : Routine env allowed w middle) :
    Routine env allowed w (middle.setNetwork network) := { routine with }

theorem setOutside (outside : σ) (routine : Routine env allowed w middle) :
    Routine env allowed w (middle.setOutside outside) := { routine with }

theorem credit (amount : ℕ) (routine : Routine env allowed w middle) : Routine env allowed w (middle.credit amount) :=
  { routine with }

theorem debit (amount : ℕ) (routine : Routine env allowed w middle) : Routine env allowed w (middle.debit amount) :=
  { routine with }

theorem emit {event : Event} (silent : event.registers = false) (routine : Routine env allowed w middle) :
    Routine env allowed w (middle.emit event) :=
  { routine with
    log := by
      obtain ⟨events, grown, quiet⟩ := routine.log
      refine ⟨event :: events, congrArg (List.cons event) grown, fun other member => ?_⟩
      rcases List.mem_cons.mp member with rfl | before
      · exact silent
      · exact quiet other before }

theorem setAuction {cell : AuctionStorage}
    (same : cell.shieldedRefundClaimed = (w.market.auctions auctionId).shieldedRefundClaimed)
    (record : cell.record = (w.market.auctions auctionId).record ∨ allowed.writes auctionId cell.record)
    (routine : Routine env allowed w middle) : Routine env allowed w (middle.setAuction auctionId cell) :=
  { routine with
    refunds := by
      intro other
      simp only [World.setAuction]
      by_cases own : other = auctionId
      · rw [own, Function.update_self]
        exact same
      · rw [Function.update_of_ne own]
        exact routine.refunds other
    records := by
      intro other
      simp only [World.setAuction]
      by_cases own : other = auctionId
      · rw [own, Function.update_self]
        exact record
      · rw [Function.update_of_ne own]
        exact routine.records other }

theorem setVault {address : Address} {vault changed : ShieldedEscrowVault} {request : VaultCall}
    (deployed : middle.vaults address = some vault) (permitted : allowed.permits request)
    (called : vault.call env.toChain address request = .ok changed) (routine : Routine env allowed w middle) :
    Routine env allowed w (middle.setVault address changed) := by
  refine routine.trans { (refl middle : Routine env allowed middle middle) with
    vaults := .update undriven deployed ?_ }
  refine ⟨[request], fun other member => ?_, .once called⟩
  rw [List.mem_singleton.mp member]
  exact permitted

theorem setSettings {address shieldedBidVerifier previewReader : Address} {vault : ShieldedEscrowVault}
    (deployed : middle.vaults address = some vault) (routine : Routine env allowed w middle) :
    Routine env allowed w (middle.setVault address { vault with shieldedBidVerifier, previewReader }) :=
  routine.trans { (refl middle : Routine env allowed middle middle) with
    vaults := .update undriven deployed ⟨[], nofun, .settings shieldedBidVerifier previewReader .here⟩ }

theorem setRegistry {address : Address} {registry changed : ShieldedIdentityRegistry}
    (deployed : middle.registries address = some registry)
    (same : changed.identityToCommitment = registry.identityToCommitment)
    (routine : Routine env allowed w middle) : Routine env allowed w (middle.setRegistry address changed) :=
  routine.trans { (refl middle : Routine env allowed middle middle) with
    bindings := by
      refine .update ?_ deployed same
      exact fun _ _ => rfl }

theorem setPot {address : Address} {pot changed : SlashedPot} (deployed : middle.pots address = some pot)
    (claimed : changed.hasClaimedCompensation = pot.hasClaimedCompensation)
    (byKey : changed.hasClaimedCompensationByKey = pot.hasClaimedCompensationByKey)
    (routine : Routine env allowed w middle) : Routine env allowed w (middle.setPot address changed) :=
  routine.trans { (refl middle : Routine env allowed middle middle) with
    compensations := .update (fun _ _ => ⟨rfl, rfl⟩) deployed ⟨claimed, byKey⟩ }

end Routine

theorem sendValue_routine {recipient : Address} {amount : ℕ}
    (done : w.sendValue env recipient amount = .ok next) : Routine env allowed w next := by
  obtain ⟨-, outside, -, rfl⟩ := sendValue_ok.mp done
  exact .debit _ (.setOutside outside (.refl w))

theorem openShieldedRefundPath_routine (done : w.openShieldedRefundPath env auctionId = .ok next) :
    Routine env allowed w next := by
  unfold openShieldedRefundPath at done
  dsimp only at done
  split at done
  · cases done
    exact .refl w
  · split at done
    · cases done
      exact .refl w
    · rename_i vault deployed
      simp only [bind_eq_ok, pure_eq_ok, Except.ok.injEq] at done
      obtain ⟨unlocked, unlocks, rfl⟩ := done
      have called : vault.call env.toChain (w.auctionShieldedEscrowVault (w.market.auctions auctionId))
          (.unlockRefunds env.market auctionId) = .ok unlocked := unlocks
      exact .setVault deployed (by trivial) called (.setAuction rfl (.inl rfl) (.refl w))

theorem allocateSlash_routine {totalEscrow slashAmount share : ℕ}
    (done : w.allocateSlash env auctionId totalEscrow slashAmount = .ok (share, next)) :
    Routine env allowed w next := by
  unfold allocateSlash at done
  dsimp only at done
  split at done
  · cases done
    exact .refl w
  · rename_i vault deployed
    simp only [bind_eq_ok, exists_revertIf, Prod.exists, pure_eq_ok, Except.ok.injEq,
      Prod.mk.injEq] at done
    obtain ⟨-, _, allocated, allocates, -, rfl⟩ := done
    have called : vault.call env.toChain (w.auctionShieldedEscrowVault (w.market.auctions auctionId))
        (.allocateSlash env.market slashAmount auctionId totalEscrow) = .ok allocated := by
      simp only [ShieldedEscrowVault.call, allocates, ok_bind, pure_eq_ok]
    exact .credit _ (.setVault deployed (by trivial) called (.debit _ (.refl w)))

theorem registerSlash_routine {totalEscrow slashAmount : ℕ}
    (done : w.registerSlash env auctionId totalEscrow slashAmount = .ok next) : Routine env allowed w next := by
  unfold registerSlash at done
  split at done
  · cases done
    exact .refl w
  · simp only [bind_eq_ok, Prod.exists] at done
    obtain ⟨share, allocated, allocates, done⟩ := done
    have first : Routine env allowed w allocated := allocateSlash_routine allocates
    split at done
    · simp only [pure_eq_ok, Except.ok.injEq] at done
      rw [← done]
      exact first
    · simp only [bind_eq_ok, exists_revertIf, requireSome_eq_ok, pure_eq_ok, Except.ok.injEq] at done
      obtain ⟨pot, deployed, -, registered, registers, rfl⟩ := done
      simp only [SlashedPot.registerSlash, bind_eq_ok, checkedAdd_eq_ok, pure_eq_ok,
        Except.ok.injEq] at registers
      obtain ⟨-, -, totalSlash, -, rfl⟩ := registers
      exact .debit _ (.setPot deployed rfl rfl first)

theorem recordResolution_routine {winner : Address} {winningCommitment winnerCiphertext : Bytes32}
    {winningAmount : ℕ} {outside : σ}
    (written : allowed.writes auctionId { (w.market.auctions auctionId).record with
      winner, winningCommitment, winnerCiphertext, winningAmount })
    (done : (w.setOutside outside).recordResolution msg auctionId (w.market.auctions auctionId) winner
      winningCommitment winnerCiphertext winningAmount = .ok next) : Routine env allowed w next := by
  simp only [recordResolution, bind_eq_ok, transitionState_ok, pure_eq_ok, Except.ok.injEq] at done
  obtain ⟨network, -, auction, ⟨-, rfl⟩, rfl⟩ := done
  refine .emit rfl (.emit rfl (.setAuction rfl (.inr ?_) (.setNetwork network (.setOutside outside (.refl w)))))
  exact written

theorem settleWinningCommitment_routine {commitmentHash : Bytes32} {winningAmount : ℕ}
    (settles : allowed.settles auctionId)
    (done : w.settleWinningCommitment env auctionId commitmentHash winningAmount = .ok next) :
    Routine env allowed w next := by
  simp only [settleWinningCommitment, bind_eq_ok, requireSome_eq_ok, pure_eq_ok, Except.ok.injEq,
    Prod.exists] at done
  obtain ⟨vault, deployed, remaining, settled, done, rfl⟩ := done
  have called : vault.call env.toChain (w.auctionShieldedEscrowVault (w.market.auctions auctionId))
      (.settleWinningCommitment env.market auctionId commitmentHash winningAmount) = .ok settled := by
    simp only [ShieldedEscrowVault.call, done, ok_bind, pure_eq_ok]
  exact .credit _ (.setVault deployed (by exact settles) called (.refl w))

theorem markWinningIdentity_routine {winnerIdentityHash : Bytes32}
    (done : w.markWinningIdentity env auctionId winnerIdentityHash = .ok next) : Routine env allowed w next := by
  simp only [markWinningIdentity, bind_eq_ok, requireSome_eq_ok, pure_eq_ok, Except.ok.injEq] at done
  obtain ⟨registry, deployed, marked, marks, rfl⟩ := done
  simp only [ShieldedIdentityRegistry.markWinningIdentity, bind_eq_ok, exists_revertIf, pure_eq_ok,
    Except.ok.injEq] at marks
  obtain ⟨-, -, -, -, -, rfl⟩ := marks
  exact .setRegistry deployed rfl (.refl w)

theorem createAuction_routine {nftContract : Address} {tokenId duration startingPrice sellerDeposit : ℕ}
    {isVickrey : Bool}
    (done : w.createAuction env msg nftContract tokenId duration startingPrice sellerDeposit isVickrey =
      .ok next) : Routine env allowed w next := by
  obtain ⟨-, -, -, -, network, outside, -, rfl⟩ := createAuction_ok done
  have counted : Routine env allowed w { w with market.auctionCounter := w.market.auctionCounter + 1 } :=
    Routine.of_eq rfl rfl rfl rfl rfl
  exact .emit rfl (.emit rfl (.credit _ (.setOutside outside (.setAuction rfl (.inl rfl) (.setNetwork network counted)))))

theorem lockEscrow_routine (done : w.lockEscrow msg auctionId = .ok next) : Routine env allowed w next := by
  simp only [lockEscrow, bind_eq_ok, auctionExists_ok, exists_revertIf, pure_eq_ok,
    Except.ok.injEq] at done
  obtain ⟨cell, ⟨-, rfl⟩, -, -, -, -, escrow, -, total, -, network, -, rfl⟩ := done
  exact .emit rfl (.credit _ (.setAuction rfl (.inl rfl) (.setNetwork network (.refl w))))

theorem requireStartingPrice_ok (wired : w.Wired env)
    (found : (w.market.auctions auctionId).auction.exists_ = true) {sender : Address} {encryptedBid : Bytes32} :
    requireStartingPrice env w sender auctionId (w.market.auctions auctionId) encryptedBid = .ok () ↔
      w.AtFloor env auctionId encryptedBid := by
  unfold requireStartingPrice AtFloor
  rw [wired.auctionAdapter found]
  split
  · rename_i free
    exact iff_of_true rfl (.inl free)
  · rename_i priced
    simp only [priced, false_or, bind_eq_ok, requireSome_eq_ok, revertIf_eq_ok, not_not]
    constructor
    · rintro ⟨above, compared, rfl⟩
      exact compared
    · exact fun compared => ⟨true, compared, rfl⟩

theorem placeBid_routine (wired : w.Wired env) {encryptedBid : Bytes32}
    (done : w.placeBid env msg auctionId encryptedBid = .ok next) :
    Routine env (allowedBy env w msg (.placeBid auctionId encryptedBid)) w next := by
  simp only [placeBid, onlyAuctionState, bind_eq_ok, auctionExists_ok, exists_revertIf, requireSome_eq_ok,
    pure_eq_ok, Except.ok.injEq, not_not, Nat.not_le, ge_iff_le] at done
  obtain ⟨cell, ⟨found, rfl⟩, active, early, -, _, floor, covered, compared, sufficient, bidCount, counted,
    network, -, rfl⟩ := done
  rw [wired.auctionAdapter found] at compared
  subst sufficient
  refine .emit rfl (.setAuction rfl (.inr ?_) (.setNetwork network (.refl w)))
  exact Writes.placeBid active early ((requireStartingPrice_ok wired found).mp floor) compared counted

theorem placeShieldedBid_routine (wired : w.Wired env) {commitmentHash encryptedBid : Bytes32}
    {coverageDeadline : ℕ} {coverageProof : List UInt8}
    (done : w.placeShieldedBid env msg auctionId commitmentHash encryptedBid coverageDeadline
      coverageProof = .ok next) :
    Routine env (allowedBy env w msg (.placeShieldedBid auctionId commitmentHash encryptedBid
      coverageDeadline coverageProof)) w next := by
  simp only [placeShieldedBid, onlyAuctionState, ShieldedEscrowVault.commitmentState, bind_eq_ok,
    auctionExists_ok, exists_revertIf, requireSome_eq_ok, pure_eq_ok, Except.ok.injEq, not_not, Nat.not_le,
    ge_iff_le, ne_eq] at done
  obtain ⟨cell, ⟨found, rfl⟩, active, early, nonzero, vault, deployed, _, guarded, _, -, _, floor, _,
    covered, bidCount, counted, network, -, rfl⟩ := done
  obtain ⟨own, unclaimed⟩ := not_or.mp (revertIf_eq_ok.mp guarded)
  rw [wired.auctionVault found] at deployed covered
  refine .emit rfl (.setAuction rfl (.inr ?_) (.setNetwork network (.refl w)))
  exact Writes.placeShieldedBid active early nonzero deployed (not_not.mp own) (Bool.eq_false_iff.mpr unclaimed)
    ((requireStartingPrice_ok wired found).mp floor) covered counted

theorem triggerFinalize_routine (done : w.triggerFinalize env msg auctionId = .ok next) :
    Routine env allowed w next := by
  simp only [triggerFinalize, bind_eq_ok, auctionExists_ok, exists_revertIf, pure_eq_ok,
    transitionState_ok, Except.ok.injEq] at done
  obtain ⟨cell, ⟨-, rfl⟩, -, -, -, -, network, -, auction, ⟨-, rfl⟩, nonce, -, reward, -, request, -,
    rfl⟩ := done
  exact .emit rfl (.emit rfl (.setAuction rfl (.inl rfl) (.setNetwork network (.refl w))))

theorem submitResolution_routine {winner : Address} {winnerCiphertext : Bytes32} {winningAmount : ℕ}
    {avsProof : Proof} {accepted : Bool}
    (done : w.submitResolution env msg auctionId winner winnerCiphertext winningAmount avsProof =
      .ok (accepted, next)) :
    Routine env (allowedBy env w msg
      (.submitResolution auctionId winner winnerCiphertext winningAmount avsProof)) w next := by
  simp only [submitResolution, onlyAuctionState, bind_eq_ok, auctionExists_ok, exists_revertIf,
    requireSome_eq_ok, Prod.exists, not_not, ne_eq] at done
  obtain ⟨cell, ⟨-, rfl⟩, resolving, -, -, _, valid, engine, deployed, proofAccepted, outside, verified,
    done⟩ := done
  split at done
  · cases done
    exact .emit rfl (.setOutside outside (.refl w))
  · rename_i accepted
    rw [not_not.mp accepted] at verified
    simp only [bind_eq_ok, pure_eq_ok, Except.ok.injEq, Prod.mk.injEq] at done
    obtain ⟨recorded, records, opened, opens, -, rfl⟩ := done
    have first : Routine env (allowedBy env w msg (.submitResolution auctionId winner winnerCiphertext
        winningAmount avsProof)) w recorded :=
      recordResolution_routine (Writes.submitResolution resolving valid ⟨engine, outside, deployed, verified⟩) records
    exact first.trans (openShieldedRefundPath_routine opens)

theorem validateShieldedResolutionBid_bound (wired : w.Wired env)
    (found : (w.market.auctions auctionId).auction.exists_ = true)
    {winnerIdentityHash winnerCiphertext commitmentHash : Bytes32} {winningAmount startingPrice : ℕ}
    (valid : w.validateShieldedResolutionBid auctionId (w.market.auctions auctionId) winnerIdentityHash
      winnerCiphertext winningAmount startingPrice = .ok commitmentHash) :
    w.Bound auctionId winnerIdentityHash := by
  simp only [validateShieldedResolutionBid, resolveShieldedCommitment, bind_eq_ok, exists_revertIf,
    requireSome_eq_ok, pure_eq_ok, Except.ok.injEq] at valid
  obtain ⟨-, -, -, resolved, ⟨-, registry, deployed, bound, -⟩, -⟩ := valid
  rw [wired.auctionRegistry found] at deployed
  exact ⟨registry, deployed, bound⟩

theorem submitShieldedResolution_routine {winnerIdentityHash winnerCiphertext : Bytes32}
    {winningAmount : ℕ} {avsProof : Proof} {accepted : Bool}
    (done : w.submitShieldedResolution env msg auctionId winnerIdentityHash winnerCiphertext
      winningAmount avsProof = .ok (accepted, next)) :
    Routine env (allowedBy env w msg (.submitShieldedResolution auctionId winnerIdentityHash
      winnerCiphertext winningAmount avsProof)) w next := by
  simp only [submitShieldedResolution, onlyAuctionState, bind_eq_ok, auctionExists_ok, exists_revertIf,
    requireSome_eq_ok, Prod.exists, not_not, ne_eq] at done
  obtain ⟨cell, ⟨-, rfl⟩, resolving, -, -, commitmentHash, valid, engine, -, proofAccepted, outside, -,
    done⟩ := done
  split at done
  · cases done
    exact .emit rfl (.setOutside outside (.refl w))
  · simp only [bind_eq_ok, pure_eq_ok, Except.ok.injEq, Prod.mk.injEq] at done
    obtain ⟨recorded, records, settled, settles, opened, opens, marked, marks, -, rfl⟩ := done
    have first : Routine env (allowedBy env w msg (.submitShieldedResolution auctionId
        winnerIdentityHash winnerCiphertext winningAmount avsProof)) w recorded :=
      recordResolution_routine (Writes.submitShieldedResolution resolving valid) records
    have second : Routine env (allowedBy env w msg (.submitShieldedResolution auctionId
        winnerIdentityHash winnerCiphertext winningAmount avsProof)) recorded settled :=
      settleWinningCommitment_routine ⟨_, _, _, _, rfl⟩ settles
    exact ((first.trans second).trans (openShieldedRefundPath_routine opens)).trans
      (markWinningIdentity_routine marks)

theorem cancelAuction_routine (done : w.cancelAuction env msg auctionId = .ok next) :
    Routine env allowed w next := by
  simp only [cancelAuction, releaseFromEscrow, bind_eq_ok, auctionExists_ok, exists_revertIf,
    transitionState_ok, pure_eq_ok, Except.ok.injEq] at done
  obtain ⟨cell, ⟨-, rfl⟩, -, -, -, -, -, slashAmount, -, network, -, auction, ⟨-, rfl⟩, registered, registers,
    opened, opens, outside, -, rfl⟩ := done
  refine .emit rfl (.setOutside outside (.trans ?_ (openShieldedRefundPath_routine opens)))
  refine .trans ?_ (registerSlash_routine registers)
  exact .emit rfl (.setAuction rfl (.inl rfl) (.setNetwork network (.refl w)))

theorem triggerFallbackVoid_routine (done : w.triggerFallbackVoid env msg auctionId = .ok next) :
    Routine env allowed w next := by
  simp only [triggerFallbackVoid, releaseFromEscrow, bind_eq_ok, auctionExists_ok, exists_revertIf,
    transitionState_ok, pure_eq_ok, Except.ok.injEq] at done
  obtain ⟨cell, ⟨-, rfl⟩, -, -, timeoutWindow, -, elapsed, -, total, -, -, network, -, auction, ⟨-, rfl⟩,
    registered, registers, opened, opens, released, ⟨outside, -, rfl⟩, rfl⟩ := done
  refine .emit rfl (.emit rfl (.setOutside outside (.trans ?_ (openShieldedRefundPath_routine opens))))
  refine .trans ?_ (registerSlash_routine registers)
  exact .emit rfl (.setAuction rfl (.inl rfl) (.setNetwork network (.refl w)))

theorem claimSellerProceeds_routine (done : w.claimSellerProceeds env msg auctionId = .ok next) :
    Routine env allowed w next := by
  simp only [claimSellerProceeds, bind_eq_ok, auctionExists_ok, exists_revertIf, pure_eq_ok,
    Except.ok.injEq] at done
  obtain ⟨cell, ⟨-, rfl⟩, -, -, -, payout, -, -, sent, sends, rfl⟩ := done
  have paid : Routine env allowed _ sent := sendValue_routine sends
  refine .emit rfl (.trans ?_ paid)
  exact .setAuction rfl (.inl rfl) (.refl w)

theorem claimFinalizeReward_routine (done : w.claimFinalizeReward env msg auctionId = .ok next) :
    Routine env allowed w next := by
  simp only [claimFinalizeReward, bind_eq_ok, auctionExists_ok, exists_revertIf, pure_eq_ok,
    Except.ok.injEq] at done
  obtain ⟨cell, ⟨-, rfl⟩, -, -, -, sent, pays, rfl⟩ := done
  obtain ⟨-, outside, rfl⟩ := payReward_ok pays
  exact .emit rfl (.debit _ (.setOutside outside (.setAuction rfl (.inl rfl) (.refl w))))

theorem claimAsset_routine (done : w.claimAsset env msg auctionId = .ok next) : Routine env allowed w next := by
  simp only [claimAsset, releaseFromEscrow, bind_eq_ok, auctionExists_ok, exists_revertIf, pure_eq_ok,
    Except.ok.injEq] at done
  obtain ⟨cell, ⟨-, rfl⟩, -, -, -, -, -, outside, -, rfl⟩ := done
  exact .emit rfl (.setOutside outside (.setAuction rfl (.inl rfl) (.refl w)))

theorem claimShieldedAsset_routine {winnerIdentityHash : Bytes32} {recipient : Address} {deadline : ℕ}
    {signature : Signature}
    (done : w.claimShieldedAssetWithAuthorization env msg auctionId winnerIdentityHash recipient
      deadline signature = .ok next) : Routine env allowed w next := by
  simp only [claimShieldedAssetWithAuthorization, releaseFromEscrow, bind_eq_ok, auctionExists_ok,
    exists_revertIf, requireSome_eq_ok, pure_eq_ok, Except.ok.injEq, Prod.exists] at done
  obtain ⟨cell, ⟨-, rfl⟩, -, -, -, -, vault, deployed, -, commitmentHash, -, digest, authorized,
    authorizes, outside, -, rfl⟩ := done
  have called : vault.call env.toChain (w.auctionShieldedEscrowVault (w.market.auctions auctionId))
      (.authorizeAssetClaim msg.timestamp env.market auctionId commitmentHash recipient deadline
        signature) = .ok authorized := by
    simp only [ShieldedEscrowVault.call, authorizes, ok_bind, pure_eq_ok]
  exact .emit rfl (.setOutside outside (.setVault deployed (by trivial) called (.setAuction rfl (.inl rfl) (.refl w))))

/-- What becomes of a vault: it answers calls that neither lock nor refund, takes the
escrow of a `lockShieldedEscrow`, or pays the refund of a settled auction. -/
inductive VaultMove (env : External σ) (w : World σ) (msg : Msg) (tx : Tx σ) (address : Address)
    (vault : ShieldedEscrowVault) : ShieldedEscrowVault → Prop where
  | driven {changed : ShieldedEscrowVault} (requests : List VaultCall)
      (permitted : ∀ request ∈ requests, (allowedBy env w msg tx).permits request)
      (driven : Driven env.toChain address vault requests changed) :
      VaultMove env w msg tx address vault changed
  | locked {changed : ShieldedEscrowVault} {auctionId : AuctionId}
      {identityHash commitmentHash : Bytes32} {claimAuthority : Address}
      (same : tx = .lockShieldedEscrow auctionId identityHash commitmentHash claimAuthority)
      (own : (w.snapshot auctionId).shieldedEscrowVault = address)
      (active : (w.market.auctions auctionId).auction.state = .active)
      (locks : vault.lockEscrow env.market msg.value auctionId commitmentHash claimAuthority =
        .ok changed) :
      VaultMove env w msg tx address vault changed
  | refunded {changed : ShieldedEscrowVault} {commitmentHash : Bytes32} {recipient : Address}
      {deadline : ℕ} {signature : Signature}
      (same : tx = .claimRefundWithAuthorization address commitmentHash recipient deadline signature)
      (settled : (w.market.auctions (vault.commitments commitmentHash).auctionId).auction.state.terminal =
        true)
      (refunds : vault.call env.toChain address (.claimRefundWithAuthorization msg.timestamp
        commitmentHash recipient deadline signature true true) = .ok changed) :
      VaultMove env w msg tx address vault changed

structure Effects (env : External σ) (w next : World σ) (msg : Msg) (tx : Tx σ) : Prop where
  records : ∀ auctionId,
    (next.market.auctions auctionId).record = (w.market.auctions auctionId).record ∨
      Writes env w msg tx auctionId (next.market.auctions auctionId).record
  vaults : Tables (VaultMove env w msg tx) w.vaults next.vaults
  history : ∀ event ∈ w.log, event ∈ next.log
  /-- A newly registered authority is the one in the auction's vault. -/
  registrations : ∀ auctionId commitmentHash claimAuthority,
    .shieldedClaimAuthorityRegistered auctionId commitmentHash claimAuthority ∈ next.log →
      .shieldedClaimAuthorityRegistered auctionId commitmentHash claimAuthority ∈ w.log ∨
        (w.market.auctions auctionId).auction.exists_ = true ∧ ∃ vault,
          next.vaults (w.snapshot auctionId).shieldedEscrowVault = some vault ∧
          (vault.commitments commitmentHash).auctionId = auctionId ∧
          (vault.commitments commitmentHash).claimAuthority = claimAuthority
  /-- A newly recorded deposit is the one in the auction's vault. -/
  deposits : ∀ auctionId commitmentHash amount,
    .shieldedEscrowLocked auctionId commitmentHash amount ∈ next.log →
      .shieldedEscrowLocked auctionId commitmentHash amount ∈ w.log ∨
        (w.market.auctions auctionId).auction.exists_ = true ∧ ∃ vault,
          next.vaults (w.snapshot auctionId).shieldedEscrowVault = some vault ∧
          (vault.commitments commitmentHash).auctionId = auctionId ∧
          (vault.commitments commitmentHash).amount = amount
  /-- A binding is never changed, and a new one comes with a registered authority. -/
  bindings : Tables (fun _ registry changed => ∀ auctionId identityHash,
    changed.identityToCommitment auctionId identityHash =
        registry.identityToCommitment auctionId identityHash ∨
      registry.identityToCommitment auctionId identityHash = 0 ∧ ∃ claimAuthority,
        .shieldedClaimAuthorityRegistered auctionId
          (changed.identityToCommitment auctionId identityHash) claimAuthority ∈ next.log)
    w.registries next.registries
  /-- A newly marked refund is of a commitment the auction's vault has paid. -/
  refunds : ∀ auctionId key, (next.market.auctions auctionId).shieldedRefundClaimed key = true →
    (w.market.auctions auctionId).shieldedRefundClaimed key = true ∨
      (w.market.auctions auctionId).auction.exists_ = true ∧ ∃ vault commitmentHash,
        next.vaults (w.snapshot auctionId).shieldedEscrowVault = some vault ∧
        env.refundKey commitmentHash = key ∧ (vault.commitments commitmentHash).claimed = true
  /-- Compensation is drawn only by an account that has withdrawn. -/
  compensations : Tables (fun _ pot changed => ∀ auctionId,
    (∀ p, changed.hasClaimedCompensation auctionId p = true →
      pot.hasClaimedCompensation auctionId p = true ∨
        (next.market.auctions auctionId).hasWithdrawn p = true) ∧
    ∀ key, changed.hasClaimedCompensationByKey auctionId key = true →
      pot.hasClaimedCompensationByKey auctionId key = true ∨
        ∃ p, env.keccak [.ofAddress p] = key ∧
          (next.market.auctions auctionId).hasWithdrawn p = true) w.pots next.pots

theorem Routine.effects {tx : Tx σ} (routine : Routine env (allowedBy env w msg tx) w next) :
    Effects env w next msg tx where
  records := routine.records
  vaults := by
    refine routine.vaults.mono ?_
    rintro address x y ⟨requests, permitted, driven⟩
    exact .driven requests permitted driven
  history := fun _ member => routine.history member
  registrations := fun _ _ _ member => .inl (routine.logged rfl member)
  deposits := fun _ _ _ member => .inl (routine.logged rfl member)
  bindings := routine.bindings.mono fun _ _ _ same _ _ => .inl (by rw [same])
  refunds := fun auctionId key marked => .inl (by rw [← routine.refunds auctionId]; exact marked)
  compensations := by
    refine routine.compensations.mono fun _ _ _ same _ => ⟨fun p claimed => .inl ?_, fun key claimed => .inl ?_⟩
    · rw [← same.1]
      exact claimed
    · rw [← same.2]
      exact claimed

/-- Binding an identity writes at most that identity, and only where there was nothing. -/
theorem bindIdentity_bindings {registry bound : ShieldedIdentityRegistry} {sender : Address}
    {identityHash commitmentHash : Bytes32}
    (binds : registry.bindIdentity sender auctionId identityHash commitmentHash = .ok bound)
    (other : AuctionId) (identity : Bytes32) :
    bound.identityToCommitment other identity = registry.identityToCommitment other identity ∨
      registry.identityToCommitment other identity = 0 ∧ other = auctionId ∧
        bound.identityToCommitment other identity = commitmentHash := by
  simp only [ShieldedIdentityRegistry.bindIdentity, bind_eq_ok, exists_revertIf, pure_eq_ok,
    Except.ok.injEq] at binds
  obtain ⟨-, -, -, -, -, -, rfl⟩ := binds
  split
  · rename_i vacant
    dsimp only
    by_cases about : other = auctionId
    · subst about
      rw [Function.update_self]
      by_cases own : identity = identityHash
      · subst own
        rw [Function.update_self]
        exact .inr ⟨vacant, rfl, rfl⟩
      · rw [Function.update_of_ne own]
        exact .inl rfl
    · rw [Function.update_of_ne about]
      exact .inl rfl
  · exact .inl rfl

theorem lockShieldedEscrow_effects (wired : w.Wired env) {identityHash commitmentHash : Bytes32}
    {claimAuthority : Address}
    (done : w.lockShieldedEscrow env msg auctionId identityHash commitmentHash claimAuthority =
      .ok next) :
    Effects env w next msg (.lockShieldedEscrow auctionId identityHash commitmentHash claimAuthority) := by
  simp only [lockShieldedEscrow, onlyAuctionState, bind_eq_ok, auctionExists_ok, exists_revertIf,
    requireSome_eq_ok, pure_eq_ok, Except.ok.injEq, ne_eq, not_not] at done
  obtain ⟨cell, ⟨found, rfl⟩, active, -, -, -, -, vault, deployed, registry, registered, network, -, bound,
    binds, locked, locks, rfl⟩ := done
  rw [wired.auctionVault found] at deployed ⊢
  have stamped : Routine env (allowedBy env w msg (.lockShieldedEscrow auctionId identityHash
      commitmentHash claimAuthority)) w ((w.setNetwork network).setAuction auctionId
      { w.market.auctions auctionId with auction.lastBlockTimestamp := toUint64 msg.timestamp }) :=
    .setAuction rfl (.inl rfl) (.setNetwork network (.refl w))
  constructor
  · exact stamped.records
  · exact .update (fun _ _ => .driven [] (List.forall_mem_nil _) .here) deployed (.locked rfl rfl active locks)
  · exact fun event member => List.mem_cons_of_mem _ (List.mem_cons_of_mem _ member)
  · intro other c k member
    rcases List.mem_cons.mp member with impossible | member
    · cases impossible
    rcases List.mem_cons.mp member with same | old
    · cases same
      refine .inr ⟨found, locked, Function.update_self .., ?_⟩
      obtain ⟨-, rfl⟩ := ShieldedEscrowVault.lockEscrow_ok.mp locks
      dsimp only
      rw [Function.update_self]
      exact ⟨rfl, rfl⟩
    · exact .inl old
  · intro other c amount member
    rcases List.mem_cons.mp member with same | member
    · cases same
      refine .inr ⟨found, locked, Function.update_self .., ?_⟩
      obtain ⟨-, rfl⟩ := ShieldedEscrowVault.lockEscrow_ok.mp locks
      dsimp only
      rw [Function.update_self]
      exact ⟨rfl, rfl⟩
    rcases List.mem_cons.mp member with impossible | old
    · cases impossible
    · exact .inl old
  · refine .update (fun _ _ _ _ => .inl rfl) registered fun other identity => ?_
    rcases bindIdentity_bindings binds other identity with kept | ⟨vacant, about, same⟩
    · exact .inl kept
    · right
      rw [same, about]
      exact ⟨about ▸ vacant, claimAuthority, List.mem_cons_of_mem _ List.mem_cons_self⟩
  · exact fun other key marked => .inl ((congrFun (stamped.refunds other) key).symm.trans marked)
  · exact .refl fun _ _ _ => ⟨fun _ => .inl, fun _ => .inl⟩

theorem payEscrowRefund_routine {cell : AuctionStorage} {claimant : Address} {escrowRefund : ℕ}
    (held : w.market.auctions auctionId = cell)
    (done : w.payEscrowRefund env auctionId cell claimant escrowRefund = .ok next) :
    Routine env allowed w next := by
  subst held
  unfold payEscrowRefund at done
  split at done
  · cases done
    exact .refl w
  · have sent : Routine env allowed _ next := sendValue_routine done
    refine .trans ?_ sent
    exact .setAuction rfl (.inl rfl) (.refl w)

/-- The pot marks the claimant, and nothing else changes in the contracts. -/
theorem payCompensation_draws {claimant : Address} {escrowRefund compensation paid : ℕ}
    (done : w.payCompensation env auctionId claimant escrowRefund compensation = .ok (paid, next)) :
    next.market = w.market ∧ next.vaults = w.vaults ∧ next.registries = w.registries ∧ next.log = w.log ∧
      Tables (fun _ pot changed => ∀ other,
        (∀ p, changed.hasClaimedCompensation other p = true →
          pot.hasClaimedCompensation other p = true ∨ other = auctionId ∧ p = claimant) ∧
        ∀ key, changed.hasClaimedCompensationByKey other key = true →
          pot.hasClaimedCompensationByKey other key = true ∨
            other = auctionId ∧ env.keccak [.ofAddress claimant] = key) w.pots next.pots := by
  unfold payCompensation at done
  split at done
  · cases done
    exact ⟨rfl, rfl, rfl, rfl, .refl fun _ _ _ => ⟨fun _ => .inl, fun _ => .inl⟩⟩
  · simp only [bind_eq_ok, requireSome_eq_ok, Prod.exists] at done
    obtain ⟨pot, deployed, amount, claimed, claims, done⟩ := done
    obtain ⟨-, rfl⟩ := SlashedPot.claimFor_ok.mp claims
    have draws : Tables (fun _ pot changed => ∀ other,
        (∀ p, changed.hasClaimedCompensation other p = true →
          pot.hasClaimedCompensation other p = true ∨ other = auctionId ∧ p = claimant) ∧
        ∀ key, changed.hasClaimedCompensationByKey other key = true →
          pot.hasClaimedCompensationByKey other key = true ∨
            other = auctionId ∧ env.keccak [.ofAddress claimant] = key) w.pots
        (w.setPot (w.auctionSlashedPot (w.market.auctions auctionId))
          (pot.afterClaim env.keccak auctionId claimant amount)).pots := by
      refine .update (fun _ _ _ => ⟨fun _ => .inl, fun _ => .inl⟩) deployed fun other => ⟨?_, ?_⟩
      · intro p marked
        simp only [SlashedPot.afterClaim] at marked
        by_cases about : other = auctionId
        · subst about
          rw [Function.update_self] at marked
          by_cases own : p = claimant
          · exact .inr ⟨rfl, own⟩
          · rw [Function.update_of_ne own] at marked
            exact .inl marked
        · rw [Function.update_of_ne about] at marked
          exact .inl marked
      · intro key marked
        simp only [SlashedPot.afterClaim] at marked
        by_cases about : other = auctionId
        · subst about
          rw [Function.update_self] at marked
          by_cases own : key = env.keccak [.ofAddress claimant]
          · exact .inr ⟨rfl, own.symm⟩
          · rw [Function.update_of_ne own] at marked
            exact .inl marked
        · rw [Function.update_of_ne about] at marked
          exact .inl marked
    split at done
    · cases done
      exact ⟨rfl, rfl, rfl, rfl, draws⟩
    · simp only [bind_eq_ok, requireSome_eq_ok, pure_eq_ok, Except.ok.injEq, Prod.mk.injEq] at done
      obtain ⟨outside, -, -, rfl⟩ := done
      exact ⟨rfl, rfl, rfl, rfl, draws⟩

theorem claimRefund_effects (done : w.claimRefund env msg auctionId = .ok next) :
    Effects env w next msg (.claimRefund auctionId) := by
  simp only [claimRefund, bind_eq_ok, auctionExists_ok, exists_revertIf, Prod.exists, pure_eq_ok,
    Except.ok.injEq] at done
  obtain ⟨cell, ⟨found, rfl⟩, -, escrowRefund, compensation, -, -, refunded, refunds, paid, compensated,
    compensates, rfl⟩ := done
  have second : Routine env (allowedBy env w msg (.claimRefund auctionId)) _ refunded :=
    payEscrowRefund_routine (Function.update_self ..) refunds
  have first : Routine env (allowedBy env w msg (.claimRefund auctionId)) w refunded := by
    refine .trans ?_ second
    exact .setAuction rfl (.inl rfl) (.refl w)
  have before := first.effects
  have withdrawn : (refunded.market.auctions auctionId).hasWithdrawn msg.sender = true := by
    have after := (payEscrowRefund_changes (Function.update_self ..) refunds).1.view
    have cell := congrArg (·.cell.hasWithdrawn msg.sender) after
    exact cell.trans (Function.update_self ..)
  obtain ⟨market, vaults, registries, log, draws⟩ := payCompensation_draws compensates
  constructor
  · simp only [emit, market]
    exact before.records
  · simp only [emit, vaults]
    exact before.vaults
  · intro event member
    simp only [emit, log]
    exact List.mem_cons_of_mem _ (before.history event member)
  · intro other c k member
    simp only [emit, log, vaults] at member ⊢
    rcases List.mem_cons.mp member with impossible | member
    · cases impossible
    · exact before.registrations other c k member
  · intro other c amount member
    simp only [emit, log, vaults] at member ⊢
    rcases List.mem_cons.mp member with impossible | member
    · cases impossible
    · exact before.deposits other c amount member
  · simp only [emit, registries]
    exact first.bindings.mono fun _ _ _ same _ _ => .inl (by rw [same])
  · simp only [emit, market, vaults]
    exact before.refunds
  · simp only [emit, market]
    refine first.compensations.trans ?_ draws
    rintro address x y z ⟨claimed, byKey⟩ later other
    constructor
    · intro p marked
      rcases (later other).1 p marked with old | ⟨rfl, rfl⟩
      · exact .inl (by rw [← claimed]; exact old)
      · exact .inr withdrawn
    · intro key marked
      rcases (later other).2 key marked with old | ⟨rfl, same⟩
      · exact .inl (by rw [← byKey]; exact old)
      · exact .inr ⟨msg.sender, same, withdrawn⟩

theorem payRefund_routine {recipient : Address} {amount : ℕ}
    (done : w.payRefund env recipient amount = .ok next) :
    next.vaults = w.vaults ∧ Routine env allowed w next := by
  unfold payRefund at done
  split at done
  · cases done
    exact ⟨rfl, .of_eq rfl rfl rfl rfl rfl⟩
  · split at done
    · cases done
    · simp only [bind_eq_ok, requireSome_eq_ok, pure_eq_ok, Except.ok.injEq] at done
      obtain ⟨outside, -, rfl⟩ := done
      exact ⟨rfl, .setOutside outside (.refl w)⟩

theorem claimRefundWithAuthorization_effects (wired : w.Wired env) {vaultAddress recipient : Address}
    {commitmentHash : Bytes32} {deadline : ℕ} {signature : Signature}
    (done : w.claimRefundWithAuthorization env msg vaultAddress commitmentHash recipient deadline
      signature = .ok next) :
    Effects env w next msg
      (.claimRefundWithAuthorization vaultAddress commitmentHash recipient deadline signature) := by
  simp only [claimRefundWithAuthorization, bind_eq_ok, requireSome_eq_ok, pure_eq_ok,
    Except.ok.injEq] at done
  obtain ⟨vault, deployed, released, releases, paid, pays, rfl⟩ := done
  have called := ShieldedEscrowVault.claimRefundWithAuthorization_call releases
  obtain ⟨digest, consumed, -, authorizes, refunds⟩ :=
    ShieldedEscrowVault.claimRefundWithAuthorization_ok.mp releases
  obtain ⟨⟨-, -, -, -, -, settles⟩, same⟩ := ShieldedEscrowVault.releaseRefund_ok refunds
  obtain ⟨⟨found, source, -, terminal, -⟩, settled⟩ := settleShieldedRefund_ok.mp settles
  have ⟨vaults, routine⟩ : _ ∧ Routine env (allowedBy env w msg (.claimRefundWithAuthorization
      vaultAddress commitmentHash recipient deadline signature)) _ paid := payRefund_routine pays
  have commitments : consumed.commitments = vault.commitments := by
    obtain ⟨-, -, rfl⟩ := ShieldedEscrowVault.consumeClaimAuthorization_ok.mp authorizes
    rfl
  have own := source.trans (wired.auctionVault found)
  have claimed : (released.vault.commitments commitmentHash).claimed = true := by
    rw [same]
    dsimp only
    rw [Function.update_self]
  constructor
  · intro other
    simp only [emit]
    refine (routine.records other).imp_left fun kept => kept.trans ?_
    simp only [setVault, ← settled]
    by_cases about : other = (consumed.commitments commitmentHash).auctionId
    · rw [about, Function.update_self]
      rfl
    · rw [Function.update_of_ne about]
  · simp only [emit, vaults]
    rw [commitments] at terminal
    exact .update (fun _ _ => .driven [] (List.forall_mem_nil _) .here) deployed (.refunded rfl terminal called)
  · exact fun event member => List.mem_cons_of_mem _ (routine.history member)
  · intro other c k member
    rcases List.mem_cons.mp member with impossible | member
    · cases impossible
    · exact .inl (routine.logged rfl member)
  · intro other c amount member
    rcases List.mem_cons.mp member with impossible | member
    · cases impossible
    · exact .inl (routine.logged rfl member)
  · exact routine.bindings.mono fun _ _ _ same _ _ => .inl (by rw [same])
  · intro other key marked
    simp only [emit] at marked ⊢
    rw [routine.refunds other] at marked
    simp only [setVault, ← settled] at marked
    by_cases about : other = (consumed.commitments commitmentHash).auctionId
    · subst about
      rw [Function.update_self] at marked
      dsimp only at marked
      by_cases fresh : key = ShieldedEscrowVault.compensationKey env.toChain commitmentHash
      · refine .inr ⟨found, released.vault, commitmentHash, ?_, fresh.symm, claimed⟩
        rw [vaults, ← own]
        exact Function.update_self ..
      · rw [Function.update_of_ne fresh] at marked
        exact .inl marked
    · rw [Function.update_of_ne about] at marked
      exact .inl marked
  · refine routine.compensations.mono fun _ _ _ same _ => ⟨fun p marked => .inl ?_, fun key marked => .inl ?_⟩
    · rw [← same.1]
      exact marked
    · rw [← same.2]
      exact marked

theorem execute_effects (wired : w.Wired env) {tx : Tx σ} (done : w.execute env msg tx = .ok next) :
    Effects env w next msg tx := by
  cases tx with
  | createAuction => exact (createAuction_routine done).effects
  | lockEscrow => exact (lockEscrow_routine done).effects
  | lockShieldedEscrow => exact lockShieldedEscrow_effects wired done
  | placeBid => exact (placeBid_routine wired done).effects
  | placeShieldedBid => exact (placeShieldedBid_routine wired done).effects
  | triggerFinalize => exact (triggerFinalize_routine done).effects
  | submitResolution =>
    obtain ⟨accepted, submitted⟩ := afterResolution_ok.mp done
    exact (submitResolution_routine submitted).effects
  | submitShieldedResolution =>
    obtain ⟨accepted, submitted⟩ := afterResolution_ok.mp done
    exact (submitShieldedResolution_routine submitted).effects
  | cancelAuction => exact (cancelAuction_routine done).effects
  | triggerFallbackVoid => exact (triggerFallbackVoid_routine done).effects
  | claimRefund => exact claimRefund_effects done
  | claimSellerProceeds => exact (claimSellerProceeds_routine done).effects
  | claimFinalizeReward => exact (claimFinalizeReward_routine done).effects
  | claimAsset => exact (claimAsset_routine done).effects
  | claimShieldedAssetWithAuthorization => exact (claimShieldedAsset_routine done).effects
  | claimRefundWithAuthorization => exact claimRefundWithAuthorization_effects wired done
  | receive =>
    obtain rfl := Except.ok.inj done
    apply Routine.effects
    exact .of_eq rfl rfl rfl rfl rfl
  | setCofheAdapter =>
    simp only [execute, setCofheAdapter, bind_eq_ok, pure_eq_ok, Except.ok.injEq] at done
    obtain ⟨-, -, -, -, rfl⟩ := done
    apply Routine.effects
    exact .of_eq rfl rfl rfl rfl rfl
  | setSettlementEngine =>
    simp only [execute, setSettlementEngine, bind_eq_ok, pure_eq_ok, Except.ok.injEq] at done
    obtain ⟨-, -, -, -, rfl⟩ := done
    apply Routine.effects
    exact .of_eq rfl rfl rfl rfl rfl
  | setSlashedPot =>
    simp only [execute, setSlashedPot, bind_eq_ok, pure_eq_ok, Except.ok.injEq] at done
    obtain ⟨-, -, -, -, rfl⟩ := done
    apply Routine.effects
    exact .of_eq rfl rfl rfl rfl rfl
  | setShieldedEscrowVault =>
    simp only [execute, setShieldedEscrowVault, bind_eq_ok, pure_eq_ok, Except.ok.injEq] at done
    obtain ⟨-, -, -, -, rfl⟩ := done
    apply Routine.effects
    exact .of_eq rfl rfl rfl rfl rfl
  | setShieldedIdentityRegistry =>
    simp only [execute, setShieldedIdentityRegistry, bind_eq_ok, pure_eq_ok, Except.ok.injEq] at done
    obtain ⟨-, -, -, -, rfl⟩ := done
    apply Routine.effects
    exact .of_eq rfl rfl rfl rfl rfl
  | setAVS =>
    simp only [execute, setAVS, bind_eq_ok, pure_eq_ok, Except.ok.injEq] at done
    obtain ⟨_, -, _, -, rfl⟩ := done
    apply Routine.effects
    exact .of_eq rfl rfl rfl rfl rfl
  | setShieldedBidVerifier =>
    simp only [execute, setShieldedBidVerifier, ShieldedEscrowVault.setShieldedBidVerifier, bind_eq_ok,
      requireSome_eq_ok, exists_revertIf, pure_eq_ok, Except.ok.injEq] at done
    obtain ⟨vault, deployed, changed, ⟨-, rfl⟩, rfl⟩ := done
    exact Routine.effects (.setSettings deployed (.refl w))
  | setPreviewReader =>
    simp only [execute, setPreviewReader, ShieldedEscrowVault.setPreviewReader, bind_eq_ok,
      requireSome_eq_ok, exists_revertIf, pure_eq_ok, Except.ok.injEq] at done
    obtain ⟨vault, deployed, changed, ⟨-, -, rfl⟩, rfl⟩ := done
    exact Routine.effects (.setSettings deployed (.refl w))
  | outside outside =>
    simp only [execute, bind_eq_ok, exists_revertIf, pure_eq_ok, Except.ok.injEq] at done
    obtain ⟨-, rfl⟩ := done
    exact Routine.effects (.setOutside outside (.refl w))

theorem transact_effects (wired : w.Wired env) {tx : Tx σ} (done : w.transact env (msg, tx) = .ok next) :
    Effects env w next msg tx := by
  obtain ⟨-, executed, executes, rfl⟩ := transact_ok.mp done
  have effects := execute_effects wired executes
  exact ⟨effects.records, effects.vaults, effects.history, effects.registrations, effects.deposits,
    effects.bindings, effects.refunds, effects.compensations⟩

/-- A shielded lock is recorded with its authority and its amount. -/
theorem lockShieldedEscrow_logs {identityHash commitmentHash : Bytes32} {claimAuthority : Address}
    (done : w.transact env
      (msg, .lockShieldedEscrow auctionId identityHash commitmentHash claimAuthority) = .ok next) :
    .shieldedEscrowLocked auctionId commitmentHash msg.value ∈ next.log ∧
      .shieldedClaimAuthorityRegistered auctionId commitmentHash claimAuthority ∈ next.log := by
  obtain ⟨-, executed, executes, rfl⟩ := transact_ok.mp done
  simp only [execute, lockShieldedEscrow, bind_eq_ok, exists_revertIf, pure_eq_ok,
    Except.ok.injEq] at executes
  obtain ⟨cell, -, -, -, -, -, -, -, vault, -, registry, -, network, -, bound, -, locked, -, rfl⟩ := executes
  exact ⟨List.mem_cons_self, List.mem_cons_of_mem _ List.mem_cons_self⟩

/-- Only an auction that was created has its record written. -/
theorem Writes.found {tx : Tx σ} {record : BidRecord} (writes : Writes env w msg tx auctionId record)
    (wired : w.Wired env) : (w.market.auctions auctionId).auction.exists_ = true := by
  cases writes with
  | placeBid active => exact wired.found_of_state active nofun
  | placeShieldedBid active => exact wired.found_of_state active nofun
  | submitResolution resolving => exact wired.found_of_state resolving nofun
  | submitShieldedResolution resolving => exact wired.found_of_state resolving nofun

/-- A winning identity is new only if it was bound. -/
theorem Effects.winners {tx : Tx σ} (effects : Effects env w next msg tx) (wired : w.Wired env)
    (auctionId : AuctionId) : (next.market.auctions auctionId).winningCommitment =
        (w.market.auctions auctionId).winningCommitment ∨
      w.Bound auctionId (next.market.auctions auctionId).winningCommitment := by
  rcases effects.records auctionId with same | writes
  · exact .inl (congrArg BidRecord.winningCommitment same)
  · generalize written : (next.market.auctions auctionId).record = record at writes
    have winner : (next.market.auctions auctionId).winningCommitment = record.winningCommitment :=
      congrArg BidRecord.winningCommitment written
    rw [winner]
    cases writes with
    | placeBid => exact .inl rfl
    | placeShieldedBid => exact .inl rfl
    | submitResolution => exact .inl rfl
    | submitShieldedResolution resolving valid =>
      exact .inr (validateShieldedResolutionBid_bound wired (wired.found_of_state resolving nofun) valid)

end World

end FairMarket
