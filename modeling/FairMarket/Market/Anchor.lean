import FairMarket.Market.BidBook
import FairMarket.Market.Lifecycle

/-! Which bid a settlement is recorded for. The shielded path compares the submitted
handle with the stored one; the public path does not. -/

namespace FairMarket

variable {σ : Type}

/-- The recorded handle is the one stored for the winner, in whichever lane. -/
structure BidRecord.Anchored (record : BidRecord) (binds : Bytes32 → Bytes32 → Prop) : Prop where
  publicWinner : record.winner ≠ 0 →
    record.winnerCiphertext = record.encryptedBids record.winner ∧ record.winnerCiphertext ≠ 0
  shieldedWinner : record.winningCommitment ≠ 0 → ∃ commitmentHash,
    binds record.winningCommitment commitmentHash ∧
      record.winnerCiphertext = record.shieldedEncryptedBids commitmentHash ∧ record.winnerCiphertext ≠ 0

namespace World

/-- A public resolution of the auction that passes the guards and whose proof is accepted
carries the handle stored for its winner. -/
def SubmitsStored (env : External σ) (auctionId : AuctionId) (w : World σ) (input : Msg × Tx σ) : Prop :=
  match input.2 with
  | .submitResolution submitted winner winnerCiphertext winningAmount avsProof =>
    submitted = auctionId → winner ≠ 0 →
      w.validatePublicWinner env auctionId (w.market.auctions auctionId) winner winnerCiphertext
        winningAmount = .ok () →
      w.Attests env auctionId winner winnerCiphertext winningAmount avsProof →
        winnerCiphertext = (w.market.auctions auctionId).encryptedBids winner
  | _ => True

/-- The auction's registry has the identity bound to the commitment. -/
def Binds (w : World σ) (auctionId : AuctionId) (identityHash commitmentHash : Bytes32) : Prop :=
  ∃ registry, w.registries (w.snapshot auctionId).shieldedIdentityRegistry = some registry ∧
    registry.commitmentForIdentity auctionId identityHash = commitmentHash ∧ commitmentHash ≠ 0

variable {env : External σ} {w next : World σ} {msg : Msg} {auctionId : AuctionId}

theorem validatePublicWinner_stored {winner : Address} {winnerCiphertext : Bytes32} {winningAmount : ℕ}
    (valid : w.validatePublicWinner env auctionId (w.market.auctions auctionId) winner winnerCiphertext
      winningAmount = .ok ()) (nonzero : winner ≠ 0) :
    (w.market.auctions auctionId).encryptedBids winner ≠ 0 := by
  simp only [validatePublicWinner, nonzero, if_false, bind_eq_ok, exists_revertIf] at valid
  exact valid.2.2.1

/-- The shielded path compares the handles. -/
theorem validateShieldedResolutionBid_stored (wired : w.Wired env)
    (found : (w.market.auctions auctionId).auction.exists_ = true)
    {winnerIdentityHash winnerCiphertext commitmentHash : Bytes32} {winningAmount startingPrice : ℕ}
    (valid : w.validateShieldedResolutionBid auctionId (w.market.auctions auctionId) winnerIdentityHash
      winnerCiphertext winningAmount startingPrice = .ok commitmentHash) :
    w.Binds auctionId winnerIdentityHash commitmentHash ∧
      (w.market.auctions auctionId).shieldedEncryptedBids commitmentHash = winnerCiphertext ∧
      winnerCiphertext ≠ 0 := by
  simp only [validateShieldedResolutionBid, resolveShieldedCommitment, bind_eq_ok, exists_revertIf,
    requireSome_eq_ok, pure_eq_ok, Except.ok.injEq, not_not, ne_eq] at valid
  obtain ⟨-, -, -, _, ⟨-, registry, deployed, bound, rfl⟩, nonzero, same, vault, -, -, rfl⟩ := valid
  rw [wired.auctionRegistry found] at deployed
  exact ⟨⟨registry, deployed, rfl, bound⟩, same, by rw [← same]; exact nonzero⟩

/-- A binding is never taken back. -/
theorem Binds.step {identityHash commitmentHash : Bytes32} (binds : w.Binds auctionId identityHash commitmentHash)
    (wired : w.Wired env) {tx : Tx σ} (done : w.transact env (msg, tx) = .ok next) :
    next.Binds auctionId identityHash commitmentHash := by
  obtain ⟨registry, deployed, rfl, bound⟩ := binds
  have found : (w.market.auctions auctionId).auction.exists_ = true := by
    by_contra absent
    rw [snapshot, (wired.blank auctionId (Bool.eq_false_iff.mpr absent)).1, wired.zero.2.1] at deployed
    cases deployed
  obtain ⟨-, -, -, touched, flow, transition⟩ := transact_transition wired done
  have same : next.snapshot auctionId = w.snapshot auctionId := (transition.kept auctionId).snapshot found
  obtain ⟨changed, present, bindings⟩ := (transact_effects wired done).bindings.exists_after deployed
  refine ⟨changed, by rw [same]; exact present, ?_, bound⟩
  exact (bindings auctionId identityHash).elim id fun fresh => absurd fresh.1 bound

theorem Writes.anchored {tx : Tx σ} {record : BidRecord} (writes : Writes env w msg tx auctionId record)
    (wired : w.Wired env) (sound : Sound (w.view auctionId)) (stored : w.SubmitsStored env auctionId (msg, tx)) :
    record.Anchored (w.Binds auctionId) := by
  have found := writes.found wired
  cases writes with
  | placeBid active =>
    obtain ⟨winner, -, winningCommitment⟩ := (sound.bidding_of_active found active).undecided
    exact ⟨fun won => absurd winner won, fun won => absurd winningCommitment won⟩
  | placeShieldedBid active =>
    obtain ⟨winner, -, winningCommitment⟩ := (sound.bidding_of_active found active).undecided
    exact ⟨fun won => absurd winner won, fun won => absurd winningCommitment won⟩
  | submitResolution resolving valid attested =>
    obtain ⟨-, -, winningCommitment⟩ := (sound.bidding_of_resolving found resolving).undecided
    refine ⟨fun won => ?_, fun won => absurd winningCommitment won⟩
    have same := stored rfl won valid attested
    dsimp only
    refine ⟨same, ?_⟩
    rw [same]
    exact validatePublicWinner_stored valid won
  | submitShieldedResolution resolving valid =>
    obtain ⟨binds, same, nonzero⟩ := validateShieldedResolutionBid_stored wired found valid
    exact ⟨fun won => absurd rfl won, fun _ => ⟨_, binds, same.symm, nonzero⟩⟩

end World

/-- Runs keep settlements anchored. -/
theorem Deployment.run_anchored (deployment : Deployment) (env : External σ) (outside : σ)
    {inputs : List (Msg × Tx σ)} {auctionId : AuctionId}
    (stored : Along (World.transact env) (World.SubmitsStored env auctionId)
      (deployment.genesis env outside) inputs) :
    ((deployment.run env outside inputs).market.auctions auctionId).record.Anchored
      ((deployment.run env outside inputs).Binds auctionId) := by
  let anchored : World σ → Prop := fun w =>
    (w.market.auctions auctionId).record.Anchored (w.Binds auctionId)
  refine play_preserves_reached (show anchored (deployment.genesis env outside) from ?_) ?_ stored
  · exact ⟨fun won => absurd rfl won, fun won => absurd rfl won⟩
  · intro before input next _ reached submits done
    have wired := deployment.run_wired env outside before
    have kept : ((deployment.run env outside before).market.auctions auctionId).record.Anchored
        (next.Binds auctionId) := by
      refine ⟨reached.publicWinner, fun won => ?_⟩
      obtain ⟨commitmentHash, binds, same⟩ := reached.shieldedWinner won
      exact ⟨commitmentHash, World.Binds.step binds wired done, same⟩
    rcases (World.transact_effects wired done).records auctionId with unwritten | writes
    · unfold anchored
      rw [unwritten]
      exact kept
    · have sound := (deployment.run_reachable env outside before auctionId).sound
      obtain ⟨publicWinner, shieldedWinner⟩ := writes.anchored wired sound submits
      refine ⟨publicWinner, fun won => ?_⟩
      obtain ⟨commitmentHash, binds, same⟩ := shieldedWinner won
      exact ⟨commitmentHash, World.Binds.step binds wired done, same⟩

/-- In a run in which every public resolution that gets accepted carries the handle
stored for its winner, settlements are anchored in both lanes: an auction that is
finalized with a winner records the nonzero handle that was stored for this winner when
bidding ended, under the address of a public winner or under the commitment bound to a
shielded one. -/
theorem settlement_anchored (deployment : Deployment) (env : External σ) (outside : σ)
    (before after : List (Msg × Tx σ)) (auctionId : AuctionId)
    (stored : Along (World.transact env) (World.SubmitsStored env auctionId)
      (deployment.genesis env outside) (before ++ after)) :
    let atEnd := (deployment.run env outside before).market.auctions auctionId
    let w := deployment.run env outside (before ++ after)
    let auction := (w.market.auctions auctionId).auction
    atEnd.auction.exists_ = true →
    (∀ input ∈ after, atEnd.auction.endTime ≤
      max (deployment.run env outside before).timestamp input.1.timestamp) →
    auction.state = .finalized →
      (auction.winner ≠ 0 → auction.winnerCiphertext = atEnd.encryptedBids auction.winner ∧
        auction.winnerCiphertext ≠ 0) ∧
      ((w.market.auctions auctionId).winningCommitment ≠ 0 → ∃ registry,
        w.registries (w.snapshot auctionId).shieldedIdentityRegistry = some registry ∧
        auction.winnerCiphertext = atEnd.shieldedEncryptedBids
          (registry.commitmentForIdentity auctionId (w.market.auctions auctionId).winningCommitment) ∧
        auction.winnerCiphertext ≠ 0) := by
  intro atEnd w auction found late finalized
  have history := (deployment.run_wired env outside before).play_run_from after late auctionId
  have frozen := history.frozen found (Nat.le_max_left ..)
  rw [← deployment.run_append_eq] at frozen
  have publicBids := congrArg BidBook.encryptedBids frozen.bidBook
  have shieldedBids := congrArg BidBook.shieldedEncryptedBids frozen.bidBook
  obtain ⟨publicWinner, shieldedWinner⟩ := deployment.run_anchored env outside stored
  refine ⟨fun won => ?_, fun won => ?_⟩
  · obtain ⟨same, nonzero⟩ := publicWinner won
    exact ⟨same.trans (congrFun publicBids auction.winner), nonzero⟩
  · obtain ⟨commitmentHash, ⟨registry, deployed, bound, -⟩, same, nonzero⟩ := shieldedWinner won
    have stored := same.trans (congrFun shieldedBids commitmentHash)
    rw [← bound] at stored
    exact ⟨registry, deployed, stored, nonzero⟩

/-- Two public bidders with escrows of 100, and a resolution that names one of them. -/
def resolveWith (winnerCiphertext : Bytes32) : List (Msg × Tx (ℕ → Address)) :=
  [({ sender := 1, timestamp := 1000 }, .setSettlementEngine 14),
    ({ sender := 1, timestamp := 1000 }, .setAVS 14 15),
    ({ sender := 9, value := 10, timestamp := 1000 }, .createAuction 5 7 100 0 10 false),
    ({ sender := 7, value := 100, timestamp := 1001 }, .lockEscrow 1),
    ({ sender := 8, value := 100, timestamp := 1001 }, .lockEscrow 1),
    ({ sender := 7, timestamp := 1002 }, .placeBid 1 (CofheCiphertextEncoding.encodeEuint96 50)),
    ({ sender := 8, timestamp := 1002 }, .placeBid 1 (CofheCiphertextEncoding.encodeEuint96 60)),
    ({ sender := 8, timestamp := 1100 }, .triggerFinalize 1),
    ({ sender := 8, timestamp := 1101 }, .submitResolution 1 8 winnerCiphertext 60 none)]

set_option maxRecDepth 4000 in
/-- The handle of the other bidder is recorded for the winner. -/
theorem resolveWith_other_recorded :
    let w := shieldedDeployment.run zkChain (fun _ => 9)
      (resolveWith (CofheCiphertextEncoding.encodeEuint96 50))
    (w.market.auctions 1).auction.state = .finalized ∧ (w.market.auctions 1).auction.winner = 8 ∧
      (w.market.auctions 1).encryptedBids 8 = CofheCiphertextEncoding.encodeEuint96 60 ∧
      (w.market.auctions 1).auction.winnerCiphertext ≠ (w.market.auctions 1).encryptedBids 8 := by
  refine ⟨by decide +kernel, by decide +kernel, by decide +kernel, by decide +kernel⟩

set_option maxRecDepth 4000 in
/-- The winner's own handle is recorded as it was stored at the end. -/
theorem resolveWith_own_anchored :
    let own := CofheCiphertextEncoding.encodeEuint96 60
    let w := shieldedDeployment.run zkChain (fun _ => 9) ((resolveWith own).take 7 ++ (resolveWith own).drop 7)
    (w.market.auctions 1).auction.winnerCiphertext =
      ((shieldedDeployment.run zkChain (fun _ => 9) ((resolveWith own).take 7)).market.auctions
        1).encryptedBids 8 := by
  obtain ⟨publicWinner, -⟩ := settlement_anchored shieldedDeployment zkChain (fun _ => 9)
    ((resolveWith (CofheCiphertextEncoding.encodeEuint96 60)).take 7)
    ((resolveWith (CofheCiphertextEncoding.encodeEuint96 60)).drop 7) 1
    (by
      refine ⟨trivial, trivial, trivial, trivial, trivial, trivial, trivial, trivial, ?_, trivial⟩
      exact fun _ _ _ _ => by decide +kernel)
    (by decide +kernel) (by decide +kernel) (by decide +kernel)
  have won : ((shieldedDeployment.run zkChain (fun _ => 9)
      ((resolveWith (CofheCiphertextEncoding.encodeEuint96 60)).take 7 ++
        (resolveWith (CofheCiphertextEncoding.encodeEuint96 60)).drop 7)).market.auctions
          1).auction.winner = 8 := by decide +kernel
  have same := (publicWinner (by rw [won]; decide)).1
  rw [won] at same
  exact same

end FairMarket
