import FairMarket.Keeper.ResolutionQueue

/-! When the book the keeper collects is whole, and that nothing else is put into a job. -/

namespace FairMarket

open Keeper

variable {σ : Type}

namespace Keeper

variable {env : External σ} {w : World σ} {account : Address} {auctionId : AuctionId}

/-- A turn enqueues the request and the book that were read, so none where an exception is thrown. -/
theorem turn_enqueues {store : AuctionStateStore} {auction : StoredAuctionRecord}
    {inspected : Except Revert PendingResolutionJob} {book : Except Revert (List StoredDispatchBid × ℤ)}
    {nowMs : Number} {job : StoredDispatchJob}
    (enqueues : turn store auction inspected book nowMs = .enqueues job) :
    (∃ request, inspected = .ok request ∧ job.requestId = request.requestId) ∧
      book = .ok (job.bids, job.startingPrice) ∧ job.auctionId = auction.auctionId := by
  unfold turn at enqueues
  repeat' split at enqueues
  all_goals cases enqueues
  exact ⟨⟨_, rfl, rfl⟩, rfl, rfl⟩

/-- A job has the list that was collected. -/
theorem turn_enqueues_collected {store : AuctionStateStore} {auction : StoredAuctionRecord}
    {inspected : Except Revert PendingResolutionJob} {nowMs : Number} {job : StoredDispatchJob}
    (about : auction.auctionId = (auctionId.toNat : ℤ))
    (enqueues : turn store auction inspected (w.readBidBook env account auction.auctionId) nowMs = .enqueues job) :
    w.collectEncryptedBidsFromChain env account auctionId = .ok (toDispatchJob job).bids := by
  have book := (turn_enqueues enqueues).2.1
  simp only [World.readBidBook, about, toUint256_toNat, ok_bind, bind_eq_ok, pure_eq_ok, Except.ok.injEq,
    Prod.mk.injEq] at book
  obtain ⟨bids, collected, _, -, carried, -⟩ := book
  rw [collected, toDispatchJob, ← carried, List.map_map]
  exact congrArg Except.ok (List.map_id bids).symm

end Keeper

/-- When the bid book of the keeper is complete, for every auction that awaits its resolution, whatever
contracts the owner has set since and whatever account asks. The keeper gets a list exactly if the
contracts that are set answer, and what it gets is the whole book in every such case exactly if,
whenever they do, the vault shows the deposits of the auction's own vault. No job has anything
else in it. Of contracts of this repository there is always a list; it is whole, with names of
their own for the commitments, exactly if there are none or the vault is still the auction's own
and lets the account preview, and it has the names that the auction's registry knows exactly if,
further, this registry is still set or the commitments are equal bids under one another's names. -/
theorem bid_book_collected (deployment : Deployment) (env : External σ) (outside : σ)
    (inputs : List (Msg × Tx σ)) (account : Address) (auctionId : AuctionId)
    (resolving : ((deployment.run env outside inputs).market.auctions auctionId).auction.state = .resolving) :
    let w := deployment.run env outside inputs
    let shieldedCommitments := (w.market.auctions auctionId).shieldedCommitments
    let collected := w.collectEncryptedBidsFromChain env account auctionId
    ((∀ bids, collected = .ok bids → w.Whole auctionId bids) ↔
        (w.Answers env account auctionId → w.ShowsDeposits env account auctionId)) ∧
      ((∃ bids, collected = .ok bids) ↔ w.Answers env account auctionId) ∧
      (∀ (store : AuctionStateStore) (auction : StoredAuctionRecord) (inspected : Except Revert PendingResolutionJob)
        (nowMs : Number) (job : StoredDispatchJob), auction.auctionId = (auctionId.toNat : ℤ) →
        turn store auction inspected (w.readBidBook env account auction.auctionId) nowMs = .enqueues job →
          collected = .ok (toDispatchJob job).bids) ∧
      (w.AsksOwn →
        w.Answers env account auctionId ∧
        (w.ShowsDeposits env account auctionId ↔ shieldedCommitments = [] ∨ w.ReadsDeposits account auctionId) ∧
        ((∀ bids, collected = .ok bids → ∃ name, w.Complete auctionId name bids) ↔
          shieldedCommitments = [] ∨ w.ReadsDeposits account auctionId) ∧
        ((∀ bids, collected = .ok bids → w.Complete auctionId (w.pinnedIdentity auctionId) bids) ↔
          (shieldedCommitments = [] ∨ w.ReadsDeposits account auctionId) ∧ w.ReadsIdentities auctionId)) := by
  intro w shieldedCommitments collected
  have coherent := deployment.run_coherent env outside inputs auctionId
  have running : (w.market.auctions auctionId).auction.state.running = true := by
    rw [resolving]
    rfl
  have found := coherent.wired.found_of_running running
  have answered : (∃ bids, collected = .ok bids) ↔ w.Answers env account auctionId :=
    World.collect_succeeds_iff found
  refine ⟨⟨fun whole answers => ?_, fun shows_ bids got => ?_⟩, answered, ?_, fun asks => ?_⟩
  · obtain ⟨bids, got⟩ := answered.mpr answers
    exact (World.whole_iff found got).mp (whole bids got)
  · exact (World.whole_iff found got).mpr (shows_ (answered.mp ⟨bids, got⟩))
  · exact fun _ _ _ _ _ about enqueues => turn_enqueues_collected about enqueues
  · have answers := asks.answers env account auctionId
    obtain ⟨bids, got⟩ := answered.mpr answers
    have only : ∀ {holds : List EncryptedBidRecord → Prop},
        (∀ other, collected = .ok other → holds other) ↔ holds bids :=
      fun {holds} => ⟨fun all => all bids got, fun own other same => Except.ok.inj (got.symm.trans same) ▸ own⟩
    exact ⟨answers, coherent.showsDeposits_iff running asks, only.trans (coherent.complete_iff_reads running asks got),
      only.trans (coherent.complete_iff_named running asks got)⟩

/-- A second vault to rotate to. -/
def twoVaults : Deployment :=
  { shieldedDeployment with
    vaultOwner := fun address => if address = 12 ∨ address = 22 then some 1 else none
    noneAtZero := ⟨rfl, rfl, rfl, rfl⟩ }

/-- An auction with one shielded bid of 50 ends and waits for its resolution. -/
def shieldedOnly : List (Msg × Tx (ℕ → Address)) :=
  (bidTwice (CofheCiphertextEncoding.encodeEuint96 50)).take 6 ++
    [({ sender := 8, timestamp := 1100 }, .triggerFinalize 1)]

/-- The owner sets another vault while it waits. -/
def rotatedTo (newVault : Address) : List (Msg × Tx (ℕ → Address)) :=
  shieldedOnly ++ [({ sender := 1, timestamp := 1101 }, .setShieldedEscrowVault newVault)]

/-- A contract that is no vault does not answer, and the keeper gets no list. -/
example : ((twoVaults.run zkChain (fun _ => 9) (rotatedTo 50)).collectEncryptedBidsFromChain zkChain 1 1).toOption =
    none := by decide +kernel

set_option maxRecDepth 4000 in
/-- After a rotation of the vault, and for an account that may not preview, the keeper
gets an empty book for an auction with a bid in it. -/
theorem shieldedOnly_dropped :
    let rotated := twoVaults.run zkChain (fun _ => 9) (rotatedTo 22)
    let unread := twoVaults.run zkChain (fun _ => 9) shieldedOnly
    ((rotated.market.auctions 1).auction.state = .resolving ∧
        (rotated.market.auctions 1).shieldedCommitments = [31] ∧
        rotated.collectEncryptedBidsFromChain zkChain 1 1 = .ok [] ∧ ¬ rotated.Whole 1 []) ∧
      (unread.market.auctions 1).auction.state = .resolving ∧
        (unread.market.auctions 1).shieldedCommitments = [31] ∧
        unread.collectEncryptedBidsFromChain zkChain 77 1 = .ok [] ∧ ¬ unread.Whole 1 [] := by
  have short : ∀ w : World (ℕ → Address), (w.market.auctions 1).shieldedCommitments = [31] → ¬ w.Whole 1 [] := by
    rintro w listed ⟨name, whole⟩
    have counted := congrArg List.length whole
    rw [List.length_append, World.shieldedEntries, List.length_map, listed] at counted
    cases counted
  have listed : ((twoVaults.run zkChain (fun _ => 9) (rotatedTo 22)).market.auctions 1).shieldedCommitments = [31] ∧
      ((twoVaults.run zkChain (fun _ => 9) shieldedOnly).market.auctions 1).shieldedCommitments = [31] := by
    decide +kernel
  exact ⟨⟨by decide +kernel, listed.1, toOption_eq_some.mp (by decide +kernel), short _ listed.1⟩,
    by decide +kernel, listed.2, toOption_eq_some.mp (by decide +kernel), short _ listed.2⟩

set_option maxRecDepth 4000 in
/-- The owner of the vault gets the whole book before the rotation. -/
theorem shieldedOnly_complete :
    let w := twoVaults.run zkChain (fun _ => 9) shieldedOnly
    ∀ bids, w.collectEncryptedBidsFromChain zkChain 1 1 = .ok bids →
      w.Whole 1 bids ∧ w.Complete 1 (w.pinnedIdentity 1) bids := by
  have resolving : ((twoVaults.run zkChain (fun _ => 9) shieldedOnly).market.auctions 1).auction.state =
      .resolving := by decide +kernel
  obtain ⟨whole, -, -, own⟩ := bid_book_collected twoVaults zkChain (fun _ => 9) shieldedOnly 1 1 resolving
  obtain ⟨-, deposits, -, named⟩ := own ⟨by decide +kernel, by decide +kernel⟩
  have reads : (twoVaults.run zkChain (fun _ => 9) shieldedOnly).ReadsDeposits 1 1 :=
    World.readsDeposits_of_owner (by decide +kernel) (by decide +kernel)
  intro w bids got
  exact ⟨whole.mpr (fun _ => deposits.mpr (.inr reads)) bids got,
    named.mpr ⟨.inr reads, .inl (by decide +kernel)⟩ bids got⟩

end FairMarket
