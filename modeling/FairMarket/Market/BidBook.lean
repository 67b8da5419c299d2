import FairMarket.Contracts.BidVerifiers
import FairMarket.Keeper.CofheDispatcher
import FairMarket.Lib.Roster
import FairMarket.Market.Authority

/-! The bid book of an auction: its two lists of bidders, its count and its handles,
and the adapter and verifiers that admit handles into it. -/

namespace FairMarket

open CofheCiphertextEncoding (Numeric payloadOf)

variable {σ : Type}

namespace External

/-- At this address is the repository's adapter. -/
structure HostsAdapter (env : External σ) (adapter : Address) : Prop where
  gt : ∀ outside ciphertext plaintext,
    env.gt outside adapter ciphertext plaintext = (CofheAdapter.gt ciphertext plaintext).toOption
  lte : ∀ outside ciphertext plaintext,
    env.lte outside adapter ciphertext plaintext = (CofheAdapter.lte ciphertext plaintext).toOption

/-- At this address is the verifier of prover signatures. -/
def HostsMockVerifier (env : External σ) (verifier : Address) : Prop :=
  ∀ outside, ∃ state : MockShieldedBidVerifier,
    ∀ vault auctionId commitmentHash encryptedBid committedAmount deadline proof,
      env.verifyBidCoverage outside verifier vault auctionId commitmentHash encryptedBid committedAmount
          deadline proof =
        state.verifyBidCoverage env.toChain verifier vault auctionId commitmentHash encryptedBid
          committedAmount deadline proof

/-- At this address is the verifier of Groth16 proofs. -/
def HostsZkVerifier (env : External σ) (verifier : Address) : Prop :=
  ∀ outside, ∃ verifyProof : Groth16Proof → Bool,
    ∀ vault auctionId commitmentHash encryptedBid committedAmount deadline proof,
      env.verifyBidCoverage outside verifier vault auctionId commitmentHash encryptedBid committedAmount
          deadline proof =
        ZkShieldedBidVerifier.verifyBidCoverage verifyProof encryptedBid committedAmount proof

theorem HostsAdapter.gt_eq_true {env : External σ} {adapter : Address} (hosts : env.HostsAdapter adapter)
    {outside : σ} {ciphertext : Bytes32} {plaintext : ℕ} :
    env.gt outside adapter ciphertext plaintext = some true ↔
      Numeric ciphertext ∧ plaintext < payloadOf ciphertext := by
  rw [hosts.gt, ← CofheAdapter.gt_ok]
  cases CofheAdapter.gt ciphertext plaintext <;> simp [Except.toOption]

theorem HostsAdapter.lte_eq_true {env : External σ} {adapter : Address} (hosts : env.HostsAdapter adapter)
    {outside : σ} {ciphertext : Bytes32} {plaintext : ℕ} :
    env.lte outside adapter ciphertext plaintext = some true ↔
      Numeric ciphertext ∧ payloadOf ciphertext ≤ plaintext := by
  rw [hosts.lte, ← CofheAdapter.lte_ok]
  cases CofheAdapter.lte ciphertext plaintext <;> simp [Except.toOption]

end External

namespace BidRecord

/-- The public lane of a bid book. -/
def publicLane (record : BidRecord) : Roster Address Bytes32 :=
  ⟨record.encryptedBids, record.knownBidders, record.bidders⟩

/-- The shielded lane of a bid book. -/
def shieldedLane (record : BidRecord) : Roster Bytes32 Bytes32 :=
  ⟨record.shieldedEncryptedBids, record.knownShieldedCommitments, record.shieldedCommitments⟩

/-- Both lanes are in order, hold numeric handles only, and are counted. -/
structure WellFormed (record : BidRecord) : Prop where
  publicLane : record.publicLane.WellFormed Numeric
  shieldedLane : record.shieldedLane.WellFormed Numeric
  counted : record.bidCount = record.bidders.length + record.shieldedCommitments.length

theorem wellFormed_default : (({} : AuctionStorage).record).WellFormed where
  publicLane := ⟨.nil, by simp [AuctionStorage.record, BidRecord.publicLane],
    by simp [AuctionStorage.record, BidRecord.publicLane], fun _ present => absurd rfl present⟩
  shieldedLane := ⟨.nil, by simp [AuctionStorage.record, BidRecord.shieldedLane],
    by simp [AuctionStorage.record, BidRecord.shieldedLane], fun _ present => absurd rfl present⟩
  counted := rfl

end BidRecord

theorem nextBidCount_ok {bidCount count : ℕ} {first : Bool} :
    nextBidCount bidCount first = .ok count →
      count = bidCount + if first then 1 else 0 := by
  unfold nextBidCount
  split
  · rename_i again
    rintro ⟨⟩
    simp at again
    simp
  · rename_i new
    rw [not_not] at new
    split
    · rintro ⟨⟩
      simp
    · nofun

namespace World

/-- The auction's vault asks one of the repository's verifiers, or none. -/
def VerifiedByRepository (env : External σ) (auctionId : AuctionId) (w : World σ) : Prop :=
  ∀ vault, w.vaults (w.snapshot auctionId).shieldedEscrowVault = some vault →
    vault.shieldedBidVerifier = 0 ∨ env.HostsMockVerifier vault.shieldedBidVerifier ∨
      env.HostsZkVerifier vault.shieldedBidVerifier

/-- The input places no bid in the auction that only the Groth16 verifier looks at and
that is not numeric. -/
def NumericBids (env : External σ) (auctionId : AuctionId) (w : World σ) (input : Msg × Tx σ) : Prop :=
  match input.2 with
  | .placeShieldedBid placed _ encryptedBid _ _ =>
    placed = auctionId → (w.market.auctions auctionId).auction.startingPrice = 0 →
      ∀ vault, w.vaults (w.snapshot auctionId).shieldedEscrowVault = some vault →
        env.HostsZkVerifier vault.shieldedBidVerifier → Numeric encryptedBid
  | _ => True

variable {env : External σ} {w next : World σ} {msg : Msg} {auctionId : AuctionId}

/-- What a vault has checked of a covered bid. -/
theorem verifyBidCoverageProof_ok {vault : ShieldedEscrowVault}
    {verify : Address → Address → AuctionId → Bytes32 → Bytes32 → ℕ → ℕ → List UInt8 → Option Bool}
    {self : Address} {timestamp : ℕ} {commitmentHash encryptedBid : Bytes32} {deadline : ℕ}
    {proof : List UInt8} :
    vault.verifyBidCoverageProof verify self timestamp commitmentHash encryptedBid deadline proof = .ok () ↔
      (vault.commitments commitmentHash).amount ≠ 0 ∧ timestamp ≤ deadline ∧
        vault.shieldedBidVerifier ≠ 0 ∧
        verify vault.shieldedBidVerifier self (vault.commitments commitmentHash).auctionId commitmentHash
          encryptedBid (vault.commitments commitmentHash).amount deadline proof = some true := by
  simp only [ShieldedEscrowVault.verifyBidCoverageProof, ShieldedEscrowVault.requireSpendableCommitment,
    bind_eq_ok, exists_revertIf, requireSome_eq_ok, pure_eq_ok, Except.ok.injEq, Nat.not_lt]
  constructor
  · rintro ⟨commitment, ⟨-, funded, rfl⟩, live, known, valid, checked, accepted⟩
    rw [not_not.mp (revertIf_eq_ok.mp accepted)] at checked
    exact ⟨funded, live, known, checked⟩
  · rintro ⟨funded, live, known, checked⟩
    exact ⟨_, ⟨fun both => funded both.1, funded, rfl⟩, live, known, true, checked,
      revertIf_eq_ok.mpr (not_not.mpr rfl)⟩

/-- An admitted public bid is numeric. -/
theorem placed_numeric (hosts : env.HostsAdapter (w.snapshot auctionId).cofheAdapter) {encryptedBid : Bytes32}
    {escrow : ℕ}
    (covered : env.lte w.outside (w.snapshot auctionId).cofheAdapter encryptedBid escrow = some true) :
    Numeric encryptedBid := (hosts.lte_eq_true.mp covered).1

/-- An admitted shielded bid is numeric, by one of the two checks. -/
theorem placedShielded_numeric (hosts : env.HostsAdapter (w.snapshot auctionId).cofheAdapter)
    (verified : w.VerifiedByRepository env auctionId) {commitmentHash encryptedBid : Bytes32}
    {coverageDeadline : ℕ} {coverageProof : List UInt8}
    (numeric : w.NumericBids env auctionId
      (msg, .placeShieldedBid auctionId commitmentHash encryptedBid coverageDeadline coverageProof))
    {vault : ShieldedEscrowVault}
    (deployed : w.vaults (w.snapshot auctionId).shieldedEscrowVault = some vault)
    (floor : w.AtFloor env auctionId encryptedBid)
    (covered : vault.verifyBidCoverageProof (env.verifyBidCoverage w.outside)
      (w.snapshot auctionId).shieldedEscrowVault msg.timestamp commitmentHash encryptedBid coverageDeadline
      coverageProof = .ok ()) : Numeric encryptedBid := by
  rcases floor with free | above
  · obtain ⟨-, -, known, checked⟩ := verifyBidCoverageProof_ok.mp covered
    rcases verified vault deployed with unset | mock | zk
    · exact absurd unset known
    · obtain ⟨state, same⟩ := mock w.outside
      rw [same, MockShieldedBidVerifier.verifyBidCoverage_eq_true] at checked
      exact checked.2.1
    · exact numeric rfl free vault deployed zk
  · exact (hosts.gt_eq_true.mp above).1

/-- A lane that takes an entry grows with the count. -/
theorem counted_place {Key : Type} [DecidableEq Key] {lane : Roster Key Bytes32} {key : Key}
    (encryptedBid : Bytes32) {before count others : ℕ} (wellFormed : lane.WellFormed Numeric)
    (counted : before = lane.listed.length + others)
    (counts : nextBidCount before (lane.entry key = 0) = .ok count) :
    count = (lane.place key encryptedBid).listed.length + others := by
  have grown := nextBidCount_ok counts
  rw [wellFormed.length_place, grown, counted]
  by_cases absent : lane.entry key = 0
  · simp only [absent, decide_true, if_true]
    omega
  · simp only [absent, decide_false, if_false, Bool.false_eq_true]
    omega

theorem Writes.wellFormed {tx : Tx σ} {record : BidRecord} (writes : Writes env w msg tx auctionId record)
    (hosts : env.HostsAdapter (w.snapshot auctionId).cofheAdapter)
    (verified : w.VerifiedByRepository env auctionId) (numeric : w.NumericBids env auctionId (msg, tx))
    (before : (w.market.auctions auctionId).record.WellFormed) : record.WellFormed := by
  obtain ⟨publicLane, shieldedLane, counted⟩ := before
  cases writes with
  | @placeBid _ encryptedBid _ _ _ _ covered counts =>
    have admitted := placed_numeric hosts covered
    refine ⟨publicLane.place admitted.ne_zero admitted, shieldedLane, ?_⟩
    exact counted_place encryptedBid publicLane counted counts
  | @placeShieldedBid _ _ encryptedBid _ _ _ _ _ _ _ deployed _ _ floor covered counts =>
    have admitted := placedShielded_numeric hosts verified numeric deployed floor covered
    refine ⟨publicLane, shieldedLane.place admitted.ne_zero admitted, ?_⟩
    have swapped := counted.trans (Nat.add_comm ..)
    exact (counted_place encryptedBid shieldedLane swapped counts).trans (Nat.add_comm ..)
  | submitResolution => exact ⟨publicLane, shieldedLane, counted⟩
  | submitShieldedResolution => exact ⟨publicLane, shieldedLane, counted⟩

/-- The book stays in order as long as no bid gets past the Groth16 verifier that is not numeric. -/
def Booked (env : External σ) (auctionId : AuctionId) (w : World σ) : Prop :=
  env.HostsAdapter (w.snapshot auctionId).cofheAdapter → (w.market.auctions auctionId).record.WellFormed

theorem Booked.step (booked : w.Booked env auctionId) (wired : w.Wired env) {tx : Tx σ}
    (verified : w.VerifiedByRepository env auctionId) (numeric : w.NumericBids env auctionId (msg, tx))
    (done : w.transact env (msg, tx) = .ok next) : next.Booked env auctionId := by
  intro hosts
  obtain ⟨-, -, -, touched, flow, transition⟩ := transact_transition wired done
  have kept := transition.kept auctionId
  by_cases found : (w.market.auctions auctionId).auction.exists_ = true
  · have same : next.snapshot auctionId = w.snapshot auctionId := kept.snapshot found
    rw [same] at hosts
    rcases (transact_effects wired done).records auctionId with unwritten | writes
    · rw [unwritten]
      exact booked hosts
    · exact writes.wellFormed hosts verified numeric (booked hosts)
  · have blank := (wired.blank auctionId (Bool.eq_false_iff.mpr found)).1
    rcases (transact_effects wired done).records auctionId with unwritten | writes
    · rw [unwritten, blank]
      exact BidRecord.wellFormed_default
    · exact absurd (writes.found wired) found

end World

/-- In a run in which only numeric bids get into an auction without a starting price
past the Groth16 verifier, the auction's book is in order: no bidder or commitment is
listed twice, both lists together are as long as the count says, a party is listed
exactly if its handle is nonzero, and the contracts and the keeper read the same amount
from every handle. -/
theorem bid_book_well_formed (deployment : Deployment) (env : External σ) (outside : σ)
    (inputs : List (Msg × Tx σ)) (auctionId : AuctionId)
    (verified : Along (World.transact env) (fun w _ => w.VerifiedByRepository env auctionId)
      (deployment.genesis env outside) inputs)
    (numeric : Along (World.transact env) (World.NumericBids env auctionId)
      (deployment.genesis env outside) inputs)
    (hosts : env.HostsAdapter
      ((deployment.run env outside inputs).snapshot auctionId).cofheAdapter) :
    let cell := (deployment.run env outside inputs).market.auctions auctionId
    cell.bidders.Nodup ∧ cell.shieldedCommitments.Nodup ∧
      cell.auction.bidCount = cell.bidders.length + cell.shieldedCommitments.length ∧
      (∀ bidder, bidder ∈ cell.bidders ↔ cell.encryptedBids bidder ≠ 0) ∧
      (∀ commitmentHash, commitmentHash ∈ cell.shieldedCommitments ↔
        cell.shieldedEncryptedBids commitmentHash ≠ 0) ∧
      ∀ encryptedBid, encryptedBid ≠ 0 →
        ((∃ bidder, cell.encryptedBids bidder = encryptedBid) ∨
          ∃ commitmentHash, cell.shieldedEncryptedBids commitmentHash = encryptedBid) →
        ∃ amount, CofheCiphertextEncoding.decodeNumeric encryptedBid = .ok amount ∧
          Keeper.decodeLocalPrototypeEncryptedNumeric (.hash encryptedBid) = .ok amount := by
  intro cell
  have kept : ∀ (w : World σ) input next, w.Wired env ∧ w.Booked env auctionId →
      w.VerifiedByRepository env auctionId ∧ w.NumericBids env auctionId input →
      w.transact env input = .ok next → next.Wired env ∧ next.Booked env auctionId := by
    intro w input next before checked done
    exact ⟨(World.transact_transition before.1 done).1,
      before.2.step before.1 checked.1 checked.2 done⟩
  have initial : (deployment.genesis env outside).Booked env auctionId :=
    fun _ => BidRecord.wellFormed_default
  have booked := (play_preserves_along kept ⟨deployment.genesis_wired env outside, initial⟩
    (verified.and numeric)).2
  obtain ⟨publicLane, shieldedLane, counted⟩ := booked hosts
  refine ⟨publicLane.nodup, shieldedLane.nodup, counted, publicLane.listed, shieldedLane.listed, ?_⟩
  intro encryptedBid present stored
  have admitted : Numeric encryptedBid := by
    rcases stored with ⟨bidder, rfl⟩ | ⟨commitmentHash, rfl⟩
    · exact publicLane.valid bidder present
    · exact shieldedLane.valid commitmentHash present
  exact ⟨payloadOf encryptedBid, CofheCiphertextEncoding.decodeNumeric_ok.mpr ⟨admitted, rfl⟩,
    Keeper.decode_hash_ok.mpr ⟨admitted, rfl⟩⟩

/-- The sample chain with the repository's adapter everywhere, and everywhere a Groth16
verifier that finds every decoded proof good. -/
def zkChain : External (ℕ → Address) :=
  { tokenChain with
    gt := fun _ _ ciphertext plaintext => (CofheAdapter.gt ciphertext plaintext).toOption
    lte := fun _ _ ciphertext plaintext => (CofheAdapter.lte ciphertext plaintext).toOption
    verifyBidCoverage := fun _ _ _ _ _ encryptedBid committedAmount _ proof =>
      ZkShieldedBidVerifier.verifyBidCoverage (fun _ => true) encryptedBid committedAmount proof }

/-- A proof whose public input is the given handle. -/
def zkProof (encryptedBid : Bytes32) : List UInt8 :=
  List.replicate 256 0 ++
    (List.range 32).map fun index => .ofNat (encryptedBid.toNat / 256 ^ (31 - index))

/-- A commitment of 100 bids a handle, twice, in an auction without a starting price. -/
def bidTwice (encryptedBid : Bytes32) : List (Msg × Tx (ℕ → Address)) :=
  [({ sender := 1, timestamp := 1000 }, .setShieldedEscrowVault 12),
    ({ sender := 1, timestamp := 1000 }, .setShieldedIdentityRegistry 13),
    ({ sender := 1, timestamp := 1000 }, .setShieldedBidVerifier 12 16),
    ({ sender := 9, value := 10, timestamp := 1000 }, .createAuction 5 7 100 0 10 false),
    ({ sender := 8, value := 100, timestamp := 1001 }, .lockShieldedEscrow 1 21 31 41),
    ({ sender := 8, timestamp := 1002 }, .placeShieldedBid 1 31 encryptedBid 1100 (zkProof encryptedBid)),
    ({ sender := 8, timestamp := 1003 }, .placeShieldedBid 1 31 encryptedBid 1100 (zkProof encryptedBid))]

set_option maxRecDepth 4000 in
/-- The zero handle is admitted and counted twice, and the keeper cannot read it. -/
theorem bidTwice_zero_miscounted :
    let w := shieldedDeployment.run zkChain (fun _ => 9) (bidTwice 0)
    let cell := w.market.auctions 1
    zkChain.HostsAdapter (w.snapshot 1).cofheAdapter ∧
      Along (World.transact zkChain) (fun w _ => w.VerifiedByRepository zkChain 1)
        (shieldedDeployment.genesis zkChain fun _ => 9) (bidTwice 0) ∧
      cell.auction.state = .active ∧ cell.auction.bidCount = 2 ∧ cell.bidders = [] ∧
      cell.shieldedCommitments = [31] ∧ cell.shieldedEncryptedBids 31 = 0 ∧
      ∀ amount, Keeper.decodeLocalPrototypeEncryptedNumeric (.hash (cell.shieldedEncryptedBids 31)) ≠
        .ok amount := by
  refine ⟨⟨fun _ _ _ => rfl, fun _ _ _ => rfl⟩, ?_, by decide +kernel, by decide +kernel,
    by decide +kernel, by decide +kernel, by decide +kernel, ?_⟩
  · apply Along.of_forall
    intro w _ vault _
    exact .inr (.inr fun _ => ⟨fun _ => true, fun _ _ _ _ _ _ _ => rfl⟩)
  · intro amount read
    have numeric := (Keeper.decode_hash_ok.mp read).1.ne_zero
    exact numeric (by decide +kernel)

set_option maxRecDepth 4000 in
/-- A numeric handle keeps the book in order. -/
theorem bidTwice_numeric_wellFormed :
    let cell := (shieldedDeployment.run zkChain (fun _ => 9)
      (bidTwice (CofheCiphertextEncoding.encodeEuint96 50))).market.auctions 1
    cell.auction.bidCount = cell.bidders.length + cell.shieldedCommitments.length ∧
      cell.shieldedCommitments.Nodup := by
  obtain ⟨-, nodup, counted, -⟩ := bid_book_well_formed shieldedDeployment zkChain (fun _ => 9)
    (bidTwice (CofheCiphertextEncoding.encodeEuint96 50)) 1
    (.of_forall (fun _ _ _ _ => .inr (.inr fun _ => ⟨fun _ => true, fun _ _ _ _ _ _ _ => rfl⟩)) _ _)
    (by
      refine ⟨trivial, trivial, trivial, trivial, trivial, ?_, ?_, trivial⟩
      · exact fun _ _ _ _ _ => by decide +kernel
      · exact fun _ _ _ _ _ => by decide +kernel)
    ⟨fun _ _ _ => rfl, fun _ _ _ => rfl⟩
  exact ⟨counted, nodup⟩

end FairMarket
