import FairMarket.Keeper.BidCollector

/-! The bid book the market goes by, from the vault and the registry that are pinned for an auction, and
what the keeper makes of it as long as it asks contracts of this repository. -/

namespace FairMarket

open Keeper (EncryptedBidRecord)

variable {σ : Type}

namespace World

/-- The list has one entry for each bidder and one for each commitment, each under a name
of its own, and no others. -/
structure Complete (w : World σ) (auctionId : AuctionId) (name : Bytes32 → Bytes32)
    (bids : List EncryptedBidRecord) : Prop where
  publicBids : ∀ bidder ∈ (w.market.auctions auctionId).bidders,
    bids.filter (fun bid => bid.bidder = .account bidder ∧ ¬ bid.isShielded) = [w.publicEntry auctionId bidder]
  shieldedBids : ∀ commitmentHash ∈ (w.market.auctions auctionId).shieldedCommitments,
    bids.filter (fun bid => bid.bidder = .hash (name commitmentHash) ∧ bid.isShielded) =
      [w.shieldedEntry auctionId (name commitmentHash) commitmentHash]
  named : ∀ first ∈ (w.market.auctions auctionId).shieldedCommitments,
    ∀ second ∈ (w.market.auctions auctionId).shieldedCommitments, name first = name second → first = second
  counted : bids.length = (w.market.auctions auctionId).bidders.length +
    (w.market.auctions auctionId).shieldedCommitments.length

/-- The vault and the registry that are set, if any, are of this repository. -/
structure AsksOwn (w : World σ) : Prop where
  vault : w.market.shieldedEscrowVault = 0 ∨ (w.vaults w.market.shieldedEscrowVault).isSome = true
  registry : w.market.shieldedIdentityRegistry = 0 ∨
    (w.registries w.market.shieldedIdentityRegistry).isSome = true

/-- The keeper asks the auction's own vault, and the vault answers it. -/
def ReadsDeposits (w : World σ) (account : Address) (auctionId : AuctionId) : Prop :=
  w.market.shieldedEscrowVault = (w.snapshot auctionId).shieldedEscrowVault ∧
    ∀ vault, w.vaults (w.snapshot auctionId).shieldedEscrowVault = some vault →
      vault.canPreviewCommitment account = .ok ()

/-- The keeper asks the auction's own registry, or the listed commitments are one
another's identities and what is stored for a commitment and its identity is the same. -/
def ReadsIdentities (w : World σ) (auctionId : AuctionId) : Prop :=
  w.market.shieldedIdentityRegistry = (w.snapshot auctionId).shieldedIdentityRegistry ∨
    ∀ commitmentHash ∈ (w.market.auctions auctionId).shieldedCommitments,
      w.pinnedIdentity auctionId commitmentHash ∈ (w.market.auctions auctionId).shieldedCommitments ∧
        (w.market.auctions auctionId).shieldedEncryptedBids (w.pinnedIdentity auctionId commitmentHash) =
          (w.market.auctions auctionId).shieldedEncryptedBids commitmentHash ∧
        w.pinnedEscrow auctionId (w.pinnedIdentity auctionId commitmentHash) =
          w.pinnedEscrow auctionId commitmentHash

variable {env : External σ} {w : World σ} {account : Address} {auctionId : AuctionId}
  {commitmentHash : Bytes32} {vault : ShieldedEscrowVault} {registry : ShieldedIdentityRegistry}
  {bids : List EncryptedBidRecord}

theorem Standing.pinnedIdentity_eq (standing : w.Standing auctionId commitmentHash vault registry) :
    w.pinnedIdentity auctionId commitmentHash = registry.commitmentToIdentity auctionId commitmentHash := by
  rw [pinnedIdentity, standing.registered]
  rfl

theorem Standing.pinnedEscrow_eq (standing : w.Standing auctionId commitmentHash vault registry) :
    w.pinnedEscrow auctionId commitmentHash = (vault.commitments commitmentHash).amount := by
  rw [pinnedEscrow, standing.deployed]

/-- The vault is where the auction's deposits are, if it holds one of them. -/
theorem Deposited.current_eq_pinned (deposited : w.Deposited) {current : ShieldedEscrowVault}
    (found : auctionId ≠ 0) (deployed : w.vaults w.market.shieldedEscrowVault = some current)
    (about : (current.commitments commitmentHash).auctionId = auctionId) :
    w.market.shieldedEscrowVault = (w.snapshot auctionId).shieldedEscrowVault := by
  subst about
  exact (deposited.homed _ current commitmentHash deployed found).2.symm

/-- The owner of the auction's own vault reads its deposits, as long as this vault is set. -/
theorem readsDeposits_of_owner (same : w.market.shieldedEscrowVault = (w.snapshot auctionId).shieldedEscrowVault)
    (owner : (w.vaults (w.snapshot auctionId).shieldedEscrowVault).map (·.owner) = some account) :
    w.ReadsDeposits account auctionId := by
  refine ⟨same, fun vault deployed => ?_⟩
  rw [deployed] at owner
  exact revertIf_eq_ok.mpr fun ⟨_, other, _⟩ => other (Option.some.inj owner).symm

/-- A registry of this repository always answers. -/
theorem AsksOwn.identityIn_ok (asks : w.AsksOwn) (env : External σ) (account : Address) (auctionId : AuctionId)
    (commitmentHash : Bytes32) : ∃ identityHash,
      w.identityIn env account w.market.shieldedIdentityRegistry auctionId commitmentHash = .ok identityHash := by
  unfold identityIn identityForCommitment
  by_cases unset : w.market.shieldedIdentityRegistry = 0
  · rw [if_pos unset]
    exact ⟨0, rfl⟩
  · obtain ⟨current, deployed⟩ := Option.isSome_iff_exists.mp (asks.registry.resolve_left unset)
    rw [if_neg unset, deployed]
    exact ⟨_, rfl⟩

/-- So the keeper gets a list. -/
theorem AsksOwn.answers (asks : w.AsksOwn) (env : External σ) (account : Address) (auctionId : AuctionId) :
    w.Answers env account auctionId := by
  intro set c _
  refine ⟨?_, fun _ _ => asks.identityIn_ok env account auctionId c⟩
  obtain ⟨current, deployed⟩ := Option.isSome_iff_exists.mp (asks.vault.resolve_left set)
  rw [commitmentState, deployed]
  exact ⟨_, rfl⟩

/-- A vault of this repository shows only deposits it holds, and only to whom it lets preview them. -/
theorem Coherent.readsDeposits_of_shows (coherent : w.Coherent env auctionId)
    (running : (w.market.auctions auctionId).auction.state.running = true) (asks : w.AsksOwn)
    (set : w.market.shieldedEscrowVault ≠ 0) {amount : ℕ}
    (shown : w.Shows env account w.market.shieldedEscrowVault auctionId commitmentHash amount) :
    w.ReadsDeposits account auctionId := by
  obtain ⟨current, deployed⟩ := Option.isSome_iff_exists.mp (asks.vault.resolve_left set)
  have state := shown.state
  have preview := shown.preview
  rw [commitmentState, deployed] at state
  rw [previewCommitment, deployed] at preview
  have about : (current.commitments commitmentHash).auctionId = auctionId := congrArg Prod.fst (Except.ok.inj state)
  have same := coherent.deposited.current_eq_pinned
    (coherent.wired.counted auctionId (coherent.wired.found_of_running running)).1 deployed about
  refine ⟨same, fun vault present => ?_⟩
  rw [← same, deployed] at present
  obtain rfl := Option.some.inj present
  obtain ⟨passed, reads, -⟩ := bind_eq_ok.mp preview
  exact reads

/-- The auction's own vault shows every deposit to whom it lets preview them. -/
theorem Coherent.shows_of_readsDeposits (coherent : w.Coherent env auctionId)
    (running : (w.market.auctions auctionId).auction.state.running = true)
    (reads : w.ReadsDeposits account auctionId) : w.ShowsDeposits env account auctionId := by
  intro c listed
  obtain ⟨vault, registry, standing⟩ := coherent.standing running listed
  refine ⟨?_, ?_, ?_⟩
  · intro unset
    have deployed := standing.deployed
    rw [← reads.1, unset, coherent.wired.zero.1] at deployed
    cases deployed
  · rw [commitmentState, reads.1, standing.deployed]
    simp only [ShieldedEscrowVault.commitmentState, standing.about, standing.locked, standing.unclaimed, pure_eq_ok]
  · rw [previewCommitment, reads.1, standing.deployed]
    simp only [ShieldedEscrowVault.previewCommitment, reads.2 vault standing.deployed, ok_bind, standing.about,
      standing.locked, standing.unclaimed, standing.pinnedEscrow_eq, pure_eq_ok]

theorem Coherent.showsDeposits_iff (coherent : w.Coherent env auctionId)
    (running : (w.market.auctions auctionId).auction.state.running = true) (asks : w.AsksOwn) :
    w.ShowsDeposits env account auctionId ↔
      (w.market.auctions auctionId).shieldedCommitments = [] ∨ w.ReadsDeposits account auctionId := by
  constructor
  · intro shows_
    refine or_iff_not_imp_left.mpr fun nonempty => ?_
    obtain ⟨c, listed⟩ := List.exists_mem_of_ne_nil _ nonempty
    exact coherent.readsDeposits_of_shows running asks (shows_ c listed).1 (shows_ c listed).2
  · rintro (empty | reads)
    · intro c listed
      rw [empty] at listed
      cases listed
    · exact coherent.shows_of_readsDeposits running reads

theorem Coherent.collect_reads (coherent : w.Coherent env auctionId)
    (running : (w.market.auctions auctionId).auction.state.running = true) (asks : w.AsksOwn)
    (reads : w.ReadsDeposits account auctionId) :
    w.collectEncryptedBidsFromChain env account auctionId =
      .ok (w.publicEntries auctionId ++ w.shieldedEntries auctionId (w.currentName env account auctionId)) := by
  have found := coherent.wired.found_of_running running
  obtain ⟨bids, collected⟩ := (collect_succeeds_iff found).mpr (asks.answers env account auctionId)
  rw [collected, collect_shows found (coherent.shows_of_readsDeposits running reads) collected]

/-- Who does not read the deposits gets the public bids only. -/
theorem Coherent.collect_unread (coherent : w.Coherent env auctionId)
    (running : (w.market.auctions auctionId).auction.state.running = true) (asks : w.AsksOwn)
    (unread : ¬ w.ReadsDeposits account auctionId) :
    w.collectEncryptedBidsFromChain env account auctionId = .ok (w.publicEntries auctionId) := by
  have found := coherent.wired.found_of_running running
  obtain ⟨bids, collected⟩ := (collect_succeeds_iff found).mpr (asks.answers env account auctionId)
  rw [collected]
  rcases (collect_ok found).mp collected with ⟨-, rfl⟩ | ⟨set, turns, taken, rfl⟩
  · rfl
  · have left : ∀ turn ∈ turns, turn = none := by
      intro turn member
      obtain ⟨c, -, took⟩ := exists_of_mem_mapM taken member
      obtain ⟨-, ⟨skips, -⟩ | ⟨amount, _, shown, -⟩⟩ := (collectShieldedBid_ok found).mp took
      · exact skips
      · exact absurd (coherent.readsDeposits_of_shows running asks set shown) unread
    rw [List.eq_replicate_iff.mpr ⟨rfl, left⟩, List.reduceOption_replicate_none, List.append_nil]

/-- With the registry unchanged, entries have the names the market knows. -/
theorem Standing.currentName_pinned (standing : w.Standing auctionId commitmentHash vault registry)
    (wired : w.Wired env)
    (same : w.market.shieldedIdentityRegistry = (w.snapshot auctionId).shieldedIdentityRegistry) :
    w.currentName env account auctionId commitmentHash = w.pinnedIdentity auctionId commitmentHash := by
  have named : registry.identityForCommitment auctionId commitmentHash ≠ 0 := standing.named
  have set : w.market.shieldedIdentityRegistry ≠ 0 := by
    intro unset
    have registered := standing.registered
    rw [← same, unset, wired.zero.2.1] at registered
    cases registered
  have known : w.identityIn env account w.market.shieldedIdentityRegistry auctionId commitmentHash =
      .ok (registry.identityForCommitment auctionId commitmentHash) := by
    rw [identityIn, if_neg set, identityForCommitment, same, standing.registered]
    rfl
  rw [currentName, known, pinnedIdentity, standing.registered]
  exact if_neg named

/-- Every other registry of this repository knows nothing of the auction, so entries keep their
commitment. -/
theorem Aliased.currentName_rotated (aliased : w.Aliased) (asks : w.AsksOwn) (commitmentHash : Bytes32)
    (rotated : w.market.shieldedIdentityRegistry ≠ (w.snapshot auctionId).shieldedIdentityRegistry) :
    w.currentName env account auctionId commitmentHash = commitmentHash := by
  have unnamed : w.identityIn env account w.market.shieldedIdentityRegistry auctionId commitmentHash = .ok 0 := by
    unfold identityIn identityForCommitment
    by_cases unset : w.market.shieldedIdentityRegistry = 0
    · rw [if_pos unset]
      rfl
    · obtain ⟨current, deployed⟩ := Option.isSome_iff_exists.mp (asks.registry.resolve_left unset)
      rw [if_neg unset, deployed]
      refine congrArg Except.ok ?_
      by_contra named
      exact rotated (aliased.homed _ current auctionId commitmentHash deployed named).2.symm
  rw [currentName, unnamed]
  rfl

/-- No two listed commitments have the same name. -/
def Distinct (w : World σ) (auctionId : AuctionId) (name : Bytes32 → Bytes32) : Prop :=
  ∀ first ∈ (w.market.auctions auctionId).shieldedCommitments,
    ∀ second ∈ (w.market.auctions auctionId).shieldedCommitments, name first = name second → first = second

theorem filter_shieldedEntries (listed : w.Listed auctionId) {used : Bytes32 → Bytes32}
    (distinct : w.Distinct auctionId used)
    (member : commitmentHash ∈ (w.market.auctions auctionId).shieldedCommitments) :
    (w.shieldedEntries auctionId used).filter
        (fun bid => bid.bidder = .hash (used commitmentHash) ∧ bid.isShielded) =
      [w.shieldedEntry auctionId (used commitmentHash) commitmentHash] := by
  refine filter_map_unique listed.shieldedLane.nodup member fun other known => ?_
  simp only [shieldedEntry, Keeper.Text.hash.injEq, and_true, decide_eq_true_eq]
  exact ⟨distinct other known commitmentHash member, fun same => by rw [same]⟩

/-- Only the shielded half of the list can be wrong. -/
theorem complete_iff (listed : w.Listed auctionId) {used name : Bytes32 → Bytes32} :
    w.Complete auctionId name (w.publicEntries auctionId ++ w.shieldedEntries auctionId used) ↔
      (∀ c ∈ (w.market.auctions auctionId).shieldedCommitments,
        (w.shieldedEntries auctionId used).filter (fun bid => bid.bidder = .hash (name c) ∧ bid.isShielded) =
          [w.shieldedEntry auctionId (name c) c]) ∧ w.Distinct auctionId name := by
  have publicHalf : ∀ n, (w.publicEntries auctionId).filter
      (fun bid => bid.bidder = .hash n ∧ bid.isShielded) = [] := by
    intro n
    rw [publicEntries, List.filter_map, List.map_eq_nil_iff, List.filter_eq_nil_iff]
    exact fun bidder _ picked => by simp [publicEntry] at picked
  have shieldedHalf : ∀ bidder, (w.shieldedEntries auctionId used).filter
      (fun bid => bid.bidder = .account bidder ∧ ¬ bid.isShielded) = [] := by
    intro bidder
    rw [shieldedEntries, List.filter_map, List.map_eq_nil_iff, List.filter_eq_nil_iff]
    exact fun c _ picked => by simp [shieldedEntry] at picked
  constructor
  · rintro ⟨-, shieldedBids, named, -⟩
    refine ⟨fun c member => ?_, named⟩
    have same := shieldedBids c member
    rwa [List.filter_append, publicHalf, List.nil_append] at same
  · rintro ⟨shieldedBids, named⟩
    refine ⟨fun bidder member => ?_, fun c member => ?_, named, ?_⟩
    · rw [List.filter_append, shieldedHalf, List.append_nil]
      exact filter_map_unique listed.publicLane.nodup member fun other _ => by simp [publicEntry]
    · rw [List.filter_append, publicHalf, List.nil_append]
      exact shieldedBids c member
    · rw [List.length_append, publicEntries, shieldedEntries, List.length_map, List.length_map]

theorem complete_of_distinct (listed : w.Listed auctionId) {used : Bytes32 → Bytes32}
    (distinct : w.Distinct auctionId used) :
    w.Complete auctionId used (w.publicEntries auctionId ++ w.shieldedEntries auctionId used) :=
  (complete_iff listed).mpr ⟨fun _ member => filter_shieldedEntries listed distinct member, distinct⟩

theorem Coherent.pinned_distinct (coherent : w.Coherent env auctionId)
    (running : (w.market.auctions auctionId).auction.state.running = true) :
    w.Distinct auctionId (w.pinnedIdentity auctionId) := by
  intro first member second other same
  obtain ⟨vault, registry, standing⟩ := coherent.standing running member
  obtain ⟨_, _, beside⟩ := coherent.standing running other
  obtain rfl := Option.some.inj (standing.registered.symm.trans beside.registered)
  rw [standing.pinnedIdentity_eq, beside.pinnedIdentity_eq] at same
  exact (coherent.aliased.paired _ _ standing.registered).injective standing.named same

/-- Where entries keep their commitment, the entry of one under another name is that of the commitment
with this name, and has to be equal. -/
theorem filter_unnamed_iff (listed : w.Listed auctionId) (name : Bytes32) :
    (w.shieldedEntries auctionId id).filter (fun bid => bid.bidder = .hash name ∧ bid.isShielded) =
        [w.shieldedEntry auctionId name commitmentHash] ↔
      name ∈ (w.market.auctions auctionId).shieldedCommitments ∧
        (w.market.auctions auctionId).shieldedEncryptedBids name =
          (w.market.auctions auctionId).shieldedEncryptedBids commitmentHash ∧
        w.pinnedEscrow auctionId name = w.pinnedEscrow auctionId commitmentHash := by
  have distinct : w.Distinct auctionId id := fun _ _ _ _ same => same
  constructor
  · intro picked
    have known : name ∈ (w.market.auctions auctionId).shieldedCommitments := by
      have present : w.shieldedEntry auctionId name commitmentHash ∈ w.shieldedEntries auctionId id := by
        apply List.mem_of_mem_filter
        rw [picked]
        exact List.mem_singleton_self _
      obtain ⟨other, member, same⟩ := List.mem_map.mp present
      injection same with same
      injection same with same
      rw [← same]
      exact member
    have own := filter_shieldedEntries listed distinct known
    rw [id, picked] at own
    injection own with own
    injection own with _ handle escrow
    injection handle with handle
    exact ⟨known, handle.symm, Int.ofNat.inj escrow.symm⟩
  · rintro ⟨known, handle, escrow⟩
    have own := filter_shieldedEntries listed distinct known
    rw [id] at own
    rw [own, shieldedEntry, shieldedEntry, handle, escrow]

/-- The names the keeper uses are those the market knows, or stand for the same bids. -/
theorem Coherent.complete_pinned_iff (coherent : w.Coherent env auctionId)
    (running : (w.market.auctions auctionId).auction.state.running = true) (asks : w.AsksOwn) :
    w.Complete auctionId (w.pinnedIdentity auctionId)
        (w.publicEntries auctionId ++ w.shieldedEntries auctionId (w.currentName env account auctionId)) ↔
      w.ReadsIdentities auctionId := by
  have listed := coherent.listed
  by_cases pinned : w.market.shieldedIdentityRegistry = (w.snapshot auctionId).shieldedIdentityRegistry
  · have same : w.shieldedEntries auctionId (w.currentName env account auctionId) =
        w.shieldedEntries auctionId (w.pinnedIdentity auctionId) := by
      refine List.map_congr_left fun c member => ?_
      obtain ⟨_, _, standing⟩ := coherent.standing running member
      rw [standing.currentName_pinned coherent.wired pinned]
    rw [same]
    exact ⟨fun _ => .inl pinned, fun _ => complete_of_distinct listed (coherent.pinned_distinct running)⟩
  · have same : w.currentName env account auctionId = id :=
      funext fun c => coherent.aliased.currentName_rotated asks c pinned
    rw [complete_iff listed, same]
    constructor
    · rintro ⟨shieldedBids, -⟩
      exact .inr fun c member => (filter_unnamed_iff listed _).mp (shieldedBids c member)
    · intro reads
      refine ⟨fun c member => ?_, coherent.pinned_distinct running⟩
      exact (filter_unnamed_iff listed _).mpr (reads.resolve_left pinned c member)

theorem Coherent.current_distinct (coherent : w.Coherent env auctionId)
    (running : (w.market.auctions auctionId).auction.state.running = true) (asks : w.AsksOwn) :
    w.Distinct auctionId (w.currentName env account auctionId) := by
  intro first member second other same
  by_cases pinned : w.market.shieldedIdentityRegistry = (w.snapshot auctionId).shieldedIdentityRegistry
  · obtain ⟨_, _, standing⟩ := coherent.standing running member
    obtain ⟨_, _, beside⟩ := coherent.standing running other
    rw [standing.currentName_pinned coherent.wired pinned, beside.currentName_pinned coherent.wired pinned] at same
    exact coherent.pinned_distinct running first member second other same
  · rwa [coherent.aliased.currentName_rotated asks first pinned,
      coherent.aliased.currentName_rotated asks second pinned] at same

/-- From contracts of this repository the keeper gets the whole book, under names of their own, exactly
if there are no commitments or it reads the deposits. -/
theorem Coherent.complete_iff_reads (coherent : w.Coherent env auctionId)
    (running : (w.market.auctions auctionId).auction.state.running = true) (asks : w.AsksOwn)
    (collected : w.collectEncryptedBidsFromChain env account auctionId = .ok bids) :
    (∃ name, w.Complete auctionId name bids) ↔
      (w.market.auctions auctionId).shieldedCommitments = [] ∨ w.ReadsDeposits account auctionId := by
  have found := coherent.wired.found_of_running running
  constructor
  · rintro ⟨name, complete⟩
    refine or_iff_not_imp_left.mpr fun nonempty => ?_
    obtain ⟨c, listed⟩ := List.exists_mem_of_ne_nil _ nonempty
    obtain ⟨set, amount, shown⟩ := collect_counted found collected complete.counted listed
    exact coherent.readsDeposits_of_shows running asks set shown
  · intro reads
    rw [collect_shows found ((coherent.showsDeposits_iff running asks).mpr reads) collected]
    exact ⟨_, complete_of_distinct coherent.listed (coherent.current_distinct running asks)⟩

/-- Under the names the market knows it is complete exactly if, further, it reads the identities. -/
theorem Coherent.complete_iff_named (coherent : w.Coherent env auctionId)
    (running : (w.market.auctions auctionId).auction.state.running = true) (asks : w.AsksOwn)
    (collected : w.collectEncryptedBidsFromChain env account auctionId = .ok bids) :
    w.Complete auctionId (w.pinnedIdentity auctionId) bids ↔
      ((w.market.auctions auctionId).shieldedCommitments = [] ∨ w.ReadsDeposits account auctionId) ∧
        w.ReadsIdentities auctionId := by
  have found := coherent.wired.found_of_running running
  constructor
  · intro complete
    have reads := (coherent.complete_iff_reads running asks collected).mp ⟨_, complete⟩
    refine ⟨reads, ?_⟩
    rw [collect_shows found ((coherent.showsDeposits_iff running asks).mpr reads) collected] at complete
    exact (coherent.complete_pinned_iff running asks).mp complete
  · rintro ⟨reads, names⟩
    rw [collect_shows found ((coherent.showsDeposits_iff running asks).mpr reads) collected]
    exact (coherent.complete_pinned_iff running asks).mpr names

end World

end FairMarket
