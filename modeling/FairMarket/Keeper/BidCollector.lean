import FairMarket.Market.Listed

/-! The bid book the keeper reads off the chain. It asks the vault and the registry the
market is wired to now, not the ones the auction was created with. -/

namespace FairMarket

open Keeper (EncryptedBidRecord)

variable {σ : Type}

namespace World

def getBidders (w : World σ) (auctionId : AuctionId) : Except Revert (List Address) := do
  let cell ← w.auctionExists auctionId
  return cell.bidders

def getShieldedCommitments (w : World σ) (auctionId : AuctionId) : Except Revert (List Bytes32) := do
  let cell ← w.auctionExists auctionId
  return cell.shieldedCommitments

def getEncryptedBid (w : World σ) (auctionId : AuctionId) (bidder : Address) : Except Revert Bytes32 := do
  let cell ← w.auctionExists auctionId
  return cell.encryptedBids bidder

def getShieldedEncryptedBid (w : World σ) (auctionId : AuctionId) (commitmentHash : Bytes32) :
    Except Revert Bytes32 := do
  let cell ← w.auctionExists auctionId
  return cell.shieldedEncryptedBids commitmentHash

/-- The turn of the first loop for one bidder. -/
def collectPublicBid (w : World σ) (auctionId : AuctionId) (bidder : Address) :
    Except Revert EncryptedBidRecord := do
  let encryptedBid ← w.getEncryptedBid auctionId bidder
  return {
    bidder := .account bidder
    encryptedBid := .hash encryptedBid
    availableEscrow := (w.market.auctions auctionId).escrowBalances bidder
    isShielded := false }

/-- The views of whatever contract is at an address, as the keeper's account sees them. -/
def commitmentState (env : External σ) (w : World σ) (account shieldedVaultAddress : Address)
    (commitmentHash : Bytes32) : Except Revert (AuctionId × Bool × Bool) :=
  match w.vaults shieldedVaultAddress with
  | some vault => return vault.commitmentState commitmentHash
  | none => requireSome (env.commitmentState w.outside shieldedVaultAddress account commitmentHash) .callFailed

def previewCommitment (env : External σ) (w : World σ) (account shieldedVaultAddress : Address)
    (commitmentHash : Bytes32) : Except Revert (AuctionId × ℕ × Bool × Bool) :=
  match w.vaults shieldedVaultAddress with
  | some vault => vault.previewCommitment account commitmentHash
  | none => requireSome (env.previewCommitment w.outside shieldedVaultAddress account commitmentHash) .callFailed

def identityForCommitment (env : External σ) (w : World σ) (account shieldedRegistryAddress : Address)
    (auctionId : AuctionId) (commitmentHash : Bytes32) : Except Revert Bytes32 :=
  match w.registries shieldedRegistryAddress with
  | some registry => return registry.identityForCommitment auctionId commitmentHash
  | none =>
    requireSome (env.identityForCommitment w.outside shieldedRegistryAddress account auctionId commitmentHash)
      .callFailed

/-- The identity a registry has for a commitment, zero where no registry is set. -/
def identityIn (env : External σ) (w : World σ) (account shieldedRegistryAddress : Address)
    (auctionId : AuctionId) (commitmentHash : Bytes32) : Except Revert Bytes32 :=
  if shieldedRegistryAddress = 0 then return 0
  else w.identityForCommitment env account shieldedRegistryAddress auctionId commitmentHash

/-- The turn of the second loop for one commitment, `none` where it goes on without an
entry. -/
def collectShieldedBid (env : External σ) (w : World σ) (account : Address) (auctionId : AuctionId)
    (shieldedVaultAddress shieldedRegistryAddress : Address) (commitmentHash : Bytes32) :
    Except Revert (Option EncryptedBidRecord) := do
  let (commitmentAuctionId, refundUnlocked, claimed) ←
    w.commitmentState env account shieldedVaultAddress commitmentHash
  if commitmentAuctionId ≠ auctionId ∨ refundUnlocked ∨ claimed then return none
  else
    match w.previewCommitment env account shieldedVaultAddress commitmentHash with
    | .error _ => return none
    | .ok (previewAuctionId, availableEscrow, previewRefundUnlocked, previewClaimed) =>
      if previewAuctionId ≠ auctionId ∨ previewRefundUnlocked ∨ previewClaimed then return none
      else
        let identityHash ← w.identityIn env account shieldedRegistryAddress auctionId commitmentHash
        let encryptedBid ← w.getShieldedEncryptedBid auctionId commitmentHash
        return some {
          bidder := .hash (if identityHash = 0 then commitmentHash else identityHash)
          encryptedBid := .hash encryptedBid
          availableEscrow
          isShielded := true }

def collectEncryptedBidsFromChain (env : External σ) (w : World σ) (account : Address) (auctionId : AuctionId) :
    Except Revert (List EncryptedBidRecord) := do
  let bidders ← w.getBidders auctionId
  let shieldedCommitments ← w.getShieldedCommitments auctionId
  let bids ← bidders.mapM (w.collectPublicBid auctionId)
  if shieldedCommitments.length > 0 ∧ w.market.shieldedEscrowVault ≠ 0 then
    let shieldedBids ← shieldedCommitments.mapM (w.collectShieldedBid env account auctionId
      w.market.shieldedEscrowVault w.market.shieldedIdentityRegistry)
    return bids ++ shieldedBids.reduceOption
  else return bids

/-- The identity the auction's own registry, pinned at its creation, has for a commitment. -/
def pinnedIdentity (w : World σ) (auctionId : AuctionId) (commitmentHash : Bytes32) : Bytes32 :=
  match w.registries (w.snapshot auctionId).shieldedIdentityRegistry with
  | none => 0
  | some registry => registry.identityForCommitment auctionId commitmentHash

/-- The escrow the auction's own vault holds for a commitment. -/
def pinnedEscrow (w : World σ) (auctionId : AuctionId) (commitmentHash : Bytes32) : ℕ :=
  match w.vaults (w.snapshot auctionId).shieldedEscrowVault with
  | none => 0
  | some vault => (vault.commitments commitmentHash).amount

def publicEntry (w : World σ) (auctionId : AuctionId) (bidder : Address) : EncryptedBidRecord where
  bidder := .account bidder
  encryptedBid := .hash ((w.market.auctions auctionId).encryptedBids bidder)
  availableEscrow := (w.market.auctions auctionId).escrowBalances bidder

def publicEntries (w : World σ) (auctionId : AuctionId) : List EncryptedBidRecord :=
  (w.market.auctions auctionId).bidders.map (w.publicEntry auctionId)

def shieldedEntry (w : World σ) (auctionId : AuctionId) (name commitmentHash : Bytes32) : EncryptedBidRecord where
  bidder := .hash name
  encryptedBid := .hash ((w.market.auctions auctionId).shieldedEncryptedBids commitmentHash)
  availableEscrow := w.pinnedEscrow auctionId commitmentHash
  isShielded := true

/-- The entry of a commitment for which a vault has shown an amount. -/
def shownEntry (w : World σ) (auctionId : AuctionId) (amount : ℕ) (name commitmentHash : Bytes32) :
    EncryptedBidRecord :=
  { w.shieldedEntry auctionId name commitmentHash with availableEscrow := amount }

/-- The shielded half of a list, with the names it uses for the commitments. -/
def shieldedEntries (w : World σ) (auctionId : AuctionId) (used : Bytes32 → Bytes32) : List EncryptedBidRecord :=
  (w.market.auctions auctionId).shieldedCommitments.map fun commitmentHash =>
    w.shieldedEntry auctionId (used commitmentHash) commitmentHash

/-- The list has one entry for each bidder and one for each commitment, in the market's order,
with what is stored and what the auction's own vault holds. -/
def Whole (w : World σ) (auctionId : AuctionId) (bids : List EncryptedBidRecord) : Prop :=
  ∃ name, bids = w.publicEntries auctionId ++ w.shieldedEntries auctionId name

/-- The vault shows the account the commitment open in the auction, with an amount. -/
structure Shows (env : External σ) (w : World σ) (account vaultAddress : Address) (auctionId : AuctionId)
    (commitmentHash : Bytes32) (amount : ℕ) : Prop where
  state : w.commitmentState env account vaultAddress commitmentHash = .ok (auctionId, false, false)
  preview : w.previewCommitment env account vaultAddress commitmentHash = .ok (auctionId, amount, false, false)

/-- The vault that is set tells the state of each commitment, and the registry that is set the
identity of each one the vault shows. -/
def Answers (env : External σ) (w : World σ) (account : Address) (auctionId : AuctionId) : Prop :=
  w.market.shieldedEscrowVault ≠ 0 → ∀ commitmentHash ∈ (w.market.auctions auctionId).shieldedCommitments,
    (∃ state, w.commitmentState env account w.market.shieldedEscrowVault commitmentHash = .ok state) ∧
    ∀ amount, w.Shows env account w.market.shieldedEscrowVault auctionId commitmentHash amount →
      ∃ identityHash, w.identityIn env account w.market.shieldedIdentityRegistry auctionId commitmentHash =
        .ok identityHash

/-- A vault is set, and shows each commitment with what the auction's own vault holds. -/
def ShowsDeposits (env : External σ) (w : World σ) (account : Address) (auctionId : AuctionId) : Prop :=
  ∀ commitmentHash ∈ (w.market.auctions auctionId).shieldedCommitments, w.market.shieldedEscrowVault ≠ 0 ∧
    w.Shows env account w.market.shieldedEscrowVault auctionId commitmentHash (w.pinnedEscrow auctionId commitmentHash)

/-- The name an entry gets from the registry the market is wired to now. -/
def currentName (env : External σ) (w : World σ) (account : Address) (auctionId : AuctionId)
    (commitmentHash : Bytes32) : Bytes32 :=
  match w.identityIn env account w.market.shieldedIdentityRegistry auctionId commitmentHash with
  | .error _ => commitmentHash
  | .ok identityHash => if identityHash = 0 then commitmentHash else identityHash

variable {env : External σ} {w : World σ} {account vaultAddress registryAddress : Address} {auctionId : AuctionId}
  {commitmentHash : Bytes32} {vault : ShieldedEscrowVault} {registry : ShieldedIdentityRegistry}
  {bids : List EncryptedBidRecord}

theorem auctionExists_eq (found : (w.market.auctions auctionId).auction.exists_ = true) :
    w.auctionExists auctionId = .ok (w.market.auctions auctionId) :=
  auctionExists_ok.mpr ⟨found, rfl⟩

/-- A vault shows one amount at most. -/
theorem Shows.unique {first second : ℕ} (left : w.Shows env account vaultAddress auctionId commitmentHash first)
    (right : w.Shows env account vaultAddress auctionId commitmentHash second) : first = second := by
  have same := Except.ok.inj (left.preview.symm.trans right.preview)
  simpa using same

/-- A commitment that the vault does not show is left out without an error. -/
theorem collectShieldedBid_skips {state : AuctionId × Bool × Bool}
    (told : w.commitmentState env account vaultAddress commitmentHash = .ok state)
    (unshown : ∀ amount, ¬ w.Shows env account vaultAddress auctionId commitmentHash amount) :
    w.collectShieldedBid env account auctionId vaultAddress registryAddress commitmentHash = .ok none := by
  obtain ⟨commitmentAuctionId, refundUnlocked, claimed⟩ := state
  unfold collectShieldedBid
  rw [told, ok_bind]
  dsimp only
  split
  · rfl
  · rename_i opened
    obtain ⟨rfl, rfl, rfl⟩ : commitmentAuctionId = auctionId ∧ refundUnlocked = false ∧ claimed = false := by
      simpa using opened
    cases previews : w.previewCommitment env account vaultAddress commitmentHash with
    | error raised => rfl
    | ok preview =>
      obtain ⟨previewAuctionId, availableEscrow, previewRefundUnlocked, previewClaimed⟩ := preview
      refine if_pos ?_
      by_contra opened
      obtain ⟨rfl, rfl, rfl⟩ : previewAuctionId = commitmentAuctionId ∧ previewRefundUnlocked = false ∧
          previewClaimed = false := by simpa using opened
      exact unshown availableEscrow ⟨told, previews⟩

/-- One that it shows needs its identity, and has its entry. -/
theorem collectShieldedBid_shows (found : (w.market.auctions auctionId).auction.exists_ = true) {amount : ℕ}
    (shown : w.Shows env account vaultAddress auctionId commitmentHash amount) :
    w.collectShieldedBid env account auctionId vaultAddress registryAddress commitmentHash = do
      let identityHash ← w.identityIn env account registryAddress auctionId commitmentHash
      return some (w.shownEntry auctionId amount (if identityHash = 0 then commitmentHash else identityHash)
        commitmentHash) := by
  simp only [collectShieldedBid, shown.state, shown.preview, ok_bind, getShieldedEncryptedBid, auctionExists_eq found,
    pure_eq_ok, ne_eq, not_true_eq_false, Bool.false_eq_true, or_self, if_false, shownEntry, shieldedEntry]

/-- A turn needs the state of its commitment, and its identity where the vault shows it. -/
theorem collectShieldedBid_ok (found : (w.market.auctions auctionId).auction.exists_ = true)
    {turn : Option EncryptedBidRecord} :
    w.collectShieldedBid env account auctionId vaultAddress registryAddress commitmentHash = .ok turn ↔
      (∃ state, w.commitmentState env account vaultAddress commitmentHash = .ok state) ∧
        (turn = none ∧ (∀ amount, ¬ w.Shows env account vaultAddress auctionId commitmentHash amount) ∨
          ∃ amount identityHash, w.Shows env account vaultAddress auctionId commitmentHash amount ∧
            w.identityIn env account registryAddress auctionId commitmentHash = .ok identityHash ∧
            turn = some (w.shownEntry auctionId amount
              (if identityHash = 0 then commitmentHash else identityHash) commitmentHash)) := by
  by_cases shows_ : ∃ amount, w.Shows env account vaultAddress auctionId commitmentHash amount
  · obtain ⟨amount, shown⟩ := shows_
    rw [collectShieldedBid_shows found shown]
    simp only [bind_eq_ok, pure_eq_ok, Except.ok.injEq]
    constructor
    · rintro ⟨identityHash, known, rfl⟩
      exact ⟨⟨_, shown.state⟩, .inr ⟨amount, identityHash, shown, known, rfl⟩⟩
    · rintro ⟨-, ⟨-, unshown⟩ | ⟨other, identityHash, also, known, rfl⟩⟩
      · exact absurd shown (unshown amount)
      · exact ⟨identityHash, known, by rw [shown.unique also]⟩
  · have unshown := not_exists.mp shows_
    cases told : w.commitmentState env account vaultAddress commitmentHash with
    | error raised =>
      unfold collectShieldedBid
      rw [told]
      simp [bind, Except.bind]
    | ok state =>
      rw [collectShieldedBid_skips told unshown, Except.ok.injEq]
      constructor
      · exact fun same => ⟨⟨state, rfl⟩, .inl ⟨same.symm, unshown⟩⟩
      · rintro ⟨-, ⟨same, -⟩ | ⟨amount, _, shown, -⟩⟩
        · exact same.symm
        · exact absurd shown (unshown amount)

theorem collectPublicBids_eq (found : (w.market.auctions auctionId).auction.exists_ = true) :
    (w.market.auctions auctionId).bidders.mapM (w.collectPublicBid auctionId) = .ok (w.publicEntries auctionId) := by
  refine mapM_eq_map fun bidder _ => ?_
  simp only [collectPublicBid, getEncryptedBid, auctionExists_eq found, ok_bind, pure_eq_ok, publicEntry]

/-- What is collected is the public bids, and what the turns for the commitments have given. -/
theorem collect_ok (found : (w.market.auctions auctionId).auction.exists_ = true) :
    w.collectEncryptedBidsFromChain env account auctionId = .ok bids ↔
      ((w.market.auctions auctionId).shieldedCommitments = [] ∨ w.market.shieldedEscrowVault = 0) ∧
          bids = w.publicEntries auctionId ∨
        w.market.shieldedEscrowVault ≠ 0 ∧ ∃ turns,
          (w.market.auctions auctionId).shieldedCommitments.mapM (w.collectShieldedBid env account auctionId
            w.market.shieldedEscrowVault w.market.shieldedIdentityRegistry) = .ok turns ∧
          bids = w.publicEntries auctionId ++ turns.reduceOption := by
  simp only [collectEncryptedBidsFromChain, getBidders, getShieldedCommitments, auctionExists_eq found,
    ok_bind, pure_eq_ok, collectPublicBids_eq found]
  split
  · rename_i asked
    simp only [bind_eq_ok, Except.ok.injEq]
    constructor
    · rintro ⟨turns, taken, rfl⟩
      exact .inr ⟨asked.2, turns, taken, rfl⟩
    · rintro (⟨unasked, -⟩ | ⟨-, turns, taken, rfl⟩)
      · rcases unasked with empty | unset
        · rw [empty] at asked
          exact absurd asked.1 (Nat.lt_irrefl 0)
        · exact absurd unset asked.2
      · exact ⟨turns, taken, rfl⟩
  · rename_i unasked
    rw [Except.ok.injEq]
    constructor
    · rintro rfl
      refine .inl ⟨?_, rfl⟩
      by_contra neither
      obtain ⟨nonempty, set⟩ := not_or.mp neither
      exact unasked ⟨List.length_pos_of_ne_nil nonempty, set⟩
    · rintro (⟨-, rfl⟩ | ⟨set, turns, taken, rfl⟩)
      · rfl
      · have empty : (w.market.auctions auctionId).shieldedCommitments = [] := by
          by_contra nonempty
          exact unasked ⟨List.length_pos_of_ne_nil nonempty, set⟩
        rw [empty] at taken
        obtain rfl := Except.ok.inj taken
        exact (List.append_nil _).symm

/-- The keeper gets a list exactly if it is answered what it cannot do without. -/
theorem collect_succeeds_iff (found : (w.market.auctions auctionId).auction.exists_ = true) :
    (∃ bids, w.collectEncryptedBidsFromChain env account auctionId = .ok bids) ↔ w.Answers env account auctionId := by
  have turns : (∀ c ∈ (w.market.auctions auctionId).shieldedCommitments, ∃ turn, w.collectShieldedBid env account
      auctionId w.market.shieldedEscrowVault w.market.shieldedIdentityRegistry c = .ok turn) ↔
      ∀ c ∈ (w.market.auctions auctionId).shieldedCommitments,
        (∃ state, w.commitmentState env account w.market.shieldedEscrowVault c = .ok state) ∧
        ∀ amount, w.Shows env account w.market.shieldedEscrowVault auctionId c amount →
          ∃ identityHash, w.identityIn env account w.market.shieldedIdentityRegistry auctionId c = .ok identityHash := by
    refine forall₂_congr fun c _ => ?_
    simp only [collectShieldedBid_ok found]
    constructor
    · rintro ⟨turn, state, ⟨-, unshown⟩ | ⟨_, identityHash, -, known, -⟩⟩
      · exact ⟨state, fun amount shown => absurd shown (unshown amount)⟩
      · exact ⟨state, fun _ _ => ⟨identityHash, known⟩⟩
    · rintro ⟨state, named⟩
      by_cases shown : ∃ amount, w.Shows env account w.market.shieldedEscrowVault auctionId c amount
      · obtain ⟨amount, shown⟩ := shown
        obtain ⟨identityHash, known⟩ := named amount shown
        exact ⟨_, state, .inr ⟨amount, identityHash, shown, known, rfl⟩⟩
      · exact ⟨none, state, .inl ⟨rfl, not_exists.mp shown⟩⟩
  unfold Answers
  rw [← turns, ← mapM_succeeds_iff]
  constructor
  · rintro ⟨bids, collected⟩ set
    rcases (collect_ok found).mp collected with ⟨empty | unset, -⟩ | ⟨-, turns, taken, -⟩
    · rw [empty]
      exact ⟨[], rfl⟩
    · exact absurd unset set
    · exact ⟨turns, taken⟩
  · intro answers
    by_cases unset : w.market.shieldedEscrowVault = 0
    · exact ⟨_, (collect_ok found).mpr (.inl ⟨.inr unset, rfl⟩)⟩
    · obtain ⟨turns, taken⟩ := answers unset
      exact ⟨_, (collect_ok found).mpr (.inr ⟨unset, turns, taken, rfl⟩)⟩

/-- Where the deposits are shown the list has all of them, under the names the registry gives. -/
theorem collect_shows (found : (w.market.auctions auctionId).auction.exists_ = true)
    (shows_ : w.ShowsDeposits env account auctionId)
    (collected : w.collectEncryptedBidsFromChain env account auctionId = .ok bids) :
    bids = w.publicEntries auctionId ++ w.shieldedEntries auctionId (w.currentName env account auctionId) := by
  rcases (collect_ok found).mp collected with ⟨unasked, rfl⟩ | ⟨set, turns, taken, rfl⟩
  · have empty : (w.market.auctions auctionId).shieldedCommitments = [] := by
      rcases unasked with empty | unset
      · exact empty
      · exact List.eq_nil_iff_forall_not_mem.mpr fun c listed => (shows_ c listed).1 unset
    rw [shieldedEntries, empty, List.map_nil, List.append_nil]
  · have entries : ∀ c ∈ (w.market.auctions auctionId).shieldedCommitments,
        w.collectShieldedBid env account auctionId w.market.shieldedEscrowVault w.market.shieldedIdentityRegistry c =
          .ok (some (w.shieldedEntry auctionId (w.currentName env account auctionId c) c)) := by
      intro c listed
      obtain ⟨turn, -, took⟩ := exists_of_mapM_eq_ok taken listed
      have shown := (shows_ c listed).2
      obtain ⟨-, ⟨-, unshown⟩ | ⟨amount, identityHash, also, known, rfl⟩⟩ := (collectShieldedBid_ok found).mp took
      · exact absurd shown (unshown _)
      · rw [took, currentName, known, ← shown.unique also]
        rfl
    rw [mapM_eq_map entries] at taken
    obtain rfl := Except.ok.inj taken
    simp only [List.reduceOption, List.filterMap_map, Function.comp_def, id, List.filterMap_eq_map', shieldedEntries]

/-- With as many entries as bidders and commitments no turn has been left out. -/
theorem turns_counted {turns : List (Option EncryptedBidRecord)}
    (taken : (w.market.auctions auctionId).shieldedCommitments.mapM (w.collectShieldedBid env account auctionId
      vaultAddress registryAddress) = .ok turns)
    (counted : (w.publicEntries auctionId ++ turns.reduceOption).length =
      (w.market.auctions auctionId).bidders.length + (w.market.auctions auctionId).shieldedCommitments.length) :
    turns = turns.reduceOption.map some := by
  rw [List.length_append, publicEntries, List.length_map, (mapM_eq_ok.mp taken).length_eq] at counted
  exact eq_map_some_of_reduceOption (List.reduceOption_length_eq_iff.mp (Nat.add_left_cancel counted))

theorem collect_counted (found : (w.market.auctions auctionId).auction.exists_ = true)
    (collected : w.collectEncryptedBidsFromChain env account auctionId = .ok bids)
    (counted : bids.length =
      (w.market.auctions auctionId).bidders.length + (w.market.auctions auctionId).shieldedCommitments.length)
    (listed : commitmentHash ∈ (w.market.auctions auctionId).shieldedCommitments) :
    w.market.shieldedEscrowVault ≠ 0 ∧
      ∃ amount, w.Shows env account w.market.shieldedEscrowVault auctionId commitmentHash amount := by
  have nonempty := List.length_pos_of_mem listed
  rcases (collect_ok found).mp collected with ⟨-, rfl⟩ | ⟨set, turns, taken, rfl⟩
  · rw [publicEntries, List.length_map] at counted
    omega
  · obtain ⟨turn, member, took⟩ := exists_of_mapM_eq_ok taken listed
    rw [turns_counted taken counted] at member
    obtain ⟨entry, -, rfl⟩ := List.mem_map.mp member
    obtain ⟨-, ⟨none, -⟩ | ⟨amount, identityHash, shown, -, -⟩⟩ := (collectShieldedBid_ok found).mp took
    · cases none
    · exact ⟨set, amount, shown⟩

/-- A list is the whole book exactly if the vault that is asked shows the deposits. -/
theorem whole_iff (found : (w.market.auctions auctionId).auction.exists_ = true)
    (collected : w.collectEncryptedBidsFromChain env account auctionId = .ok bids) :
    w.Whole auctionId bids ↔ w.ShowsDeposits env account auctionId := by
  refine ⟨fun ⟨name, whole⟩ c listed => ?_, fun shows_ => ⟨_, collect_shows found shows_ collected⟩⟩
  have counted : bids.length =
      (w.market.auctions auctionId).bidders.length + (w.market.auctions auctionId).shieldedCommitments.length := by
    rw [whole, List.length_append, publicEntries, shieldedEntries, List.length_map, List.length_map]
  obtain ⟨set, amount, shown⟩ := collect_counted found collected counted listed
  rcases (collect_ok found).mp collected with ⟨unasked, -⟩ | ⟨-, turns, taken, rfl⟩
  · exact (unasked.elim (List.ne_nil_of_mem listed) set).elim
  · have took := mapM_eq_ok.mp taken
    rw [turns_counted taken counted, List.append_cancel_left whole, shieldedEntries, List.map_map] at took
    have turn := List.forall₂_same.mp (List.forall₂_map_right_iff.mp took) c listed
    obtain ⟨-, ⟨none, -⟩ | ⟨amount, identityHash, also, -, entry⟩⟩ := (collectShieldedBid_ok found).mp turn
    · cases none
    · have escrow := congrArg EncryptedBidRecord.availableEscrow (Option.some.inj entry)
      refine ⟨set, ?_⟩
      rwa [show w.pinnedEscrow auctionId c = amount from Int.ofNat.inj escrow]

end World

end FairMarket
