import FairMarket.Market.Accounted
import FairMarket.Market.Custody

/-! Whom a shielded commitment belongs to. A vault takes a new lock of a commitment
that a settlement has emptied, so the record a winner depends on lasts only where
nobody does that. -/

namespace FairMarket

namespace ShieldedEscrowVault

/-- Recorded under an auction, emptied by its settlement, and free to be locked again. -/
def Reusable (vault : ShieldedEscrowVault) (commitmentHash : Bytes32) : Prop :=
  (vault.commitments commitmentHash).auctionId ≠ 0 ∧ (vault.commitments commitmentHash).amount = 0 ∧
    (vault.commitments commitmentHash).claimed = false

structure Records (vault : ShieldedEscrowVault) (commitmentHash : Bytes32) (auctionId : AuctionId)
    (claimAuthority : Address) : Prop where
  auctionId : (vault.commitments commitmentHash).auctionId = auctionId
  claimAuthority : (vault.commitments commitmentHash).claimAuthority = claimAuthority

/-- Every recorded commitment has somebody to sign for it. -/
def Authorized (vault : ShieldedEscrowVault) : Prop :=
  ∀ c, (vault.commitments c).auctionId ≠ 0 → (vault.commitments c).claimAuthority ≠ 0

theorem lockEscrow_authorized {vault changed : ShieldedEscrowVault} {sender claimAuthority : Address}
    {value : ℕ} {auctionId : AuctionId} {commitmentHash : Bytes32} (authorized : vault.Authorized)
    (locks : vault.lockEscrow sender value auctionId commitmentHash claimAuthority = .ok changed) :
    changed.Authorized := by
  obtain ⟨⟨-, -, -, known, -⟩, rfl⟩ := lockEscrow_ok.mp locks
  intro c recorded
  dsimp only at recorded ⊢
  by_cases own : c = commitmentHash
  · rw [own, Function.update_self]
    exact known
  · rw [Function.update_of_ne own] at recorded ⊢
    exact authorized c recorded

/-- A lock of a commitment that is not reusable re-homes nothing that is recorded. -/
theorem Records.lockEscrow {vault changed : ShieldedEscrowVault} {sender claimAuthority authority : Address}
    {value : ℕ} {auctionId owner : AuctionId} {c commitmentHash : Bytes32}
    (records : vault.Records c owner authority) (live : owner ≠ 0)
    (fresh : ¬ vault.Reusable commitmentHash)
    (locks : vault.lockEscrow sender value auctionId commitmentHash claimAuthority = .ok changed) :
    changed.Records c owner authority := by
  obtain ⟨⟨-, -, -, -, vacant, unclaimed, -⟩, rfl⟩ := lockEscrow_ok.mp locks
  have other : c ≠ commitmentHash := by
    rintro rfl
    exact fresh ⟨by rw [records.auctionId]; exact live, vacant, unclaimed⟩
  constructor
  · dsimp only
    rw [Function.update_of_ne other]
    exact records.auctionId
  · dsimp only
    rw [Function.update_of_ne other]
    exact records.claimAuthority

end ShieldedEscrowVault

variable {σ : Type}

namespace World

/-- The transaction does not lock a commitment that is recorded but emptied. -/
def LocksFresh (w : World σ) (input : Msg × Tx σ) : Prop :=
  match input.2 with
  | .lockShieldedEscrow auctionId _ commitmentHash _ =>
    ∀ vault, w.vaults (w.snapshot auctionId).shieldedEscrowVault = some vault →
      ¬ vault.Reusable commitmentHash
  | _ => True

/-- The vaults still hold what was registered, registries bind only registered
commitments, and a winning identity is bound. -/
structure Recorded (w : World σ) : Prop where
  authorized : ∀ address vault, w.vaults address = some vault → vault.Authorized
  registered : ∀ auctionId commitmentHash claimAuthority,
    .shieldedClaimAuthorityRegistered auctionId commitmentHash claimAuthority ∈ w.log →
      (w.market.auctions auctionId).auction.exists_ = true ∧ ∃ vault,
        w.vaults (w.snapshot auctionId).shieldedEscrowVault = some vault ∧
          vault.Records commitmentHash auctionId claimAuthority
  bound : ∀ address registry auctionId identityHash, w.registries address = some registry →
    registry.identityToCommitment auctionId identityHash ≠ 0 → ∃ claimAuthority,
      .shieldedClaimAuthorityRegistered auctionId (registry.identityToCommitment auctionId identityHash)
        claimAuthority ∈ w.log
  winner : ∀ auctionId, (w.market.auctions auctionId).winningCommitment ≠ 0 →
    w.Bound auctionId (w.market.auctions auctionId).winningCommitment

variable {env : External σ} {w next : World σ} {msg : Msg} {auctionId : AuctionId}

theorem VaultMove.authorized {tx : Tx σ} {address : Address} {vault changed : ShieldedEscrowVault}
    (move : VaultMove env w msg tx address vault changed) (authorized : vault.Authorized) :
    changed.Authorized := by
  cases move with
  | driven requests permitted driven =>
    intro c recorded
    obtain ⟨about, authority⟩ := driven.recorded (fun request member => Allowed.free (permitted request member)) c
    rw [about] at recorded
    rw [authority]
    exact authorized c recorded
  | locked _ _ _ locks => exact ShieldedEscrowVault.lockEscrow_authorized authorized locks
  | refunded _ _ refunds =>
    intro c recorded
    obtain ⟨about, authority⟩ := (ShieldedEscrowVault.call_slot refunds c).recorded rfl
    rw [about] at recorded
    rw [authority]
    exact authorized c recorded

theorem VaultMove.records {tx : Tx σ} {address : Address} {vault changed : ShieldedEscrowVault}
    {c : Bytes32} {owner : AuctionId} {authority : Address}
    (move : VaultMove env w msg tx address vault changed) (deployed : w.vaults address = some vault)
    (fresh : w.LocksFresh (msg, tx)) (live : owner ≠ 0) (records : vault.Records c owner authority) :
    changed.Records c owner authority := by
  cases move with
  | driven requests permitted driven =>
    obtain ⟨about, authority⟩ := driven.recorded (fun request member => Allowed.free (permitted request member)) c
    exact ⟨about.trans records.auctionId, authority.trans records.claimAuthority⟩
  | locked same own _ locks =>
    subst same own
    exact records.lockEscrow live (fresh vault deployed) locks
  | refunded _ _ refunds =>
    obtain ⟨about, authority⟩ := (ShieldedEscrowVault.call_slot refunds c).recorded rfl
    exact ⟨about.trans records.auctionId, authority.trans records.claimAuthority⟩

/-- A bound identity stays bound, to the same commitment. -/
theorem Effects.bound {tx : Tx σ} (effects : Effects env w next msg tx)
    (same : next.snapshot auctionId = w.snapshot auctionId) {identityHash : Bytes32}
    (bound : w.Bound auctionId identityHash) : next.Bound auctionId identityHash := by
  obtain ⟨registry, deployed, nonzero⟩ := bound
  obtain ⟨changed, present, kept⟩ := effects.bindings.exists_after deployed
  refine ⟨changed, by rw [same]; exact present, ?_⟩
  rcases kept auctionId identityHash with old | ⟨vacant, -⟩
  · rw [old]
    exact nonzero
  · exact absurd vacant nonzero

theorem Recorded.step (recorded : w.Recorded) (wired : w.Wired env) {tx : Tx σ}
    (fresh : w.LocksFresh (msg, tx)) (done : w.transact env (msg, tx) = .ok next) : next.Recorded := by
  have effects := transact_effects wired done
  obtain ⟨-, -, -, touched, flow, transition⟩ := transact_transition wired done
  have kept := transition.kept
  have keeps : ∀ auctionId, (w.market.auctions auctionId).auction.exists_ = true →
      (next.market.auctions auctionId).auction.exists_ = true ∧
        next.snapshot auctionId = w.snapshot auctionId :=
    fun auctionId found => ⟨(kept auctionId).found found, (kept auctionId).snapshot found⟩
  constructor
  · intro address changed present
    obtain ⟨vault, before, move⟩ := effects.vaults.exists_before present
    exact move.authorized (recorded.authorized address vault before)
  · intro auctionId commitmentHash claimAuthority event
    rcases effects.registrations auctionId commitmentHash claimAuthority event with old | ⟨found, new⟩
    · obtain ⟨found, vault, deployed, records⟩ := recorded.registered _ _ _ old
      obtain ⟨still, same⟩ := keeps auctionId found
      obtain ⟨changed, present, move⟩ := effects.vaults.exists_after deployed
      refine ⟨still, changed, by rw [same]; exact present, ?_⟩
      exact move.records deployed fresh (wired.counted auctionId found).1 records
    · obtain ⟨still, same⟩ := keeps auctionId found
      obtain ⟨vault, present, about, authority⟩ := new
      exact ⟨still, vault, by rw [same]; exact present, about, authority⟩
  · intro address changed auctionId identityHash present nonzero
    obtain ⟨registry, before, bindings⟩ := effects.bindings.exists_before present
    rcases bindings auctionId identityHash with old | ⟨-, new⟩
    · rw [old] at nonzero ⊢
      obtain ⟨claimAuthority, event⟩ := recorded.bound address registry auctionId identityHash before nonzero
      exact ⟨claimAuthority, effects.history _ event⟩
    · exact new
  · intro auctionId won
    have found : (w.market.auctions auctionId).auction.exists_ = true := by
      by_contra absent
      have view := wired.blank auctionId (Bool.eq_false_iff.mpr absent)
      rcases effects.winners wired auctionId with old | ⟨registry, deployed, -⟩
      · rw [old, view.1] at won
        exact won rfl
      · rw [snapshot, view.1, wired.zero.2.1] at deployed
        cases deployed
    refine effects.bound (keeps auctionId found).2 ?_
    rcases effects.winners wired auctionId with old | new
    · rw [old] at won ⊢
      exact recorded.winner auctionId won
    · exact new

end World

theorem Deployment.genesis_recorded (deployment : Deployment) (env : External σ) (outside : σ) :
    (deployment.genesis env outside).Recorded where
  authorized := by
    intro address vault present c recorded
    simp only [genesis, Option.map_eq_some_iff] at present
    obtain ⟨owner, -, rfl⟩ := present
    exact absurd rfl recorded
  registered := nofun
  bound := by
    intro address registry auctionId identityHash present nonzero
    simp only [genesis, Option.ite_none_right_eq_some, Option.some.injEq] at present
    obtain ⟨-, rfl⟩ := present
    exact absurd rfl nonzero
  winner := fun _ won => absurd rfl won

theorem Deployment.run_recorded (deployment : Deployment) (env : External σ) (outside : σ)
    {inputs : List (Msg × Tx σ)}
    (fresh : Along (World.transact env) World.LocksFresh (deployment.genesis env outside) inputs) :
    (deployment.run env outside inputs).Recorded := by
  have kept : ∀ (w : World σ) input next, w.Wired env ∧ w.Recorded → w.LocksFresh input →
      w.transact env input = .ok next → next.Wired env ∧ next.Recorded := by
    intro w input next before fresh done
    exact ⟨(World.transact_transition before.1 done).1, before.2.step before.1 fresh done⟩
  exact (play_preserves_along kept
    ⟨deployment.genesis_wired env outside, deployment.genesis_recorded env outside⟩ fresh).2

namespace World

/-- A transaction in which a relayer presents a claim authority's unused and unexpired
signature for a recipient to whom the token can be moved. -/
structure AssetClaim (env : External σ) (w : World σ) (auctionId : AuctionId) (commitmentHash : Bytes32)
    (claimAuthority : Address) (msg : Msg) (recipient : Address) (deadline : ℕ) (signature : Signature) :
    Prop where
  sender : msg.sender ≠ 0 ∧ w.isSystem env msg.sender = false
  unpaid : msg.value = 0
  later : w.timestamp ≤ msg.timestamp
  known : recipient ≠ 0
  unexpired : msg.timestamp ≤ deadline
  unused : ∀ vault, w.vaults (w.snapshot auctionId).shieldedEscrowVault = some vault →
    vault.usedClaimAuthorizations (ShieldedEscrowVault.claimDigest env.toChain
      (w.snapshot auctionId).shieldedEscrowVault ShieldedEscrowVault.assetClaimTag auctionId commitmentHash
        recipient deadline) = false
  signed : env.recover (ShieldedEscrowVault.claimDigest env.toChain
    (w.snapshot auctionId).shieldedEscrowVault ShieldedEscrowVault.assetClaimTag auctionId commitmentHash
      recipient deadline) signature = some claimAuthority
  accepted :
    let auction := (w.market.auctions auctionId).auction
    env.ownerOf w.outside auction.nftContract auction.tokenId = some env.market →
      ∃ moved, env.safeTransferFrom w.outside auction.nftContract env.market recipient auction.tokenId =
        .ok moved

variable {env : External σ} {w : World σ} {msg : Msg} {auctionId : AuctionId}
  {commitmentHash identityHash : Bytes32} {claimAuthority recipient : Address} {deadline : ℕ}
  {signature : Signature} {vault : ShieldedEscrowVault} {registry : ShieldedIdentityRegistry}

/-- Where the vault still records the winning commitment, the claim goes through. -/
theorem AssetClaim.succeeds (wired : w.Wired env)
    (claim : w.AssetClaim env auctionId commitmentHash claimAuthority msg recipient deadline signature)
    (finalized : (w.market.auctions auctionId).auction.state = .finalized)
    (found : (w.market.auctions auctionId).auction.exists_ = true)
    (won : (w.market.auctions auctionId).winningCommitment = identityHash) (nonzero : identityHash ≠ 0)
    (unclaimed : (w.market.auctions auctionId).auction.assetClaimed = false)
    (held : env.ownerOf w.outside (w.market.auctions auctionId).auction.nftContract
      (w.market.auctions auctionId).auction.tokenId = some env.market)
    (registered : w.registries (w.snapshot auctionId).shieldedIdentityRegistry = some registry)
    (bound : registry.commitmentForIdentity auctionId identityHash = commitmentHash)
    (present : commitmentHash ≠ 0)
    (deployed : w.vaults (w.snapshot auctionId).shieldedEscrowVault = some vault)
    (records : vault.Records commitmentHash auctionId claimAuthority) (authority : claimAuthority ≠ 0) :
    ∃ next, w.transact env (msg, .claimShieldedAssetWithAuthorization auctionId identityHash recipient
      deadline signature) = .ok next ∧ .assetReleased auctionId recipient ∈ next.log := by
  obtain ⟨moved, transferred⟩ := claim.accepted held
  have resolved : w.resolveShieldedCommitment auctionId (w.market.auctions auctionId) identityHash =
      .ok commitmentHash := by
    simp only [resolveShieldedCommitment, bind_eq_ok, exists_revertIf, requireSome_eq_ok, pure_eq_ok,
      Except.ok.injEq]
    rw [wired.auctionRegistry found]
    exact ⟨nonzero, registry, registered, by rw [bound]; exact present, bound⟩
  obtain ⟨digest, authorized, authorizes⟩ : ∃ digest authorized,
      vault.authorizeAssetClaim env.toChain (w.snapshot auctionId).shieldedEscrowVault msg.timestamp
        env.market auctionId commitmentHash recipient deadline signature = .ok (digest, authorized) :=
    ⟨_, _, ShieldedEscrowVault.authorizeAssetClaim_ok.mpr ⟨(wired.vaultMarket _ vault deployed).symm, records.auctionId,
      ShieldedEscrowVault.consumeClaimAuthorization_ok.mpr ⟨⟨claim.known, claim.unexpired,
        by rw [records.auctionId]; exact (wired.counted auctionId found).1,
        by rw [records.claimAuthority]; exact authority, claim.unused vault deployed,
        by rw [records.claimAuthority]; exact claim.signed⟩, rfl, rfl⟩⟩⟩
  have executes : ∃ next, w.claimShieldedAssetWithAuthorization env msg auctionId identityHash recipient
      deadline signature = .ok next ∧ .assetReleased auctionId recipient ∈ next.log := by
    simp only [claimShieldedAssetWithAuthorization, onlyAuctionState, releaseFromEscrow, bind_eq_ok,
      auctionExists_ok, exists_revertIf, requireSome_eq_ok, pure_eq_ok, Except.ok.injEq, Prod.exists]
    refine ⟨_, ⟨_, ⟨found, rfl⟩, by simp [finalized], by simp [unclaimed], claim.known, vault, ?_, ?_,
      commitmentHash, resolved, digest, authorized, ?_, moved, ?_, rfl⟩, ?_⟩
    · rw [wired.auctionVault found]
      exact deployed
    · rintro (absent | other)
      · exact nonzero (won.symm.trans absent)
      · exact other won.symm
    · rw [wired.auctionVault found]
      exact authorizes
    · simpa [setAuction, setVault] using transferred
    · exact List.mem_cons_self
  obtain ⟨next, done, released⟩ := executes
  exact ⟨{ next with timestamp := msg.timestamp },
    transact_unpaid rfl claim.sender.1 claim.sender.2 claim.later claim.unpaid done, released⟩

end World

/-- In a run in which nobody locks a commitment that is recorded but emptied, a vault
keeps every commitment under the auction and the authority it was registered with. So
the winner of a finalized shielded auction, whose asset nobody has claimed, collects
it with any unused signature of the authority registered for the bound commitment. -/
theorem shielded_winner_collects (deployment : Deployment) (env : External σ) (outside : σ)
    (inputs : List (Msg × Tx σ))
    (fresh : Along (World.transact env) World.LocksFresh (deployment.genesis env outside) inputs) :
    let w := deployment.run env outside inputs
    (∀ auctionId commitmentHash claimAuthority,
      .shieldedClaimAuthorityRegistered auctionId commitmentHash claimAuthority ∈ w.log →
        ∃ vault, w.vaults (w.snapshot auctionId).shieldedEscrowVault = some vault ∧
          vault.Records commitmentHash auctionId claimAuthority) ∧
    ∀ auctionId identityHash, (w.market.auctions auctionId).auction.state = .finalized →
      (w.market.auctions auctionId).winningCommitment = identityHash → identityHash ≠ 0 →
      (w.market.auctions auctionId).auction.assetClaimed = false →
        ∃ registry claimAuthority,
          w.registries (w.snapshot auctionId).shieldedIdentityRegistry = some registry ∧
          .shieldedClaimAuthorityRegistered auctionId
            (registry.commitmentForIdentity auctionId identityHash) claimAuthority ∈ w.log ∧
          ∀ msg recipient deadline signature,
            LawfulERC721 env (w.market.auctions auctionId).auction.nftContract →
            Unapproved env (w.market.auctions auctionId).auction.nftContract outside →
            w.AssetClaim env auctionId (registry.commitmentForIdentity auctionId identityHash)
              claimAuthority msg recipient deadline signature →
              ∃ next, w.transact env (msg, .claimShieldedAssetWithAuthorization auctionId identityHash
                recipient deadline signature) = .ok next ∧ .assetReleased auctionId recipient ∈ next.log := by
  intro w
  have wired := deployment.run_wired env outside inputs
  have recorded : w.Recorded := deployment.run_recorded env outside fresh
  refine ⟨fun auctionId commitmentHash claimAuthority event =>
    (recorded.registered auctionId commitmentHash claimAuthority event).2, ?_⟩
  intro auctionId identityHash finalized won nonzero unclaimed
  obtain ⟨registry, registered, bound⟩ := recorded.winner auctionId (by rw [won]; exact nonzero)
  rw [won] at bound
  obtain ⟨claimAuthority, event⟩ := recorded.bound _ registry auctionId identityHash registered bound
  obtain ⟨found, vault, deployed, records⟩ := recorded.registered _ _ _ event
  refine ⟨registry, claimAuthority, registered, event, ?_⟩
  intro msg recipient deadline signature lawful unapproved claim
  have custody := deployment.run_custody lawful unapproved inputs
  have held := custody.held auctionId (by rw [Auction.inCustody, finalized, unclaimed]; rfl) rfl
  have authority := recorded.authorized _ vault deployed
    (registry.identityToCommitment auctionId identityHash) (by rw [records.auctionId]; exact (wired.counted auctionId found).1)
  rw [records.claimAuthority] at authority
  exact claim.succeeds wired finalized found won nonzero unclaimed held.1 registered rfl bound deployed records
    authority

def shieldedDeployment : Deployment :=
  { tokenDeployment with
    vaultOwner := fun address => if address = 12 then some 1 else none
    registries := fun address => address = 13
    engineOwner := fun address => if address = 14 then some 1 else none
    noneAtZero := ⟨rfl, rfl, rfl, rfl⟩ }

/-- The owner wires the dependencies, and the only bidder wins with a whole commitment. -/
def wonInFull : List (Msg × Tx (ℕ → Address)) :=
  [({ sender := 1, timestamp := 1000 }, .setShieldedEscrowVault 12),
    ({ sender := 1, timestamp := 1000 }, .setShieldedIdentityRegistry 13),
    ({ sender := 1, timestamp := 1000 }, .setSettlementEngine 14),
    ({ sender := 1, timestamp := 1000 }, .setAVS 14 15),
    ({ sender := 1, timestamp := 1000 }, .setShieldedBidVerifier 12 16),
    ({ sender := 9, value := 10, timestamp := 1000 }, .createAuction 5 7 100 0 10 false),
    ({ sender := 8, value := 100, timestamp := 1001 }, .lockShieldedEscrow 1 21 31 41),
    ({ sender := 8, timestamp := 1002 }, .placeShieldedBid 1 31 77 1100 []),
    ({ sender := 8, timestamp := 1100 }, .triggerFinalize 1),
    ({ sender := 8, timestamp := 1101 }, .submitShieldedResolution 1 21 77 100 none)]

/-- Somebody locks the emptied commitment again, in an auction of their own. -/
def relocked : List (Msg × Tx (ℕ → Address)) :=
  wonInFull ++ [({ sender := 9, value := 10, timestamp := 1102 }, .createAuction 5 8 100 0 10 false),
    ({ sender := 9, value := 1, timestamp := 1103 }, .lockShieldedEscrow 2 22 31 42)]

set_option maxRecDepth 4000 in
theorem assetClaim_of_run (inputs : List (Msg × Tx (ℕ → Address)))
    (same : inputs = wonInFull ∨ inputs = relocked) :
    (shieldedDeployment.run tokenChain (fun _ => 9) inputs).AssetClaim tokenChain 1 31 41
      { sender := 8, timestamp := 1104 } 50 2000 [41] := by
  rcases same with rfl | rfl
  · refine ⟨⟨by decide, by decide +kernel⟩, rfl, by decide +kernel, by decide, by decide, ?_, rfl,
      fun _ => ⟨_, rfl⟩⟩
    rintro vault ⟨⟩
    rfl
  · refine ⟨⟨by decide, by decide +kernel⟩, rfl, by decide +kernel, by decide, by decide, ?_, rfl,
      fun _ => ⟨_, rfl⟩⟩
    rintro vault ⟨⟩
    rfl

set_option maxRecDepth 4000 in
/-- The winner of the first auction is refused with a perfect claim. -/
theorem relocked_winner_refused :
    let w := shieldedDeployment.run tokenChain (fun _ => 9) relocked
    (w.market.auctions 1).auction.state = .finalized ∧ (w.market.auctions 1).winningCommitment = 21 ∧
      (w.market.auctions 1).auction.assetClaimed = false ∧
      (∃ registry, w.registries (w.snapshot 1).shieldedIdentityRegistry = some registry ∧
        registry.commitmentForIdentity 1 21 = 31) ∧
      .shieldedClaimAuthorityRegistered 1 31 41 ∈ w.log ∧
      w.AssetClaim tokenChain 1 31 41 { sender := 8, timestamp := 1104 } 50 2000 [41] ∧
      w.transact tokenChain ({ sender := 8, timestamp := 1104 },
        .claimShieldedAssetWithAuthorization 1 21 50 2000 [41]) = .error (.commitmentDoesNotExist 31) := by
  refine ⟨by decide +kernel, by decide +kernel, by decide +kernel, ⟨_, rfl, by decide +kernel⟩, ?_,
    assetClaim_of_run relocked (.inr rfl), rfl⟩
  exact List.mem_of_getElem? (show
    (shieldedDeployment.run tokenChain (fun _ => 9) relocked).log[10]? =
      some (.shieldedClaimAuthorityRegistered 1 31 41) from rfl)

set_option maxRecDepth 4000 in
/-- Without that lock the winner collects. -/
theorem wonInFull_winner_collects :
    ∃ next, (shieldedDeployment.run tokenChain (fun _ => 9) wonInFull).transact tokenChain
      ({ sender := 8, timestamp := 1104 }, .claimShieldedAssetWithAuthorization 1 21 50 2000 [41]) =
        .ok next ∧ .assetReleased 1 50 ∈ next.log := by
  obtain ⟨kept, collects⟩ := shielded_winner_collects shieldedDeployment tokenChain (fun _ => 9) wonInFull
    (by
      refine ⟨trivial, trivial, trivial, trivial, trivial, trivial, ?_, trivial, trivial, trivial, trivial⟩
      rintro vault ⟨⟩ reusable
      exact reusable.1 rfl)
  obtain ⟨registry, claimAuthority, registered, event, claims⟩ :=
    collects 1 21 (by decide +kernel) (by decide +kernel) (by decide) (by decide +kernel)
  cases registered
  obtain ⟨vault, deployed, records⟩ := kept 1 _ _ event
  cases deployed
  have authority : 41 = claimAuthority := records.claimAuthority
  exact claims _ 50 2000 [41] tokenChain_lawful (fun _ => nofun)
    (authority ▸ assetClaim_of_run wonInFull (.inl rfl))

end FairMarket
