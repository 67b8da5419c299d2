import FairMarket.Market.Authority
import FairMarket.Market.Deposits
import FairMarket.Market.Spared

/-! Signed claims. A vault pays a deposit, and the market hands over a shielded winner's
token, only on a signature of the deposit's authority, and takes every signature once. -/

namespace FairMarket

open ShieldedEscrowVault (assetClaimTag refundClaimTag claimDigest)

variable {σ : Type}

/-- What a claim authority signs. -/
structure ClaimAuthorization where
  claimTag : String
  chainId : ℕ
  vault : Address
  auctionId : AuctionId
  commitmentHash : Bytes32
  recipient : Address
  deadline : ℕ
  deriving DecidableEq

def ClaimAuthorization.digest (claim : ClaimAuthorization) : Digest :=
  (Digest.keccak [.text claim.claimTag, .value claim.chainId, .ofAddress claim.vault,
    .ofBytes32 claim.auctionId, .ofBytes32 claim.commitmentHash, .ofAddress claim.recipient,
    .value claim.deadline]).toEthSignedMessageHash

theorem ClaimAuthorization.digest_injective : Function.Injective digest := by
  intro first second same
  simp only [digest, Digest.toEthSignedMessageHash, Digest.ethSignedMessage.injEq, Digest.keccak.injEq,
    List.cons.injEq, Word.ofAddress, Word.ofBytes32, Word.text.injEq, Word.value.injEq,
    BitVec.toNat_inj] at same
  obtain ⟨claimTag, chainId, vault, auctionId, commitmentHash, recipient, deadline, -⟩ := same
  cases first
  cases second
  simp_all

namespace World

variable {env : External σ} {w middle next : World σ} {msg : Msg} {auctionId : AuctionId}

/-- The authorization a transaction presents, and the signature it brings. -/
def claimOf (env : External σ) (w : World σ) : Tx σ → Option (ClaimAuthorization × Signature)
  | .claimRefundWithAuthorization vault commitmentHash recipient deadline signature =>
    (w.vaults vault).map fun deposits => ({
      claimTag := refundClaimTag
      chainId := env.chainId
      vault
      auctionId := (deposits.commitments commitmentHash).auctionId
      commitmentHash
      recipient
      deadline }, signature)
  | .claimShieldedAssetWithAuthorization auctionId winnerIdentityHash recipient deadline signature =>
    (w.registries (w.snapshot auctionId).shieldedIdentityRegistry).map fun registry => ({
      claimTag := assetClaimTag
      chainId := env.chainId
      vault := (w.snapshot auctionId).shieldedEscrowVault
      auctionId
      commitmentHash := registry.commitmentForIdentity auctionId winnerIdentityHash
      recipient
      deadline }, signature)
  | _ => none

/-- A transaction that presents no authorization uses none up. -/
theorem execute_spent (wired : w.Wired env) {tx : Tx σ} (unclaimed : w.claimOf env tx = none)
    (done : w.execute env msg tx = .ok next) : next.spent = w.spent := by
  apply (execute_touches done).spent
  cases tx with
  | claimShieldedAssetWithAuthorization =>
    simp only [execute, claimShieldedAssetWithAuthorization, resolveShieldedCommitment, bind_eq_ok,
      auctionExists_ok, exists_revertIf, requireSome_eq_ok] at done
    obtain ⟨cell, ⟨found, rfl⟩, -, -, -, -, vault, -, -, commitmentHash, ⟨-, registry, registered, -⟩, -⟩ := done
    rw [wired.auctionRegistry found] at registered
    simp [claimOf, registered] at unclaimed
  | claimRefundWithAuthorization =>
    simp only [execute, claimRefundWithAuthorization, bind_eq_ok, requireSome_eq_ok] at done
    obtain ⟨vault, deployed, -⟩ := done
    simp [claimOf, deployed] at unclaimed
  | _ => rfl

/-- The authorization is signed by the authority of its deposit, and neither expired nor used. -/
structure Accepts (env : External σ) (w : World σ) (now : ℕ) (claim : ClaimAuthorization)
    (signature : Signature) (vault : ShieldedEscrowVault) : Prop where
  chainId : claim.chainId = env.chainId
  deployed : w.vaults claim.vault = some vault
  about : (vault.commitments claim.commitmentHash).auctionId = claim.auctionId
  registered : claim.auctionId ≠ 0
  unexpired : now ≤ claim.deadline
  unused : vault.usedClaimAuthorizations claim.digest = false
  signed : env.recover claim.digest signature =
    some (vault.commitments claim.commitmentHash).claimAuthority

theorem Accepts.of_consumed {vault consumed : ShieldedEscrowVault} {address : Address} {claimTag : String}
    {commitmentHash : Bytes32} {recipient : Address} {deadline : ℕ} {signature : Signature} {digest : Digest}
    (deployed : w.vaults address = some vault)
    (about : (vault.commitments commitmentHash).auctionId = auctionId)
    (consumes : vault.consumeClaimAuthorization env.toChain address msg.timestamp claimTag commitmentHash
      auctionId recipient deadline signature = .ok (digest, consumed)) :
    w.Accepts env msg.timestamp
      ⟨claimTag, env.chainId, address, auctionId, commitmentHash, recipient, deadline⟩ signature vault := by
  obtain ⟨⟨-, unexpired, registered, -, unused, signed⟩, -⟩ :=
    ShieldedEscrowVault.consumeClaimAuthorization_ok.mp consumes
  rw [about] at registered
  exact ⟨rfl, deployed, about, registered, unexpired, unused, signed⟩

/-- A claim that succeeds was accepted by the vault, which now knows it as used. A refund
empties its deposit for good. -/
structure Claimed (env : External σ) (w next : World σ) (now : ℕ) (claim : ClaimAuthorization)
    (signature : Signature) (vault changed : ShieldedEscrowVault) : Prop where
  accepts : w.Accepts env now claim signature vault
  vaults : next.vaults = Function.update w.vaults claim.vault (some changed)
  used : changed.usedClaimAuthorizations =
    Function.update vault.usedClaimAuthorizations claim.digest true
  refund : claim.claimTag = refundClaimTag →
    (vault.commitments claim.commitmentHash).amount ≠ 0 ∧
      (changed.commitments claim.commitmentHash).claimed = true

theorem payRefund_vaults {recipient : Address} {amount : ℕ}
    (done : w.payRefund env recipient amount = .ok next) : next.vaults = w.vaults := by
  unfold payRefund at done
  split at done
  · cases done
    rfl
  · split at done
    · cases done
    · simp only [bind_eq_ok, pure_eq_ok, Except.ok.injEq] at done
      obtain ⟨outside, -, rfl⟩ := done
      rfl

theorem claimRefundWithAuthorization_claimed {address : Address} {commitmentHash : Bytes32}
    {recipient : Address} {deadline : ℕ} {signature : Signature} {vault : ShieldedEscrowVault}
    (deployed : w.vaults address = some vault)
    (done : w.claimRefundWithAuthorization env msg address commitmentHash recipient deadline signature =
      .ok next) :
    ∃ changed, Claimed env w next msg.timestamp ⟨refundClaimTag, env.chainId, address,
      (vault.commitments commitmentHash).auctionId, commitmentHash, recipient, deadline⟩ signature vault
      changed := by
  simp only [claimRefundWithAuthorization, deployed, requireSome, ok_bind, bind_eq_ok, pure_eq_ok,
    Except.ok.injEq] at done
  obtain ⟨released, releases, paid, pays, rfl⟩ := done
  obtain ⟨digest, consumed, funded, consumes, refunds⟩ :=
    ShieldedEscrowVault.claimRefundWithAuthorization_ok.mp releases
  obtain ⟨-, after⟩ := ShieldedEscrowVault.releaseRefund_ok refunds
  have accepts := Accepts.of_consumed deployed rfl consumes
  obtain ⟨-, -, rfl⟩ := ShieldedEscrowVault.consumeClaimAuthorization_ok.mp consumes
  refine ⟨released.vault, accepts, payRefund_vaults pays, ?_, fun _ => ⟨funded, ?_⟩⟩
  · rw [after]
    rfl
  · rw [after]
    dsimp only
    rw [Function.update_self]

theorem claimShieldedAsset_claimed (wired : w.Wired env) {winnerIdentityHash : Bytes32}
    {recipient : Address} {deadline : ℕ} {signature : Signature} {registry : ShieldedIdentityRegistry}
    (registered : w.registries (w.snapshot auctionId).shieldedIdentityRegistry = some registry)
    (done : w.claimShieldedAssetWithAuthorization env msg auctionId winnerIdentityHash recipient deadline
      signature = .ok next) :
    ∃ vault changed, Claimed env w next msg.timestamp ⟨assetClaimTag, env.chainId,
      (w.snapshot auctionId).shieldedEscrowVault, auctionId,
      registry.commitmentForIdentity auctionId winnerIdentityHash, recipient, deadline⟩ signature vault
      changed := by
  simp only [claimShieldedAssetWithAuthorization, resolveShieldedCommitment, releaseFromEscrow, bind_eq_ok,
    auctionExists_ok, exists_revertIf, requireSome_eq_ok, pure_eq_ok, Except.ok.injEq, Prod.exists] at done
  obtain ⟨cell, ⟨found, rfl⟩, -, -, -, -, vault, deployed, -, commitmentHash,
    ⟨-, bound, known, -, rfl⟩, digest, authorized, authorizes, outside, -, rfl⟩ := done
  rw [wired.auctionVault found] at deployed authorizes
  rw [wired.auctionRegistry found, registered] at known
  cases known
  obtain ⟨-, about, consumes⟩ := ShieldedEscrowVault.authorizeAssetClaim_ok.mp authorizes
  have accepts := Accepts.of_consumed deployed about consumes
  obtain ⟨-, -, rfl⟩ := ShieldedEscrowVault.consumeClaimAuthorization_ok.mp consumes
  refine ⟨vault, _, accepts, by rw [wired.auctionVault found]; rfl, ?_, fun refund => ?_⟩
  · rfl
  · exact absurd refund (show assetClaimTag ≠ refundClaimTag by decide)

theorem execute_claimed (wired : w.Wired env) {tx : Tx σ} {claim : ClaimAuthorization}
    {signature : Signature} (claims : w.claimOf env tx = some (claim, signature))
    (done : w.execute env msg tx = .ok next) :
    ∃ vault changed, Claimed env w next msg.timestamp claim signature vault changed := by
  cases tx with
  | claimRefundWithAuthorization =>
    simp only [claimOf, Option.map_eq_some_iff, Prod.mk.injEq] at claims
    obtain ⟨vault, deployed, rfl, rfl⟩ := claims
    exact ⟨vault, claimRefundWithAuthorization_claimed deployed done⟩
  | claimShieldedAssetWithAuthorization =>
    simp only [claimOf, Option.map_eq_some_iff, Prod.mk.injEq] at claims
    obtain ⟨registry, registered, rfl, rfl⟩ := claims
    exact claimShieldedAsset_claimed wired registered done
  | _ => cases claims

/-- What an accepted transaction adds to the used authorizations of a vault. -/
theorem transact_spent (wired : w.Wired env) {tx : Tx σ} (done : w.transact env (msg, tx) = .ok next)
    {address : Address} {changed : ShieldedEscrowVault} (present : next.vaults address = some changed) :
    ∃ vault, w.vaults address = some vault ∧ ∀ digest, changed.usedClaimAuthorizations digest = true ↔
      vault.usedClaimAuthorizations digest = true ∨
        ∃ entry ∈ w.claimOf env tx, entry.1.vault = address ∧ entry.1.digest = digest := by
  obtain ⟨-, executed, executes, rfl⟩ := transact_ok.mp done
  cases claims : w.claimOf env tx with
  | none =>
    have same := congrFun (execute_spent wired claims executes) address
    simp only [spent] at same
    dsimp only at present
    rw [present, Option.map_some, eq_comm, Option.map_eq_some_iff] at same
    obtain ⟨vault, before, used⟩ := same
    refine ⟨vault, before, fun digest => ?_⟩
    simp [used]
  | some entry =>
    obtain ⟨claim, signature⟩ := entry
    obtain ⟨vault, after, claimed⟩ := execute_claimed wired claims executes
    dsimp only at present
    rw [claimed.vaults] at present
    by_cases own : address = claim.vault
    · subst own
      rw [Function.update_self] at present
      cases present
      refine ⟨vault, claimed.accepts.deployed, fun digest => ?_⟩
      rw [claimed.used]
      by_cases same : digest = claim.digest
      · simp [same]
      · simp [Function.update_of_ne same, Ne.symm same]
    · rw [Function.update_of_ne own] at present
      refine ⟨changed, present, fun digest => ?_⟩
      simp [Ne.symm own]

theorem openShieldedRefundPath_holdings (done : w.openShieldedRefundPath env auctionId = .ok next) :
    Tables (fun _ vault changed => changed.balance = vault.balance) w.vaults next.vaults ∧
      next.market.balance = w.market.balance := by
  have still : Tables (fun _ vault changed => changed.balance = vault.balance) w.vaults w.vaults :=
    .refl fun _ _ => rfl
  unfold openShieldedRefundPath at done
  dsimp only at done
  split at done
  · cases done
    exact ⟨still, rfl⟩
  · split at done
    · cases done
      exact ⟨still, rfl⟩
    · rename_i vault deployed
      simp only [bind_eq_ok, pure_eq_ok, Except.ok.injEq] at done
      obtain ⟨unlocked, unlocks, rfl⟩ := done
      obtain ⟨-, rfl⟩ := ShieldedEscrowVault.unlockRefunds_ok.mp unlocks
      have written : Tables (fun _ vault changed => changed.balance = vault.balance) w.vaults
          (Function.update w.vaults (w.auctionShieldedEscrowVault (w.market.auctions auctionId)) (some { vault with
            refundsUnlocked := Function.update vault.refundsUnlocked auctionId true })) := by
        refine .update ?_ deployed ?_
        · exact fun _ _ => rfl
        · rfl
      exact ⟨written, rfl⟩

/-- The price of a shielded winner goes from the auction's vault to the market. -/
theorem submitShieldedResolution_holdings (wired : w.Wired env)
    {winnerIdentityHash winnerCiphertext : Bytes32} {winningAmount : ℕ} {avsProof : Proof} {accepted : Bool}
    {address : Address} {vault changed : ShieldedEscrowVault} (before : w.vaults address = some vault)
    (after : next.vaults address = some changed) (costs : changed.balance < vault.balance)
    (done : w.submitShieldedResolution env msg auctionId winnerIdentityHash winnerCiphertext winningAmount
      avsProof = .ok (accepted, next)) :
    address = (w.snapshot auctionId).shieldedEscrowVault ∧
      vault.balance = changed.balance + winningAmount ∧
      next.market.balance = w.market.balance + winningAmount := by
  simp only [submitShieldedResolution, bind_eq_ok, auctionExists_ok, exists_revertIf, Prod.exists] at done
  obtain ⟨cell, ⟨found, rfl⟩, -, -, -, -, commitmentHash, -, engine, -, proofAccepted, outside, -, done⟩ := done
  split at done
  · cases done
    have same : w.vaults address = some changed := after
    rw [before] at same
    cases same
    exact absurd costs (Nat.lt_irrefl _)
  · simp only [recordResolution, markWinningIdentity, bind_eq_ok, transitionState_ok, pure_eq_ok,
      Except.ok.injEq, Prod.mk.injEq] at done
    obtain ⟨recorded, ⟨network, -, auction, ⟨-, rfl⟩, rfl⟩, settled, settles, opened, opens, marked,
      ⟨registry, -, bound, -, rfl⟩, -, rfl⟩ := done
    obtain ⟨unlocked, balance⟩ := openShieldedRefundPath_holdings opens
    simp only [settleWinningCommitment, bind_eq_ok, requireSome_eq_ok, pure_eq_ok, Except.ok.injEq,
      Prod.exists] at settles
    obtain ⟨paying, deployed, remaining, paid, settlement, rfl⟩ := settles
    have own : auctionDependency (w.market.auctions auctionId) (·.shieldedEscrowVault)
        w.market.shieldedEscrowVault = (w.snapshot auctionId).shieldedEscrowVault := wired.auctionVault found
    simp only [auctionShieldedEscrowVault, auctionDependency, emit, setAuction, setNetwork, setOutside,
      Function.update_self] at own deployed unlocked
    rw [own] at deployed unlocked
    obtain ⟨middle, present, same⟩ := unlocked.exists_before after
    obtain ⟨⟨-, -, -, -, -, -, -, -, covered⟩, -, rfl⟩ :=
      ShieldedEscrowVault.settleWinningCommitment_ok.mp settlement
    simp only [credit, setVault] at present
    by_cases about : address = (w.snapshot auctionId).shieldedEscrowVault
    · subst about
      rw [before] at deployed
      cases deployed
      rw [Function.update_self] at present
      cases present
      refine ⟨rfl, ?_, balance⟩
      rw [same]
      exact (Nat.sub_add_cancel covered).symm
    · rw [Function.update_of_ne about, before] at present
      cases present
      rw [same] at costs
      exact absurd costs (Nat.lt_irrefl _)

/-- The recipient of a payment gets it: the market is credited, anybody else is called. -/
def Pays (env : External σ) (w next : World σ) (recipient : Address) (amount : ℕ) : Prop :=
  recipient = env.market ∧ next.market.balance = w.market.balance + amount ∨
    recipient ≠ env.market ∧ env.receiveEther w.outside recipient amount = some next.outside

theorem claimRefundWithAuthorization_pays {address recipient : Address} {commitmentHash : Bytes32}
    {deadline : ℕ} {signature : Signature} {vault changed : ShieldedEscrowVault}
    (before : w.vaults address = some vault) (after : next.vaults address = some changed)
    (done : w.claimRefundWithAuthorization env msg address commitmentHash recipient deadline signature =
      .ok next) :
    vault.balance = changed.balance + ((vault.commitments commitmentHash).amount +
        ShieldedEscrowVault.compensationShare (vault.commitments commitmentHash).amount
          (vault.shieldedSlashReserves (vault.commitments commitmentHash).auctionId)
          (vault.auctionTotals (vault.commitments commitmentHash).auctionId)) ∧
      Pays env w next recipient ((vault.commitments commitmentHash).amount +
        ShieldedEscrowVault.compensationShare (vault.commitments commitmentHash).amount
          (vault.shieldedSlashReserves (vault.commitments commitmentHash).auctionId)
          (vault.auctionTotals (vault.commitments commitmentHash).auctionId)) := by
  simp only [claimRefundWithAuthorization, before, requireSome, ok_bind, bind_eq_ok, pure_eq_ok,
    Except.ok.injEq] at done
  obtain ⟨released, releases, paid, pays, rfl⟩ := done
  obtain ⟨digest, consumed, -, consumes, refunds⟩ :=
    ShieldedEscrowVault.claimRefundWithAuthorization_ok.mp releases
  obtain ⟨-, -, rfl⟩ := ShieldedEscrowVault.consumeClaimAuthorization_ok.mp consumes
  obtain ⟨⟨-, -, -, -, solvent, settles⟩, same⟩ := ShieldedEscrowVault.releaseRefund_ok refunds
  obtain ⟨-, settled⟩ := settleShieldedRefund_ok.mp settles
  have vaults := payRefund_vaults pays
  have present : paid.vaults address = some changed := after
  rw [vaults] at present
  simp only [setVault, Function.update_self, Option.some.injEq] at present
  have balance : released.source.balance = w.market.balance := by rw [← settled]
  rw [same] at present pays
  dsimp only at present pays
  refine ⟨?_, ?_⟩
  · rw [← present]
    dsimp only
    exact (Nat.sub_add_cancel solvent).symm
  · unfold payRefund at pays
    split at pays
    · rename_i own
      cases pays
      exact .inl ⟨own, by simp [emit, receiveEther, credit, setVault, balance]⟩
    · rename_i foreign
      split at pays
      · cases pays
      · simp only [bind_eq_ok, requireSome_eq_ok, pure_eq_ok, Except.ok.injEq] at pays
        obtain ⟨outside, received, rfl⟩ := pays
        exact .inr ⟨foreign, received⟩

/-- The permitted calls of a transaction that settles nothing cost a vault nothing. -/
theorem VaultMove.balance_le {tx : Tx σ} {address : Address} {vault changed : ShieldedEscrowVault}
    (move : VaultMove env w msg tx address vault changed)
    (unclaimed : ∀ commitmentHash recipient deadline signature,
      tx ≠ .claimRefundWithAuthorization address commitmentHash recipient deadline signature)
    (unsettled : ∀ auctionId, ¬ (allowedBy env w msg tx).settles auctionId) :
    vault.balance ≤ changed.balance := by
  cases move with
  | driven requests permitted driven =>
    let grown : ShieldedEscrowVault → Prop := fun later => vault.balance ≤ later.balance
    refine driven.preserves permitted (fun middle after request allowed called before => ?_)
      (fun _ _ _ before => before) (show grown vault from Nat.le_refl _)
    refine Nat.le_trans before ?_
    cases request with
    | lockEscrow => exact allowed.elim
    | claimRefundWithAuthorization => exact allowed.elim
    | settleWinningCommitment => exact absurd allowed (unsettled _)
    | allocateSlash =>
      simp only [ShieldedEscrowVault.call, bind_eq_ok, pure_eq_ok, Except.ok.injEq, Prod.exists] at called
      obtain ⟨allocation, _, allocated, rfl⟩ := called
      obtain ⟨⟨-, -, -, share⟩, rfl⟩ := ShieldedEscrowVault.allocateSlash_ok allocated
      have bounded : allocation ≤ _ := share ▸ ShieldedEscrowVault.publicShare_le ..
      dsimp only
      omega
    | unlockRefunds =>
      obtain ⟨-, rfl⟩ := ShieldedEscrowVault.unlockRefunds_ok.mp called
      exact Nat.le_refl _
    | authorizeAssetClaim =>
      simp only [ShieldedEscrowVault.call, bind_eq_ok, pure_eq_ok, Except.ok.injEq, Prod.exists] at called
      obtain ⟨_, _, authorized, rfl⟩ := called
      obtain ⟨-, -, consumed⟩ := ShieldedEscrowVault.authorizeAssetClaim_ok.mp authorized
      obtain ⟨-, -, rfl⟩ := ShieldedEscrowVault.consumeClaimAuthorization_ok.mp consumed
      exact Nat.le_refl _
  | locked _ _ _ locks =>
    obtain ⟨-, rfl⟩ := ShieldedEscrowVault.lockEscrow_ok.mp locks
    exact Nat.le_add_right ..
  | refunded same => exact absurd same (unclaimed _ _ _ _)

/-- Money leaves a vault as the price of a shielded winner, which the market gets, or as a
refund, which goes whole to the recipient that the authorization names. -/
theorem transact_outflow (wired : w.Wired env) {tx : Tx σ} (done : w.transact env (msg, tx) = .ok next)
    {address : Address} {vault changed : ShieldedEscrowVault} (before : w.vaults address = some vault)
    (after : next.vaults address = some changed) (costs : changed.balance < vault.balance) :
    (∃ auctionId winnerIdentityHash winnerCiphertext winningAmount avsProof,
      tx = .submitShieldedResolution auctionId winnerIdentityHash winnerCiphertext winningAmount avsProof ∧
        address = (w.snapshot auctionId).shieldedEscrowVault ∧
        vault.balance = changed.balance + winningAmount ∧
        next.market.balance = w.market.balance + winningAmount) ∨
      ∃ claim signature, w.claimOf env tx = some (claim, signature) ∧ claim.claimTag = refundClaimTag ∧
        claim.vault = address ∧
        vault.balance = changed.balance + ((vault.commitments claim.commitmentHash).amount +
          ShieldedEscrowVault.compensationShare (vault.commitments claim.commitmentHash).amount
            (vault.shieldedSlashReserves claim.auctionId) (vault.auctionTotals claim.auctionId)) ∧
        Pays env w next claim.recipient (vault.balance - changed.balance) := by
  obtain ⟨-, executed, executes, same⟩ := transact_ok.mp done
  have held : executed.vaults address = some changed := by
    rw [← after, ← same]
  by_cases settles : ∃ auctionId, (allowedBy env w msg tx).settles auctionId
  · obtain ⟨auctionId, winnerIdentityHash, winnerCiphertext, winningAmount, avsProof, rfl⟩ := settles
    obtain ⟨accepted, submitted⟩ := afterResolution_ok.mp executes
    obtain ⟨own, price, credited⟩ := submitShieldedResolution_holdings wired before held costs submitted
    refine .inl ⟨auctionId, winnerIdentityHash, winnerCiphertext, winningAmount, avsProof, rfl, own, price, ?_⟩
    rw [← same]
    exact credited
  · by_cases claims : ∃ commitmentHash recipient deadline signature,
        tx = .claimRefundWithAuthorization address commitmentHash recipient deadline signature
    · obtain ⟨commitmentHash, recipient, deadline, signature, rfl⟩ := claims
      obtain ⟨payment, pays⟩ := claimRefundWithAuthorization_pays before held executes
      refine .inr ⟨_, signature, by rw [claimOf, before]; rfl, rfl, rfl, payment, ?_⟩
      rw [payment, Nat.add_sub_cancel_left]
      rw [← same]
      exact pays
    · obtain ⟨_, present, move⟩ := (transact_effects wired done).vaults.exists_before after
      rw [before] at present
      cases present
      refine absurd (move.balance_le ?_ (not_exists.mp settles)) (Nat.not_le.mpr costs)
      exact fun c recipient deadline signature claimed => claims ⟨c, recipient, deadline, signature, claimed⟩

end World

/-- In the run the deposit was locked, with this authority registered for it. -/
def Deployment.LockedUnder (deployment : Deployment) (env : External σ) (outside : σ)
    (inputs : List (Msg × Tx σ)) (auctionId : AuctionId) (commitmentHash : Bytes32)
    (claimAuthority : Address) : Prop :=
  ∃ past msg identityHash rest,
    inputs = past ++ (msg, .lockShieldedEscrow auctionId identityHash commitmentHash claimAuthority) :: rest ∧
      ∃ next, (deployment.run env outside past).transact env
        (msg, .lockShieldedEscrow auctionId identityHash commitmentHash claimAuthority) = .ok next

/-- The authorizations a run has accepted, with their signatures, in order. -/
def Deployment.claims (deployment : Deployment) (env : External σ) (outside : σ)
    (inputs : List (Msg × Tx σ)) : List (ClaimAuthorization × Signature) :=
  outputs (World.transact env) (fun w input => (w.claimOf env input.2).toList)
    (deployment.genesis env outside) inputs

section Run

variable {deployment : Deployment} {env : External σ} {outside : σ} {inputs : List (Msg × Tx σ)}
  {input : Msg × Tx σ} {auctionId : AuctionId} {commitmentHash : Bytes32} {claimAuthority : Address}

namespace Deployment

theorem LockedUnder.later
    (locked : deployment.LockedUnder env outside inputs auctionId commitmentHash claimAuthority)
    (input : Msg × Tx σ) :
    deployment.LockedUnder env outside (inputs ++ [input]) auctionId commitmentHash claimAuthority := by
  obtain ⟨past, msg, identityHash, rest, rfl, done⟩ := locked
  exact ⟨past, msg, identityHash, rest ++ [input], by simp, done⟩

/-- A registered authority stays on record. -/
theorem LockedUnder.registered
    (locked : deployment.LockedUnder env outside inputs auctionId commitmentHash claimAuthority) :
    .shieldedClaimAuthorityRegistered auctionId commitmentHash claimAuthority ∈
      (deployment.run env outside inputs).log := by
  obtain ⟨past, msg, identityHash, rest, rfl, next, done⟩ := locked
  have wired := deployment.run_wired env outside past
  let kept : World σ → Prop := fun w =>
    w.Wired env ∧ .shieldedClaimAuthorityRegistered auctionId commitmentHash claimAuthority ∈ w.log
  have recorded : kept next :=
    ⟨(World.transact_transition wired done).1, (World.lockShieldedEscrow_logs done).2⟩
  rw [run, play_append, play_cons, advance]
  rw [run] at done
  rw [done]
  refine (play_preserves (show ∀ w input next, kept w → _ → kept next from ?_) recorded rest).2
  rintro w ⟨msg, tx⟩ after ⟨wired, member⟩ accepted
  exact ⟨(World.transact_transition wired accepted).1,
    (World.transact_effects wired accepted).history _ member⟩

/-- Whatever a vault holds was locked in the run, under the recorded authority. -/
theorem run_locked (deployment : Deployment) (env : External σ) (outside : σ)
    (inputs : List (Msg × Tx σ)) {address : Address} {vault : ShieldedEscrowVault} (c : Bytes32)
    (deployed : (deployment.run env outside inputs).vaults address = some vault)
    (nonzero : (vault.commitments c).auctionId ≠ 0) :
    deployment.LockedUnder env outside inputs (vault.commitments c).auctionId c
      (vault.commitments c).claimAuthority := by
  induction inputs using List.reverseRecOn generalizing vault with
  | nil =>
    simp only [run, play_nil, genesis, Option.map_eq_some_iff] at deployed
    obtain ⟨owner, -, rfl⟩ := deployed
    exact absurd rfl nonzero
  | append_singleton inputs input ih =>
    obtain ⟨msg, tx⟩ := input
    cases done : (deployment.run env outside inputs).transact env (msg, tx) with
    | error raised =>
      rw [run, play_refused done] at deployed
      exact (ih deployed nonzero).later _
    | ok next =>
      rw [run, play_accepted done] at deployed
      have effects := World.transact_effects (deployment.run_wired env outside inputs) done
      obtain ⟨before, present, move⟩ := effects.vaults.exists_before deployed
      have slot := move.slot c
      generalize vault.commitments c = after at slot nonzero ⊢
      cases slot with
      | kept => exact (ih present nonzero).later _
      | settled => exact (ih present nonzero).later _
      | refunded => exact (ih present nonzero).later _
      | locked same =>
        subst same
        exact ⟨inputs, msg, _, [], rfl, next, done⟩

theorem claims_refused {raised : Revert}
    (refused : (deployment.run env outside inputs).transact env input = .error raised) :
    deployment.claims env outside (inputs ++ [input]) = deployment.claims env outside inputs :=
  outputs_refused refused

theorem claims_accepted {next : World σ}
    (done : (deployment.run env outside inputs).transact env input = .ok next) :
    deployment.claims env outside (inputs ++ [input]) = deployment.claims env outside inputs ++
      ((deployment.run env outside inputs).claimOf env input.2).toList :=
  outputs_accepted done

/-- The authority under which the deposit was locked has signed for the claim, and no
other authority was ever registered for it. -/
def Authorized (deployment : Deployment) (env : External σ) (outside : σ) (inputs : List (Msg × Tx σ))
    (now : ℕ) (claim : ClaimAuthorization) (signature : Signature) : Prop :=
  claim.chainId = env.chainId ∧ now ≤ claim.deadline ∧ ∃ claimAuthority,
    deployment.LockedUnder env outside inputs claim.auctionId claim.commitmentHash claimAuthority ∧
      (∀ other, deployment.LockedUnder env outside inputs claim.auctionId claim.commitmentHash other →
        other = claimAuthority) ∧
      env.recover claim.digest signature = some claimAuthority

/-- A signature of the authority a vault has on record is one of the only authority the
deposit was locked under. -/
theorem authorized_of_signed {now : ℕ} {claim : ClaimAuthorization} {signature : Signature}
    {vault : ShieldedEscrowVault} (chainId : claim.chainId = env.chainId) (unexpired : now ≤ claim.deadline)
    (deployed : (deployment.run env outside inputs).vaults claim.vault = some vault)
    (about : (vault.commitments claim.commitmentHash).auctionId = claim.auctionId)
    (nonzero : claim.auctionId ≠ 0)
    (signed : env.recover claim.digest signature =
      some (vault.commitments claim.commitmentHash).claimAuthority) :
    deployment.Authorized env outside inputs now claim signature := by
  have deposited := deployment.run_deposited env outside inputs
  rw [← about] at nonzero
  have locked := deployment.run_locked env outside inputs claim.commitmentHash deployed nonzero
  have home := (deposited.homed _ vault claim.commitmentHash deployed nonzero).2
  rw [about] at locked home
  refine ⟨chainId, unexpired, _, locked, fun other otherLocked => ?_, signed⟩
  have signer := (deposited.signer _ _ _ otherLocked.registered).2.2
  rw [home] at signer
  exact (signer vault deployed about).symm

end Deployment

/-- The deposits that accepted refunds were for. -/
def refundsOf (claims : List (ClaimAuthorization × Signature)) : List (Address × Bytes32) :=
  (claims.filter (·.1.claimTag = refundClaimTag)).map fun entry => (entry.1.vault, entry.1.commitmentHash)

/-- The vaults know exactly the authorizations that were accepted, each once, and every
refunded deposit as claimed. -/
structure Deployment.Tracked (deployment : Deployment) (env : External σ) (outside : σ)
    (inputs : List (Msg × Tx σ)) : Prop where
  used : ∀ address vault, (deployment.run env outside inputs).vaults address = some vault → ∀ digest,
    vault.usedClaimAuthorizations digest = true ↔
      ∃ entry ∈ deployment.claims env outside inputs, entry.1.vault = address ∧ entry.1.digest = digest
  once : ((deployment.claims env outside inputs).map Prod.fst).Nodup
  claimed : ∀ deposit ∈ refundsOf (deployment.claims env outside inputs), ∃ vault,
    (deployment.run env outside inputs).vaults deposit.1 = some vault ∧
      (vault.commitments deposit.2).claimed = true
  paid : (refundsOf (deployment.claims env outside inputs)).Nodup

theorem Deployment.Tracked.step (tracked : deployment.Tracked env outside inputs) {next : World σ}
    (done : (deployment.run env outside inputs).transact env input = .ok next) :
    deployment.Tracked env outside (inputs ++ [input]) := by
  obtain ⟨msg, tx⟩ := input
  have wired := deployment.run_wired env outside inputs
  have accounted := deployment.run_accounted env outside inputs
  have effects := World.transact_effects wired done
  have reached : deployment.run env outside (inputs ++ [(msg, tx)]) = next := play_accepted done
  have grown := claims_accepted done
  have kept : ∀ deposit ∈ refundsOf (deployment.claims env outside inputs), ∃ vault,
      next.vaults deposit.1 = some vault ∧ (vault.commitments deposit.2).claimed = true := by
    intro deposit member
    obtain ⟨vault, deployed, claimed⟩ := tracked.claimed deposit member
    obtain ⟨changed, present, move⟩ := effects.vaults.exists_after deployed
    obtain ⟨requests, driven⟩ := move.drives
    exact ⟨changed, present, driven.claimed claimed⟩
  have used : ∀ address vault, next.vaults address = some vault → ∀ digest,
      vault.usedClaimAuthorizations digest = true ↔
        ∃ entry ∈ deployment.claims env outside (inputs ++ [(msg, tx)]),
          entry.1.vault = address ∧ entry.1.digest = digest := by
    intro address changed present digest
    obtain ⟨vault, before, adds⟩ := World.transact_spent wired done present
    rw [adds, tracked.used address vault before, grown]
    simp only [List.mem_append, Option.mem_toList, Option.mem_def, or_and_right, exists_or]
  cases claims : (deployment.run env outside inputs).claimOf env tx with
  | none =>
    rw [claims, Option.toList_none, List.append_nil] at grown
    refine ⟨?_, ?_, ?_, ?_⟩
    · rw [reached]
      exact used
    · rw [grown]
      exact tracked.once
    · rw [grown, reached]
      exact kept
    · rw [grown]
      exact tracked.paid
  | some entry =>
    obtain ⟨claim, signature⟩ := entry
    rw [claims, Option.toList_some] at grown
    obtain ⟨-, executed, executes, same⟩ := World.transact_ok.mp done
    obtain ⟨vault, changed, claimed⟩ := World.execute_claimed wired claims executes
    have present : next.vaults claim.vault = some changed := by
      rw [← same]
      dsimp only
      rw [claimed.vaults, Function.update_self]
    have refunds : refundsOf (deployment.claims env outside (inputs ++ [(msg, tx)])) =
        refundsOf (deployment.claims env outside inputs) ++
          if claim.claimTag = refundClaimTag then [(claim.vault, claim.commitmentHash)] else [] := by
      rw [grown, refundsOf, List.filter_append, List.map_append]
      by_cases refund : claim.claimTag = refundClaimTag <;> simp [refundsOf, refund]
    refine ⟨?_, ?_, ?_, ?_⟩
    · rw [reached]
      exact used
    · rw [grown, List.map_append, List.map_singleton]
      refine List.Nodup.append tracked.once (List.nodup_singleton claim) ?_
      intro again earlier last
      rw [List.mem_singleton.mp last] at earlier
      obtain ⟨entry, member, repeated⟩ := List.mem_map.mp earlier
      have known := (tracked.used _ vault claimed.accepts.deployed claim.digest).mpr
        ⟨entry, member, by rw [repeated], by rw [repeated]⟩
      rw [claimed.accepts.unused] at known
      cases known
    · rw [refunds, reached]
      intro deposit member
      rcases List.mem_append.mp member with old | new
      · exact kept deposit old
      · split at new
        · rename_i refund
          rw [List.mem_singleton.mp new]
          exact ⟨changed, present, (claimed.refund refund).2⟩
        · cases new
    · rw [refunds]
      refine List.Nodup.append tracked.paid (by split <;> simp) ?_
      intro deposit earlier last
      split at last
      · rename_i refund
        rw [List.mem_singleton.mp last] at earlier
        obtain ⟨holder, deployed, emptied⟩ := tracked.claimed _ earlier
        rw [claimed.accepts.deployed] at deployed
        cases deployed
        have open_ := ((accounted.claimable _ vault claimed.accepts.deployed).funded _ (claimed.refund refund).1).2
        rw [open_] at emptied
        cases emptied
      · cases last

theorem Deployment.run_tracked (deployment : Deployment) (env : External σ) (outside : σ)
    (inputs : List (Msg × Tx σ)) : deployment.Tracked env outside inputs := by
  induction inputs using List.reverseRecOn with
  | nil =>
    refine ⟨?_, List.nodup_nil, nofun, List.nodup_nil⟩
    intro address vault deployed digest
    simp only [run, play_nil, genesis, Option.map_eq_some_iff] at deployed
    obtain ⟨owner, -, rfl⟩ := deployed
    simp [claims, outputs]
  | append_singleton inputs input ih =>
    cases done : (deployment.run env outside inputs).transact env input with
    | ok next => exact ih.step done
    | error raised =>
      have same : deployment.run env outside (inputs ++ [input]) = deployment.run env outside inputs :=
        play_refused done
      have unclaimed := claims_refused done
      refine ⟨?_, ?_, ?_, ?_⟩
      · rw [same, unclaimed]
        exact ih.used
      · rw [unclaimed]
        exact ih.once
      · rw [same, unclaimed]
        exact ih.claimed
      · rw [unclaimed]
        exact ih.paid

end Run

/-- Shielded claims in every run. Money leaves a vault as the price of a shielded winner,
which the market gets, or as the principal and compensation of a deposit, which go whole
to the recipient of an accepted refund authorization; no deposit is refunded twice. A token
won in the shielded lane goes to a recipient that the winning commitment's authority has
named. Whatever authorization is accepted was signed, before its deadline, by the authority
its deposit was locked under, over that authorization and no other, and is accepted once;
the vaults know exactly the accepted ones as used, so a refused claim uses nothing up. -/
theorem shielded_claims_authorized (deployment : Deployment) (env : External σ) (outside : σ)
    (inputs : List (Msg × Tx σ)) :
    let w := deployment.run env outside inputs
    let claims := deployment.claims env outside inputs
    (∀ msg tx next, w.transact env (msg, tx) = .ok next →
      (∀ address vault changed, w.vaults address = some vault → next.vaults address = some changed →
        changed.balance < vault.balance →
          (∃ auctionId winnerIdentityHash winnerCiphertext winningAmount avsProof,
            tx = .submitShieldedResolution auctionId winnerIdentityHash winnerCiphertext winningAmount
                avsProof ∧
              address = (w.snapshot auctionId).shieldedEscrowVault ∧
              vault.balance = changed.balance + winningAmount ∧
              next.market.balance = w.market.balance + winningAmount) ∨
          ∃ claim signature, w.claimOf env tx = some (claim, signature) ∧
            claim.claimTag = refundClaimTag ∧ claim.vault = address ∧
            deployment.Authorized env outside inputs msg.timestamp claim signature ∧
            vault.balance = changed.balance + ((vault.commitments claim.commitmentHash).amount +
              ShieldedEscrowVault.compensationShare (vault.commitments claim.commitmentHash).amount
                (vault.shieldedSlashReserves claim.auctionId) (vault.auctionTotals claim.auctionId)) ∧
            w.Pays env next claim.recipient (vault.balance - changed.balance)) ∧
      (∀ auctionId, (w.market.auctions auctionId).auction.inCustody = true →
        (next.market.auctions auctionId).auction.inCustody = false →
        (next.market.auctions auctionId).auction.state = .finalized →
        (next.market.auctions auctionId).winningCommitment ≠ 0 →
          ∃ registry claim signature,
            w.registries (w.snapshot auctionId).shieldedIdentityRegistry = some registry ∧
            claim.claimTag = assetClaimTag ∧ claim.vault = (w.snapshot auctionId).shieldedEscrowVault ∧
            claim.auctionId = auctionId ∧
            claim.commitmentHash = registry.commitmentForIdentity auctionId
              (next.market.auctions auctionId).winningCommitment ∧
            deployment.Authorized env outside inputs msg.timestamp claim signature ∧
            env.safeTransferFrom w.outside (w.market.auctions auctionId).auction.nftContract env.market
              claim.recipient (w.market.auctions auctionId).auction.tokenId = .ok next.outside) ∧
      ∀ claim signature, w.claimOf env tx = some (claim, signature) →
        deployment.Authorized env outside inputs msg.timestamp claim signature ∧
        ∀ other claimAuthority,
          deployment.LockedUnder env outside inputs claim.auctionId claim.commitmentHash claimAuthority →
          (∀ digest, env.recover digest signature = some claimAuthority → digest = other.digest) →
            claim = other) ∧
    (refundsOf claims).Nodup ∧ (claims.map Prod.fst).Nodup ∧
    (∀ address vault, w.vaults address = some vault → ∀ digest,
      vault.usedClaimAuthorizations digest = true ↔
        ∃ entry ∈ claims, entry.1.vault = address ∧ entry.1.digest = digest) ∧
    ∀ input raised, w.transact env input = .error raised →
      deployment.run env outside (inputs ++ [input]) = w ∧
        deployment.claims env outside (inputs ++ [input]) = claims := by
  intro w claims
  have wired := deployment.run_wired env outside inputs
  have tracked := deployment.run_tracked env outside inputs
  have authorized : ∀ msg tx next claim signature, w.transact env (msg, tx) = .ok next →
      w.claimOf env tx = some (claim, signature) →
        deployment.Authorized env outside inputs msg.timestamp claim signature := by
    intro msg tx next claim signature done claimed
    obtain ⟨-, executed, executes, -⟩ := World.transact_ok.mp done
    obtain ⟨vault, changed, accepted⟩ := World.execute_claimed wired claimed executes
    have accepts := accepted.accepts
    exact Deployment.authorized_of_signed accepts.chainId accepts.unexpired accepts.deployed accepts.about
      accepts.registered accepts.signed
  refine ⟨fun msg tx next done => ⟨?_, ?_, ?_⟩, tracked.paid, tracked.once, tracked.used, ?_⟩
  · intro address vault changed before after costs
    rcases World.transact_outflow wired done before after costs with price | refund
    · exact .inl price
    · obtain ⟨claim, signature, claimed, refund, own, payment, pays⟩ := refund
      exact .inr ⟨claim, signature, claimed, refund, own, authorized _ _ _ _ _ done claimed, payment, pays⟩
  · intro auctionId held gone finalized shielded
    obtain ⟨recipient, releases⟩ := World.AssetMove.release done held gone
    have transfer := releases.transfer
    cases releases.rightful with
    | seller unsold =>
      rcases unsold with cancelled | voided | ⟨-, -, inTheOpen⟩
      · rw [cancelled] at finalized
        cases finalized
      · rw [voided] at finalized
        cases finalized
      · exact absurd inTheOpen shielded
    | winner _ _ inTheOpen => exact absurd inTheOpen shielded
    | @authorized vault registry commitmentHash deadline signature _ _ _ deployed registered bound locked unexpired signed =>
      have found := wired.found_of_inCustody held
      exact ⟨registry, ⟨assetClaimTag, env.chainId, _, auctionId, commitmentHash, recipient, deadline⟩,
        signature, registered, rfl, rfl, rfl, bound.symm, Deployment.authorized_of_signed rfl unexpired
          deployed locked (wired.counted auctionId found).1 signed, transfer⟩
  · intro claim signature claimed
    have accepted := authorized _ _ _ _ _ done claimed
    refine ⟨accepted, fun other claimAuthority locked only => ?_⟩
    obtain ⟨-, -, authority, -, unique, signed⟩ := accepted
    rw [← unique claimAuthority locked] at signed
    exact ClaimAuthorization.digest_injective (only _ signed)
  · intro input raised refused
    exact ⟨play_refused refused, Deployment.claims_refused refused⟩

set_option maxRecDepth 4000 in
/-- The winner's authorization works once. -/
example :
    let claim : Msg × Tx (ℕ → Address) := ({ sender := 8, timestamp := 1104 },
      .claimShieldedAssetWithAuthorization 1 21 50 2000 [41])
    (shieldedDeployment.claims tokenChain (fun _ => 9) (wonInFull ++ [claim, claim])).map
      (·.1.recipient) = [50] := by
  decide +kernel

end FairMarket
