import FairMarket.Vault.Outcome
import FairMarket.Lib.Run

/-! The vault on its own, driven by whatever its market sends it, in any order. -/

namespace FairMarket

/-- The calls that reach a vault. `settles` tells whether the market's
`settleShieldedRefund` returns and `accepts` whether the recipient takes the payment. -/
inductive VaultCall where
  | lockEscrow (sender : Address) (value : ℕ) (auctionId : AuctionId) (commitmentHash : Bytes32)
      (claimAuthority : Address)
  | allocateSlash (sender : Address) (value : ℕ) (auctionId : AuctionId) (publicEscrowTotal : ℕ)
  | settleWinningCommitment (sender : Address) (auctionId : AuctionId) (commitmentHash : Bytes32)
      (winningAmount : ℕ)
  | unlockRefunds (sender : Address) (auctionId : AuctionId)
  | authorizeAssetClaim (timestamp : ℕ) (sender : Address) (auctionId : AuctionId)
      (commitmentHash : Bytes32) (recipient : Address) (deadline : ℕ) (signature : Signature)
  | claimRefundWithAuthorization (timestamp : ℕ) (commitmentHash : Bytes32) (recipient : Address)
      (deadline : ℕ) (signature : Signature) (settles accepts : Bool)

namespace ShieldedEscrowVault

/-- A vault as its constructor and `setMarket` leave it. -/
def deployed (owner market : Address) : ShieldedEscrowVault := { owner, market }

/-- A market whose `settleShieldedRefund` returns or reverts as `settles` says. -/
def refundSource (settles : Bool) : AuctionId → Bytes32 → Address → ℕ → Except Revert Unit :=
  fun _ _ _ _ => revertIf (settles = false) .callFailed

def call (chain : Chain) (self : Address) (vault : ShieldedEscrowVault) :
    VaultCall → Except Revert ShieldedEscrowVault
  | .lockEscrow sender value auctionId commitmentHash claimAuthority =>
    vault.lockEscrow sender value auctionId commitmentHash claimAuthority
  | .allocateSlash sender value auctionId publicEscrowTotal => do
    let (_, next) ← vault.allocateSlash sender value auctionId publicEscrowTotal
    return next
  | .settleWinningCommitment sender auctionId commitmentHash winningAmount => do
    let (_, next) ← vault.settleWinningCommitment sender auctionId commitmentHash winningAmount
    return next
  | .unlockRefunds sender auctionId => vault.unlockRefunds sender auctionId
  | .authorizeAssetClaim timestamp sender auctionId commitmentHash recipient deadline signature => do
    let (_, next) ← vault.authorizeAssetClaim chain self timestamp sender auctionId commitmentHash
      recipient deadline signature
    return next
  | .claimRefundWithAuthorization timestamp commitmentHash recipient deadline signature settles
      accepts => do
    let released ← vault.claimRefundWithAuthorization chain self timestamp (refundSource settles)
      commitmentHash recipient deadline signature
    revertIf (accepts = false) (.nativeTransferFailed recipient
      (released.principalAmount + released.compensationAmount))
    return released.vault

end ShieldedEscrowVault

end FairMarket
