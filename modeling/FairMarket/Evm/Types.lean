import FairMarket.Lib.Guard
import Mathlib.Data.BitVec
import Mathlib.Data.FinEnum
import Mathlib.Data.Nat.Basic
import Mathlib.Tactic.NormNum

/-! The values the contracts exchange. Addresses, `bytes32` values and mapping
keys are words of their Solidity width; amounts and times are naturals, and the
arithmetic the compiler checks is checked here. -/

namespace FairMarket

abbrev Address := BitVec 160

abbrev Bytes32 := BitVec 256

/-- The `uint256` keys of every per-auction mapping. -/
abbrev AuctionId := BitVec 256

abbrev Signature := List UInt8

/-- One item of an `abi.encode` or `abi.encodePacked` preimage. Addresses,
`bytes32` values and integers all fill the same 32-byte slot, so they share a
constructor; string constants are kept apart. -/
inductive Word where
  | value (number : ℕ)
  | text (literal : String)
  deriving DecidableEq

def Word.ofAddress (address : Address) : Word := .value address.toNat

def Word.ofBytes32 (bytes : Bytes32) : Word := .value bytes.toNat

/-- A `keccak256` image, identified with its preimage: hashing is injective. -/
inductive Digest where
  | keccak (preimage : List Word)
  | ethSignedMessage (inner : Digest)
  deriving DecidableEq

/-- `MessageHashUtils.toEthSignedMessageHash`. -/
def Digest.toEthSignedMessageHash (digest : Digest) : Digest := .ethSignedMessage digest

/-- What a call sees of its transaction and block. -/
structure Msg where
  sender : Address
  value : ℕ := 0
  timestamp : ℕ
  priorBlockhash : Bytes32 := 0

/-- The chain's constants and its two hash and signature primitives: a hash used
as an opaque identifier, and `ECDSA.recover`, which returns a signer or reverts. -/
structure Chain where
  chainId : ℕ
  keccak : List Word → Bytes32
  recover : Digest → Signature → Option Address

inductive AuctionState where
  | created
  | active
  | resolving
  | finalized
  | cancelled
  | voided
  deriving DecidableEq

/-- The errors of the contracts, with the fields the source gives them, and the
panics and failed calls of the machine below them. -/
inductive Revert where
  | arithmeticOverflow
  | arithmeticUnderflow
  | invalidTransaction
  | nonPayable
  | malformedCalldata
  | invalidSignature
  | callFailed
  | insufficientBalance (balance needed : ℕ)
  | ownableUnauthorizedAccount (account : Address)
  | ownableInvalidOwner (owner : Address)
  | zeroAddress
  | zeroValue
  | notMarket (caller : Address)
  | notPreviewReader (caller : Address)
  | nativeTransferFailed (recipient : Address) (amount : ℕ)
  | auctionDoesNotExist (auctionId : AuctionId)
  | auctionStillRunning (auctionId : AuctionId) (endTime : ℕ)
  | auctionAlreadyEnded (auctionId : AuctionId) (endTime : ℕ)
  | incorrectSellerDeposit (expected actual : ℕ)
  | invalidDuration (providedDuration : ℕ)
  | invalidStateTransition (fromState toState : AuctionState)
  | assetAlreadyClaimed (auctionId : AuctionId)
  | bidBelowStartingPrice (auctionId : AuctionId) (bidder : Address) (requiredMinimum : ℕ)
  | bidExceedsEscrow (auctionId : AuctionId) (bidder : Address)
  | finalizeRewardAlreadyClaimed (auctionId : AuctionId)
  | finalizeRewardNotReady (auctionId : AuctionId) (currentState : AuctionState)
  | fallbackThresholdNotReached (elapsed requiredThreshold : ℕ)
  | invalidWinningAmount (auctionId : AuctionId) (winningAmount availableEscrow : ℕ)
  | invalidAVSProof (auctionId : AuctionId) (requestId : Bytes32)
  | invalidDependency (dependency : Address)
  | invalidStartingPrice (providedStartingPrice : ℕ)
  | missingEncryptedBid (auctionId : AuctionId) (bidder : Address)
  | missingShieldedEncryptedBid (auctionId : AuctionId) (commitmentHash : Bytes32)
  | missingResolutionRequest (auctionId : AuctionId)
  | noClaimableBalance (auctionId : AuctionId) (claimant : Address)
  | noEscrowLocked (auctionId : AuctionId) (bidder : Address)
  | nftNotApproved (nftContract : Address) (tokenId : ℕ)
  | notAuctionSeller (caller seller : Address)
  | notNFTOwner (nftContract : Address) (tokenId : ℕ) (caller : Address)
  | sellerProceedsAlreadyClaimed (auctionId : AuctionId)
  | slashedPotNotConfigured
  | unexpectedAuctionState (expected actual : AuctionState)
  | unauthorizedAssetClaim (auctionId : AuctionId) (caller expectedRecipient : Address)
  | unauthorizedFinalizeRewardClaim (auctionId : AuctionId) (caller executor : Address)
  | resolutionAlreadyRequested (auctionId : AuctionId) (requestId : Bytes32)
  | unauthorizedShieldedRefundSource (caller expectedVault : Address)
  | shieldedEscrowVaultNotConfigured
  | shieldedIdentityRegistryNotConfigured
  | invalidCommitmentHash
  | invalidIdentityHash
  | unexpectedShieldedWinningCiphertext (auctionId : AuctionId)
      (expectedCiphertext providedCiphertext : Bytes32)
  | shieldedRefundAlreadyClaimed (auctionId : AuctionId) (nullifierHash : Bytes32)
  | shieldedRefundsNotReady (auctionId : AuctionId) (currentState : AuctionState)
  | winnerRequiredForWinningAmount (auctionId : AuctionId) (winningAmount : ℕ)
  | winningAmountBelowStartingPrice (auctionId : AuctionId) (winningAmount requiredMinimum : ℕ)
  | unauthorizedShieldedIdentityClaim (auctionId : AuctionId)
      (providedIdentityHash expectedIdentityHash : Bytes32)
  | shieldedWinnerMustClaimPrivately (auctionId : AuctionId)
  | zeroWinningAmount (auctionId : AuctionId) (winner : Address)
  | commitmentAlreadyClaimed (commitmentHash : Bytes32)
  | commitmentAlreadyExists (commitmentHash : Bytes32)
  | commitmentDoesNotExist (commitmentHash : Bytes32)
  | claimAuthorizationAlreadyUsed (authorizationDigest : Digest)
  | claimAuthorizationExpired (deadline currentTimestamp : ℕ)
  | claimAuthorityNotSet (commitmentHash : Bytes32)
  | invalidClaimAuthority (commitmentHash : Bytes32) (expectedAuthority recoveredAuthority : Address)
  | invalidShieldedBidProof (commitmentHash : Bytes32) (verifier : Address)
  | invalidSlashAllocation (auctionId : AuctionId)
  | refundsLocked (auctionId : AuctionId)
  | refundsUnlocked (auctionId : AuctionId)
  | winningAmountExceedsCommitment (auctionId : AuctionId) (winningAmount availableAmount : ℕ)
  | winningCommitmentAlreadySettled (auctionId : AuctionId) (commitmentHash : Bytes32)
  | identityAlreadyBound (auctionId : AuctionId) (identityHash existingCommitmentHash : Bytes32)
  | commitmentAlreadyBound (auctionId : AuctionId) (commitmentHash existingIdentityHash : Bytes32)
  | identityNotBound (auctionId : AuctionId) (identityHash : Bytes32)
  | winningIdentityAlreadyMarked (auctionId : AuctionId) (existingIdentityHash : Bytes32)
  | compensationAlreadyClaimed (auctionId : AuctionId) (recipient : Address)
  | compensationKeyAlreadyClaimed (auctionId : AuctionId) (claimKey : Bytes32)
  | duplicateOperator (operator : Address)
  | invalidOperator (operator : Address)
  | invalidThreshold (threshold operatorCount : ℕ)
  | proofLengthMismatch (operatorsLength signaturesLength : ℕ)

/-- The number is a `uint256`. -/
def FitsUint256 (number : ℕ) : Prop := number < 2 ^ 256

instance : DecidablePred FitsUint256 := fun number => inferInstanceAs (Decidable (number < 2 ^ 256))

theorem FitsUint256.mono {small large : ℕ} (fits : FitsUint256 large) (le : small ≤ large) :
    FitsUint256 small :=
  Nat.lt_of_le_of_lt le fits

/-- Products of two amounts of at most 128 bits are `uint256` values. -/
theorem fits_mul {left right : ℕ} (leftSmall : left < 2 ^ 128) (rightSmall : right < 2 ^ 128) :
    FitsUint256 (left * right) :=
  Nat.lt_of_lt_of_eq (Nat.mul_lt_mul'' leftSmall rightSmall) (by norm_num)

theorem fits_add {left right : ℕ} (leftSmall : left < 2 ^ 128) (rightSmall : right < 2 ^ 128) :
    FitsUint256 (left + right) := by
  unfold FitsUint256
  omega

/-- Checked `uint256` addition. -/
def checkedAdd (left right : ℕ) : Except Revert ℕ :=
  if FitsUint256 (left + right) then .ok (left + right) else .error .arithmeticOverflow

/-- Checked `uint256` multiplication. -/
def checkedMul (left right : ℕ) : Except Revert ℕ :=
  if FitsUint256 (left * right) then .ok (left * right) else .error .arithmeticOverflow

/-- Checked subtraction, at any width. -/
def checkedSub (left right : ℕ) : Except Revert ℕ :=
  if right ≤ left then .ok (left - right) else .error .arithmeticUnderflow

/-- The unchecked conversion `uint64(x)`. -/
def toUint64 (number : ℕ) : ℕ := number % 2 ^ 64

@[simp] theorem checkedAdd_eq_ok {left right result : ℕ} :
    checkedAdd left right = .ok result ↔ FitsUint256 (left + right) ∧ left + right = result := by
  unfold checkedAdd
  split <;> simp_all

@[simp] theorem checkedMul_eq_ok {left right result : ℕ} :
    checkedMul left right = .ok result ↔ FitsUint256 (left * right) ∧ left * right = result := by
  unfold checkedMul
  split <;> simp_all

@[simp] theorem checkedSub_eq_ok {left right result : ℕ} :
    checkedSub left right = .ok result ↔ right ≤ left ∧ left - right = result := by
  unfold checkedSub
  split <;> simp_all

theorem checkedAdd_eq_error {left right : ℕ} {raised : Revert} :
    checkedAdd left right = .error raised ↔
      ¬ FitsUint256 (left + right) ∧ .arithmeticOverflow = raised := by
  unfold checkedAdd
  split <;> simp_all

theorem checkedMul_eq_error {left right : ℕ} {raised : Revert} :
    checkedMul left right = .error raised ↔
      ¬ FitsUint256 (left * right) ∧ .arithmeticOverflow = raised := by
  unfold checkedMul
  split <;> simp_all

theorem checkedSub_eq_error {left right : ℕ} {raised : Revert} :
    checkedSub left right = .error raised ↔ left < right ∧ .arithmeticUnderflow = raised := by
  unfold checkedSub
  split <;> simp_all

end FairMarket
