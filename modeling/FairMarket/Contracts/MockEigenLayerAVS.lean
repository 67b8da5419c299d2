import FairMarket.Evm.Types
import Mathlib.Logic.Function.Basic

/-! The attestation service: a set of operators, a threshold, and the two
verifiers that accept a resolution signed by a quorum. -/

namespace FairMarket

structure OperatorTable where
  isOperator : Address → Bool := fun _ => false
  slashCount : Address → ℕ := fun _ => 0
  operatorCount : ℕ := 0
  owner : Address

/-- A configured service. The constructor and both setters only ever leave a
threshold between one and the number of operators. -/
structure MockEigenLayerAVS extends OperatorTable where
  threshold : ℕ
  quorum : 0 < threshold ∧ threshold ≤ operatorCount

/-- The ABI tuple both envelope structs share. The winner is the raw word, which
the public verifier reads as an address and the shielded one as an identity. -/
structure ProofEnvelope where
  auctionId : AuctionId
  requestId : Bytes32
  winner : Bytes32
  winnerCiphertext : Bytes32
  winningAmount : ℕ
  operators : List Address
  signatures : List Signature
  deriving DecidableEq

/-- Proof calldata, absent when it decodes to no envelope. -/
abbrev Proof := Option ProofEnvelope

def OperatorTable.setThreshold (table : OperatorTable) (newThreshold : ℕ) :
    Except Revert MockEigenLayerAVS :=
  if invalid : newThreshold = 0 ∨ newThreshold > table.operatorCount then
    .error (.invalidThreshold newThreshold table.operatorCount)
  else .ok { table with threshold := newThreshold, quorum := by omega }

def OperatorTable.register (table : OperatorTable) : List Address → Except Revert OperatorTable
  | [] => .ok table
  | operator :: rest => do
    revertIf (operator = 0) .zeroAddress
    revertIf (table.isOperator operator) (.duplicateOperator operator)
    let operatorCount ← checkedAdd table.operatorCount 1
    OperatorTable.register { table with
      isOperator := Function.update table.isOperator operator true
      operatorCount } rest

namespace MockEigenLayerAVS

/-- An operator alone is a quorum of one. -/
theorem sole_quorum : 0 < 1 ∧ 1 ≤ 1 := ⟨Nat.one_pos, Nat.le_refl 1⟩

def create (initialOwner : Address) (initialOperators : List Address) (initialThreshold : ℕ) :
    Except Revert MockEigenLayerAVS := do
  revertIf (initialOwner = 0) (.ownableInvalidOwner initialOwner)
  revertIf (initialOperators.length = 0) (.invalidThreshold initialThreshold 0)
  let table ← OperatorTable.register { owner := initialOwner } initialOperators
  table.setThreshold initialThreshold

def onlyOwner (avs : MockEigenLayerAVS) (sender : Address) : Except Revert Unit :=
  revertIf (sender ≠ avs.owner) (.ownableUnauthorizedAccount sender)

/-- Lower the threshold to the number of operators when it no longer fits. -/
def fitThreshold (avs : MockEigenLayerAVS) (table : OperatorTable) : Except Revert MockEigenLayerAVS :=
  if exceeds : avs.threshold > table.operatorCount then table.setThreshold table.operatorCount
  else .ok { table with threshold := avs.threshold, quorum := ⟨avs.quorum.1, by omega⟩ }

def adjustCount (operatorCount : ℕ) (allowed : Bool) : Except Revert ℕ :=
  if allowed then checkedAdd operatorCount 1 else checkedSub operatorCount 1

def setOperator (avs : MockEigenLayerAVS) (sender operator : Address) (allowed : Bool) :
    Except Revert MockEigenLayerAVS := do
  avs.onlyOwner sender
  revertIf (operator = 0) .zeroAddress
  revertIf (allowed ∧ avs.isOperator operator) (.duplicateOperator operator)
  revertIf (¬ allowed ∧ ¬ avs.isOperator operator) (.invalidOperator operator)
  let operatorCount ← adjustCount avs.operatorCount allowed
  avs.fitThreshold { avs.toOperatorTable with
    isOperator := Function.update avs.isOperator operator allowed
    operatorCount }

def setThreshold (avs : MockEigenLayerAVS) (sender : Address) (newThreshold : ℕ) :
    Except Revert MockEigenLayerAVS := do
  avs.onlyOwner sender
  avs.toOperatorTable.setThreshold newThreshold

def slashFrom (isOperator : Address → Bool) (prior : List Address) (slashCount : Address → ℕ) :
    List Address → Except Revert (Address → ℕ)
  | [] => .ok slashCount
  | operator :: rest =>
    if ¬ isOperator operator ∨ operator ∈ prior then
      slashFrom isOperator (prior ++ [operator]) slashCount rest
    else do
      let count ← checkedAdd (slashCount operator) 1
      slashFrom isOperator (prior ++ [operator]) (Function.update slashCount operator count) rest

/-- Every registered operator of the list is slashed once, at its first place. -/
def slashOperators (avs : MockEigenLayerAVS) (operators : List Address) :
    Except Revert MockEigenLayerAVS := do
  let slashCount ← slashFrom avs.isOperator [] avs.slashCount operators
  return { avs with slashCount }

/-- The counters after a slash: one more for each registered operator of the list. -/
def slashed (avs : MockEigenLayerAVS) (operators : List Address) : MockEigenLayerAVS :=
  { avs with slashCount := fun operator =>
      if avs.isOperator operator = true ∧ operator ∈ operators then avs.slashCount operator + 1
      else avs.slashCount operator }

/-- The words a resolution is signed over. The public digest pads the winner's
address to the slot where the shielded digest has the winning identity. -/
def digestWords (chain : Chain) (self market : Address) (auctionId : AuctionId) (requestId : Bytes32)
    (winner : Word) (winnerCiphertext : Bytes32) (winningAmount : ℕ) : List Word :=
  [.ofAddress self, .value chain.chainId, .ofAddress market, .ofBytes32 auctionId,
    .ofBytes32 requestId, winner, .ofBytes32 winnerCiphertext, .value winningAmount]

def computeDigest (chain : Chain) (self market : Address) (auctionId : AuctionId)
    (requestId : Bytes32) (winner : Address) (winnerCiphertext : Bytes32) (winningAmount : ℕ) :
    Except Revert Digest := do
  revertIf (market = 0) .zeroAddress
  return .keccak (digestWords chain self market auctionId requestId (.ofAddress winner)
    winnerCiphertext winningAmount)

def computeShieldedDigest (chain : Chain) (self market : Address) (auctionId : AuctionId)
    (requestId winnerIdentity winnerCiphertext : Bytes32) (winningAmount : ℕ) :
    Except Revert Digest := do
  revertIf (market = 0) .zeroAddress
  return .keccak (digestWords chain self market auctionId requestId (.ofBytes32 winnerIdentity)
    winnerCiphertext winningAmount)

/-- The signer loop: every operator is registered, appears once and has signed. -/
def signersAccepted (avs : MockEigenLayerAVS) (chain : Chain) (digest : Digest)
    (prior : List Address) : List (Address × Signature) → Except Revert Bool
  | [] => .ok true
  | (expectedOperator, signature) :: rest =>
    if ¬ avs.isOperator expectedOperator ∨ expectedOperator ∈ prior then .ok false
    else do
      let recoveredSigner ← requireSome (chain.recover digest signature) .invalidSignature
      if recoveredSigner ≠ expectedOperator then return false
      else avs.signersAccepted chain digest (prior ++ [expectedOperator]) rest

/-- Slash the envelope's operators and reject. -/
def rejectSlashing (avs : MockEigenLayerAVS) (operators : List Address) :
    Except Revert (Bool × MockEigenLayerAVS) := do
  let slashed ← avs.slashOperators operators
  return (false, slashed)

/-- The quorum check of an envelope that names the right resolution. -/
def verifyQuorum (avs : MockEigenLayerAVS) (chain : Chain) (digest : Except Revert Digest)
    (envelope : ProofEnvelope) : Except Revert (Bool × MockEigenLayerAVS) :=
  if envelope.operators.length < avs.threshold then .ok (false, avs)
  else do
    let signed ← digest
    let accepted ← avs.signersAccepted chain signed.toEthSignedMessageHash []
      (envelope.operators.zip envelope.signatures)
    if accepted then return (true, avs)
    else avs.rejectSlashing envelope.operators

/-- The part both verifiers share, once the winner's slot is a word. -/
def verifyEnvelope (avs : MockEigenLayerAVS) (chain : Chain) (digest : Except Revert Digest)
    (auctionId : AuctionId) (requestId winner winnerCiphertext : Bytes32) (winningAmount : ℕ)
    (envelope : ProofEnvelope) : Except Revert (Bool × MockEigenLayerAVS) := do
  revertIf (envelope.operators.length ≠ envelope.signatures.length)
    (.proofLengthMismatch envelope.operators.length envelope.signatures.length)
  if envelope.auctionId ≠ auctionId ∨ envelope.requestId ≠ requestId ∨ envelope.winner ≠ winner ∨
      envelope.winnerCiphertext ≠ winnerCiphertext ∨ envelope.winningAmount ≠ winningAmount then
    avs.rejectSlashing envelope.operators
  else avs.verifyQuorum chain digest envelope

/-- An address in the slot of a `bytes32`. -/
def padAddress (address : Address) : Bytes32 := address.setWidth 256

def verifyAttestation (avs : MockEigenLayerAVS) (chain : Chain) (self market : Address)
    (auctionId : AuctionId) (requestId : Bytes32) (winner : Address) (winnerCiphertext : Bytes32)
    (winningAmount : ℕ) (proof : Proof) : Except Revert (Bool × MockEigenLayerAVS) := do
  let envelope ← requireSome proof .malformedCalldata
  revertIf (2 ^ 160 ≤ envelope.winner.toNat) .malformedCalldata
  avs.verifyEnvelope chain
    (computeDigest chain self market auctionId requestId winner winnerCiphertext winningAmount)
    auctionId requestId (padAddress winner) winnerCiphertext winningAmount envelope

def verifyShieldedAttestation (avs : MockEigenLayerAVS) (chain : Chain) (self market : Address)
    (auctionId : AuctionId) (requestId winnerIdentity winnerCiphertext : Bytes32)
    (winningAmount : ℕ) (proof : Proof) : Except Revert (Bool × MockEigenLayerAVS) := do
  let envelope ← requireSome proof .malformedCalldata
  avs.verifyEnvelope chain
    (computeShieldedDigest chain self market auctionId requestId winnerIdentity winnerCiphertext
      winningAmount)
    auctionId requestId winnerIdentity winnerCiphertext winningAmount envelope

end MockEigenLayerAVS

end FairMarket
