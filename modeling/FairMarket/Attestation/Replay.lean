import FairMarket.Contracts.MockEigenLayerAVS

/-! When the signatures of one accepted resolution can be presented as another. -/

namespace FairMarket

inductive Winner where
  | open_ (winner : Address)
  | shielded (identity : Bytes32)
  deriving DecidableEq

/-- The word a winner fills in the signed preimage. -/
def Winner.word : Winner → Bytes32
  | .open_ winner => MockEigenLayerAVS.padAddress winner
  | .shielded identity => identity

/-- Everything an attestation is about, the kind of winner included. -/
structure Resolution where
  winner : Winner
  market : Address
  auctionId : AuctionId
  requestId : Bytes32
  winnerCiphertext : Bytes32
  winningAmount : ℕ
  deriving DecidableEq

theorem toNat_padAddress (address : Address) :
    (MockEigenLayerAVS.padAddress address).toNat = address.toNat :=
  BitVec.toNat_setWidth_of_le (by decide)

/-- A word with no high bits is a padded address. -/
theorem padAddress_truncate {word : Bytes32} (small : word.toNat < 2 ^ 160) :
    MockEigenLayerAVS.padAddress (word.setWidth 160) = word := by
  apply BitVec.eq_of_toNat_eq
  rw [toNat_padAddress, BitVec.toNat_setWidth]
  exact Nat.mod_eq_of_lt small

theorem padAddress_lt (address : Address) :
    (MockEigenLayerAVS.padAddress address).toNat < 2 ^ 160 := by
  rw [toNat_padAddress]
  exact address.isLt

theorem Winner.ofBytes32_word_open (winner : Address) :
    Word.ofBytes32 (Winner.open_ winner).word = Word.ofAddress winner :=
  congrArg Word.value (toNat_padAddress winner)

namespace Resolution

/-- Present a resolution with a proof to the verifier of its kind. -/
def verify (resolution : Resolution) (avs : MockEigenLayerAVS) (chain : Chain) (self : Address)
    (proof : Proof) : Except Revert (Bool × MockEigenLayerAVS) :=
  match resolution.winner with
  | .open_ winner => avs.verifyAttestation chain self resolution.market resolution.auctionId
      resolution.requestId winner resolution.winnerCiphertext resolution.winningAmount proof
  | .shielded identity => avs.verifyShieldedAttestation chain self resolution.market
      resolution.auctionId resolution.requestId identity resolution.winnerCiphertext
      resolution.winningAmount proof

/-- Some envelope with these operators and signatures makes the verifier accept. -/
def Accepted (resolution : Resolution) (avs : MockEigenLayerAVS) (chain : Chain) (self : Address)
    (operators : List Address) (signatures : List Signature) : Prop :=
  ∃ envelope : ProofEnvelope, envelope.operators = operators ∧ envelope.signatures = signatures ∧
    ∃ after, resolution.verify avs chain self (some envelope) = .ok (true, after)

def words (resolution : Resolution) (chain : Chain) (self : Address) : List Word :=
  MockEigenLayerAVS.digestWords chain self resolution.market resolution.auctionId
    resolution.requestId (.ofBytes32 resolution.winner.word) resolution.winnerCiphertext
    resolution.winningAmount

/-- The digest the operators sign. -/
def digest (resolution : Resolution) (chain : Chain) (self : Address) : Digest :=
  (Digest.keccak (resolution.words chain self)).toEthSignedMessageHash

/-- The envelope that names a resolution. -/
def envelope (resolution : Resolution) (operators : List Address) (signatures : List Signature) :
    ProofEnvelope where
  auctionId := resolution.auctionId
  requestId := resolution.requestId
  winner := resolution.winner.word
  winnerCiphertext := resolution.winnerCiphertext
  winningAmount := resolution.winningAmount
  operators
  signatures

end Resolution

namespace MockEigenLayerAVS

variable {avs after : MockEigenLayerAVS} {chain : Chain}

theorem rejectSlashing_ne_true {operators : List Address} :
    avs.rejectSlashing operators ≠ .ok (true, after) := by
  simp [rejectSlashing, bind_eq_ok]

theorem verifyQuorum_true {digest : Except Revert Digest} {envelope : ProofEnvelope} :
    avs.verifyQuorum chain digest envelope = .ok (true, after) ↔
      avs.threshold ≤ envelope.operators.length ∧ ∃ signed, digest = .ok signed ∧
        avs.signersAccepted chain signed.toEthSignedMessageHash []
          (envelope.operators.zip envelope.signatures) = .ok true ∧ avs = after := by
  unfold verifyQuorum
  split
  · rename_i short
    simp [Nat.not_le.mpr short]
  · rename_i enough
    simp only [Nat.not_lt.mp enough, true_and, bind_eq_ok]
    constructor
    · rintro ⟨signed, computed, accepted, looped, outcome⟩
      cases accepted with
      | false => exact absurd outcome rejectSlashing_ne_true
      | true => exact ⟨signed, computed, looped, by simpa using outcome⟩
    · rintro ⟨signed, computed, looped, rfl⟩
      exact ⟨signed, computed, true, looped, rfl⟩

theorem verifyEnvelope_true {digest : Except Revert Digest} {auctionId : AuctionId}
    {requestId winner winnerCiphertext : Bytes32} {winningAmount : ℕ} {envelope : ProofEnvelope} :
    avs.verifyEnvelope chain digest auctionId requestId winner winnerCiphertext winningAmount
        envelope = .ok (true, after) ↔
      envelope.operators.length = envelope.signatures.length ∧
      (envelope.auctionId = auctionId ∧ envelope.requestId = requestId ∧ envelope.winner = winner ∧
        envelope.winnerCiphertext = winnerCiphertext ∧ envelope.winningAmount = winningAmount) ∧
      avs.verifyQuorum chain digest envelope = .ok (true, after) := by
  simp only [verifyEnvelope, exists_revertIf, bind_eq_ok, ne_eq, not_not]
  apply and_congr_right
  intro paired
  split
  · rename_i mismatch
    simp only [rejectSlashing_ne_true, false_iff]
    tauto
  · rename_i matching
    simp only [not_or, not_not] at matching
    simp [matching]

/-- A signature that passes the signer loop comes from the registered operator
it is paired with. -/
theorem signer_of_signersAccepted {digest : Digest} {prior : List Address} {operator : Address}
    {signature : Signature} {rest : List (Address × Signature)}
    (accepted : avs.signersAccepted chain digest prior ((operator, signature) :: rest) = .ok true) :
    avs.isOperator operator = true ∧ chain.recover digest signature = some operator := by
  unfold signersAccepted at accepted
  split at accepted
  · cases accepted
  · rename_i registered
    simp only [not_or, not_not] at registered
    simp only [bind_eq_ok, requireSome_eq_ok] at accepted
    obtain ⟨recovered, found, outcome⟩ := accepted
    split at outcome
    · cases outcome
    · rename_i same
      rw [not_not] at same
      exact ⟨registered.1, same ▸ found⟩

theorem signersAccepted_cons {digest : Digest} {prior : List Address} {operator : Address}
    {signature : Signature} {rest : List (Address × Signature)}
    (registered : avs.isOperator operator = true) (fresh : operator ∉ prior)
    (signed : chain.recover digest signature = some operator) :
    avs.signersAccepted chain digest prior ((operator, signature) :: rest) =
      avs.signersAccepted chain digest (prior ++ [operator]) rest := by
  rw [signersAccepted, if_neg (by simp [registered, fresh]), signed, requireSome, ok_bind,
    if_neg (not_not.mpr rfl)]

end MockEigenLayerAVS

namespace Resolution

variable {avs : MockEigenLayerAVS} {chain : Chain} {self : Address} {operators : List Address}
  {signatures : List Signature}

/-- A resolution is accepted exactly when a quorum of distinct registered
operators has signed its digest. -/
theorem accepted_iff (resolution : Resolution) :
    resolution.Accepted avs chain self operators signatures ↔
      resolution.market ≠ 0 ∧ operators.length = signatures.length ∧
      avs.threshold ≤ operators.length ∧
      avs.signersAccepted chain (resolution.digest chain self) [] (operators.zip signatures) =
        .ok true := by
  obtain ⟨winner, market, auctionId, requestId, winnerCiphertext, winningAmount⟩ := resolution
  constructor
  · rintro ⟨envelope, rfl, rfl, after, verified⟩
    cases winner with
    | open_ winner =>
      simp only [verify, MockEigenLayerAVS.verifyAttestation, MockEigenLayerAVS.computeDigest,
        bind_eq_ok, requireSome_eq_ok, Option.some.injEq, exists_revertIf,
        MockEigenLayerAVS.verifyEnvelope_true, MockEigenLayerAVS.verifyQuorum_true, pure_eq_ok,
        Except.ok.injEq] at verified
      obtain ⟨_, rfl, -, paired, -, enough, signed, ⟨deployed, rfl⟩, looped, -⟩ := verified
      rw [← Winner.ofBytes32_word_open] at looped
      exact ⟨deployed, paired, enough, looped⟩
    | shielded identity =>
      simp only [verify, MockEigenLayerAVS.verifyShieldedAttestation,
        MockEigenLayerAVS.computeShieldedDigest, bind_eq_ok, requireSome_eq_ok, Option.some.injEq,
        exists_revertIf, MockEigenLayerAVS.verifyEnvelope_true, MockEigenLayerAVS.verifyQuorum_true,
        pure_eq_ok, Except.ok.injEq] at verified
      obtain ⟨_, rfl, paired, -, enough, signed, ⟨deployed, rfl⟩, looped, -⟩ := verified
      exact ⟨deployed, paired, enough, looped⟩
  · rintro ⟨deployed, paired, enough, looped⟩
    refine ⟨envelope ⟨winner, market, auctionId, requestId, winnerCiphertext, winningAmount⟩ operators
      signatures, rfl, rfl, avs, ?_⟩
    cases winner with
    | open_ winner =>
      simp only [verify, MockEigenLayerAVS.verifyAttestation, MockEigenLayerAVS.computeDigest,
        bind_eq_ok, requireSome_eq_ok, Option.some.injEq, exists_revertIf,
        MockEigenLayerAVS.verifyEnvelope_true, MockEigenLayerAVS.verifyQuorum_true, pure_eq_ok,
        Except.ok.injEq]
      rw [← Winner.ofBytes32_word_open]
      exact ⟨_, rfl, Nat.not_le.mpr (padAddress_lt winner), paired, ⟨rfl, rfl, rfl, rfl, rfl⟩, enough, _,
        ⟨deployed, rfl⟩, looped, trivial⟩
    | shielded identity =>
      simp only [verify, MockEigenLayerAVS.verifyShieldedAttestation,
        MockEigenLayerAVS.computeShieldedDigest, bind_eq_ok, requireSome_eq_ok, Option.some.injEq,
        exists_revertIf, MockEigenLayerAVS.verifyEnvelope_true, MockEigenLayerAVS.verifyQuorum_true,
        pure_eq_ok, Except.ok.injEq]
      exact ⟨_, rfl, paired, ⟨rfl, rfl, rfl, rfl, rfl⟩, enough, _, ⟨deployed, rfl⟩, looped, trivial⟩

/-- A quorum is never empty: its first signature recovers to an operator. -/
theorem Accepted.head {resolution : Resolution}
    (accepted : resolution.Accepted avs chain self operators signatures) :
    ∃ signature rest operator, signatures = signature :: rest ∧ avs.isOperator operator = true ∧
      chain.recover (resolution.digest chain self) signature = some operator := by
  obtain ⟨-, paired, enough, looped⟩ := (accepted_iff resolution).mp accepted
  cases operators with
  | nil => exact absurd (Nat.lt_of_lt_of_le avs.quorum.1 enough) (Nat.lt_irrefl 0)
  | cons operator others =>
    cases signatures with
    | nil => cases paired
    | cons signature rest =>
      obtain ⟨registered, signed⟩ := MockEigenLayerAVS.signer_of_signersAccepted looped
      exact ⟨signature, rest, operator, rfl, registered, signed⟩

/-- Two resolutions with one digest agree in everything but the kind of winner. -/
theorem digest_eq_iff {first second : Resolution} :
    first.digest chain self = second.digest chain self ↔
      first.winner.word = second.winner.word ∧ second = { first with winner := second.winner } := by
  obtain ⟨_, _, _, _, _, _⟩ := first
  obtain ⟨_, _, _, _, _, _⟩ := second
  simp only [digest, words, Digest.toEthSignedMessageHash, MockEigenLayerAVS.digestWords,
    Word.ofAddress, Word.ofBytes32, Digest.ethSignedMessage.injEq, Digest.keccak.injEq,
    List.cons.injEq, Word.value.injEq, BitVec.toNat_inj, mk.injEq, true_and, and_true]
  tauto

end Resolution

/-- A signature recovers to an operator for at most one digest. -/
def SignsOnce (avs : MockEigenLayerAVS) (chain : Chain) : Prop :=
  ∀ signature first second operator other, chain.recover first signature = some operator →
    chain.recover second signature = some other → avs.isOperator operator = true →
    avs.isOperator other = true → first = second

namespace Resolution

variable {avs : MockEigenLayerAVS} {chain : Chain} {self : Address}

/-- Signatures accepted for two resolutions were made over one digest. -/
theorem Accepted.digest_eq (signsOnce : SignsOnce avs chain) {first second : Resolution}
    {operators others : List Address} {signatures : List Signature}
    (accepted : first.Accepted avs chain self operators signatures)
    (again : second.Accepted avs chain self others signatures) :
    first.digest chain self = second.digest chain self := by
  obtain ⟨signature, rest, operator, rfl, registered, signed⟩ := accepted.head
  obtain ⟨_, _, other, same, otherRegistered, otherSigned⟩ := again.head
  obtain ⟨rfl, rfl⟩ := List.cons.inj same
  exact signsOnce signature _ _ operator other signed otherSigned registered otherRegistered

/-- The same quorum is accepted for every resolution with the same digest. -/
theorem Accepted.of_digest_eq {first second : Resolution} {operators : List Address}
    {signatures : List Signature} (accepted : first.Accepted avs chain self operators signatures)
    (same : first.digest chain self = second.digest chain self) :
    second.Accepted avs chain self operators signatures := by
  obtain ⟨deployed, paired, enough, looped⟩ := (accepted_iff first).mp accepted
  rw [same] at looped
  have market : second.market = first.market := by
    rw [(digest_eq_iff.mp same).2]
  exact (accepted_iff second).mpr ⟨market ▸ deployed, paired, enough, looped⟩

/-- An accepted quorum is bound to its resolution exactly when the winner is an
identity that is no padded address. -/
theorem replay_excluded_iff (signsOnce : SignsOnce avs chain) (resolution : Resolution)
    (operators : List Address) (signatures : List Signature)
    (accepted : resolution.Accepted avs chain self operators signatures) :
    (∀ other, other ≠ resolution → ∀ others, ¬ other.Accepted avs chain self others signatures) ↔
      ∃ identity, resolution.winner = .shielded identity ∧ 2 ^ 160 ≤ identity.toNat := by
  constructor
  · intro bound
    cases kind : resolution.winner with
    | open_ winner =>
      let replayed : Resolution :=
        { resolution with winner := .shielded (MockEigenLayerAVS.padAddress winner) }
      have same : resolution.digest chain self = replayed.digest chain self :=
        digest_eq_iff.mpr ⟨by rw [kind]; rfl, rfl⟩
      refine absurd (accepted.of_digest_eq same) (bound replayed ?_ operators)
      intro equal
      rw [← equal] at kind
      cases kind
    | shielded identity =>
      refine ⟨identity, rfl, Nat.le_of_not_lt fun small => ?_⟩
      let replayed : Resolution := { resolution with winner := .open_ (identity.setWidth 160) }
      have same : resolution.digest chain self = replayed.digest chain self :=
        digest_eq_iff.mpr ⟨by rw [kind]; exact (padAddress_truncate small).symm, rfl⟩
      refine absurd (accepted.of_digest_eq same) (bound replayed ?_ operators)
      intro equal
      rw [← equal] at kind
      cases kind
  · rintro ⟨identity, kind, large⟩ other different others again
    obtain ⟨word, rest⟩ := digest_eq_iff.mp (accepted.digest_eq signsOnce again)
    rw [kind] at word
    cases otherKind : other.winner with
    | open_ winner =>
      rw [otherKind] at word
      have small := padAddress_lt winner
      rw [show MockEigenLayerAVS.padAddress winner = identity from word.symm] at small
      exact Nat.not_le.mpr small large
    | shielded otherIdentity =>
      rw [otherKind] at word
      have sameIdentity : identity = otherIdentity := word
      apply different
      rw [rest, otherKind, ← sameIdentity, ← kind]

/-- A chain on which the signature `[1]` is operator 7's over one resolution. -/
def chainSigning (resolution : Resolution) : Chain where
  chainId := 1
  keccak := fun _ => 0
  recover := fun digest signature =>
    if digest = resolution.digest ⟨1, fun _ => 0, fun _ _ => none⟩ 5 ∧ signature = [1] then some 7
    else none

/-- A service with operator 7 alone. -/
def soleOperator : MockEigenLayerAVS where
  isOperator := fun operator => operator = 7
  operatorCount := 1
  owner := 9
  threshold := 1
  quorum := MockEigenLayerAVS.sole_quorum

theorem signsOnce_chainSigning (resolution : Resolution) :
    SignsOnce soleOperator (chainSigning resolution) := by
  intro signature first second operator other signed otherSigned _ _
  simp only [chainSigning, Option.ite_none_right_eq_some] at signed otherSigned
  rw [signed.1.1, otherSigned.1.1]

theorem accepted_chainSigning (resolution : Resolution) (deployed : resolution.market ≠ 0) :
    resolution.Accepted soleOperator (chainSigning resolution) 5 [7] [[1]] := by
  refine (accepted_iff resolution).mpr ⟨deployed, rfl, Nat.le_refl 1, ?_⟩
  have signed : (chainSigning resolution).recover (resolution.digest (chainSigning resolution) 5) [1] =
      some 7 := if_pos ⟨rfl, rfl⟩
  exact MockEigenLayerAVS.signersAccepted_cons rfl List.not_mem_nil signed

/-- Bidder 3 wins auction 1 in the open. -/
def openWin : Resolution where
  winner := .open_ 3
  market := 11
  auctionId := 1
  requestId := 2
  winnerCiphertext := 4
  winningAmount := 100

/-- The quorum of an open win finalises the same auction for an identity. -/
theorem openWin_replays_as_shielded :
    SignsOnce soleOperator (chainSigning openWin) ∧
      openWin.Accepted soleOperator (chainSigning openWin) 5 [7] [[1]] ∧
      { openWin with winner := .shielded 3 } ≠ openWin ∧
      { openWin with winner := .shielded 3 }.Accepted soleOperator (chainSigning openWin) 5 [7] [[1]] := by
  have accepted := accepted_chainSigning openWin (by decide)
  refine ⟨signsOnce_chainSigning openWin, accepted, by decide, accepted.of_digest_eq ?_⟩
  exact digest_eq_iff.mpr ⟨by decide, rfl⟩

theorem replay_excluded_for_large_identity :
    { openWin with winner := .shielded (2 ^ 160) }.Accepted soleOperator
        (chainSigning { openWin with winner := .shielded (2 ^ 160) }) 5 [7] [[1]] ∧
      ∀ other, other ≠ { openWin with winner := .shielded (2 ^ 160) } → ∀ others,
        ¬ other.Accepted soleOperator (chainSigning { openWin with winner := .shielded (2 ^ 160) }) 5
          others [[1]] := by
  have accepted := accepted_chainSigning { openWin with winner := .shielded (2 ^ 160) } (by decide)
  refine ⟨accepted, ?_⟩
  apply (replay_excluded_iff (signsOnce_chainSigning _) _ [7] [[1]] accepted).mpr
  exact ⟨2 ^ 160, rfl, by decide +kernel⟩

end Resolution

end FairMarket
