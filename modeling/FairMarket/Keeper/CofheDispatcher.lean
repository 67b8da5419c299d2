import FairMarket.Contracts.Cofhe
import FairMarket.Lib.Foremost

/-! The keeper's resolver: the placeholder client that decodes handles and picks the
highest bid, and the checks on what a live endpoint answers. -/

namespace FairMarket

namespace Keeper

/-- A string of the keeper. One that is the rendering of a value of the chain is kept as
that value, so that equal strings are equal here. -/
inductive Text where
  | account (address : Address)
  | hash (bytes : Bytes32)
  | literal (text : String)
  | proof (requestId winnerCiphertext : Text)
  deriving DecidableEq

/-- The white space `String.prototype.trim` removes. -/
def isWhiteSpace (char : Char) : Bool :=
  char.toNat ∈ [0x9, 0xA, 0xB, 0xC, 0xD, 0x20, 0xA0, 0x1680, 0x2028, 0x2029, 0x202F, 0x205F, 0x3000,
    0xFEFF] ∨ 0x2000 ≤ char.toNat ∧ char.toNat ≤ 0x200A

def trim (chars : List Char) : List Char :=
  ((chars.dropWhile isWhiteSpace).reverse.dropWhile isWhiteSpace).reverse

/-- `text.trim() === ""`. -/
def Text.blank : Text → Bool
  | .literal text => (trim text.toList).isEmpty
  | _ => false

def digit (char : Char) : Option ℕ :=
  if '0' ≤ char ∧ char ≤ '9' then some (char.toNat - '0'.toNat)
  else if 'a' ≤ char ∧ char ≤ 'f' then some (char.toNat - 'a'.toNat + 10)
  else if 'A' ≤ char ∧ char ≤ 'F' then some (char.toNat - 'A'.toNat + 10)
  else none

def digits (base : ℕ) : List Char → Option ℕ
  | [] => none
  | chars => chars.foldlM (fun number char => do
      let value ← digit char
      if value < base then some (number * base + value) else none) 0

/-- `BigInt` of a string, `none` where it throws. -/
def bigInt (text : String) : Option ℤ :=
  match trim text.toList with
  | [] => some 0
  | '0' :: 'x' :: rest | '0' :: 'X' :: rest => (digits 16 rest).map Int.ofNat
  | '0' :: 'o' :: rest | '0' :: 'O' :: rest => (digits 8 rest).map Int.ofNat
  | '0' :: 'b' :: rest | '0' :: 'B' :: rest => (digits 2 rest).map Int.ofNat
  | '-' :: rest => (digits 10 rest).map fun number => -Int.ofNat number
  | '+' :: rest => (digits 10 rest).map Int.ofNat
  | chars => (digits 10 chars).map Int.ofNat

def Text.toBigInt : Text → Option ℤ
  | .account address => some address.toNat
  | .hash bytes => some bytes.toNat
  | .literal text => bigInt text
  | .proof .. => none

inductive WinnerKind where
  | openBid
  | shielded
  | noWinner
  deriving DecidableEq

/-- What the resolver throws. -/
inductive ResolverError where
  | syntaxError
  | unsupportedCiphertextKind (kind : ℤ)
  | unknownRequestId (requestId : Text)
  | unsupportedWinnerKind (value : Text)
  | missingProofMaterial (requestId : Text)
  | invalidNoWinner (requestId : Text)
  | missingWinnerMetadata (requestId : Text)
  | winnerOutsideBidSet (requestId : Text)
  | ciphertextMismatch (requestId : Text)

structure EncryptedBidRecord where
  bidder : Text
  encryptedBid : Text
  availableEscrow : ℤ
  isShielded : Bool := false
  deriving DecidableEq

structure CoFheDispatchJob where
  auctionId : AuctionId
  requestId : Text
  winnerHandle : Text
  amountHandle : Text
  startingPrice : ℤ
  bids : List EncryptedBidRecord

structure CoFheResolution where
  auctionId : AuctionId
  requestId : Text
  winnerHandle : Text
  amountHandle : Text
  winner : Option Text
  winnerKind : WinnerKind
  winnerCiphertext : Text
  winningAmount : ℕ
  avsProof : Text

def zeroHash : Text := .hash 0

def ciphertextKindShift : ℕ := 248

def ciphertextPayloadMask : ℕ := 2 ^ 248 - 1

def euint32Kind : ℤ := 1

def euint96Kind : ℤ := 3

def decodeLocalPrototypeEncryptedNumeric (ciphertext : Text) : Except ResolverError ℕ := do
  let parsed ← requireSome ciphertext.toBigInt .syntaxError
  let kind := parsed >>> ciphertextKindShift
  revertIf (kind ≠ euint32Kind ∧ kind ≠ euint96Kind) (.unsupportedCiphertextKind kind)
  return parsed.toNat &&& ciphertextPayloadMask

/-- The keeper reads the handles the contracts read, and reads the same amount. -/
theorem decode_hash_ok {bytes : Bytes32} {amount : ℕ} :
    decodeLocalPrototypeEncryptedNumeric (.hash bytes) = .ok amount ↔
      CofheCiphertextEncoding.Numeric bytes ∧ CofheCiphertextEncoding.payloadOf bytes = amount := by
  have kind : ((bytes.toNat : ℤ) >>> ciphertextKindShift) =
      ((bytes >>> CofheCiphertextEncoding.kindShift).toNat : ℤ) := by
    rw [BitVec.toNat_ushiftRight]
    rfl
  have payload : CofheCiphertextEncoding.payloadOf bytes = bytes.toNat &&& ciphertextPayloadMask := by
    rw [CofheCiphertextEncoding.payloadOf_eq, ciphertextPayloadMask, Nat.and_two_pow_sub_one_eq_mod]
  simp only [decodeLocalPrototypeEncryptedNumeric, Text.toBigInt, requireSome, ok_bind, bind_eq_ok,
    exists_revertIf, kind, euint32Kind, euint96Kind, pure_eq_ok, Except.ok.injEq, Int.toNat_natCast,
    ← payload, CofheCiphertextEncoding.numeric_iff]
  refine and_congr_left fun _ => ?_
  omega

/-- One turn of the loop over the bids: the winner so far and the highest bid. -/
def considerBid (startingPrice : ℤ) (best : Option EncryptedBidRecord × ℤ) (bid : EncryptedBidRecord) :
    Except ResolverError (Option EncryptedBidRecord × ℤ) := do
  let amount ← decodeLocalPrototypeEncryptedNumeric bid.encryptedBid
  if amount > bid.availableEscrow then return best
  else if amount < startingPrice then return best
  else if best.1 = none ∨ (amount : ℤ) > best.2 then return (some bid, amount)
  else return best

def pickHighestLocalPrototypeEncryptedBid (bids : List EncryptedBidRecord) (startingPrice : ℤ) :
    Except ResolverError (Option EncryptedBidRecord) := do
  let best ← bids.foldlM (considerBid startingPrice) (none, -1)
  return best.1

/-- The bid is readable, covered by its escrow and not below the price. -/
def EncryptedBidRecord.Eligible (bid : EncryptedBidRecord) (startingPrice : ℤ) (amount : ℕ) : Prop :=
  decodeLocalPrototypeEncryptedNumeric bid.encryptedBid = .ok amount ∧ amount ≤ bid.availableEscrow ∧
    startingPrice ≤ amount

/-- What the loop has found among the bids it has seen. -/
structure Leads (startingPrice : ℤ) (seen : List EncryptedBidRecord)
    (best : Option EncryptedBidRecord × ℤ) : Prop where
  unset : best.1 = none → ∀ bid ∈ seen, ∀ amount, ¬ bid.Eligible startingPrice amount
  leader : ∀ winner, best.1 = some winner → winner ∈ seen ∧ ∃ highest : ℕ, best.2 = highest ∧
    winner.Eligible startingPrice highest ∧
    ∀ bid ∈ seen, ∀ amount, bid.Eligible startingPrice amount → amount ≤ highest

namespace EncryptedBidRecord

/-- The handle of the bid is one of a number. -/
def Numeric (bid : EncryptedBidRecord) : Prop :=
  ∃ amount, decodeLocalPrototypeEncryptedNumeric bid.encryptedBid = .ok amount

/-- The amount of the bid if it is eligible. -/
def eligibleAmount (startingPrice : ℤ) (bid : EncryptedBidRecord) : Option ℕ :=
  match decodeLocalPrototypeEncryptedNumeric bid.encryptedBid with
  | .ok amount => if startingPrice ≤ amount ∧ amount ≤ bid.availableEscrow then some amount else none
  | .error _ => none

variable {bid : EncryptedBidRecord} {startingPrice : ℤ} {amount : ℕ}

theorem eligibleAmount_of_decoded (decoded : decodeLocalPrototypeEncryptedNumeric bid.encryptedBid = .ok amount) :
    bid.eligibleAmount startingPrice =
      if startingPrice ≤ amount ∧ amount ≤ bid.availableEscrow then some amount else none := by
  unfold eligibleAmount
  rw [decoded]

theorem eligibleAmount_eq_some : bid.eligibleAmount startingPrice = some amount ↔ bid.Eligible startingPrice amount := by
  unfold eligibleAmount Eligible
  cases decoded : decodeLocalPrototypeEncryptedNumeric bid.encryptedBid with
  | error raised => simp
  | ok value =>
    simp only [Option.ite_none_right_eq_some, Option.some.injEq, Except.ok.injEq]
    constructor
    · rintro ⟨⟨floor, covered⟩, rfl⟩
      exact ⟨rfl, covered, floor⟩
    · rintro ⟨rfl, covered, floor⟩
      exact ⟨⟨floor, covered⟩, rfl⟩

theorem eligibleAmount_eq_none :
    bid.eligibleAmount startingPrice = none ↔ ∀ amount, ¬ bid.Eligible startingPrice amount := by
  rw [Option.eq_none_iff_forall_ne_some]
  exact forall_congr' fun amount => not_congr eligibleAmount_eq_some

end EncryptedBidRecord

section LocalPick

open EncryptedBidRecord

/-- The loop's two variables, with `-1` for no bid at all. -/
def loopState : Option (EncryptedBidRecord × ℕ) → Option EncryptedBidRecord × ℤ
  | none => (none, -1)
  | some (winner, highestBid) => (some winner, highestBid)

variable {startingPrice : ℤ} {bids : List EncryptedBidRecord}

/-- A turn of the loop is a challenge by the amount of an eligible bid. -/
theorem considerBid_challenge {bid : EncryptedBidRecord} (numeric : bid.Numeric)
    (best : Option (EncryptedBidRecord × ℕ)) :
    considerBid startingPrice (loopState best) bid =
      .ok (loopState (challenge (eligibleAmount startingPrice) best bid)) := by
  obtain ⟨amount, decoded⟩ := numeric
  have score : bid.eligibleAmount startingPrice = _ := eligibleAmount_of_decoded decoded
  unfold considerBid
  rw [decoded, ok_bind]
  by_cases covered : (amount : ℤ) > bid.availableEscrow
  · rw [if_neg (by omega)] at score
    rw [if_pos covered, challenge_unscored best score]
    rfl
  by_cases low : (amount : ℤ) < startingPrice
  · rw [if_neg (by omega)] at score
    rw [if_neg covered, if_pos low, challenge_unscored best score]
    rfl
  rw [if_pos (by omega)] at score
  rw [if_neg covered, if_neg low]
  cases best with
  | none =>
    rw [challenge_unopposed score, if_pos (.inl rfl)]
    rfl
  | some best =>
    obtain ⟨winner, highestBid⟩ := best
    rw [challenge_leader score]
    by_cases higher : highestBid < amount
    · rw [if_pos higher, if_pos (.inr (Int.ofNat_lt.mpr higher))]
      rfl
    · have kept : ¬ ((loopState (some (winner, highestBid))).1 = none ∨
          (amount : ℤ) > (loopState (some (winner, highestBid))).2) := by
        rintro (unset | above)
        · exact Option.some_ne_none winner unset
        · exact higher (Int.ofNat_lt.mp above)
      rw [if_neg higher, if_neg kept]
      rfl

/-- The resolver picks the foremost of the bids by the amounts of the eligible ones. -/
theorem pickHighest_foremost (numeric : ∀ bid ∈ bids, bid.Numeric) :
    pickHighestLocalPrototypeEncryptedBid bids startingPrice =
      .ok ((foremost (eligibleAmount startingPrice) bids).map Prod.fst) := by
  have loop : ∀ best, bids.foldlM (considerBid startingPrice) (loopState best) =
      .ok (loopState (bids.foldl (challenge (eligibleAmount startingPrice)) best)) := by
    induction bids with
    | nil => exact fun _ => rfl
    | cons bid rest ih =>
      intro best
      rw [List.foldlM_cons, considerBid_challenge (numeric bid List.mem_cons_self)]
      exact ih (fun other member => numeric other (List.mem_cons_of_mem bid member)) _
  change (bids.foldlM (considerBid startingPrice) (loopState none) >>= fun best => pure best.1) = _
  rw [loop none, ok_bind]
  change Except.ok (loopState (foremost (eligibleAmount startingPrice) bids)).1 = _
  cases foremost (eligibleAmount startingPrice) bids with
  | none => rfl
  | some best => rfl

/-- The loop ends if it can read every bid. -/
theorem pickHighest_succeeds
    (readable : ∀ bid ∈ bids, ∃ amount, decodeLocalPrototypeEncryptedNumeric bid.encryptedBid = .ok amount) :
    ∃ winner, pickHighestLocalPrototypeEncryptedBid bids startingPrice = .ok winner :=
  ⟨_, pickHighest_foremost readable⟩

/-- It ends only if it can. -/
theorem pickHighest_readable {winner : Option EncryptedBidRecord}
    (picks : pickHighestLocalPrototypeEncryptedBid bids startingPrice = .ok winner) :
    ∀ bid ∈ bids, ∃ amount, decodeLocalPrototypeEncryptedNumeric bid.encryptedBid = .ok amount := by
  have loop : ∀ best last, bids.foldlM (considerBid startingPrice) best = .ok last →
      ∀ bid ∈ bids, ∃ amount, decodeLocalPrototypeEncryptedNumeric bid.encryptedBid = .ok amount := by
    clear picks
    induction bids with
    | nil => exact fun _ _ _ => List.forall_mem_nil _
    | cons bid rest ih =>
      intro best last folded other member
      simp only [List.foldlM_cons, bind_eq_ok] at folded
      obtain ⟨next, considers, folded⟩ := folded
      rcases List.mem_cons.mp member with rfl | later
      · obtain ⟨amount, decoded, -⟩ := bind_eq_ok.mp considers
        exact ⟨amount, decoded⟩
      · exact ih next last folded other later
  obtain ⟨last, folded, -⟩ := bind_eq_ok.mp picks
  exact loop _ last folded

/-- The winner is an eligible bid no eligible bid is above; without one there is none. -/
theorem pickHighest_leads {winner : Option EncryptedBidRecord}
    (picks : pickHighestLocalPrototypeEncryptedBid bids startingPrice = .ok winner) :
    ∃ highest, Leads startingPrice bids (winner, highest) := by
  have numeric : ∀ bid ∈ bids, bid.Numeric := pickHighest_readable picks
  have found := Except.ok.inj (picks.symm.trans (pickHighest_foremost numeric))
  have spec := foremost_spec (eligibleAmount startingPrice) bids
  cases best : foremost (eligibleAmount startingPrice) bids with
  | none =>
    rw [best] at found spec
    refine ⟨-1, fun _ bid member => eligibleAmount_eq_none.mp (spec bid member), fun won same => ?_⟩
    exact absurd (same.symm.trans found) (Option.some_ne_none won)
  | some leading =>
    rw [best] at found spec
    obtain ⟨place, leads⟩ := spec
    refine ⟨leading.2, fun unset => absurd (found.symm.trans unset) (Option.some_ne_none _), fun won same => ?_⟩
    obtain rfl : won = leading.1 := Option.some.inj (same.symm.trans found)
    refine ⟨leads.mem, leading.2, rfl, eligibleAmount_eq_some.mp leads.scored, fun bid member amount eligible => ?_⟩
    exact leads.at_most member (eligibleAmount_eq_some.mpr eligible)

end LocalPick

def buildSyntheticAvsProof (requestId winnerCiphertext : Text) : Text := .proof requestId winnerCiphertext

namespace LocalCofheBatchClient

def resolveJob (job : CoFheDispatchJob) : Except ResolverError CoFheResolution := do
  match ← pickHighestLocalPrototypeEncryptedBid job.bids job.startingPrice with
  | some winner =>
    let winningAmount ← decodeLocalPrototypeEncryptedNumeric winner.encryptedBid
    return {
      auctionId := job.auctionId
      requestId := job.requestId
      winnerHandle := job.winnerHandle
      amountHandle := job.amountHandle
      winner := some winner.bidder
      winnerKind := if winner.isShielded then .shielded else .openBid
      winnerCiphertext := winner.encryptedBid
      winningAmount
      avsProof := buildSyntheticAvsProof job.requestId winner.encryptedBid }
  | none =>
    return {
      auctionId := job.auctionId
      requestId := job.requestId
      winnerHandle := job.winnerHandle
      amountHandle := job.amountHandle
      winner := none
      winnerKind := .noWinner
      winnerCiphertext := zeroHash
      winningAmount := 0
      avsProof := buildSyntheticAvsProof job.requestId zeroHash }

def resolveBatch (jobs : List CoFheDispatchJob) : Except ResolverError (List CoFheResolution) :=
  jobs.mapM resolveJob

end LocalCofheBatchClient

/-- One entry of a live response: each field `String(value)`, or nothing where the value
is `null` or missing. -/
structure LiveEntry where
  requestId : Option Text := none
  winnerKind : Option Text := none
  winnerHandle : Option Text := none
  amountHandle : Option Text := none
  avsProof : Option Text := none
  winner : Option Text := none
  winnerCiphertext : Option Text := none
  winningAmount : Option Text := none

def normalizeWinnerKind : Option Text → Except ResolverError WinnerKind
  | some (.literal "public") => .ok .openBid
  | some (.literal "shielded") => .ok .shielded
  | some (.literal "none") => .ok .noWinner
  | value => .error (.unsupportedWinnerKind (value.getD (.literal "")))

/-- `new Map(jobs.map(...)).get(requestId)`: of equal keys the last one counts. -/
def jobsByRequestId (jobs : List CoFheDispatchJob) (requestId : Text) : Option CoFheDispatchJob :=
  jobs.reverse.find? fun job => job.requestId = requestId

def parseLiveResolutionEntry (entry : LiveEntry) (jobs : List CoFheDispatchJob) :
    Except ResolverError CoFheResolution := do
  let requestId := entry.requestId.getD (.literal "")
  let matchingJob ← requireSome (jobsByRequestId jobs requestId) (.unknownRequestId requestId)
  let winnerKind ← normalizeWinnerKind entry.winnerKind
  let winnerHandle := entry.winnerHandle.getD (.literal "")
  let amountHandle := entry.amountHandle.getD (.literal "")
  let avsProof := entry.avsProof.getD (.literal "")
  revertIf (winnerHandle.blank ∨ amountHandle.blank ∨ avsProof.blank) (.missingProofMaterial requestId)
  let parsedAmount := (entry.winningAmount.getD (.literal "0")).toBigInt
  if winnerKind = .noWinner then
    let winnerCiphertext := entry.winnerCiphertext.getD zeroHash
    let winningAmount ← requireSome parsedAmount .syntaxError
    revertIf (entry.winner ≠ none ∨ winnerCiphertext ≠ zeroHash ∨ winningAmount ≠ 0)
      (.invalidNoWinner requestId)
    return {
      auctionId := matchingJob.auctionId
      requestId
      winnerHandle
      amountHandle
      winner := none
      winnerKind
      winnerCiphertext
      winningAmount := winningAmount.toNat
      avsProof }
  else
    let winner := entry.winner.getD (.literal "")
    let winnerCiphertext := entry.winnerCiphertext.getD (.literal "")
    let winningAmount ← requireSome parsedAmount .syntaxError
    revertIf (winner.blank ∨ winnerCiphertext.blank ∨ winningAmount ≤ 0) (.missingWinnerMetadata requestId)
    let matchingBid ← requireSome
      (matchingJob.bids.find? fun bid => bid.bidder = winner ∧ (bid.isShielded ↔ winnerKind = .shielded))
      (.winnerOutsideBidSet requestId)
    revertIf (matchingBid.encryptedBid ≠ winnerCiphertext) (.ciphertextMismatch requestId)
    return {
      auctionId := matchingJob.auctionId
      requestId
      winnerHandle
      amountHandle
      winner := some winner
      winnerKind
      winnerCiphertext
      winningAmount := winningAmount.toNat
      avsProof }

end Keeper

end FairMarket
