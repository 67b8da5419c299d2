import FairMarket.Attestation.Replay
import FairMarket.Lib.Run
import Mathlib.Data.Finset.Card

/-! Which proofs a service accepts, whom it slashes for the others, and what its owner can
make of its quorum. -/

namespace FairMarket

/-- The number of operators is the number of addresses that are one. -/
def OperatorTable.Counted (table : OperatorTable) : Prop :=
  ∃ operators : Finset Address, (∀ address, table.isOperator address = true ↔ address ∈ operators) ∧
    table.operatorCount = operators.card

namespace OperatorTable

variable {table registered : OperatorTable} {operator : Address} {operatorCount : ℕ}

theorem Counted.add (counted : table.Counted) (fresh : table.isOperator operator = false)
    (added : operatorCount = table.operatorCount + 1) :
    ({ table with
      isOperator := Function.update table.isOperator operator true
      operatorCount } : OperatorTable).Counted := by
  obtain ⟨operators, listed, count⟩ := counted
  have unlisted : operator ∉ operators := by
    rw [← listed, fresh]
    exact nofun
  refine ⟨insert operator operators, fun address => ?_, ?_⟩
  · dsimp only
    by_cases same : address = operator
    · simp [same]
    · simp [same, listed]
  · rw [Finset.card_insert_of_notMem unlisted, ← count]
    exact added

theorem Counted.remove (counted : table.Counted) (known : table.isOperator operator = true)
    (removed : operatorCount = table.operatorCount - 1) :
    ({ table with
      isOperator := Function.update table.isOperator operator false
      operatorCount } : OperatorTable).Counted := by
  obtain ⟨operators, listed, count⟩ := counted
  refine ⟨operators.erase operator, fun address => ?_, ?_⟩
  · dsimp only
    by_cases same : address = operator
    · simp [same]
    · simp [same, listed]
  · rw [Finset.card_erase_of_mem ((listed operator).mp known), ← count]
    exact removed

theorem Counted.register (counted : table.Counted) {operators : List Address}
    (done : table.register operators = .ok registered) : registered.Counted := by
  induction operators generalizing table with
  | nil =>
    cases done
    exact counted
  | cons operator rest ih =>
    simp only [OperatorTable.register, bind_eq_ok, exists_revertIf, checkedAdd_eq_ok] at done
    obtain ⟨-, fresh, count, ⟨-, rfl⟩, done⟩ := done
    exact ih (counted.add (Bool.not_eq_true _ ▸ fresh) rfl) done

theorem setThreshold_keeps {newThreshold : ℕ} {avs : MockEigenLayerAVS}
    (done : table.setThreshold newThreshold = .ok avs) : avs.toOperatorTable = table := by
  unfold OperatorTable.setThreshold at done
  split at done
  · cases done
  · cases done
    rfl

end OperatorTable

namespace MockEigenLayerAVS

variable {avs next : MockEigenLayerAVS} {chain : Chain}

theorem create_counted {initialOwner : Address} {initialOperators : List Address} {initialThreshold : ℕ}
    (created : create initialOwner initialOperators initialThreshold = .ok avs) :
    avs.toOperatorTable.Counted := by
  simp only [create, bind_eq_ok, exists_revertIf] at created
  obtain ⟨-, -, table, registers, sets⟩ := created
  rw [OperatorTable.setThreshold_keeps sets]
  refine OperatorTable.Counted.register ?_ registers
  exact ⟨∅, fun _ => ⟨nofun, fun member => absurd member (Finset.notMem_empty _)⟩, rfl⟩

theorem fitThreshold_keeps {table : OperatorTable} (done : avs.fitThreshold table = .ok next) :
    next.toOperatorTable = table := by
  unfold fitThreshold at done
  split at done
  · exact OperatorTable.setThreshold_keeps done
  · cases done
    rfl

theorem setOperator_counted {sender operator : Address} {allowed : Bool}
    (counted : avs.toOperatorTable.Counted) (done : avs.setOperator sender operator allowed = .ok next) :
    next.toOperatorTable.Counted := by
  simp only [setOperator, bind_eq_ok, exists_revertIf] at done
  obtain ⟨-, -, -, fresh, known, operatorCount, adjusted, fits⟩ := done
  rw [fitThreshold_keeps fits]
  cases allowed with
  | true =>
    obtain ⟨-, rfl⟩ := checkedAdd_eq_ok.mp adjusted
    exact counted.add (by simpa using fresh) rfl
  | false =>
    obtain ⟨-, rfl⟩ := checkedSub_eq_ok.mp adjusted
    exact counted.remove (by simpa using known) rfl

theorem signersAccepted_cons_true {digest : Digest} {prior : List Address} {operator : Address}
    {signature : Signature} {rest : List (Address × Signature)} :
    avs.signersAccepted chain digest prior ((operator, signature) :: rest) = .ok true ↔
      (avs.isOperator operator = true ∧ operator ∉ prior ∧
        chain.recover digest signature = some operator) ∧
        avs.signersAccepted chain digest (prior ++ [operator]) rest = .ok true := by
  constructor
  · intro accepted
    obtain ⟨registered, signed⟩ := signer_of_signersAccepted accepted
    have fresh : operator ∉ prior := by
      intro again
      rw [signersAccepted, if_pos (.inr again)] at accepted
      cases accepted
    exact ⟨⟨registered, fresh, signed⟩, by rwa [signersAccepted_cons registered fresh signed] at accepted⟩
  · rintro ⟨⟨registered, fresh, signed⟩, accepted⟩
    rwa [signersAccepted_cons registered fresh signed]

/-- The signer loop accepts distinct registered operators that have signed, and no others. -/
theorem signersAccepted_true {digest : Digest} {prior : List Address} {signers : List (Address × Signature)} :
    avs.signersAccepted chain digest prior signers = .ok true ↔
      (signers.map Prod.fst).Nodup ∧ ∀ signer ∈ signers, avs.isOperator signer.1 = true ∧ signer.1 ∉ prior ∧
        chain.recover digest signer.2 = some signer.1 := by
  induction signers generalizing prior with
  | nil => simp [signersAccepted]
  | cons signer rest ih =>
    rw [signersAccepted_cons_true, ih, List.map_cons, List.nodup_cons, List.forall_mem_cons]
    constructor
    · rintro ⟨own, distinct, others⟩
      refine ⟨⟨fun again => ?_, distinct⟩, own, fun other member => ?_⟩
      · obtain ⟨other, member, same⟩ := List.mem_map.mp again
        exact (others other member).2.1 (List.mem_append_right _ (List.mem_singleton.mpr same))
      · obtain ⟨registered, fresh, signed⟩ := others other member
        exact ⟨registered, fun before => fresh (List.mem_append_left _ before), signed⟩
    · rintro ⟨⟨fresh, distinct⟩, own, others⟩
      refine ⟨own, distinct, fun other member => ?_⟩
      obtain ⟨registered, unseen, signed⟩ := others other member
      refine ⟨registered, fun seen => ?_, signed⟩
      rcases List.mem_append.mp seen with before | again
      · exact unseen before
      · exact fresh (List.mem_map.mpr ⟨other, member, List.mem_singleton.mp again⟩)

/-- The loop reverts at a signature that does not recover. -/
theorem signersAccepted_reverts {digest : Digest} {operator : Address} {signature : Signature}
    {before rest : List (Address × Signature)} (registered : avs.isOperator operator = true)
    (lost : chain.recover digest signature = none) {prior : List Address} (fresh : operator ∉ prior)
    (unseen : operator ∉ before.map Prod.fst)
    (accepted : avs.signersAccepted chain digest prior before = .ok true) :
    avs.signersAccepted chain digest prior (before ++ (operator, signature) :: rest) =
      .error .invalidSignature := by
  induction before generalizing prior with
  | nil =>
    rw [List.nil_append, signersAccepted, if_neg (by simp [registered, fresh]), lost]
    rfl
  | cons signer before ih =>
    obtain ⟨other, signed⟩ := signer
    obtain ⟨⟨known, first, recovers⟩, accepted⟩ := signersAccepted_cons_true.mp accepted
    simp only [List.map_cons, List.mem_cons, not_or] at unseen
    rw [List.cons_append, signersAccepted_cons known first recovers]
    refine ih ?_ unseen.2 accepted
    simp [fresh, unseen.1]

theorem slashFrom_ok {isOperator : Address → Bool} {prior : List Address} {slashCount after : Address → ℕ}
    {operators : List Address} (done : slashFrom isOperator prior slashCount operators = .ok after)
    (operator : Address) :
    after operator = if isOperator operator = true ∧ operator ∉ prior ∧ operator ∈ operators then
      slashCount operator + 1 else slashCount operator := by
  induction operators generalizing prior slashCount with
  | nil =>
    cases done
    simp
  | cons first rest ih =>
    unfold slashFrom at done
    split at done
    · rename_i skipped
      rw [ih done]
      by_cases same : operator = first
      · subst same
        rcases skipped with unregistered | seen
        · simp [unregistered]
        · simp [seen]
      · simp [same]
    · rename_i reached
      simp only [not_or, not_not] at reached
      simp only [bind_eq_ok, checkedAdd_eq_ok] at done
      obtain ⟨_, ⟨-, rfl⟩, done⟩ := done
      rw [ih done]
      by_cases same : operator = first
      · subst same
        simp [reached.1, reached.2]
      · simp [same]

theorem rejectSlashing_ok {operators : List Address} {accepted : Bool}
    (done : avs.rejectSlashing operators = .ok (accepted, next)) :
    accepted = false ∧ next = avs.slashed operators := by
  simp only [rejectSlashing, slashOperators, bind_eq_ok, pure_eq_ok, Except.ok.injEq, Prod.mk.injEq] at done
  obtain ⟨_, ⟨slashCount, counts, rfl⟩, rfl, rfl⟩ := done
  refine ⟨rfl, ?_⟩
  have same : slashCount = (avs.slashed operators).slashCount := by
    funext operator
    rw [slashFrom_ok counts operator]
    simp [slashed]
  rw [same]
  rfl

end MockEigenLayerAVS

/-- The envelope names the resolution. -/
def ProofEnvelope.Names (envelope : ProofEnvelope) (resolution : Resolution) : Prop :=
  envelope.auctionId = resolution.auctionId ∧ envelope.requestId = resolution.requestId ∧
    envelope.winner = resolution.winner.word ∧ envelope.winnerCiphertext = resolution.winnerCiphertext ∧
    envelope.winningAmount = resolution.winningAmount

instance (envelope : ProofEnvelope) (resolution : Resolution) : Decidable (envelope.Names resolution) :=
  inferInstanceAs (Decidable (_ ∧ _ ∧ _ ∧ _ ∧ _))

namespace Resolution

/-- The digest the verifier of the resolution's kind computes. -/
def computedDigest (resolution : Resolution) (chain : Chain) (self : Address) : Except Revert Digest :=
  match resolution.winner with
  | .open_ winner => MockEigenLayerAVS.computeDigest chain self resolution.market resolution.auctionId
      resolution.requestId winner resolution.winnerCiphertext resolution.winningAmount
  | .shielded identity => MockEigenLayerAVS.computeShieldedDigest chain self resolution.market
      resolution.auctionId resolution.requestId identity resolution.winnerCiphertext resolution.winningAmount

/-- The public verifier decodes an address where the shielded one takes any word. -/
def Decodes (resolution : Resolution) (envelope : ProofEnvelope) : Prop :=
  match resolution.winner with
  | .open_ _ => envelope.winner.toNat < 2 ^ 160
  | .shielded _ => True

/-- A quorum of distinct registered operators has signed the digest of the resolution the
envelope names. -/
structure Attested (resolution : Resolution) (avs : MockEigenLayerAVS) (chain : Chain) (self : Address)
    (envelope : ProofEnvelope) : Prop where
  names : envelope.Names resolution
  paired : envelope.operators.length = envelope.signatures.length
  enough : avs.threshold ≤ envelope.operators.length
  distinct : envelope.operators.Nodup
  registered : ∀ operator ∈ envelope.operators, avs.isOperator operator = true
  signed : ∃ digest, resolution.computedDigest chain self = .ok digest ∧
    ∀ signer ∈ envelope.operators.zip envelope.signatures,
      chain.recover digest.toEthSignedMessageHash signer.2 = some signer.1

variable {resolution : Resolution} {avs after : MockEigenLayerAVS} {chain : Chain} {self : Address}
  {envelope : ProofEnvelope} {proof : Proof}

theorem verify_ok {result : Bool × MockEigenLayerAVS} :
    resolution.verify avs chain self proof = .ok result ↔
      ∃ envelope, proof = some envelope ∧ resolution.Decodes envelope ∧
        avs.verifyEnvelope chain (resolution.computedDigest chain self) resolution.auctionId
          resolution.requestId resolution.winner.word resolution.winnerCiphertext resolution.winningAmount
          envelope = .ok result := by
  obtain ⟨winner, market, auctionId, requestId, winnerCiphertext, winningAmount⟩ := resolution
  cases winner with
  | open_ winner =>
    simp only [verify, MockEigenLayerAVS.verifyAttestation, bind_eq_ok, requireSome_eq_ok, exists_revertIf,
      Decodes, computedDigest, Winner.word, Nat.not_le]
  | shielded identity =>
    simp only [verify, MockEigenLayerAVS.verifyShieldedAttestation, bind_eq_ok, requireSome_eq_ok, Decodes,
      computedDigest, Winner.word, true_and]

theorem decodes_of_names (names : envelope.Names resolution) : resolution.Decodes envelope := by
  obtain ⟨winner, market, auctionId, requestId, winnerCiphertext, winningAmount⟩ := resolution
  cases winner with
  | open_ winner =>
    show envelope.winner.toNat < 2 ^ 160
    rw [names.2.2.1]
    exact padAddress_lt winner
  | shielded identity => trivial

theorem signersAccepted_zip {digest : Digest}
    (paired : envelope.operators.length = envelope.signatures.length) :
    avs.signersAccepted chain digest [] (envelope.operators.zip envelope.signatures) = .ok true ↔
      envelope.operators.Nodup ∧ (∀ operator ∈ envelope.operators, avs.isOperator operator = true) ∧
        ∀ signer ∈ envelope.operators.zip envelope.signatures, chain.recover digest signer.2 = some signer.1 := by
  have operators : (envelope.operators.zip envelope.signatures).map Prod.fst = envelope.operators :=
    List.map_fst_zip (Nat.le_of_eq paired)
  rw [MockEigenLayerAVS.signersAccepted_true, operators]
  refine and_congr_right fun _ => ?_
  constructor
  · intro accepted
    refine ⟨fun operator member => ?_, fun signer member => (accepted signer member).2.2⟩
    rw [← operators] at member
    obtain ⟨signer, known, rfl⟩ := List.mem_map.mp member
    exact (accepted signer known).1
  · rintro ⟨registered, signed⟩ signer member
    exact ⟨registered _ (List.of_mem_zip member).1, List.not_mem_nil, signed signer member⟩

/-- A verifier accepts what a quorum attests. -/
theorem verify_true :
    resolution.verify avs chain self (some envelope) = .ok (true, after) ↔
      resolution.Attested avs chain self envelope ∧ after = avs := by
  simp only [verify_ok, Option.some.injEq, exists_eq_left', MockEigenLayerAVS.verifyEnvelope_true,
    MockEigenLayerAVS.verifyQuorum_true]
  constructor
  · rintro ⟨-, paired, names, enough, digest, computed, accepted, rfl⟩
    obtain ⟨distinct, registered, signed⟩ := (signersAccepted_zip paired).mp accepted
    exact ⟨⟨names, paired, enough, distinct, registered, digest, computed, signed⟩, rfl⟩
  · rintro ⟨⟨names, paired, enough, distinct, registered, digest, computed, signed⟩, rfl⟩
    exact ⟨decodes_of_names names, paired, names, enough, digest, computed,
      (signersAccepted_zip paired).mpr ⟨distinct, registered, signed⟩, rfl⟩

/-- What a verifier rejects costs each registered operator of the envelope one slash,
unless it names the resolution and is only too short. -/
theorem verify_false (rejects : resolution.verify avs chain self (some envelope) = .ok (false, after)) :
    (envelope.Names resolution ∧ envelope.operators.length < avs.threshold ∧ after = avs) ∨
      (¬ (envelope.Names resolution ∧ envelope.operators.length < avs.threshold) ∧
        after = avs.slashed envelope.operators) := by
  simp only [verify_ok, Option.some.injEq, exists_eq_left', MockEigenLayerAVS.verifyEnvelope, bind_eq_ok,
    exists_revertIf] at rejects
  obtain ⟨-, -, rejects⟩ := rejects
  split at rejects
  · rename_i mismatch
    refine .inr ⟨fun short => ?_, (MockEigenLayerAVS.rejectSlashing_ok rejects).2⟩
    obtain ⟨auctionId, requestId, winner, winnerCiphertext, winningAmount⟩ := short.1
    simp [auctionId, requestId, winner, winnerCiphertext, winningAmount] at mismatch
  · rename_i matching
    simp only [not_or, not_not] at matching
    unfold MockEigenLayerAVS.verifyQuorum at rejects
    split at rejects
    · rename_i short
      cases rejects
      exact .inl ⟨matching, short, rfl⟩
    · rename_i enough
      simp only [bind_eq_ok] at rejects
      obtain ⟨digest, -, accepted, -, rejects⟩ := rejects
      split at rejects
      · cases rejects
      · exact .inr ⟨fun short => enough short.2, (MockEigenLayerAVS.rejectSlashing_ok rejects).2⟩

theorem verify_keeps {accepted : Bool} (done : resolution.verify avs chain self proof = .ok (accepted, after)) :
    after.toOperatorTable.Counted ↔ avs.toOperatorTable.Counted := by
  obtain ⟨envelope, rfl, -⟩ := verify_ok.mp done
  cases accepted with
  | true =>
    obtain ⟨-, rfl⟩ := verify_true.mp done
    exact Iff.rfl
  | false =>
    rcases verify_false done with ⟨-, -, rfl⟩ | ⟨-, rfl⟩
    · exact Iff.rfl
    · exact Iff.rfl

/-- A verifier gets as far as a signature that does not recover. -/
def ExaminesUnrecoverable (resolution : Resolution) (avs : MockEigenLayerAVS) (chain : Chain) (self : Address)
    (envelope : ProofEnvelope) : Prop :=
  envelope.Names resolution ∧ avs.threshold ≤ envelope.operators.length ∧
    ∃ digest before operator signature rest, resolution.computedDigest chain self = .ok digest ∧
      envelope.operators.zip envelope.signatures = before ++ (operator, signature) :: rest ∧
      avs.signersAccepted chain digest.toEthSignedMessageHash [] before = .ok true ∧
      avs.isOperator operator = true ∧ operator ∉ before.map Prod.fst ∧
      chain.recover digest.toEthSignedMessageHash signature = none

/-- Lists of different lengths, and a signature that is looked at and does not recover,
make a verifier revert. -/
theorem verify_reverts {result : Bool × MockEigenLayerAVS}
    (unreadable : envelope.operators.length ≠ envelope.signatures.length ∨
      resolution.ExaminesUnrecoverable avs chain self envelope) :
    resolution.verify avs chain self (some envelope) ≠ .ok result := by
  intro done
  simp only [verify_ok, Option.some.injEq, exists_eq_left', MockEigenLayerAVS.verifyEnvelope, bind_eq_ok,
    exists_revertIf] at done
  obtain ⟨-, paired, done⟩ := done
  rcases unreadable with unpaired | ⟨names, enough, digest, before, operator, signature, rest, computed, split,
    accepted, registered, fresh, lost⟩
  · exact paired unpaired
  · obtain ⟨auctionId, requestId, winner, winnerCiphertext, winningAmount⟩ := names
    rw [if_neg (by simp [auctionId, requestId, winner, winnerCiphertext, winningAmount]),
      MockEigenLayerAVS.verifyQuorum, if_neg (Nat.not_lt.mpr enough), computed, ok_bind, split,
      MockEigenLayerAVS.signersAccepted_reverts registered lost List.not_mem_nil fresh accepted] at done
    cases done

end Resolution

/-- What its owner, and anyone, may call on a service. -/
inductive AvsCall where
  | setOperator (sender operator : Address) (allowed : Bool)
  | setThreshold (sender : Address) (newThreshold : ℕ)
  | verify (resolution : Resolution) (proof : Proof)

namespace MockEigenLayerAVS

def call (chain : Chain) (self : Address) (avs : MockEigenLayerAVS) : AvsCall →
    Except Revert MockEigenLayerAVS
  | .setOperator sender operator allowed => avs.setOperator sender operator allowed
  | .setThreshold sender newThreshold => avs.setThreshold sender newThreshold
  | .verify resolution proof => do
    let (_, after) ← resolution.verify avs chain self proof
    return after

theorem call_counted {chain : Chain} {self : Address} {avs next : MockEigenLayerAVS} {input : AvsCall}
    (counted : avs.toOperatorTable.Counted) (done : avs.call chain self input = .ok next) :
    next.toOperatorTable.Counted := by
  cases input with
  | setOperator sender operator allowed => exact setOperator_counted counted done
  | setThreshold sender newThreshold =>
    simp only [call, MockEigenLayerAVS.setThreshold, bind_eq_ok] at done
    obtain ⟨-, -, sets⟩ := done
    rwa [OperatorTable.setThreshold_keeps sets]
  | verify resolution proof =>
    simp only [call, bind_eq_ok, pure_eq_ok, Except.ok.injEq] at done
    obtain ⟨⟨accepted, after⟩, verified, rfl⟩ := done
    exact (Resolution.verify_keeps verified).mpr counted

end MockEigenLayerAVS

/-- A service from its constructor on, through any calls. Its threshold lies between one and
the number of its operators, which counts the addresses that are one. A resolution of
either kind is accepted exactly if a quorum attests it, and then no counter changes. One
that is rejected costs each registered operator the envelope lists one slash, and nobody
anything if it names the resolution and lists too few. What cannot be checked reverts. -/
theorem quorum_exact (chain : Chain) (self initialOwner : Address) (initialOperators : List Address)
    (initialThreshold : ℕ) (created : MockEigenLayerAVS)
    (creates : MockEigenLayerAVS.create initialOwner initialOperators initialThreshold = .ok created)
    (calls : List AvsCall) :
    let avs := play (MockEigenLayerAVS.call chain self) created calls
    (1 ≤ avs.threshold ∧ avs.threshold ≤ avs.operatorCount ∧ avs.toOperatorTable.Counted) ∧
      ∀ (resolution : Resolution) (envelope : ProofEnvelope) (after : MockEigenLayerAVS),
        (resolution.verify avs chain self (some envelope) = .ok (true, after) ↔
          resolution.Attested avs chain self envelope ∧ after = avs) ∧
        (resolution.verify avs chain self (some envelope) = .ok (false, after) →
          ∀ operator, after.slashCount operator = avs.slashCount operator +
            if ¬ (envelope.Names resolution ∧ envelope.operators.length < avs.threshold) ∧
              avs.isOperator operator = true ∧ operator ∈ envelope.operators then 1 else 0) ∧
        (envelope.operators.length ≠ envelope.signatures.length ∨
            resolution.ExaminesUnrecoverable avs chain self envelope →
          ∀ result, resolution.verify avs chain self (some envelope) ≠ .ok result) := by
  intro avs
  have counted : avs.toOperatorTable.Counted :=
    play_preserves (fun _ _ _ counted done => MockEigenLayerAVS.call_counted counted done)
      (MockEigenLayerAVS.create_counted creates) calls
  refine ⟨⟨avs.quorum.1, avs.quorum.2, counted⟩, fun resolution envelope after => ⟨Resolution.verify_true, ?_,
    fun unreadable _ => Resolution.verify_reverts unreadable⟩⟩
  intro rejects operator
  rcases Resolution.verify_false rejects with ⟨names, short, rfl⟩ | ⟨slashes, rfl⟩
  · simp [names, short]
  · simp only [slashes, not_false_eq_true, true_and, MockEigenLayerAVS.slashed]
    split
    · rfl
    · rfl

/-- The owner removes operator 8, and the threshold of two comes down with it. -/
theorem quorum_exact_removed :
    ∃ created, MockEigenLayerAVS.create 9 [7, 8] 2 = .ok created ∧
      let avs := play (MockEigenLayerAVS.call (Resolution.chainSigning Resolution.openWin) 5) created
        [.setOperator 9 8 false]
      1 ≤ avs.threshold ∧ avs.threshold ≤ avs.operatorCount ∧ avs.toOperatorTable.Counted := by
  have creates : ∃ created, MockEigenLayerAVS.create 9 [7, 8] 2 = .ok created := ⟨_, rfl⟩
  obtain ⟨created, creates⟩ := creates
  exact ⟨created, creates,
    (quorum_exact (Resolution.chainSigning Resolution.openWin) 5 9 [7, 8] 2 created creates _).1⟩

end FairMarket
