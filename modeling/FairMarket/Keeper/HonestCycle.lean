import FairMarket.Attestation.SlashCounts
import FairMarket.Keeper.BatchDispatch
import FairMarket.Keeper.FrozenBook

/-! A job from its collection to its settlement: resolved by the local resolver, attested by
operators of the auction's service, and sent at any time while the auction still waits. -/

namespace FairMarket

open Keeper

variable {τ σ : Type}

namespace Resolution

/-- The call that submits the resolution, by the kind of its winner. -/
def submission (resolution : Resolution) (avsProof : Proof) : Tx σ :=
  match resolution.winner with
  | .open_ winner => .submitResolution resolution.auctionId winner resolution.winnerCiphertext
      resolution.winningAmount avsProof
  | .shielded identity => .submitShieldedResolution resolution.auctionId identity resolution.winnerCiphertext
      resolution.winningAmount avsProof

end Resolution

namespace World

/-- The keeper asks the vault and the registry that are pinned for the auction, and this vault lets it preview,
or it has no commitments to ask about. -/
def CollectsPinned (w : World σ) (account : Address) (auctionId : AuctionId) : Prop :=
  (w.market.auctions auctionId).shieldedCommitments = [] ∨
    w.ReadsDeposits account auctionId ∧
      w.market.shieldedIdentityRegistry = (w.snapshot auctionId).shieldedIdentityRegistry

variable {env : External σ} {w : World σ} {account : Address} {auctionId : AuctionId} {bids : List EncryptedBidRecord}

/-- Then it gets the auction's bid book. -/
theorem Coherent.collect_pinned (coherent : w.Coherent env auctionId)
    (running : (w.market.auctions auctionId).auction.state.running = true) (pinned : w.CollectsPinned account auctionId)
    (collected : w.collectEncryptedBidsFromChain env account auctionId = .ok bids) : bids = w.bidBook auctionId := by
  have shows_ : w.ShowsDeposits env account auctionId := by
    rcases pinned with empty | ⟨reads, -⟩
    · intro c listed
      rw [empty] at listed
      cases listed
    · exact coherent.shows_of_readsDeposits running reads
  rw [collect_shows (coherent.wired.found_of_running running) shows_ collected]
  refine congrArg (w.publicEntries auctionId ++ ·) (List.map_congr_left fun c listed => ?_)
  obtain ⟨_, _, standing⟩ := coherent.standing running listed
  rw [standing.currentName_pinned coherent.wired (pinned.resolve_left (List.ne_nil_of_mem listed)).2]

/-- The job that is enqueued for an auction is its job, and for its request. -/
theorem Coherent.jobOf_enqueued (coherent : w.Coherent env auctionId)
    (running : (w.market.auctions auctionId).auction.state.running = true) (pinned : w.CollectsPinned account auctionId)
    {store : AuctionStateStore} {auction : StoredAuctionRecord} {nowMs : Number} {stored : StoredDispatchJob}
    (about : auction.auctionId = (auctionId.toNat : ℤ))
    (enqueues : turn store auction (w.inspectTriggeredAuction auction.auctionId)
      (w.readBidBook env account auction.auctionId) nowMs = .enqueues stored) :
    JobOf w auctionId (toDispatchJob stored) ∧
      stored.requestId = .hash (w.market.auctions auctionId).resolutionRequest.requestId := by
  obtain ⟨⟨request, inspected, same⟩, book, own⟩ := turn_enqueues enqueues
  have collected := coherent.collect_pinned running pinned (turn_enqueues_collected about enqueues)
  have listed := auctionExists_eq (coherent.wired.found_of_running running)
  rw [about] at inspected book own
  simp only [inspectTriggeredAuction, toUint256_toNat, getResolutionRequest, listed, ok_bind, bind_eq_ok,
    pure_eq_ok, Except.ok.injEq] at inspected
  simp only [readBidBook, toUint256_toNat, getAuctionStartingPrice, listed, ok_bind, bind_eq_ok, pure_eq_ok,
    Except.ok.injEq, Prod.mk.injEq] at book
  obtain ⟨-, ⟨-, -, rfl⟩, rfl⟩ := inspected
  obtain ⟨-, -, -, price⟩ := book
  refine ⟨⟨?_, price.symm, List.Perm.of_eq collected⟩, same⟩
  show BitVec.ofInt 256 stored.auctionId = auctionId
  rw [own, BitVec.ofInt_natCast, BitVec.ofNat_toNat, BitVec.setWidth_eq]

end World

namespace Keeper

/-- What a payload says, in the types of the contracts. -/
def AttestationPayload.toResolution (payload : AttestationPayload) (market : Address) : Except Revert Resolution := do
  let auctionId ← toUint256 payload.auctionId
  let requestId ← payload.requestId.toBytes32
  let winnerCiphertext ← payload.winnerCiphertext.toBytes32
  let winningAmount ← toUint256 payload.winningAmount
  if payload.winnerKind = some .shielded then
    let identity ← payload.winner.toBytes32
    return {
      winner := .shielded identity
      market
      auctionId
      requestId
      winnerCiphertext
      winningAmount := winningAmount.toNat }
  else
    let winner ← payload.winner.toAddress
    return {
      winner := .open_ winner
      market
      auctionId
      requestId
      winnerCiphertext
      winningAmount := winningAmount.toNat }

/-- `computeDigest` or `computeShieldedDigest` of the service, for the kind of the payload. -/
def readDigest (chain : Chain) (service market : Address) (payload : AttestationPayload) : Except Revert Digest := do
  let resolution ← payload.toResolution market
  resolution.computedDigest chain service

/-- The transaction that is sent submits what the payload says. -/
theorem toTransaction_of_resolution {payload : AttestationPayload} {market : Address} {resolution : Resolution}
    (reads : payload.toResolution market = .ok resolution) (proof : AttestationProofEnvelope) :
    toTransaction (σ := σ) payload proof =
      .ok (resolution.submission (some (resolution.envelope proof.operators proof.signatures))) := by
  simp only [AttestationPayload.toResolution, bind_eq_ok] at reads
  obtain ⟨auctionId, id, requestId, request, winnerCiphertext, ciphertext, winningAmount, amount, reads⟩ := reads
  simp only [toTransaction, id, request, ciphertext, amount, ok_bind]
  split at reads
  · rename_i shielded
    obtain ⟨identity, named, reads⟩ := bind_eq_ok.mp reads
    obtain rfl := Except.ok.inj reads
    rw [if_pos shielded, named]
    rfl
  · rename_i opened
    obtain ⟨winner, named, reads⟩ := bind_eq_ok.mp reads
    obtain rfl := Except.ok.inj reads
    rw [if_neg opened, named]
    rfl

/-- The chain recovers the signer from whatever it signs. -/
def AVSOperatorSigner.Honest (chain : Chain) (signer : AVSOperatorSigner) : Prop :=
  ∀ digest, ∃ signature, signer.signDigest digest = .ok signature ∧
    chain.recover digest.toEthSignedMessageHash signature = some signer.address

/-- The submitter's threshold is not below the service's, and it has that many operators,
all of them operators of the service and no two the same. -/
structure Staffed (chain : Chain) (avs : MockEigenLayerAVS) (threshold : ℤ) (operators : List AVSOperatorSigner) :
    Prop where
  required : (avs.threshold : ℤ) ≤ threshold
  enough : threshold ≤ operators.length
  distinct : (operators.map (·.address)).Nodup
  registered : ∀ operator ∈ operators, avs.isOperator operator.address = true
  honest : ∀ operator ∈ operators, operator.Honest chain

section Operators

variable {chain : Chain} {avs : MockEigenLayerAVS} {threshold : ℤ} {operators : List AVSOperatorSigner}
  {payload : AttestationPayload} {digest : Digest} {resolution : Resolution} {service : Address}

theorem sliceTo_of_nonneg {α : Type} {stop : ℤ} (nonneg : 0 ≤ stop) (values : List α) :
    sliceTo stop values = values.take stop.toNat := by
  rw [sliceTo, if_neg (not_lt.mpr nonneg)]

/-- The proof of a staffed submitter is one of a quorum. -/
theorem Staffed.attests (staffed : Staffed chain avs threshold operators)
    (computed : resolution.computedDigest chain service = .ok digest) :
    ∃ proof, AvsSubmitter.collectProof threshold payload digest operators = .ok proof ∧
      resolution.Attested avs chain service (resolution.envelope proof.operators proof.signatures) := by
  have nonneg : 0 ≤ threshold := (Int.natCast_nonneg _).trans staffed.required
  have among : ∀ operator ∈ sliceTo threshold operators, operator ∈ operators := by
    rw [sliceTo_of_nonneg nonneg]
    exact fun operator => List.mem_of_mem_take
  have length : (sliceTo threshold operators).length = threshold.toNat := by
    rw [sliceTo_of_nonneg nonneg, List.length_take, min_eq_left (Int.toNat_le.mpr staffed.enough)]
  obtain ⟨signatures, signed⟩ := mapM_succeeds_iff.mpr fun operator member =>
    (staffed.honest operator (among operator member) digest).imp fun _ => And.left
  refine ⟨_, bind_eq_ok.mpr ⟨(), revertIf_eq_ok.mpr (not_lt.mpr staffed.enough), bind_eq_ok.mpr
    ⟨signatures, signed, rfl⟩⟩, ?_⟩
  have turns := mapM_eq_ok.mp signed
  exact {
    names := ⟨rfl, rfl, rfl, rfl, rfl⟩
    paired := by
      show ((sliceTo threshold operators).map _).length = signatures.length
      rw [List.length_map, turns.length_eq]
    enough := by
      show avs.threshold ≤ ((sliceTo threshold operators).map _).length
      rw [List.length_map, length]
      have := staffed.required
      omega
    distinct := by
      show ((sliceTo threshold operators).map _).Nodup
      rw [sliceTo_of_nonneg nonneg, List.map_take]
      exact (List.take_sublist _ _).nodup staffed.distinct
    registered := by
      intro operator member
      obtain ⟨signer, chosen, rfl⟩ := List.mem_map.mp member
      exact staffed.registered signer (among signer chosen)
    signed := by
      refine ⟨digest, computed, fun signer member => ?_⟩
      obtain ⟨⟨operator, signature⟩, paired, rfl⟩ := List.mem_map.mp
        (List.zip_map_left .. ▸ member : signer ∈ ((sliceTo threshold operators).zip signatures).map _)
      obtain ⟨known, signs, recovers⟩ := staffed.honest operator (among operator (List.of_mem_zip paired).1) digest
      obtain rfl := Except.ok.inj (signs.symm.trans (List.forall₂_zip turns paired))
      exact recovers }

end Operators

end Keeper

namespace World

section Submission

variable {base : External τ} {w next : World (Hosted τ)} {msg : Msg} {resolution : Resolution}
  {engine : SettlementEngine} {avs : MockEigenLayerAVS} {envelope : ProofEnvelope} {avsProof : Proof}

/-- The call of the market that the resolution is submitted with. -/
def submit (env : External σ) (w : World σ) (msg : Msg) (resolution : Resolution) (avsProof : Proof) :
    Except Revert (Bool × World σ) :=
  match resolution.winner with
  | .open_ winner => w.submitResolution env msg resolution.auctionId winner resolution.winnerCiphertext
      resolution.winningAmount avsProof
  | .shielded identity => w.submitShieldedResolution env msg resolution.auctionId identity
      resolution.winnerCiphertext resolution.winningAmount avsProof

/-- A service that is shown a quorum answers as one that attests anything. -/
theorem consult_attests (served : w.outside.services engine.avs = some avs)
    (attested : resolution.Attested avs base.toChain engine.avs envelope) :
    w.outside.consult engine.avs (fun avs => resolution.verify avs base.toChain engine.avs (some envelope)) =
      .ok (true, w.outside) := by
  refine consult_ok.mpr ⟨avs, avs, served, Resolution.verify_true.mpr ⟨attested, rfl⟩, ?_⟩
  rw [← served, Function.update_eq_self]

/-- What the market does with a quorum is what it does where anything is attested. -/
theorem submit_attested
    (deployed : w.engines (w.auctionSettlementEngine (w.market.auctions resolution.auctionId)) = some engine)
    (served : w.outside.services engine.avs = some avs)
    (attested : resolution.Attested avs base.toChain engine.avs envelope) (market : resolution.market = base.market)
    (requested : resolution.requestId = (w.market.auctions resolution.auctionId).resolutionRequest.requestId)
    (done : w.submit base.hosting.attesting msg resolution avsProof = .ok (true, next)) :
    w.submit base.hosting msg resolution (some envelope) = .ok (true, next) := by
  have answers := consult_attests served attested
  obtain ⟨winner, named, auctionId, requestId, winnerCiphertext, winningAmount⟩ := resolution
  obtain rfl : named = base.market := market
  obtain rfl : requestId = (w.market.auctions auctionId).resolutionRequest.requestId := requested
  cases winner with
  | open_ winner =>
    simp only [submit, submitResolution, bind_eq_ok, auctionExists_ok, requireSome_eq_ok, Prod.exists] at done ⊢
    obtain ⟨cell, ⟨found, rfl⟩, _, resolving, _, requests, _, serves, _, valid, _, present, proofAccepted, outside,
      verified, done⟩ := done
    obtain rfl := Option.some.inj (deployed.symm.trans present)
    obtain ⟨_, configured, same⟩ := bind_eq_ok.mp verified
    obtain ⟨rfl, rfl⟩ := Prod.mk.inj (Except.ok.inj same)
    exact ⟨_, ⟨found, rfl⟩, _, resolving, _, requests, _, serves, _, valid, engine, present, true, w.outside,
      bind_eq_ok.mpr ⟨_, configured, answers⟩, done⟩
  | shielded identity =>
    simp only [submit, submitShieldedResolution, bind_eq_ok, auctionExists_ok, requireSome_eq_ok,
      Prod.exists] at done ⊢
    obtain ⟨cell, ⟨found, rfl⟩, _, resolving, _, requests, _, serves, commitmentHash, valid, _, present,
      proofAccepted, outside, verified, done⟩ := done
    obtain rfl := Option.some.inj (deployed.symm.trans present)
    obtain ⟨_, configured, same⟩ := bind_eq_ok.mp verified
    obtain ⟨rfl, rfl⟩ := Prod.mk.inj (Except.ok.inj same)
    exact ⟨_, ⟨found, rfl⟩, _, resolving, _, requests, _, serves, commitmentHash, valid, engine, present, true,
      w.outside, bind_eq_ok.mpr ⟨_, configured, answers⟩, done⟩

theorem asked_submission {market : Address} (own : resolution.market = market)
    (requested : resolution.requestId = (w.market.auctions resolution.auctionId).resolutionRequest.requestId) :
    w.asked market (resolution.submission avsProof) = some resolution := by
  obtain ⟨winner, named, auctionId, requestId, winnerCiphertext, winningAmount⟩ := resolution
  obtain rfl : named = market := own
  obtain rfl : requestId = (w.market.auctions auctionId).resolutionRequest.requestId := requested
  cases winner with
  | open_ winner => rfl
  | shielded identity => rfl

/-- A submission of a user that costs nothing and comes in time goes to the market. -/
theorem respond_submission (user : msg.sender ≠ 0 ∧ w.isSystem base.hosting msg.sender = false)
    (free : msg.value = 0) (timely : w.timestamp ≤ msg.timestamp)
    (done : w.submit base.hosting msg resolution avsProof = .ok (true, next)) :
    w.respond base.hosting (msg, resolution.submission avsProof) =
      .ok (true, { next with timestamp := msg.timestamp }) := by
  have existing : (resolution.submission avsProof : Tx (Hosted τ)).creates = false := by
    unfold Resolution.submission
    cases resolution.winner <;> rfl
  have replied : w.reply base.hosting msg (resolution.submission avsProof) = .ok (true, next) := by
    rw [← done, Resolution.submission, submit]
    cases resolution.winner with
    | open_ winner => rfl
    | shielded identity => rfl
  exact respond_unpaid existing user.1 user.2 timely free replied

end Submission

end World

namespace Keeper

theorem toBytes32_ok {text : Text} {bytes : Bytes32} : text.toBytes32 = .ok bytes ↔ text = .hash bytes := by
  cases text <;> simp [Text.toBytes32]

theorem toAddress_ok {text : Text} {address : Address} : text.toAddress = .ok address ↔ text = .account address := by
  cases text <;> simp [Text.toAddress]

/-- An amount that is decoded fits a word. -/
theorem decode_lt {ciphertext : Text} {amount : ℕ}
    (decodes : decodeLocalPrototypeEncryptedNumeric ciphertext = .ok amount) : amount < 2 ^ 256 := by
  simp only [decodeLocalPrototypeEncryptedNumeric, bind_eq_ok, pure_eq_ok, Except.ok.injEq] at decodes
  obtain ⟨parsed, -, -, -, rfl⟩ := decodes
  exact lt_of_le_of_lt Nat.and_le_right (by decide)

/-- The resolution as the contracts read it from the artifact of the keeper's. -/
structure ReadAs (resolution : CoFheResolution) (requestId : Bytes32) (read : Resolution) : Prop where
  about : read.auctionId = resolution.auctionId
  requestId : read.requestId = requestId
  winnerCiphertext : resolution.winnerCiphertext = .hash read.winnerCiphertext
  winningAmount : read.winningAmount = resolution.winningAmount
  winner : normalizeWinnerIdentity resolution.winner =
    if resolution.winnerKind = .shielded then .hash read.winner.identity else .account read.winner.account
  other : if resolution.winnerKind = .shielded then read.winner.account = 0 else read.winner.identity = 0

theorem toResolution_of_submits {env : External σ} {w next : World σ} {msg : Msg} {resolution : CoFheResolution}
    {requestId : Bytes32} {avsProof : Proof} (request : resolution.requestId = .hash requestId)
    (fits : resolution.winningAmount < 2 ^ 256) (storedAtMs : Number) (market : Address)
    (done : submitPayload env w msg resolution avsProof = .ok (true, next)) :
    ∃ read, (toPayload (toArtifact resolution storedAtMs)).toResolution market = .ok read ∧
      read.market = market ∧ ReadAs resolution requestId read ∧ w.submit env msg read avsProof = .ok (true, next) := by
  obtain ⟨winnerCiphertext, ciphertext, done⟩ := bind_eq_ok.mp done
  obtain ⟨amount, reads, same⟩ := toUint256_natCast fits
  have id : toUint256 (toPayload (toArtifact resolution storedAtMs)).auctionId = .ok resolution.auctionId :=
    toUint256_toNat _
  have asked : (toPayload (toArtifact resolution storedAtMs)).requestId.toBytes32 = .ok requestId :=
    toBytes32_ok.mpr request
  have amounts : toUint256 (toPayload (toArtifact resolution storedAtMs)).winningAmount = .ok amount := reads
  have kind : (toPayload (toArtifact resolution storedAtMs)).winnerKind = some .shielded ↔
      resolution.winnerKind = .shielded := Option.some_inj
  simp only [AttestationPayload.toResolution, id, asked, amounts, kind, ok_bind]
  rw [show (toPayload (toArtifact resolution storedAtMs)).winnerCiphertext.toBytes32 = .ok winnerCiphertext from
    ciphertext, ok_bind]
  split at done
  · rename_i shielded
    obtain ⟨identity, named, done⟩ := bind_eq_ok.mp done
    refine ⟨_, by rw [if_pos shielded]; exact bind_eq_ok.mpr ⟨identity, named, rfl⟩, rfl, ?_, by rw [← done, ← same]; rfl⟩
    exact ⟨rfl, rfl, toBytes32_ok.mp ciphertext, same, by rw [if_pos shielded]; exact toBytes32_ok.mp named,
      by rw [if_pos shielded]; rfl⟩
  · rename_i opened
    obtain ⟨winner, named, done⟩ := bind_eq_ok.mp done
    refine ⟨_, by rw [if_neg opened]; exact bind_eq_ok.mpr ⟨winner, named, rfl⟩, rfl, ?_, by rw [← done, ← same]; rfl⟩
    exact ⟨rfl, rfl, toBytes32_ok.mp ciphertext, same, by rw [if_neg opened]; exact toAddress_ok.mp named,
      by rw [if_neg opened]; rfl⟩

/-- The outcome names a bid. -/
structure WonBy (bid : EncryptedBidRecord) (outcome : Outcome) : Prop where
  winner : bid.bidder = if bid.isShielded then .hash outcome.winningCommitment else .account outcome.winner
  winnerCiphertext : bid.encryptedBid = .hash outcome.winnerCiphertext

/-- The best bid of the job has won, for its amount, or nobody has since no bid may win. -/
def WonByBest (job : CoFheDispatchJob) (outcome : Outcome) : Prop :=
  (∃ bid ∈ job.bids, WonBy bid outcome ∧ bid.Eligible job.startingPrice outcome.winningAmount ∧
      ∀ other ∈ job.bids, ∀ amount, other.Eligible job.startingPrice amount → amount ≤ outcome.winningAmount) ∨
    outcome.winner = 0 ∧ outcome.winningCommitment = 0 ∧ outcome.winningAmount = 0 ∧
      ∀ bid ∈ job.bids, ∀ amount, ¬ bid.Eligible job.startingPrice amount

/-- In a book the public bids are under accounts, the shielded ones under identities. -/
theorem bidder_of_mem_bidBook {w : World σ} {auctionId : AuctionId} {bid : EncryptedBidRecord}
    (member : bid ∈ w.bidBook auctionId) :
    if bid.isShielded then ∃ identity, bid.bidder = .hash identity else ∃ account, bid.bidder = .account account := by
  rcases List.mem_append.mp member with publicBid | shieldedBid
  · obtain ⟨account, -, rfl⟩ := List.mem_map.mp publicBid
    exact ⟨account, rfl⟩
  · obtain ⟨commitmentHash, -, rfl⟩ := List.mem_map.mp shieldedBid
    exact ⟨_, rfl⟩

/-- What the local resolver finds is what the market records of it. -/
theorem ReadAs.wonByBest {w : World σ} {auctionId : AuctionId} {job : CoFheDispatchJob} {resolution : CoFheResolution}
    {requestId : Bytes32} {read : Resolution} {outcome : Outcome} (of : JobOf w auctionId job)
    (resolves : LocalCofheBatchClient.resolveJob job = .ok resolution) (reads : ReadAs resolution requestId read)
    (recorded : read.RecordedIn outcome) : WonByBest job outcome := by
  obtain ⟨-, -, winnerCiphertext, winningAmount, winner, other⟩ := reads
  obtain ⟨-, ⟨nobody, unfit⟩ | ⟨bid, known, names, fits, most⟩⟩ := resolveJob_names resolves
  · right
    rw [nobody.winner, nobody.winnerKind, if_neg (by decide)] at winner
    rw [nobody.winnerKind, if_neg (by decide)] at other
    refine ⟨?_, ?_, ?_, unfit⟩
    · rw [recorded.winner]
      injection winner with same
      exact same.symm
    · rw [recorded.winningCommitment, other]
    · rw [recorded.winningAmount, winningAmount, nobody.winningAmount]
  · left
    have same : outcome.winningAmount = resolution.winningAmount := recorded.winningAmount.trans winningAmount
    rw [← same] at fits most
    refine ⟨bid, known, ⟨?_, ?_⟩, fits, most⟩
    · have bidder := bidder_of_mem_bidBook ((of.book.mem_iff).mp known)
      rw [recorded.winner, recorded.winningCommitment]
      rw [names.winner, names.winnerKind] at winner
      cases shielded : bid.isShielded with
      | true =>
        rw [shielded, if_pos rfl] at bidder
        obtain ⟨identity, named⟩ := bidder
        rw [shielded, named] at winner
        rw [named]
        exact winner
      | false =>
        rw [shielded, if_neg Bool.false_ne_true] at bidder
        obtain ⟨account, named⟩ := bidder
        rw [shielded, named] at winner
        rw [named]
        exact winner
    · rw [recorded.winnerCiphertext, ← names.winnerCiphertext, winnerCiphertext]

end Keeper

/-- A job that was enqueued while its auction awaited a resolution, by a keeper that asked the
auction's own vault and registry and was shown its deposits, and any later state in which the
auction still waits. What the local resolver makes of the job then, operators of the
auction's service attest, and the market carries out once it is sent: the auction is
finalized and its winner is the best bid there is. Only a best bid of zero is not
carried out. -/
theorem collected_job_settles (deployment : Deployment) (base : External τ) (outside : Hosted τ)
    (before later : List (Msg × Tx (Hosted τ))) (account : Address) (auctionId : AuctionId)
    (store : AuctionStateStore) (auction : StoredAuctionRecord) (nowMs : Number) (stored : StoredDispatchJob)
    (jobs : List CoFheDispatchJob) (resolutions : List CoFheResolution) (resolution : CoFheResolution)
    (storedAtMs : Number) (engine : SettlementEngine) (avs : MockEigenLayerAVS) (threshold : ℤ)
    (operators : List AVSOperatorSigner) (msg : Msg) :
    let collected := deployment.run base.hosting outside before
    let w := deployment.run base.hosting outside (before ++ later)
    let job := toDispatchJob stored
    let payload := toPayload (toArtifact resolution storedAtMs)
    (collected.market.auctions auctionId).auction.state = .resolving →
    collected.CollectsPinned account auctionId → auction.auctionId = (auctionId.toNat : ℤ) →
    turn store auction (collected.inspectTriggeredAuction auction.auctionId)
      (collected.readBidBook base.hosting account auction.auctionId) nowMs = .enqueues stored →
    LocalCofheBatchClient.resolveBatch jobs = .ok resolutions → (job, resolution) ∈ jobs.zip resolutions →
    AvoidsZero job → (w.market.auctions auctionId).auction.state = .resolving →
    base.market ≠ 0 → base.hosting.HostsAdapter (w.snapshot auctionId).cofheAdapter →
    w.engines (w.snapshot auctionId).settlementEngine = some engine → engine.avs ≠ 0 →
    w.outside.services engine.avs = some avs → Staffed base.toChain avs threshold operators →
    msg.sender ≠ 0 → w.isSystem base.hosting msg.sender = false → msg.value = 0 → w.timestamp ≤ msg.timestamp →
    msg.timestamp < 2 ^ 64 →
      ∃ digest proof tx next, readDigest base.toChain engine.avs base.market payload = .ok digest ∧
        AvsSubmitter.collectProof threshold payload digest operators = .ok proof ∧
        toTransaction payload proof = .ok tx ∧ w.transact base.hosting (msg, tx) = .ok next ∧
        (next.market.auctions auctionId).auction.state = .finalized ∧
        WonByBest job (next.market.auctions auctionId).outcome := by
  intro collected w job payload resolving pinned about enqueues resolves paired avoids still deployed hosts present
    service served staffed known user free timely clock
  have awaits : (collected.market.auctions auctionId).auction.state.running = true := by
    rw [resolving]
    rfl
  obtain ⟨of, request⟩ := (deployment.run_coherent base.hosting outside before auctionId).jobOf_enqueued awaits pinned
    about enqueues
  have same := deployment.standsStill base.hosting outside before later auctionId resolving still
  have ready : w.Ready base.hosting auctionId msg := {
    coherent := deployment.run_coherent base.hosting outside (before ++ later) auctionId
    accounted := deployment.run_accounted base.hosting outside (before ++ later)
    resolving := still
    engine := ⟨engine, present, service⟩
    deployed
    paced := (deployment.run_paced base.hosting outside (before ++ later)).mono timely
    clock }
  have current : JobOf w auctionId job := same.jobOf_iff.mpr of
  have resolved := List.forall₂_zip (mapM_eq_ok.mp resolves) paired
  obtain ⟨_, submits⟩ : Finalizes base.hosting w msg resolution none :=
    (JobOf.resolveBatch_finalizes ready hosts current).mpr avoids jobs resolutions resolves resolution paired
  have fits : resolution.winningAmount < 2 ^ 256 := by
    obtain ⟨-, ⟨nobody, -⟩ | ⟨bid, -, -, eligible, -⟩⟩ := resolveJob_names resolved
    · rw [nobody.winningAmount]
      decide
    · exact decode_lt eligible.1
  obtain ⟨read, reads, market, readAs, submits⟩ := toResolution_of_submits
    ((resolveJob_requestId resolved).trans request) fits storedAtMs base.market submits
  have own : read.auctionId = auctionId := by
    rw [readAs.about, (resolveJob_names resolved).1, of.about]
  obtain ⟨digest, computed⟩ : ∃ digest, read.computedDigest base.toChain engine.avs = .ok digest := by
    unfold Resolution.computedDigest
    rw [market]
    cases read.winner with
    | open_ winner => exact ⟨_, bind_eq_ok.mpr ⟨(), revertIf_eq_ok.mpr deployed, rfl⟩⟩
    | shielded identity => exact ⟨_, bind_eq_ok.mpr ⟨(), revertIf_eq_ok.mpr deployed, rfl⟩⟩
  obtain ⟨proof, collects, attested⟩ := @Staffed.attests _ _ _ _ payload _ _ _ staffed computed
  have asked : w.engines (w.auctionSettlementEngine (w.market.auctions read.auctionId)) = some engine := by
    rw [own, ready.auctionEngine, present]
  have requested : read.requestId = (w.market.auctions read.auctionId).resolutionRequest.requestId := by
    rw [readAs.requestId, own, same.cell]
  have accepted := World.submit_attested asked served attested market requested submits
  have responds := World.respond_submission ⟨known, user⟩ free timely accepted
  obtain ⟨_, _, _, judges⟩ := World.respond_judged ready.coherent.wired
    (fun id => (deployment.run_reachable base.hosting outside (before ++ later) id).sound)
    (World.asked_submission market requested) responds
  have recorded := judges.settled rfl
  rw [own] at recorded
  refine ⟨digest, proof, _, _, bind_eq_ok.mpr ⟨read, reads, computed⟩, collects, toTransaction_of_resolution reads proof,
    World.transact_eq_ok_iff.mpr ⟨true, responds⟩, recorded.state, readAs.wonByBest of resolved recorded⟩

/-- The only bid is of sixty, and the auction waits for its resolution. -/
def oneBid : List (Msg × Tx (Hosted (ℕ → Address))) :=
  [({ sender := 1, timestamp := 900 }, .setAVS 14 15),
    ({ sender := 1, timestamp := 900 }, .setSettlementEngine 14),
    ({ sender := 9, value := 10, timestamp := 1000 }, .createAuction 5 7 100 0 10 false),
    ({ sender := 8, value := 100, timestamp := 1001 }, .lockEscrow 1),
    ({ sender := 8, timestamp := 1002 }, .placeBid 1 (CofheCiphertextEncoding.encodeEuint96 60)),
    ({ sender := 8, timestamp := 1100 }, .triggerFinalize 1)]

/-- The auction as the monitor has stored it. -/
def oneBidRecord : StoredAuctionRecord where
  auctionId := 1
  state := 2
  endTime := 1100
  trackedAtMs := 0
  retryCount := 0

/-- Its job. -/
def oneBidJob : StoredDispatchJob :=
  let request := ((hostDeployment.run zkChain.hosting hostedOutside oneBid).market.auctions 1).resolutionRequest
  { auctionId := 1
    requestId := .hash request.requestId
    winnerHandle := .hash request.winnerHandle
    amountHandle := .hash request.amountHandle
    startingPrice := 0
    bids := [{
      bidder := .account 8
      encryptedBid := .hash (CofheCiphertextEncoding.encodeEuint96 60)
      availableEscrow := 100
      isShielded := some false }]
    enqueuedAtMs := 3 }

/-- Then a stranger has a proof rejected. -/
def rejectedOnce : List (Msg × Tx (Hosted (ℕ → Address))) :=
  [({ sender := 7, timestamp := 1101 }, .submitResolution 1 0 0 0 (some garbled))]

set_option maxRecDepth 4000 in
/-- The bidder gets the asset for its sixty, and the operator was slashed once before. -/
theorem oneBidJob_settles :
    let collected := hostDeployment.run zkChain.hosting hostedOutside oneBid
    let w := hostDeployment.run zkChain.hosting hostedOutside (oneBid ++ rejectedOnce)
    turn {} oneBidRecord (collected.inspectTriggeredAuction 1) (collected.readBidBook zkChain.hosting 7 1) 3 =
        .enqueues oneBidJob ∧
      w.slashCountAt 15 41 = some 1 ∧ ∃ resolution proof tx next,
        LocalCofheBatchClient.resolveJob (toDispatchJob oneBidJob) = .ok resolution ∧
          toTransaction (toPayload (toArtifact resolution 5)) proof = .ok tx ∧
          w.transact zkChain.hosting ({ sender := 7, timestamp := 1102 }, tx) = .ok next ∧
          (next.market.auctions 1).auction.state = .finalized := by
  intro collected w
  have enqueues : turn {} oneBidRecord (collected.inspectTriggeredAuction 1)
      (collected.readBidBook zkChain.hosting 7 1) 3 = .enqueues oneBidJob := by decide +kernel
  have facts : (w.engines (w.snapshot 1).settlementEngine).map (·.avs) = some 15 ∧
      (w.outside.services 15).map (fun avs => (avs.threshold, avs.isOperator 41, avs.slashCount 41)) =
        some (1, true, 1) := by decide +kernel
  obtain ⟨engine, present, service⟩ := Option.map_eq_some_iff.mp facts.1
  obtain ⟨avs, served, counts⟩ := Option.map_eq_some_iff.mp facts.2
  obtain ⟨required, registered, slashed⟩ : avs.threshold = 1 ∧ avs.isOperator 41 = true ∧ avs.slashCount 41 = 1 := by
    simpa using counts
  obtain ⟨resolution, resolves⟩ : ∃ resolution,
      LocalCofheBatchClient.resolveJob (toDispatchJob oneBidJob) = .ok resolution := ⟨_, rfl⟩
  have staffed : Staffed zkChain.toChain avs 1 [soleWallet 41 ""] := {
    required := by rw [required]; decide
    enough := by decide
    distinct := List.nodup_singleton _
    registered := List.forall_mem_singleton.mpr registered
    honest := List.forall_mem_singleton.mpr fun _ => ⟨_, rfl, rfl⟩ }
  have avoids : AvoidsZero (toDispatchJob oneBidJob) := by
    intro _ bid member eligible
    rw [List.mem_singleton.mp member] at eligible
    have decoded : Except.ok 60 = Except.ok 0 := eligible.1
    cases decoded
  obtain ⟨digest, proof, tx, next, -, -, sends, done, finalized, -⟩ := collected_job_settles hostDeployment zkChain
    hostedOutside oneBid rejectedOnce 7 1 {} oneBidRecord 3 oneBidJob [toDispatchJob oneBidJob] [resolution] resolution 5
    engine avs 1 [soleWallet 41 ""] { sender := 7, timestamp := 1102 } (by decide +kernel) (.inl (by decide +kernel)) rfl
    enqueues (mapM_eq_ok.mpr (.cons resolves .nil)) (List.mem_singleton_self _) avoids (by decide +kernel) (by decide)
    ⟨fun _ _ _ => rfl, fun _ _ _ => rfl⟩ present (by rw [service]; decide) (by rw [service]; exact served) staffed
    (by decide) (by decide +kernel) rfl (by decide +kernel) (by decide)
  exact ⟨enqueues, by rw [World.slashCountAt, served, Option.map_some, slashed], resolution, proof, tx, next, resolves,
    sends, done, finalized⟩

end FairMarket
