import FairMarket.Keeper.PinnedBook
import FairMarket.Market.Accepting

/-! What the keeper's resolvers put out against what the market lets through. The market
wants every winner to pay something, at least the starting price and at most its escrow. -/

namespace FairMarket

open CofheCiphertextEncoding (Numeric payloadOf)
open Keeper (EncryptedBidRecord CoFheDispatchJob CoFheResolution LiveEntry zeroHash)

variable {σ : Type}

namespace Keeper

/-- The name the submitter sends for a winner: no winner, or a blank one, is the zero address. -/
def normalizeWinnerIdentity : Option Text → Text
  | none => .account 0
  | some winner => if winner.blank then .account 0 else winner

def Text.toAddress : Text → Except Revert Address
  | .account address => .ok address
  | _ => .error .malformedCalldata

def Text.toBytes32 : Text → Except Revert Bytes32
  | .hash bytes => .ok bytes
  | _ => .error .malformedCalldata

/-- `EthersResolutionWriter.submitResolution`, for the payload made of a resolution. -/
def submitPayload (env : External σ) (w : World σ) (msg : Msg) (resolution : CoFheResolution)
    (avsProof : Proof) : Except Revert (Bool × World σ) := do
  let winner := normalizeWinnerIdentity resolution.winner
  let winnerCiphertext ← resolution.winnerCiphertext.toBytes32
  if resolution.winnerKind = .shielded then
    let winnerIdentity ← winner.toBytes32
    w.submitShieldedResolution env msg resolution.auctionId winnerIdentity winnerCiphertext
      resolution.winningAmount avsProof
  else
    let winner ← winner.toAddress
    w.submitResolution env msg resolution.auctionId winner winnerCiphertext resolution.winningAmount avsProof

/-- The market returns `true` for the resolution once its service attests it. -/
def Finalizes (env : External σ) (w : World σ) (msg : Msg) (resolution : CoFheResolution) (avsProof : Proof) :
    Prop :=
  ∃ next, submitPayload env.attesting w msg resolution avsProof = .ok (true, next)

/-- The resolution names a bid: its bidder, its kind and its handle. -/
structure Names (resolution : CoFheResolution) (bid : EncryptedBidRecord) : Prop where
  winner : resolution.winner = some bid.bidder
  winnerKind : resolution.winnerKind = if bid.isShielded then .shielded else .openBid
  winnerCiphertext : resolution.winnerCiphertext = bid.encryptedBid

/-- The resolution is that nobody won. -/
structure NamesNobody (resolution : CoFheResolution) : Prop where
  winner : resolution.winner = none
  winnerKind : resolution.winnerKind = .noWinner
  winnerCiphertext : resolution.winnerCiphertext = zeroHash
  winningAmount : resolution.winningAmount = 0

end Keeper

open Keeper

namespace World

/-- The bid book of an auction as the market has it. -/
def bidBook (w : World σ) (auctionId : AuctionId) : List EncryptedBidRecord :=
  (w.market.auctions auctionId).bidders.map (w.publicEntry auctionId) ++
    w.shieldedEntries auctionId (w.pinnedIdentity auctionId)

variable {env : External σ} {w : World σ} {auctionId : AuctionId} {msg : Msg} {avsProof : Proof}
  {resolution : CoFheResolution}

theorem Ready.nobody_finalizes (ready : w.Ready env auctionId msg) (about : resolution.auctionId = auctionId)
    (nobody : NamesNobody resolution) : Finalizes env w msg resolution avsProof := by
  obtain ⟨winner, winnerKind, winnerCiphertext, winningAmount⟩ := nobody
  have accepted : ∃ next, w.submitResolution env.attesting msg auctionId 0 0 0 avsProof = .ok (true, next) :=
    ready.submitResolution_iff.mpr rfl
  obtain ⟨next, submits⟩ := accepted
  refine ⟨next, ?_⟩
  rw [submitPayload, winner, winnerKind, winnerCiphertext, winningAmount, about]
  exact submits

/-- Of the bids of a book the market accepts those with an amount it allows. -/
theorem Ready.named_finalizes (ready : w.Ready env auctionId msg)
    (hosts : env.HostsAdapter (w.snapshot auctionId).cofheAdapter)
    (about : resolution.auctionId = auctionId) {bid : EncryptedBidRecord} (member : bid ∈ w.bidBook auctionId)
    (names : Names resolution bid) :
    Finalizes env w msg resolution avsProof ↔
      resolution.winningAmount ≠ 0 ∧
        (w.market.auctions auctionId).auction.startingPrice ≤ (resolution.winningAmount : ℤ) ∧
        resolution.winningAmount ≤ bid.availableEscrow ∧ bid.encryptedBid ≠ zeroHash := by
  obtain ⟨winner, winnerKind, winnerCiphertext⟩ := names
  rcases List.mem_append.mp member with publicBid | shieldedBid
  · obtain ⟨p, listed, rfl⟩ := List.mem_map.mp publicBid
    have known := (ready.coherent.listed.publicLane.known p).mpr listed
    obtain ⟨account, numeric, covers⟩ := ready.coherent.escrowed hosts ready.running p known
    have stored : (w.market.auctions auctionId).encryptedBids p ≠ 0 := numeric.ne_zero
    have adapter := ready.coherent.wired.auctionAdapter ready.found
    have covered : env.lte w.outside (w.snapshot auctionId).cofheAdapter
        ((w.market.auctions auctionId).encryptedBids p) ((w.market.auctions auctionId).escrowBalances p) =
          some true := hosts.lte_eq_true.mpr ⟨numeric, covers⟩
    have payload : submitPayload env.attesting w msg resolution avsProof =
        w.submitResolution env.attesting msg auctionId p ((w.market.auctions auctionId).encryptedBids p)
          resolution.winningAmount avsProof := by
      rw [submitPayload, winner, winnerKind, winnerCiphertext, about]
      rfl
    rw [Finalizes, payload, ready.submitResolution_iff, validatePublicWinner, if_neg account, adapter]
    simp only [bind_eq_ok, exists_revertIf, requireSome_eq_ok, covered, Option.some.injEq,
      publicEntry, zeroHash, ne_eq, Text.hash.injEq, Nat.not_lt, Int.ofNat_le]
    constructor
    · rintro ⟨some_, floor, -, _, rfl, -, enough⟩
      exact ⟨some_, floor, Nat.not_lt.mp (revertIf_eq_ok.mp enough), stored⟩
    · rintro ⟨some_, floor, enough, -⟩
      exact ⟨some_, floor, stored, true, rfl, not_not.mpr rfl, revertIf_eq_ok.mpr (Nat.not_lt.mpr enough)⟩
  · obtain ⟨c, listed, rfl⟩ := List.mem_map.mp shieldedBid
    obtain ⟨vault, registry, standing⟩ := ready.coherent.standing ready.running listed
    have payload : submitPayload env.attesting w msg resolution avsProof =
        w.submitShieldedResolution env.attesting msg auctionId (registry.commitmentToIdentity auctionId c)
          ((w.market.auctions auctionId).shieldedEncryptedBids c) resolution.winningAmount avsProof := by
      rw [submitPayload, winner, winnerKind, winnerCiphertext, about, ← standing.pinnedIdentity_eq]
      rfl
    rw [Finalizes, payload, ready.submitShieldedResolution_iff standing]
    simp only [shieldedEntry, standing.pinnedEscrow_eq, zeroHash, ne_eq, Text.hash.injEq, and_true, Int.ofNat_le]
    constructor
    · rintro ⟨⟨some_, floor, stored⟩, covered⟩
      exact ⟨some_, floor, covered, stored⟩
    · rintro ⟨some_, floor, covered, stored⟩
      exact ⟨⟨some_, floor, stored⟩, covered⟩

/-- In a book the bidder and the kind of an entry are the entry. -/
theorem Ready.bidBook_unique (ready : w.Ready env auctionId msg) {first second : EncryptedBidRecord}
    (left : first ∈ w.bidBook auctionId) (right : second ∈ w.bidBook auctionId)
    (bidder : first.bidder = second.bidder) : first = second := by
  rcases List.mem_append.mp left with publicBid | shieldedBid
  · obtain ⟨p, -, rfl⟩ := List.mem_map.mp publicBid
    rcases List.mem_append.mp right with otherBid | otherBid
    · obtain ⟨other, -, rfl⟩ := List.mem_map.mp otherBid
      injection bidder with same
      rw [same]
    · obtain ⟨c, -, rfl⟩ := List.mem_map.mp otherBid
      cases bidder
  · obtain ⟨c, listed, rfl⟩ := List.mem_map.mp shieldedBid
    rcases List.mem_append.mp right with otherBid | otherBid
    · obtain ⟨p, -, rfl⟩ := List.mem_map.mp otherBid
      cases bidder
    · obtain ⟨other, known, rfl⟩ := List.mem_map.mp otherBid
      injection bidder with same
      rw [ready.coherent.pinned_distinct ready.running c listed other known same]

end World

namespace Keeper

/-- The job of an auction: its id, its price and its bid book, in any order. -/
structure JobOf (w : World σ) (auctionId : AuctionId) (job : CoFheDispatchJob) : Prop where
  about : job.auctionId = auctionId
  price : job.startingPrice = (w.market.auctions auctionId).auction.startingPrice
  book : job.bids.Perm (w.bidBook auctionId)

/-- Where the resolver can read every bid and one of zero may win, one above zero may too. -/
def AvoidsZero (job : CoFheDispatchJob) : Prop :=
  (∀ bid ∈ job.bids, ∃ amount, decodeLocalPrototypeEncryptedNumeric bid.encryptedBid = .ok amount) →
    ∀ bid ∈ job.bids, bid.Eligible job.startingPrice 0 →
      ∃ other ∈ job.bids, ∃ amount, other.Eligible job.startingPrice amount ∧ amount ≠ 0

/-- The amount an entry gives is between the starting price and the escrow of the bid it
names, and a handle is stored for this bid. -/
def PricedWithin (job : CoFheDispatchJob) (entry : LiveEntry) : Prop :=
  ∀ bid ∈ job.bids, entry.winner = some bid.bidder → ∀ amount,
    (entry.winningAmount.getD (.literal "0")).toBigInt = some amount →
      job.startingPrice ≤ amount ∧ amount ≤ bid.availableEscrow ∧ bid.encryptedBid ≠ zeroHash

/-- What the local resolver makes of a job. -/
theorem resolveJob_names {job : CoFheDispatchJob} {resolution : CoFheResolution}
    (resolves : LocalCofheBatchClient.resolveJob job = .ok resolution) :
    resolution.auctionId = job.auctionId ∧
      ((NamesNobody resolution ∧ ∀ bid ∈ job.bids, ∀ amount, ¬ bid.Eligible job.startingPrice amount) ∨
        ∃ bid ∈ job.bids, Names resolution bid ∧ bid.Eligible job.startingPrice resolution.winningAmount ∧
          ∀ other ∈ job.bids, ∀ amount, other.Eligible job.startingPrice amount →
            amount ≤ resolution.winningAmount) := by
  obtain ⟨picked, picks, resolves⟩ := bind_eq_ok.mp resolves
  obtain ⟨highest, leads⟩ := pickHighest_leads picks
  cases picked with
  | none =>
    obtain rfl := Except.ok.inj resolves
    exact ⟨rfl, .inl ⟨⟨rfl, rfl, rfl, rfl⟩, leads.unset rfl⟩⟩
  | some winner =>
    obtain ⟨member, amount, -, eligible, most⟩ := leads.leader winner rfl
    obtain ⟨winningAmount, decoded, resolves⟩ := bind_eq_ok.mp resolves
    obtain rfl := Except.ok.inj resolves
    obtain rfl := Except.ok.inj (decoded.symm.trans eligible.1)
    exact ⟨rfl, .inr ⟨winner, member, ⟨rfl, rfl, rfl⟩, eligible, most⟩⟩

/-- The local resolver resolves a job if it can read every bid. -/
theorem resolveJob_succeeds_iff {job : CoFheDispatchJob} :
    (∃ resolution, LocalCofheBatchClient.resolveJob job = .ok resolution) ↔
      ∀ bid ∈ job.bids, ∃ amount, decodeLocalPrototypeEncryptedNumeric bid.encryptedBid = .ok amount := by
  constructor
  · rintro ⟨resolution, resolves⟩
    obtain ⟨picked, picks, -⟩ := bind_eq_ok.mp resolves
    exact pickHighest_readable picks
  · intro readable
    obtain ⟨picked, picks⟩ := pickHighest_succeeds readable
    unfold LocalCofheBatchClient.resolveJob
    rw [picks, ok_bind]
    cases picked with
    | none => exact ⟨_, rfl⟩
    | some winner =>
      obtain ⟨highest, leads⟩ := pickHighest_leads picks
      obtain ⟨-, amount, -, ⟨decoded, -, -⟩, -⟩ := leads.leader winner rfl
      exact ⟨_, bind_eq_ok.mpr ⟨amount, decoded, rfl⟩⟩

/-- A live entry that is accepted names nobody or a bid of its job. -/
theorem parseLiveResolutionEntry_names {entry : LiveEntry} {jobs : List CoFheDispatchJob}
    {job : CoFheDispatchJob} {resolution : CoFheResolution}
    (found : jobsByRequestId jobs (entry.requestId.getD (.literal "")) = some job)
    (parses : parseLiveResolutionEntry entry jobs = .ok resolution) :
    resolution.auctionId = job.auctionId ∧
      (NamesNobody resolution ∧ entry.winner = none ∨
        ∃ bid ∈ job.bids, Names resolution bid ∧ entry.winner = some bid.bidder ∧
          resolution.winningAmount ≠ 0 ∧
          (entry.winningAmount.getD (.literal "0")).toBigInt = some (resolution.winningAmount : ℤ)) := by
  simp only [parseLiveResolutionEntry, bind_eq_ok, exists_revertIf, requireSome_eq_ok, found,
    Option.some.injEq] at parses
  obtain ⟨_, rfl, winnerKind, kind, -, parses⟩ := parses
  split at parses
  · rename_i nobody
    simp only [bind_eq_ok, exists_revertIf, requireSome_eq_ok, pure_eq_ok, Except.ok.injEq] at parses
    obtain ⟨amount, -, valid, rfl⟩ := parses
    obtain ⟨winner, zero⟩ := not_or.mp valid
    obtain ⟨winnerCiphertext, winningAmount⟩ := not_or.mp zero
    refine ⟨rfl, .inl ⟨⟨rfl, nobody, not_not.mp winnerCiphertext, ?_⟩, not_not.mp winner⟩⟩
    exact Int.toNat_eq_zero.mpr (Int.le_of_eq (not_not.mp winningAmount))
  · rename_i somebody
    simp only [bind_eq_ok, exists_revertIf, requireSome_eq_ok, pure_eq_ok, Except.ok.injEq] at parses
    obtain ⟨amount, parsed, valid, bid, finds, same, rfl⟩ := parses
    obtain ⟨present, material⟩ := not_or.mp valid
    have positive : 0 < amount := by
      have both := (not_or.mp material).2
      omega
    have matching := List.find?_some finds
    simp only [decide_eq_true_eq] at matching
    obtain ⟨bidder, lane⟩ := matching
    have named : entry.winner = some bid.bidder := by
      cases winner : entry.winner with
      | none =>
        rw [winner] at present
        exact absurd (by decide) present
      | some text =>
        rw [winner] at bidder
        rw [bidder]
        rfl
    refine ⟨rfl, .inr ⟨bid, List.mem_of_find?_eq_some finds, ⟨?_, ?_, (not_not.mp same).symm⟩, named, ?_, ?_⟩⟩
    · rw [named]
      rfl
    · dsimp only
      by_cases shielded : bid.isShielded = true
      · rw [if_pos shielded]
        exact lane.mp shielded
      · rw [if_neg shielded]
        cases winnerKind with
        | openBid => rfl
        | shielded => exact absurd (lane.mpr rfl) shielded
        | noWinner => exact absurd rfl somebody
    · dsimp only
      omega
    · dsimp only
      rw [parsed, Int.toNat_of_nonneg positive.le]

variable {env : External σ} {w : World σ} {auctionId : AuctionId} {msg : Msg} {avsProof : Proof}
  {job : CoFheDispatchJob}

/-- The local resolver's output is accepted exactly if no bid of zero is the best one. -/
theorem JobOf.resolveBatch_finalizes (ready : w.Ready env auctionId msg)
    (hosts : env.HostsAdapter (w.snapshot auctionId).cofheAdapter) (of : JobOf w auctionId job) :
    (∀ jobs resolutions, LocalCofheBatchClient.resolveBatch jobs = .ok resolutions →
        ∀ resolution, (job, resolution) ∈ jobs.zip resolutions →
          Finalizes env w msg resolution avsProof) ↔ AvoidsZero job := by
  constructor
  · intro finalizes readable bid member eligible
    obtain ⟨resolution, resolves⟩ := resolveJob_succeeds_iff.mpr readable
    have accepted := finalizes [job] [resolution] (mapM_eq_ok.mpr (.cons resolves .nil)) resolution
      (List.mem_singleton_self _)
    obtain ⟨about, ⟨-, unfit⟩ | ⟨winner, known, names, fits, -⟩⟩ := resolveJob_names resolves
    · exact absurd eligible (unfit bid member 0)
    · have booked := (of.book.mem_iff).mp known
      obtain ⟨nonzero, -⟩ := (ready.named_finalizes hosts (about.trans of.about) booked names).mp accepted
      exact ⟨winner, known, _, fits, nonzero⟩
  · intro avoids jobs resolutions resolves resolution paired
    have turns := mapM_eq_ok.mp resolves
    have resolved := List.forall₂_zip turns paired
    obtain ⟨about, ⟨nobody, -⟩ | ⟨winner, known, names, fits, most⟩⟩ := resolveJob_names resolved
    · exact ready.nobody_finalizes (about.trans of.about) nobody
    · have booked := (of.book.mem_iff).mp known
      refine (ready.named_finalizes hosts (about.trans of.about) booked names).mpr ⟨?_, ?_, fits.2.1, ?_⟩
      · intro zero
        rw [zero] at fits most
        have readable : ∀ bid ∈ job.bids, ∃ amount,
            decodeLocalPrototypeEncryptedNumeric bid.encryptedBid = .ok amount :=
          resolveJob_succeeds_iff.mp ⟨resolution, resolved⟩
        obtain ⟨other, member, amount, eligible, nonzero⟩ := avoids readable winner known fits
        exact nonzero (Nat.le_zero.mp (most other member amount eligible))
      · rw [← of.price]
        exact fits.2.2
      · intro empty
        have decoded := fits.1
        rw [empty] at decoded
        exact (decode_hash_ok.mp decoded).1.ne_zero rfl

/-- A live entry is accepted exactly if it names nobody or an amount within bounds. -/
theorem JobOf.entry_finalizes (ready : w.Ready env auctionId msg)
    (hosts : env.HostsAdapter (w.snapshot auctionId).cofheAdapter) (of : JobOf w auctionId job)
    {entry : LiveEntry} {jobs : List CoFheDispatchJob} {resolution : CoFheResolution}
    (found : jobsByRequestId jobs (entry.requestId.getD (.literal "")) = some job)
    (parses : parseLiveResolutionEntry entry jobs = .ok resolution) :
    Finalizes env w msg resolution avsProof ↔ PricedWithin job entry := by
  obtain ⟨about, ⟨nobody, unnamed⟩ | ⟨bid, known, names, named, nonzero, amount⟩⟩ :=
    parseLiveResolutionEntry_names found parses
  · refine iff_of_true (ready.nobody_finalizes (about.trans of.about) nobody) ?_
    intro bid _ named
    rw [unnamed] at named
    cases named
  · have booked := (of.book.mem_iff).mp known
    rw [ready.named_finalizes hosts (about.trans of.about) booked names, ← of.price]
    constructor
    · rintro ⟨-, floor, covered, stored⟩ other member same value parsed
      have bidder : bid.bidder = other.bidder := Option.some.inj (named.symm.trans same)
      obtain rfl := ready.bidBook_unique booked ((of.book.mem_iff).mp member) bidder
      obtain rfl := Option.some.inj (amount.symm.trans parsed)
      exact ⟨floor, covered, stored⟩
    · intro within
      obtain ⟨floor, covered, stored⟩ := within bid known named _ amount
      exact ⟨nonzero, floor, covered, stored⟩

end Keeper

/-- What the resolvers output and the market accepts. Take any state a run can reach in
which the auction is resolving, with an engine and a service configured and with the
repository's adapter, the job with the auction's bid book, and a message in time. What
the local resolver makes of the job, in any batch, is accepted under an honest quorum
exactly if it cannot read some bid, and so makes nothing, or if a bid above zero may win
where a bid of zero may. And what a live entry for the job is parsed to is accepted
exactly if it names nobody, or an amount from the starting price to the escrow of a
bid with a stored handle. -/
theorem resolver_output_accepted (deployment : Deployment) (env : External σ) (outside : σ)
    (inputs : List (Msg × Tx σ)) (auctionId : AuctionId) (msg : Msg) (avsProof : Proof)
    (job : CoFheDispatchJob) :
    let w := deployment.run env outside inputs
    (w.market.auctions auctionId).auction.state = .resolving →
    (∃ engine, w.engines (w.snapshot auctionId).settlementEngine = some engine ∧ engine.avs ≠ 0) →
    env.market ≠ 0 → env.HostsAdapter (w.snapshot auctionId).cofheAdapter →
    w.timestamp ≤ msg.timestamp → msg.timestamp < 2 ^ 64 → JobOf w auctionId job →
      ((∀ jobs resolutions, LocalCofheBatchClient.resolveBatch jobs = .ok resolutions →
          ∀ resolution, (job, resolution) ∈ jobs.zip resolutions →
            Finalizes env w msg resolution avsProof) ↔ AvoidsZero job) ∧
      ∀ entry jobs resolution, jobsByRequestId jobs (entry.requestId.getD (.literal "")) = some job →
        parseLiveResolutionEntry entry jobs = .ok resolution →
          (Finalizes env w msg resolution avsProof ↔ PricedWithin job entry) := by
  intro w resolving engine deployed hosts later clock of
  have ready : w.Ready env auctionId msg := {
    coherent := deployment.run_coherent env outside inputs auctionId
    accounted := deployment.run_accounted env outside inputs
    resolving
    engine
    deployed
    paced := (deployment.run_paced env outside inputs).mono later
    clock }
  exact ⟨of.resolveBatch_finalizes ready hosts, fun _ _ _ found parses =>
    of.entry_finalizes ready hosts found parses⟩

/-- One public bid, with an escrow of 100 and no starting price, waits for its resolution. -/
def onlyBid (encryptedBid : Bytes32) : List (Msg × Tx (ℕ → Address)) :=
  [({ sender := 1, timestamp := 1000 }, .setSettlementEngine 14),
    ({ sender := 1, timestamp := 1000 }, .setAVS 14 15),
    ({ sender := 9, value := 10, timestamp := 1000 }, .createAuction 5 7 100 0 10 false),
    ({ sender := 8, value := 100, timestamp := 1001 }, .lockEscrow 1),
    ({ sender := 8, timestamp := 1002 }, .placeBid 1 encryptedBid),
    ({ sender := 8, timestamp := 1100 }, .triggerFinalize 1)]

def onlyJob (encryptedBid : Bytes32) : CoFheDispatchJob where
  auctionId := 1
  requestId := .literal "request"
  winnerHandle := .literal "winner"
  amountHandle := .literal "amount"
  startingPrice := 0
  bids := [{ bidder := .account 8, encryptedBid := .hash encryptedBid, availableEscrow := 100 }]

/-- A live answer that the bidder pays more than its escrow. -/
def overpricedEntry (encryptedBid : Bytes32) : LiveEntry where
  requestId := some (.literal "request")
  winnerKind := some (.literal "public")
  winnerHandle := some (.literal "winner")
  amountHandle := some (.literal "amount")
  avsProof := some (.literal "proof")
  winner := some (.account 8)
  winnerCiphertext := some (.hash encryptedBid)
  winningAmount := some (.literal "101")

theorem zkChain_hostsAdapter (adapter : Address) : zkChain.HostsAdapter adapter :=
  ⟨fun _ _ _ => rfl, fun _ _ _ => rfl⟩

set_option maxRecDepth 4000 in
theorem onlyBid_zero_ready : (shieldedDeployment.run zkChain (fun _ => 9)
    (onlyBid (CofheCiphertextEncoding.encodeEuint96 0))).Ready zkChain 1 { sender := 8, timestamp := 1101 } where
  coherent := shieldedDeployment.run_coherent zkChain (fun _ => 9) _ 1
  accounted := shieldedDeployment.run_accounted zkChain (fun _ => 9) _
  resolving := by decide +kernel
  engine := by
    have service : ((shieldedDeployment.run zkChain (fun _ => 9)
        (onlyBid (CofheCiphertextEncoding.encodeEuint96 0))).engines ((shieldedDeployment.run zkChain (fun _ => 9)
          (onlyBid (CofheCiphertextEncoding.encodeEuint96 0))).snapshot 1).settlementEngine).map (·.avs) =
            some 15 := by decide +kernel
    obtain ⟨engine, present, avs⟩ := Option.map_eq_some_iff.mp service
    exact ⟨engine, present, by rw [avs]; decide⟩
  deployed := by decide
  paced := (shieldedDeployment.run_paced zkChain (fun _ => 9) _).mono (by decide +kernel)
  clock := by decide

set_option maxRecDepth 4000 in
/-- The bid of zero wins, or the bidder wins for more than its escrow, and the market
does not accept it. -/
theorem onlyBid_zero_refused :
    let encryptedBid := CofheCiphertextEncoding.encodeEuint96 0
    let w := shieldedDeployment.run zkChain (fun _ => 9) (onlyBid encryptedBid)
    let refuses := fun resolution => ∀ avsProof,
      ¬ Finalizes zkChain w { sender := 8, timestamp := 1101 } resolution avsProof
    (w.market.auctions 1).auction.state = .resolving ∧ JobOf w 1 (onlyJob encryptedBid) ∧
      (∃ resolution, LocalCofheBatchClient.resolveBatch [onlyJob encryptedBid] = .ok [resolution] ∧
        resolution.winner = some (.account 8) ∧ resolution.winningAmount = 0 ∧ refuses resolution) ∧
      ∃ resolution, parseLiveResolutionEntry (overpricedEntry encryptedBid) [onlyJob encryptedBid] =
          .ok resolution ∧ resolution.winningAmount = 101 ∧ refuses resolution := by
  have ready := onlyBid_zero_ready
  have book : (shieldedDeployment.run zkChain (fun _ => 9)
      (onlyBid (CofheCiphertextEncoding.encodeEuint96 0))).bidBook 1 =
        (onlyJob (CofheCiphertextEncoding.encodeEuint96 0)).bids := by decide +kernel
  have member : (⟨.account 8, .hash (CofheCiphertextEncoding.encodeEuint96 0), 100, false⟩ : EncryptedBidRecord) ∈
      (shieldedDeployment.run zkChain (fun _ => 9)
        (onlyBid (CofheCiphertextEncoding.encodeEuint96 0))).bidBook 1 := by
    rw [book]
    exact List.mem_singleton_self _
  refine ⟨ready.resolving, ⟨rfl, by decide +kernel, by rw [book]⟩, ⟨_, rfl, rfl, by decide +kernel, ?_⟩,
    ⟨_, rfl, by decide +kernel, ?_⟩⟩
  · intro avsProof accepted
    have allowed := (ready.named_finalizes (zkChain_hostsAdapter _) rfl member ⟨rfl, rfl, rfl⟩).mp accepted
    exact allowed.1 (by decide +kernel)
  · intro avsProof accepted
    have allowed := (ready.named_finalizes (zkChain_hostsAdapter _) rfl member ⟨rfl, rfl, rfl⟩).mp accepted
    exact absurd allowed.2.2.1 (by decide +kernel)

set_option maxRecDepth 4000 in
/-- A bid above zero wins, and the market accepts it. -/
theorem onlyBid_sixty_accepted :
    let encryptedBid := CofheCiphertextEncoding.encodeEuint96 60
    let w := shieldedDeployment.run zkChain (fun _ => 9) (onlyBid encryptedBid)
    ∃ resolution, LocalCofheBatchClient.resolveBatch [onlyJob encryptedBid] = .ok [resolution] ∧
      Finalizes zkChain w { sender := 8, timestamp := 1101 } resolution none := by
  have service : ((shieldedDeployment.run zkChain (fun _ => 9)
      (onlyBid (CofheCiphertextEncoding.encodeEuint96 60))).engines ((shieldedDeployment.run zkChain (fun _ => 9)
        (onlyBid (CofheCiphertextEncoding.encodeEuint96 60))).snapshot 1).settlementEngine).map (·.avs) =
          some 15 := by decide +kernel
  obtain ⟨engine, present, avs⟩ := Option.map_eq_some_iff.mp service
  have book : (shieldedDeployment.run zkChain (fun _ => 9)
      (onlyBid (CofheCiphertextEncoding.encodeEuint96 60))).bidBook 1 =
        (onlyJob (CofheCiphertextEncoding.encodeEuint96 60)).bids := by decide +kernel
  obtain ⟨resolved, -⟩ := resolver_output_accepted shieldedDeployment zkChain (fun _ => 9)
    (onlyBid (CofheCiphertextEncoding.encodeEuint96 60)) 1 { sender := 8, timestamp := 1101 } none
    (onlyJob (CofheCiphertextEncoding.encodeEuint96 60)) (by decide +kernel)
    ⟨engine, present, by rw [avs]; decide⟩ (by decide) (zkChain_hostsAdapter _) (by decide +kernel) (by decide)
    ⟨rfl, by decide +kernel, by rw [book]⟩
  obtain ⟨resolution, resolves⟩ : ∃ resolution, LocalCofheBatchClient.resolveBatch
      [onlyJob (CofheCiphertextEncoding.encodeEuint96 60)] = .ok [resolution] := ⟨_, rfl⟩
  refine ⟨resolution, resolves, resolved.mpr ?_ _ _ resolves _ (List.mem_singleton_self _)⟩
  intro _ bid member eligible
  rw [List.mem_singleton.mp member] at eligible
  exact absurd eligible.1 nofun

end FairMarket
