import FairMarket.Keeper.Json

/-! The store that is kept in a file: `persist` writes all of it, and `hydrate` reads it back
section by section. -/

namespace FairMarket

namespace Keeper

/-- What `readFile` and `JSON.parse` make of the file. -/
inductive StateFile where
  | missing
  | unparseable
  | parsed (state : Json)

def WinnerKind.text : WinnerKind → Text
  | .openBid => .literal "public"
  | .shielded => .literal "shielded"
  | .noWinner => .literal "none"

def serializeAuction (record : StoredAuctionRecord) : Json :=
  .ofFields [
    ("auctionId", some (.ofBigInt record.auctionId)),
    ("state", some (.ofBigInt record.state)),
    ("endTime", some (.ofBigInt record.endTime)),
    ("sellerDeposit", record.sellerDeposit.map .ofBigInt),
    ("trackedAtMs", some (.ofNumber record.trackedAtMs)),
    ("lastFinalizeAttemptAtMs", record.lastFinalizeAttemptAtMs.map .ofNumber),
    ("retryCount", some (.ofNumber record.retryCount))]

def serializeFinalizeAttempt (record : FinalizeAttemptRecord) : Json :=
  .ofFields [
    ("auctionId", some (.ofBigInt record.auctionId)),
    ("executionNonce", some (.ofNumber record.executionNonce)),
    ("keeperId", some (.string record.keeperId)),
    ("success", some (.boolean record.success)),
    ("retryCount", some (.ofNumber record.retryCount)),
    ("backoffMs", some (.ofNumber record.backoffMs)),
    ("txHash", record.txHash.map .string),
    ("gasUsed", record.gasUsed.map .ofBigInt),
    ("incentiveWei", record.incentiveWei.map .ofBigInt),
    ("recordedAtMs", some (.ofNumber record.recordedAtMs)),
    ("error", record.error.map .string)]

def serializeRaceCondition (record : RaceConditionRecord) : Json :=
  .ofFields [
    ("auctionId", some (.ofBigInt record.auctionId)),
    ("executionNonce", some (.ofNumber record.executionNonce)),
    ("keeperId", some (.string record.keeperId)),
    ("reason", some (.string record.reason)),
    ("detectedAtMs", some (.ofNumber record.detectedAtMs))]

def serializeDispatchBid (bid : StoredDispatchBid) : Json :=
  .ofFields [
    ("bidder", some (.string bid.bidder)),
    ("encryptedBid", some (.string bid.encryptedBid)),
    ("availableEscrow", some (.ofBigInt bid.availableEscrow)),
    ("isShielded", bid.isShielded.map .boolean)]

def serializeDispatchJob (record : StoredDispatchJob) : Json :=
  .ofFields [
    ("auctionId", some (.ofBigInt record.auctionId)),
    ("requestId", some (.string record.requestId)),
    ("winnerHandle", some (.string record.winnerHandle)),
    ("amountHandle", some (.string record.amountHandle)),
    ("startingPrice", some (.ofBigInt record.startingPrice)),
    ("bids", some (.array (record.bids.map serializeDispatchBid))),
    ("enqueuedAtMs", some (.ofNumber record.enqueuedAtMs)),
    ("dispatchedAtMs", record.dispatchedAtMs.map .ofNumber)]

def serializeResolution (record : StoredResolutionArtifact) : Json :=
  .ofFields [
    ("requestId", some (.string record.requestId)),
    ("auctionId", some (.ofBigInt record.auctionId)),
    ("winner", some (.string record.winner)),
    ("winnerKind", record.winnerKind.map fun kind => .string kind.text),
    ("winnerCiphertext", some (.string record.winnerCiphertext)),
    ("avsProof", some (.string record.avsProof)),
    ("winningAmount", some (.ofBigInt record.winningAmount)),
    ("storedAtMs", some (.ofNumber record.storedAtMs)),
    ("submittedAtMs", record.submittedAtMs.map .ofNumber)]

def serializeState (store : AuctionStateStore) : Json :=
  .ofFields [
    ("auctions", some (.array (store.listAuctions.map serializeAuction))),
    ("finalizeAttempts", some (.array (store.listFinalizeAttempts.map serializeFinalizeAttempt))),
    ("raceConditions", some (.array (store.listRaceConditions.map serializeRaceCondition))),
    ("dispatchJobs", some (.array (store.dispatchJobs.values.map serializeDispatchJob))),
    ("resolutions", some (.array (store.resolutions.values.map serializeResolution)))]

def AuctionStateStore.persist (store : AuctionStateStore) : StateFile := .parsed (serializeState store)

section Deserialize

variable (conversions : Conversions)

/-- `String(record.name ?? "")`. -/
def stringField (name : String) (record : Json) : Except JsError Text := do
  conversions.toText (some (.coalesce (← record.field name) (.string (.literal ""))))

/-- `Number(record.name ?? 0)`. -/
def numberField (name : String) (record : Json) : Except JsError Number := do
  conversions.toNumber (some (.coalesce (← record.field name) (.number 0)))

/-- `BigInt(String(record.name))`. -/
def bigIntField (name : String) (record : Json) : Except JsError ℤ := do
  conversions.toBigInt (← record.field name)

/-- `BigInt(String(record.name ?? "0"))`. -/
def amountField (name : String) (record : Json) : Except JsError ℤ := do
  conversions.toBigInt (some (.coalesce (← record.field name) (.string (.literal "0"))))

/-- `record.name === undefined ? undefined : convert(record.name)`. -/
def optionalField {α : Type} (convert : Option Json → Except JsError α) (name : String) (record : Json) :
    Except JsError (Option α) := do
  unlessUndefined convert (← record.field name)

def deserializeAuction (record : Json) : Except JsError StoredAuctionRecord := do
  let auctionId ← bigIntField conversions "auctionId" record
  let state ← bigIntField conversions "state" record
  let endTime ← bigIntField conversions "endTime" record
  let sellerDeposit ← optionalField conversions.toBigInt "sellerDeposit" record
  let trackedAtMs ← numberField conversions "trackedAtMs" record
  let lastFinalizeAttemptAtMs ← optionalField conversions.toNumber "lastFinalizeAttemptAtMs" record
  let retryCount ← numberField conversions "retryCount" record
  return { auctionId, state, endTime, sellerDeposit, trackedAtMs, lastFinalizeAttemptAtMs, retryCount }

def deserializeFinalizeAttempt (record : Json) : Except JsError FinalizeAttemptRecord := do
  let auctionId ← bigIntField conversions "auctionId" record
  let executionNonce ← numberField conversions "executionNonce" record
  let keeperId ← stringField conversions "keeperId" record
  let success := Json.truthy (← record.field "success")
  let retryCount ← numberField conversions "retryCount" record
  let backoffMs ← numberField conversions "backoffMs" record
  let txHash ← optionalField conversions.toText "txHash" record
  let gasUsed ← optionalField conversions.toBigInt "gasUsed" record
  let incentiveWei ← optionalField conversions.toBigInt "incentiveWei" record
  let recordedAtMs ← numberField conversions "recordedAtMs" record
  let error ← optionalField conversions.toText "error" record
  return {
    auctionId, executionNonce, keeperId, success, retryCount, backoffMs, txHash, gasUsed, incentiveWei,
    recordedAtMs, error }

def deserializeRaceCondition (record : Json) : Except JsError RaceConditionRecord := do
  let auctionId ← bigIntField conversions "auctionId" record
  let executionNonce ← numberField conversions "executionNonce" record
  let keeperId ← stringField conversions "keeperId" record
  let reason ← stringField conversions "reason" record
  let detectedAtMs ← numberField conversions "detectedAtMs" record
  return { auctionId, executionNonce, keeperId, reason, detectedAtMs }

def deserializeDispatchBid (bid : Json) : Except JsError StoredDispatchBid := do
  let bidder ← stringField conversions "bidder" bid
  let encryptedBid ← stringField conversions "encryptedBid" bid
  let availableEscrow ← amountField conversions "availableEscrow" bid
  let isShielded := (← bid.field "isShielded").map fun value => Json.truthy (some value)
  return { bidder, encryptedBid, availableEscrow, isShielded }

def deserializeDispatchJob (record : Json) : Except JsError StoredDispatchJob := do
  let auctionId ← bigIntField conversions "auctionId" record
  let requestId ← stringField conversions "requestId" record
  let winnerHandle ← stringField conversions "winnerHandle" record
  let amountHandle ← stringField conversions "amountHandle" record
  let startingPrice ← amountField conversions "startingPrice" record
  let bids ← match ← record.field "bids" with
    | some (.array rawBids) => rawBids.mapM (deserializeDispatchBid conversions)
    | _ => pure []
  let enqueuedAtMs ← numberField conversions "enqueuedAtMs" record
  let dispatchedAtMs ← optionalField conversions.toNumber "dispatchedAtMs" record
  return { auctionId, requestId, winnerHandle, amountHandle, startingPrice, bids, enqueuedAtMs, dispatchedAtMs }

/-- Whatever is not one of the other two kinds is read as a public winner. -/
def readWinnerKind : Option Json → WinnerKind
  | some (.string (.literal "shielded")) => .shielded
  | some (.string (.literal "none")) => .noWinner
  | _ => .openBid

def deserializeResolution (record : Json) : Except JsError StoredResolutionArtifact := do
  let requestId ← stringField conversions "requestId" record
  let auctionId ← amountField conversions "auctionId" record
  let winner ← stringField conversions "winner" record
  let winnerKind := some (readWinnerKind (← record.field "winnerKind"))
  let winnerCiphertext ← stringField conversions "winnerCiphertext" record
  let avsProof ← stringField conversions "avsProof" record
  let winningAmount ← amountField conversions "winningAmount" record
  let storedAtMs ← numberField conversions "storedAtMs" record
  let submittedAtMs ← optionalField conversions.toNumber "submittedAtMs" record
  return {
    requestId, auctionId, winner, winnerKind, winnerCiphertext, avsProof, winningAmount, storedAtMs,
    submittedAtMs }

end Deserialize

/-- A part of `hydrate`. What was done before a throw stays done. -/
abbrev Hydration := EStateM JsError AuctionStateStore

def Hydration.evaluate {α : Type} : Except JsError α → Hydration α
  | .ok value => pure value
  | .error raised => throw raised

section Hydrate

variable {ν : Type} (conversions : Conversions) (name : String) (deserialize : Json → Except JsError ν)

/-- What the loop over a section goes through. -/
def loopOver (state : Json) : Except JsError (List Json) := do
  (Json.coalesce (← state.field name) (.array [])).iterate conversions

/-- A section that is cleared, and filled record by record. -/
def refill (clear : AuctionStateStore → AuctionStateStore) (put : AuctionStateStore → ν → AuctionStateStore)
    (state : Json) : Hydration Unit := do
  modify clear
  let records ← Hydration.evaluate (loopOver conversions name state)
  forM records fun record => do
    let value ← Hydration.evaluate (deserialize record)
    modify fun store => put store value

/-- All the records of a section that is mapped. -/
def mapOver (state : Json) : Except JsError (List ν) := do
  let records ← (Json.coalesce (← state.field name) (.array [])).elements
  records.mapM deserialize

/-- A section that is replaced at once. -/
def splice (put : AuctionStateStore → List ν → AuctionStateStore) (state : Json) : Hydration Unit := do
  let values ← Hydration.evaluate (mapOver name deserialize state)
  modify fun store => put store values

def hydrateSections (state : Json) : Hydration Unit := do
  refill conversions "auctions" (deserializeAuction conversions) (fun store => { store with auctions := .empty })
    AuctionStateStore.upsertAuction state
  splice "finalizeAttempts" (deserializeFinalizeAttempt conversions)
    (fun store finalizeAttempts => { store with finalizeAttempts }) state
  splice "raceConditions" (deserializeRaceCondition conversions)
    (fun store raceConditions => { store with raceConditions }) state
  refill conversions "dispatchJobs" (deserializeDispatchJob conversions)
    (fun store => { store with dispatchJobs := .empty })
    (fun store job => { store with dispatchJobs := store.dispatchJobs.set job }) state
  refill conversions "resolutions" (deserializeResolution conversions)
    (fun store => { store with resolutions := .empty })
    (fun store artifact => { store with resolutions := store.resolutions.set artifact }) state

def hydrate (file : StateFile) (store : AuctionStateStore) : EStateM.Result JsError AuctionStateStore Unit :=
  match file with
  | .missing => .ok () store
  | .unparseable => .error .syntaxError store
  | .parsed state => (hydrateSections conversions state).run store

end Hydrate

/-- The records of a section up to the first one that cannot be read, and what that one throws. -/
structure Reading (ν : Type) where
  values : List ν := []
  raised : Option JsError := none

section Read

variable {ν : Type} (conversions : Conversions) (name : String) (deserialize : Json → Except JsError ν)

def readUpTo : List Json → Reading ν
  | [] => {}
  | record :: rest =>
    match deserialize record with
    | .error raised => { raised := some raised }
    | .ok value =>
      let later := readUpTo rest
      { later with values := value :: later.values }

def readSection (state : Json) : Reading ν :=
  match loopOver conversions name state with
  | .error raised => { raised := some raised }
  | .ok records => readUpTo deserialize records

def Reading.complete (reading : Reading ν) : Except JsError (List ν) :=
  match reading.raised with
  | none => .ok reading.values
  | some raised => .error raised

end Read

namespace Conversions

variable (conversions : Conversions) (state : Json)

def auctions : Reading StoredAuctionRecord := readSection conversions "auctions" (deserializeAuction conversions) state

def finalizeAttempts : Except JsError (List FinalizeAttemptRecord) :=
  mapOver "finalizeAttempts" (deserializeFinalizeAttempt conversions) state

def raceConditions : Except JsError (List RaceConditionRecord) :=
  mapOver "raceConditions" (deserializeRaceCondition conversions) state

def dispatchJobs : Reading StoredDispatchJob :=
  readSection conversions "dispatchJobs" (deserializeDispatchJob conversions) state

def resolutions : Reading StoredResolutionArtifact :=
  readSection conversions "resolutions" (deserializeResolution conversions) state

/-- The store that holds exactly the records of a file, of those with one key the last. -/
def restore : Except JsError AuctionStateStore := do
  let auctions ← (conversions.auctions state).complete
  let finalizeAttempts ← conversions.finalizeAttempts state
  let raceConditions ← conversions.raceConditions state
  let dispatchJobs ← (conversions.dispatchJobs state).complete
  let resolutions ← (conversions.resolutions state).complete
  return {
    auctions := .ofList auctions
    finalizeAttempts
    raceConditions
    dispatchJobs := .ofList dispatchJobs
    resolutions := .ofList resolutions }

/-- Everything before the first record of the file that cannot be read, the store holds already. -/
def Undisturbed (store : AuctionStateStore) : Prop :=
  .ofList (conversions.auctions state).values = store.auctions ∧
    ((conversions.auctions state).raised = none →
      ∀ attempts, conversions.finalizeAttempts state = .ok attempts → attempts = store.finalizeAttempts ∧
        ∀ races, conversions.raceConditions state = .ok races → races = store.raceConditions ∧
          .ofList (conversions.dispatchJobs state).values = store.dispatchJobs ∧
            ((conversions.dispatchJobs state).raised = none →
              .ofList (conversions.resolutions state).values = store.resolutions))

end Conversions

namespace Hydration

variable {α β : Type}

/-- The result of a part that puts in what it could read. -/
def result (raised : Option JsError) (store : AuctionStateStore) : EStateM.Result JsError AuctionStateStore Unit :=
  match raised with
  | none => .ok () store
  | some raised => .error raised store

theorem run_bind (first : Hydration α) (next : α → Hydration β) (store : AuctionStateStore) :
    (first >>= next).run store =
      match first.run store with
      | .ok value after => (next value).run after
      | .error raised after => .error raised after := by
  change EStateM.bind first next store = _
  unfold EStateM.bind EStateM.run
  cases first store with
  | ok value after => rfl
  | error raised after => rfl

theorem run_evaluate (value : Except JsError α) (store : AuctionStateStore) :
    (evaluate value).run store =
      match value with
      | .ok value => .ok value store
      | .error raised => .error raised store := by
  cases value with
  | ok value => rfl
  | error raised => rfl

theorem run_modify (change : AuctionStateStore → AuctionStateStore) (store : AuctionStateStore) :
    (modify change : Hydration Unit).run store = .ok () (change store) := rfl

end Hydration

section Sections

variable {ν : Type} {conversions : Conversions} {name : String} {deserialize : Json → Except JsError ν}
  {state : Json} {store : AuctionStateStore}

theorem run_loop (put : AuctionStateStore → ν → AuctionStateStore) (records : List Json) (store : AuctionStateStore) :
    (forM records fun record => do
      let value ← Hydration.evaluate (deserialize record)
      modify fun store => put store value : Hydration Unit).run store =
        Hydration.result (readUpTo deserialize records).raised
          ((readUpTo deserialize records).values.foldl put store) := by
  induction records generalizing store with
  | nil => rfl
  | cons record rest ih =>
    rw [List.forM_cons, Hydration.run_bind, Hydration.run_bind, Hydration.run_evaluate, readUpTo]
    cases deserialize record with
    | error raised => rfl
    | ok value =>
      dsimp only
      rw [Hydration.run_modify, List.foldl_cons]
      exact ih (put store value)

theorem run_refill (clear : AuctionStateStore → AuctionStateStore) (put : AuctionStateStore → ν → AuctionStateStore) :
    (refill conversions name deserialize clear put state).run store =
      Hydration.result (readSection conversions name deserialize state).raised
        ((readSection conversions name deserialize state).values.foldl put (clear store)) := by
  unfold refill readSection
  rw [Hydration.run_bind, Hydration.run_modify]
  dsimp only
  rw [Hydration.run_bind, Hydration.run_evaluate]
  cases loopOver conversions name state with
  | error raised => rfl
  | ok records => exact run_loop put records (clear store)

theorem run_splice (put : AuctionStateStore → List ν → AuctionStateStore) :
    (splice name deserialize put state).run store =
      match mapOver name deserialize state with
      | .ok values => .ok () (put store values)
      | .error raised => .error raised store := by
  unfold splice
  rw [Hydration.run_bind, Hydration.run_evaluate]
  cases mapOver name deserialize state with
  | error raised => rfl
  | ok values => rfl

end Sections

/-- `hydrate` leaves what it has read in up to the first record that throws. -/
theorem hydrate_parsed (conversions : Conversions) (state : Json) (store : AuctionStateStore) :
    hydrate conversions (.parsed state) store =
      let first := { store with auctions := .ofList (conversions.auctions state).values }
      match (conversions.auctions state).raised, conversions.finalizeAttempts state,
        conversions.raceConditions state with
      | some raised, _, _ => .error raised first
      | none, .error raised, _ => .error raised first
      | none, .ok finalizeAttempts, .error raised => .error raised { first with finalizeAttempts }
      | none, .ok finalizeAttempts, .ok raceConditions =>
        let fourth := { first with
          finalizeAttempts
          raceConditions
          dispatchJobs := .ofList (conversions.dispatchJobs state).values }
        match (conversions.dispatchJobs state).raised with
        | some raised => .error raised fourth
        | none => Hydration.result (conversions.resolutions state).raised { fourth with
          resolutions := .ofList (conversions.resolutions state).values } := by
  have auctions : ∀ store : AuctionStateStore, ∀ values,
      values.foldl AuctionStateStore.upsertAuction { store with auctions := .empty } =
        { store with auctions := Keyed.ofList values } := fun store values =>
    List.foldl_hom (fun map => { store with auctions := map }) fun _ _ => rfl
  have dispatchJobs : ∀ store : AuctionStateStore, ∀ values : List StoredDispatchJob,
      values.foldl (fun store job => { store with dispatchJobs := store.dispatchJobs.set job })
        { store with dispatchJobs := .empty } = { store with dispatchJobs := Keyed.ofList values } :=
    fun store values => List.foldl_hom (fun map => { store with dispatchJobs := map }) fun _ _ => rfl
  have resolutions : ∀ store : AuctionStateStore, ∀ values : List StoredResolutionArtifact,
      values.foldl (fun store artifact => { store with resolutions := store.resolutions.set artifact })
        { store with resolutions := .empty } = { store with resolutions := Keyed.ofList values } :=
    fun store values => List.foldl_hom (fun map => { store with resolutions := map }) fun _ _ => rfl
  unfold hydrate hydrateSections Conversions.auctions Conversions.finalizeAttempts Conversions.raceConditions
    Conversions.dispatchJobs Conversions.resolutions
  dsimp only
  rw [Hydration.run_bind, run_refill, auctions]
  cases (readSection conversions "auctions" (deserializeAuction conversions) state).raised with
  | some raised => rfl
  | none =>
    simp only [Hydration.result]
    rw [Hydration.run_bind, run_splice]
    cases mapOver "finalizeAttempts" (deserializeFinalizeAttempt conversions) state with
    | error raised => rfl
    | ok attempts =>
      dsimp only
      rw [Hydration.run_bind, run_splice]
      cases mapOver "raceConditions" (deserializeRaceCondition conversions) state with
      | error raised => rfl
      | ok races =>
        dsimp only
        rw [Hydration.run_bind, run_refill, dispatchJobs]
        cases (readSection conversions "dispatchJobs" (deserializeDispatchJob conversions) state).raised with
        | some raised => rfl
        | none =>
          simp only [Hydration.result]
          rw [run_refill, resolutions]
          rfl

/-- Every read of the second store returns what it returned of the first, with its artifacts
read in some way. -/
structure ReadsAs (read : StoredResolutionArtifact → StoredResolutionArtifact) (before after : AuctionStateStore) :
    Prop where
  getAuction : ∀ auctionId, after.getAuction auctionId = before.getAuction auctionId
  listAuctions : after.listAuctions = before.listAuctions
  listReadyAuctions : ∀ nowMs finalizeLeadSeconds,
    after.listReadyAuctions nowMs finalizeLeadSeconds = before.listReadyAuctions nowMs finalizeLeadSeconds
  listFinalizeAttempts : after.listFinalizeAttempts = before.listFinalizeAttempts
  listRaceConditions : after.listRaceConditions = before.listRaceConditions
  hasPendingDispatchJob : ∀ requestId,
    after.hasPendingDispatchJob requestId = before.hasPendingDispatchJob requestId
  listPendingDispatchJobs : ∀ limit, after.listPendingDispatchJobs limit = before.listPendingDispatchJobs limit
  listDispatchJobs : after.listDispatchJobs = before.listDispatchJobs
  getResolutionArtifact : ∀ requestId,
    after.getResolutionArtifact requestId = (before.getResolutionArtifact requestId).map read
  listResolutionArtifacts : after.listResolutionArtifacts = before.listResolutionArtifacts.map read
  listPendingResolutionArtifacts : ∀ limit,
    after.listPendingResolutionArtifacts limit = (before.listPendingResolutionArtifacts limit).map read

namespace ReadsAs

variable {read : StoredResolutionArtifact → StoredResolutionArtifact} {before after : AuctionStateStore}

/-- The reads show all of a store. -/
theorem id_iff : ReadsAs id before after ↔ after = before := by
  constructor
  · intro reads
    have auctions := Keyed.ext reads.listAuctions
    have jobs := Keyed.ext reads.listDispatchJobs
    have stored : after.resolutions.values = before.resolutions.values.map id := reads.listResolutionArtifacts
    rw [List.map_id] at stored
    have artifacts := Keyed.ext stored
    have attempts : after.finalizeAttempts = before.finalizeAttempts := reads.listFinalizeAttempts
    have races : after.raceConditions = before.raceConditions := reads.listRaceConditions
    cases before
    cases after
    simp only at auctions jobs artifacts attempts races
    rw [auctions, jobs, artifacts, attempts, races]
  · rintro rfl
    exact {
      getAuction := fun _ => rfl
      listAuctions := rfl
      listReadyAuctions := fun _ _ => rfl
      listFinalizeAttempts := rfl
      listRaceConditions := rfl
      hasPendingDispatchJob := fun _ => rfl
      listPendingDispatchJobs := fun _ => rfl
      listDispatchJobs := rfl
      getResolutionArtifact := fun _ => Option.map_id'.symm
      listResolutionArtifacts := (List.map_id _).symm
      listPendingResolutionArtifacts := fun _ => (List.map_id _).symm }

end ReadsAs

/-- A `hydrate` that throws leaves every read as it was, and one that does not leaves exactly
the records of the file. -/
def Atomic (conversions : Conversions) (file : StateFile) (store : AuctionStateStore) : Prop :=
  match hydrate conversions file store with
  | .error _ after => ReadsAs id store after
  | .ok _ after => ∀ state, file = .parsed state → conversions.restore state = .ok after

theorem atomic_parsed_iff (conversions : Conversions) (state : Json) (store : AuctionStateStore) :
    Atomic conversions (.parsed state) store ↔
      (∃ restored, conversions.restore state = .ok restored) ∨ conversions.Undisturbed state store := by
  unfold Atomic
  simp only [StateFile.parsed.injEq, forall_eq']
  unfold Conversions.restore Conversions.Undisturbed
  rw [hydrate_parsed]
  generalize conversions.auctions state = auctions
  generalize conversions.finalizeAttempts state = attempts
  generalize conversions.raceConditions state = races
  generalize conversions.dispatchJobs state = jobs
  generalize conversions.resolutions state = artifacts
  cases auctions with | mk auctions unread =>
  cases jobs with | mk jobs failed =>
  cases unread with
  | some raised => simp [Reading.complete, ReadsAs.id_iff, AuctionStateStore.ext_iff, error_bind]
  | none =>
    cases attempts with
    | error raised => simp [Reading.complete, ReadsAs.id_iff, AuctionStateStore.ext_iff, error_bind]
    | ok attempts =>
      cases races with
      | error raised =>
        simp [Reading.complete, ReadsAs.id_iff, AuctionStateStore.ext_iff, error_bind]
      | ok races =>
        cases failed with
        | some raised => simp [Reading.complete, ReadsAs.id_iff, AuctionStateStore.ext_iff, error_bind]
        | none =>
          cases artifacts with | mk artifacts missed =>
          cases missed with
          | some raised =>
            simp [Reading.complete, ReadsAs.id_iff, AuctionStateStore.ext_iff, Hydration.result, error_bind]
          | none => exact iff_of_true rfl (.inl ⟨_, rfl⟩)

/-- `hydrate` is all or nothing exactly if the file is missing, cannot be parsed or has no
record that throws, or the store already holds all that the file says before the first one. -/
theorem hydrate_atomic_iff (conversions : Conversions) (file : StateFile) (store : AuctionStateStore) :
    Atomic conversions file store ↔ ∀ state, file = .parsed state →
      (∃ restored, conversions.restore state = .ok restored) ∨ conversions.Undisturbed state store := by
  cases file with
  | missing => exact ⟨fun _ => nofun, fun _ => nofun⟩
  | unparseable => exact ⟨fun _ => nofun, fun _ => ReadsAs.id_iff.mpr rfl⟩
  | parsed state =>
    rw [atomic_parsed_iff]
    constructor
    · rintro holds _ ⟨⟩
      exact holds
    · exact fun holds => holds state rfl

/-- A store that knows of one auction, and a file whose only auction has no number for an id. -/
def oneAuction : AuctionStateStore where
  auctions := .ofList [{
    auctionId := 1
    state := 1
    endTime := 1100
    trackedAtMs := 0
    retryCount := 0 }]

def malformedAuction : StateFile :=
  .parsed (.object [("auctions", .array [.object [("auctionId", .string (.literal "auction-1"))]])])

/-- The record throws when the auctions have been cleared. -/
theorem malformedAuction_clears : oneAuction.listAuctions.length = 1 ∧
    ∀ conversions, ¬ Atomic conversions malformedAuction oneAuction ∧
      ∃ after, hydrate conversions malformedAuction oneAuction = .error .syntaxError after ∧
        after.listAuctions = [] := by
  refine ⟨rfl, fun conversions => ?_⟩
  have threw : ∃ after, hydrate conversions malformedAuction oneAuction = .error .syntaxError after ∧
      after.listAuctions = [] := ⟨_, rfl, rfl⟩
  refine ⟨?_, threw⟩
  obtain ⟨after, raised, cleared⟩ := threw
  unfold Atomic
  rw [raised]
  intro reads
  have same := reads.listAuctions
  rw [cleared] at same
  have one : oneAuction.listAuctions.length = 1 := rfl
  rw [← same] at one
  cases one

def StoredAuctionRecord.NumbersFinite (record : StoredAuctionRecord) : Prop :=
  record.trackedAtMs.IsFinite ∧ (∀ value ∈ record.lastFinalizeAttemptAtMs, value.IsFinite) ∧
    record.retryCount.IsFinite

def FinalizeAttemptRecord.NumbersFinite (record : FinalizeAttemptRecord) : Prop :=
  record.executionNonce.IsFinite ∧ record.retryCount.IsFinite ∧ record.backoffMs.IsFinite ∧
    record.recordedAtMs.IsFinite

def RaceConditionRecord.NumbersFinite (record : RaceConditionRecord) : Prop :=
  record.executionNonce.IsFinite ∧ record.detectedAtMs.IsFinite

def StoredDispatchJob.NumbersFinite (record : StoredDispatchJob) : Prop :=
  record.enqueuedAtMs.IsFinite ∧ ∀ value ∈ record.dispatchedAtMs, value.IsFinite

def StoredResolutionArtifact.NumbersFinite (record : StoredResolutionArtifact) : Prop :=
  record.storedAtMs.IsFinite ∧ ∀ value ∈ record.submittedAtMs, value.IsFinite

structure AuctionStateStore.NumbersFinite (store : AuctionStateStore) : Prop where
  auctions : ∀ record ∈ store.auctions.values, record.NumbersFinite
  finalizeAttempts : ∀ record ∈ store.finalizeAttempts, record.NumbersFinite
  raceConditions : ∀ record ∈ store.raceConditions, record.NumbersFinite
  dispatchJobs : ∀ record ∈ store.dispatchJobs.values, record.NumbersFinite
  resolutions : ∀ record ∈ store.resolutions.values, record.NumbersFinite

/-- How an artifact is read back. -/
def StoredResolutionArtifact.readBack (artifact : StoredResolutionArtifact) : StoredResolutionArtifact :=
  { artifact with winnerKind := some (artifact.winnerKind.getD .openBid) }

section RoundTrip

variable {ν : Type} {conversions : Conversions} {name : String} {deserialize : Json → Except JsError ν}
  {serialize : ν → Json} {read : ν → ν} {records : List ν} {state : Json}

theorem mapM_serialized (turns : ∀ record ∈ records, deserialize (serialize record) = .ok (read record)) :
    (records.map serialize).mapM deserialize = .ok (records.map read) := by
  rw [mapM_eq_ok, List.forall₂_map_left_iff, List.forall₂_map_right_iff, List.forall₂_same]
  exact turns

theorem readUpTo_serialized (turns : ∀ record ∈ records, deserialize (serialize record) = .ok (read record)) :
    readUpTo deserialize (records.map serialize) = { values := records.map read } := by
  induction records with
  | nil => rfl
  | cons record rest ih =>
    rw [List.map_cons, readUpTo, turns record List.mem_cons_self]
    dsimp only
    rw [ih fun other member => turns other (List.mem_cons_of_mem record member)]
    rfl

/-- A section that was written record by record. -/
theorem readSection_serialized (section_ : state.field name = .ok (some (.array (records.map serialize))))
    (turns : ∀ record ∈ records, deserialize (serialize record) = .ok (read record)) :
    readSection conversions name deserialize state = { values := records.map read } := by
  unfold readSection loopOver
  rw [section_]
  exact readUpTo_serialized turns

theorem mapOver_serialized (section_ : state.field name = .ok (some (.array (records.map serialize))))
    (turns : ∀ record ∈ records, deserialize (serialize record) = .ok (read record)) :
    mapOver name deserialize state = .ok (records.map read) := by
  unfold mapOver
  rw [section_]
  exact mapM_serialized turns

theorem deserializeAuction_serializeAuction {record : StoredAuctionRecord} (finite : record.NumbersFinite) :
    deserializeAuction conversions (serializeAuction record) = .ok record := by
  obtain ⟨tracked, last, retries⟩ := finite
  have attempted := @Conversions.unlessUndefined_ofNumber conversions _ last
  unfold deserializeAuction serializeAuction bigIntField numberField optionalField
  simp [field_ofFields, List.lookup_cons, coalesce_ofNumber, Conversions.toNumber_ofNumber, tracked, retries,
    attempted]

theorem deserializeFinalizeAttempt_serializeFinalizeAttempt {record : FinalizeAttemptRecord}
    (finite : record.NumbersFinite) :
    deserializeFinalizeAttempt conversions (serializeFinalizeAttempt record) = .ok record := by
  obtain ⟨nonce, retries, backoff, recorded⟩ := finite
  unfold deserializeFinalizeAttempt serializeFinalizeAttempt bigIntField numberField stringField optionalField
  simp [field_ofFields, List.lookup_cons, coalesce_ofNumber, Conversions.toNumber_ofNumber, nonce, retries, backoff,
    recorded, Json.truthy]

theorem deserializeRaceCondition_serializeRaceCondition {record : RaceConditionRecord}
    (finite : record.NumbersFinite) :
    deserializeRaceCondition conversions (serializeRaceCondition record) = .ok record := by
  obtain ⟨nonce, detected⟩ := finite
  unfold deserializeRaceCondition serializeRaceCondition bigIntField numberField stringField
  simp [field_ofFields, List.lookup_cons, coalesce_ofNumber, Conversions.toNumber_ofNumber, nonce, detected]

theorem deserializeDispatchBid_serializeDispatchBid (bid : StoredDispatchBid) :
    deserializeDispatchBid conversions (serializeDispatchBid bid) = .ok bid := by
  have shielded : (bid.isShielded.map Json.boolean).map (fun value => Json.truthy (some value)) =
      bid.isShielded := by
    cases bid.isShielded with
    | none => rfl
    | some value => rfl
  unfold deserializeDispatchBid serializeDispatchBid stringField amountField
  simp [field_ofFields, List.lookup_cons, shielded]

theorem deserializeDispatchJob_serializeDispatchJob {record : StoredDispatchJob}
    (finite : record.NumbersFinite) :
    deserializeDispatchJob conversions (serializeDispatchJob record) = .ok record := by
  obtain ⟨enqueued, dispatched⟩ := finite
  have completed := @Conversions.unlessUndefined_ofNumber conversions _ dispatched
  have bids : (record.bids.map serializeDispatchBid).mapM (deserializeDispatchBid conversions) =
      .ok record.bids := by
    have read := mapM_serialized (fun bid (_ : bid ∈ record.bids) =>
      @deserializeDispatchBid_serializeDispatchBid conversions bid)
    rwa [List.map_id'] at read
  unfold deserializeDispatchJob serializeDispatchJob bigIntField numberField stringField amountField optionalField
  simp [field_ofFields, List.lookup_cons, coalesce_ofNumber, Conversions.toNumber_ofNumber, enqueued, completed,
    bids]

theorem deserializeResolution_serializeResolution {record : StoredResolutionArtifact}
    (finite : record.NumbersFinite) :
    deserializeResolution conversions (serializeResolution record) = .ok record.readBack := by
  obtain ⟨stored, submitted⟩ := finite
  have retired := @Conversions.unlessUndefined_ofNumber conversions _ submitted
  have kind : readWinnerKind (record.winnerKind.map fun kind => .string kind.text) =
      record.winnerKind.getD .openBid := by
    cases record.winnerKind with
    | none => rfl
    | some kind =>
      cases kind with
      | openBid => rfl
      | shielded => rfl
      | noWinner => rfl
  unfold deserializeResolution serializeResolution numberField stringField amountField optionalField
  simp [field_ofFields, List.lookup_cons, coalesce_ofNumber, Conversions.toNumber_ofNumber, stored, retired, kind,
    StoredResolutionArtifact.readBack]

theorem field_serializeState (store : AuctionStateStore) :
    (serializeState store).field "auctions" = .ok (some (.array (store.auctions.values.map serializeAuction))) ∧
      (serializeState store).field "finalizeAttempts" =
        .ok (some (.array (store.finalizeAttempts.map serializeFinalizeAttempt))) ∧
      (serializeState store).field "raceConditions" =
        .ok (some (.array (store.raceConditions.map serializeRaceCondition))) ∧
      (serializeState store).field "dispatchJobs" =
        .ok (some (.array (store.dispatchJobs.values.map serializeDispatchJob))) ∧
      (serializeState store).field "resolutions" =
        .ok (some (.array (store.resolutions.values.map serializeResolution))) := by
  unfold serializeState
  refine ⟨?_, ?_, ?_, ?_, ?_⟩
  all_goals
    rw [field_ofFields (by simp)]
    rfl

/-- A file that was written is read back, whatever the store held. -/
theorem hydrate_persist {store : AuctionStateStore} (finite : store.NumbersFinite) (held : AuctionStateStore) :
    hydrate conversions store.persist held = .ok () { store with
      resolutions := .ofList (store.resolutions.values.map StoredResolutionArtifact.readBack) } := by
  obtain ⟨auctions, attempts, races, jobs, artifacts⟩ := field_serializeState store
  have first : conversions.auctions (serializeState store) = { values := store.auctions.values.map id } :=
    readSection_serialized auctions fun record member =>
      deserializeAuction_serializeAuction (finite.auctions record member)
  have second : conversions.finalizeAttempts (serializeState store) = .ok (store.finalizeAttempts.map id) :=
    mapOver_serialized attempts fun record member =>
      deserializeFinalizeAttempt_serializeFinalizeAttempt (finite.finalizeAttempts record member)
  have third : conversions.raceConditions (serializeState store) = .ok (store.raceConditions.map id) :=
    mapOver_serialized races fun record member =>
      deserializeRaceCondition_serializeRaceCondition (finite.raceConditions record member)
  have fourth : conversions.dispatchJobs (serializeState store) = { values := store.dispatchJobs.values.map id } :=
    readSection_serialized jobs fun record member =>
      deserializeDispatchJob_serializeDispatchJob (finite.dispatchJobs record member)
  have fifth : conversions.resolutions (serializeState store) =
      { values := store.resolutions.values.map StoredResolutionArtifact.readBack } :=
    readSection_serialized artifacts fun record member =>
      deserializeResolution_serializeResolution (finite.resolutions record member)
  rw [List.map_id] at first second third fourth
  unfold AuctionStateStore.persist
  rw [hydrate_parsed, first, second, third, fourth, fifth]
  simp only [Keyed.ofList_values]
  rfl

/-- An artifact is stored under the same request with its winner kind read back. -/
theorem values_readBack (artifacts : Keyed StoredResolutionArtifact.requestId) :
    (Keyed.ofList (artifacts.values.map StoredResolutionArtifact.readBack) :
      Keyed StoredResolutionArtifact.requestId).values = artifacts.values.map .readBack := by
  apply Keyed.values_ofList
  rw [List.map_map]
  exact artifacts.distinct

end RoundTrip

/-- Whatever a store holds, as long as its numbers are finite, a store that reads what it has
persisted answers every read as it did, but for artifacts without a winner kind, whose
winner is read as a public one. -/
theorem persisted_state_survives (conversions : Conversions) (store held : AuctionStateStore)
    (finite : store.NumbersFinite) :
    ∃ after, hydrate conversions store.persist held = .ok () after ∧ ReadsAs .readBack store after := by
  refine ⟨_, hydrate_persist finite held, ?_⟩
  have artifacts := values_readBack store.resolutions
  exact {
    getAuction := fun _ => rfl
    listAuctions := rfl
    listReadyAuctions := fun _ _ => rfl
    listFinalizeAttempts := rfl
    listRaceConditions := rfl
    hasPendingDispatchJob := fun _ => rfl
    listPendingDispatchJobs := fun _ => rfl
    listDispatchJobs := rfl
    getResolutionArtifact := by
      intro requestId
      unfold AuctionStateStore.getResolutionArtifact Keyed.get
      dsimp only
      rw [artifacts, List.find?_map]
      rfl
    listResolutionArtifacts := artifacts
    listPendingResolutionArtifacts := by
      intro limit
      have sorted := fun pending : List StoredResolutionArtifact => List.map_insertionSort
        (fun left right => left.storedAtMs.precedes right.storedAtMs)
        (fun left right => left.storedAtMs.precedes right.storedAtMs)
        StoredResolutionArtifact.readBack pending fun _ _ _ _ => Iff.rfl
      unfold AuctionStateStore.listPendingResolutionArtifacts
      dsimp only
      rw [artifacts, List.map_take, sorted, List.filter_map]
      rfl }

/-- The conversions of the language where the file has objects in the place of other values. -/
def objectConversions : Conversions where
  text := fun _ => .ok (.literal "[object Object]")
  number := fun _ => .ok .nan
  characters
    | .literal text => text.toList.map fun char => .literal (String.singleton char)
    | _ => []

/-- A store with an auction, a job that was dispatched and an artifact without a winner kind. -/
def resolvedAuction : AuctionStateStore where
  auctions := oneAuction.auctions
  dispatchJobs := .ofList [{
    auctionId := 1
    requestId := .literal "request-1"
    winnerHandle := .literal "winner-1"
    amountHandle := .literal "amount-1"
    startingPrice := 10
    bids := [{ bidder := .account 5, encryptedBid := .hash 7, availableEscrow := 2 ^ 64, isShielded := some true }]
    enqueuedAtMs := 1
    dispatchedAtMs := some 2 }]
  resolutions := .ofList [{
    requestId := .literal "request-1"
    auctionId := 1
    winner := .account 5
    winnerCiphertext := .hash 7
    avsProof := .literal "0x"
    winningAmount := 60
    storedAtMs := 3 }]

theorem resolvedAuction_survives : ∃ after, hydrate objectConversions resolvedAuction.persist oneAuction = .ok () after ∧
    ReadsAs .readBack resolvedAuction after := by
  apply persisted_state_survives
  constructor
  · intro record member
    have values : oneAuction.auctions.values = [_] := Keyed.values_ofList (by simp)
    change record ∈ oneAuction.auctions.values at member
    rw [values, List.mem_singleton] at member
    subst member
    exact ⟨trivial, nofun, trivial⟩
  · exact fun _ member => absurd member List.not_mem_nil
  · exact fun _ member => absurd member List.not_mem_nil
  · intro record member
    have values : resolvedAuction.dispatchJobs.values = [_] := Keyed.values_ofList (by simp)
    rw [values, List.mem_singleton] at member
    subst member
    refine ⟨trivial, ?_⟩
    rintro value ⟨⟩
    trivial
  · intro record member
    have values : resolvedAuction.resolutions.values = [_] := Keyed.values_ofList (by simp)
    rw [values, List.mem_singleton] at member
    subst member
    exact ⟨trivial, nofun⟩

end Keeper

end FairMarket
