import FairMarket.Keeper.AuctionMonitor
import FairMarket.Keeper.Retirement
import FairMarket.Keeper.SharedFile
import FairMarket.Market.Governance
import Mathlib.Logic.Relation

/-! What the roles remember of auctions against the chain itself. Reads are answered at once,
what is written of an answer comes later, and transactions come at any time in between. -/

namespace FairMarket

open Keeper

variable {σ : Type}

/-- An auction in the first state may come to be in the second one. -/
def AuctionState.Leads : AuctionState → AuctionState → Prop :=
  Relation.ReflTransGen fun before after => follows (some before) (some after) = true

theorem AuctionState.Leads.eq_of_terminal {before after : AuctionState} (leads : before.Leads after)
    (terminal : before.terminal = true) : after = before := by
  induction leads with
  | refl => rfl
  | tail _ edge ih =>
    rw [ih] at edge
    rcases AuctionState.terminal_cases terminal with state | state | state
    all_goals
      rw [state] at edge
      cases edge

/-- What an auction has left it does not come back to. -/
theorem AuctionState.Leads.antisymm {before after : AuctionState} (leads : before.Leads after)
    (back : after.Leads before) : before = after := by
  have ordered : ∀ {first last : AuctionState}, first.Leads last → first.ordinal ≤ last.ordinal := by
    intro first last path
    induction path with
    | refl => exact le_rfl
    | @tail middle last _ edge ih =>
      apply ih.trans
      revert edge
      cases middle with
      | active => cases last with
        | resolving | cancelled => exact fun _ => by decide
        | _ => exact fun edge => Bool.noConfusion edge
      | resolving => cases last with
        | finalized | voided => exact fun _ => by decide
        | _ => exact fun edge => Bool.noConfusion edge
      | _ => exact fun edge => Bool.noConfusion edge
  have same : before.ordinal = after.ordinal := le_antisymm (ordered leads) (ordered back)
  revert same
  cases before with
  | _ => cases after with
    | _ => simp [AuctionState.ordinal]

theorem AuctionState.active_leads {state : AuctionState} (activated : state ≠ .created) :
    AuctionState.active.Leads state := by
  have edge : ∀ before after, follows (some before) (some after) = true → before.Leads after :=
    fun _ _ path => .single path
  have triggered := edge .active .resolving rfl
  cases state with
  | created => exact absurd rfl activated
  | active => exact .refl
  | resolving => exact triggered
  | finalized => exact triggered.trans (edge .resolving .finalized rfl)
  | cancelled => exact edge .active .cancelled rfl
  | voided => exact triggered.trans (edge .resolving .voided rfl)

/-- What the keeper reads of an auction's terms never changes. -/
theorem AuctionStep.listing {refundKey : Bytes32 → Bytes32} {auctionId : AuctionId} {now : ℕ} {flow : Flow}
    {v next : AuctionView} (step : AuctionStep refundKey auctionId now flow v next)
    (found : v.cell.auction.exists_ = true) :
    next.cell.auction.endTime = v.cell.auction.endTime ∧
      next.cell.auction.sellerDeposit = v.cell.auction.sellerDeposit := by
  cases step with
  | created _ _ _ _ _ _ _ _ _ fresh =>
    rw [fresh] at found
    cases found
  | resolved => exact ⟨by simp, by simp⟩
  | shieldedResolved => exact ⟨by simp, by simp⟩
  | cancelled => exact ⟨by simp, by simp⟩
  | voided => exact ⟨by simp, by simp⟩
  | _ => exact ⟨rfl, rfl⟩

namespace World

variable {env : External σ} {w next : World σ} {msg : Msg} {auctionId : AuctionId}

/-- What holds of an existing auction from one moment to a later one. -/
structure Advances (w next : World σ) (auctionId : AuctionId) : Prop where
  found : (next.market.auctions auctionId).auction.exists_ = true
  endTime : (next.market.auctions auctionId).auction.endTime = (w.market.auctions auctionId).auction.endTime
  sellerDeposit : (next.market.auctions auctionId).auction.sellerDeposit =
    (w.market.auctions auctionId).auction.sellerDeposit
  leads : (w.market.auctions auctionId).auction.state.Leads (next.market.auctions auctionId).auction.state

theorem Advances.refl (found : (w.market.auctions auctionId).auction.exists_ = true) : Advances w w auctionId :=
  ⟨found, rfl, rfl, .refl⟩

theorem Advances.trans {middle : World σ} (first : Advances w middle auctionId)
    (second : Advances middle next auctionId) : Advances w next auctionId where
  found := second.found
  endTime := second.endTime.trans first.endTime
  sellerDeposit := second.sellerDeposit.trans first.sellerDeposit
  leads := first.leads.trans second.leads

theorem transact_advances (wired : w.Wired env) {tx : Tx σ} (done : w.transact env (msg, tx) = .ok next)
    (found : (w.market.auctions auctionId).auction.exists_ = true) : Advances w next auctionId := by
  obtain ⟨-, -, -, touched, flow, transition⟩ := transact_transition wired done
  have kept : (next.market.auctions auctionId).auction.exists_ = true := (transition.kept auctionId).found found
  have terms : (next.view auctionId).cell.auction.endTime = (w.view auctionId).cell.auction.endTime ∧
      (next.view auctionId).cell.auction.sellerDeposit = (w.view auctionId).cell.auction.sellerDeposit := by
    by_cases own : auctionId = touched
    · subst own
      rcases transition.step with ⟨-, unchanged⟩ | step
      · rw [unchanged]
        exact ⟨rfl, rfl⟩
      · exact step.listing found
    · rw [transition.others auctionId own]
      exact ⟨rfl, rfl⟩
  refine ⟨kept, terms.1, terms.2, ?_⟩
  have before : w.stateOf auctionId = some (w.market.auctions auctionId).auction.state := if_pos found
  have after : next.stateOf auctionId = some (next.market.auctions auctionId).auction.state := if_pos kept
  rcases (transact_stateOf wired done auctionId).2 with same | edge
  · rw [before, after] at same
    rw [Option.some.inj same]
    exact .refl
  · rw [before, after] at edge
    exact .single edge

/-- Every auction has been activated, and exactly the ids up to the counter are in use. -/
structure Numbered (w : World σ) : Prop where
  activated : ∀ auctionId, w.stateOf auctionId ≠ some .created
  inUse : ∀ auctionId, auctionId ≠ 0 → auctionId.toNat ≤ w.market.auctionCounter →
    (w.market.auctions auctionId).auction.exists_ = true

theorem transact_activated (wired : w.Wired env) {input : Msg × Tx σ} (done : w.transact env input = .ok next)
    (activated : w.stateOf auctionId ≠ some .created) : next.stateOf auctionId ≠ some .created := by
  intro created
  rcases (transact_stateOf wired done auctionId).2 with same | edge
  · exact activated (same ▸ created)
  · rw [created] at edge
    revert edge
    cases w.stateOf auctionId with
    | none => exact fun edge => Bool.noConfusion edge
    | some state => cases state with
      | _ => exact fun edge => Bool.noConfusion edge

theorem Numbered.transact (numbered : w.Numbered) (wired : w.Wired env) {tx : Tx σ}
    (done : w.transact env (msg, tx) = .ok next) : next.Numbered where
  activated _ := transact_activated wired done (numbered.activated _)
  inUse := by
    intro auctionId nonzero counted
    cases creates : tx.creates with
    | false =>
      rw [transact_counter creates done] at counted
      rw [transact_sameAuctions wired creates done auctionId]
      exact numbered.inUse auctionId nonzero counted
    | true =>
      obtain ⟨-, executed, executes, rfl⟩ := transact_ok.mp done
      cases tx with
      | createAuction =>
        have creates := createAuction_creates wired executes
        have counter := congrArg Settings.auctionCounter creates.settings
        change executed.market.auctionCounter = w.market.auctionCounter + 1 at counter
        change auctionId.toNat ≤ executed.market.auctionCounter at counted
        show (executed.market.auctions auctionId).auction.exists_ = true
        by_cases own : auctionId = w.nextAuctionId
        · rw [own, creates.own]
          exact creates.found
        · rw [creates.others auctionId own]
          apply numbered.inUse auctionId nonzero
          by_contra beyond
          apply own
          apply BitVec.eq_of_toNat_eq
          rw [nextAuctionId, BitVec.toNat_ofNat, Nat.mod_eq_of_lt creates.fits]
          omega
      | _ => cases creates

end World

namespace Keeper

def StoredAuctionRecord.snapshot (record : StoredAuctionRecord) : AuctionSnapshot where
  auctionId := record.auctionId
  state := record.state
  endTime := record.endTime
  sellerDeposit := record.sellerDeposit

/-- What a write says of an auction, the chain has answered. -/
def Answered (answers : List AuctionSnapshot) : FileStep → Bool
  | .write _ (.upsertAuction record) => answers.any fun answer =>
    answer.auctionId = record.auctionId ∧ answer.state = record.state ∧ answer.endTime = record.endTime ∧
      answer.sellerDeposit = record.sellerDeposit
  | .write _ (.updateAuctionState auctionId state _) => answers.any fun answer =>
    answer.auctionId = auctionId ∧ answer.state = state
  | _ => true

end Keeper

namespace World

variable {env : External σ} {w next : World σ} {msg : Msg}

/-- The fields of what `getAuction` answers that the monitor takes over. -/
def readAuction (w : World σ) (auctionId : ℤ) : Except Revert AuctionSnapshot := do
  let cell ← w.auctionExists (← toUint256 auctionId)
  return {
    auctionId
    state := cell.auction.state.ordinal
    endTime := cell.auction.endTime
    sellerDeposit := some (cell.auction.sellerDeposit : ℤ) }

/-- The auction has the terms of the snapshot, and is or was in its state. -/
structure Knows (w : World σ) (snapshot : AuctionSnapshot) (auctionId : AuctionId) (past : AuctionState) :
    Prop where
  id : toUint256 snapshot.auctionId = .ok auctionId
  found : (w.market.auctions auctionId).auction.exists_ = true
  endTime : snapshot.endTime = (w.market.auctions auctionId).auction.endTime
  sellerDeposit : snapshot.sellerDeposit = some ((w.market.auctions auctionId).auction.sellerDeposit : ℤ)
  state : snapshot.state = past.ordinal
  activated : past ≠ .created
  leads : past.Leads (w.market.auctions auctionId).auction.state

def Known (w : World σ) (snapshot : AuctionSnapshot) : Prop := ∃ auctionId past, w.Knows snapshot auctionId past

/-- Every record of an auction in the store is known. -/
def Mirrored (w : World σ) (store : AuctionStateStore) : Prop :=
  ∀ auctionId record, store.getAuction auctionId = some record → w.Known record.snapshot

theorem Knows.advances {snapshot : AuctionSnapshot} {auctionId : AuctionId} {past : AuctionState}
    (knows : w.Knows snapshot auctionId past) (advances : Advances w next auctionId) :
    next.Knows snapshot auctionId past where
  id := knows.id
  found := advances.found
  endTime := by
    rw [advances.endTime]
    exact knows.endTime
  sellerDeposit := by
    rw [advances.sellerDeposit]
    exact knows.sellerDeposit
  state := knows.state
  activated := knows.activated
  leads := knows.leads.trans advances.leads

/-- What the event of its creation tells of it. -/
theorem Knows.announced {w : World σ} {snapshot : AuctionSnapshot} {auctionId : AuctionId} {past : AuctionState}
    (knows : w.Knows snapshot auctionId past) : w.Knows { snapshot with state := 1 } auctionId .active where
  id := knows.id
  found := knows.found
  endTime := knows.endTime
  sellerDeposit := knows.sellerDeposit
  state := rfl
  activated := by decide
  leads := (AuctionState.active_leads knows.activated).trans knows.leads

theorem readAuction_ok {auctionId : ℤ} {snapshot : AuctionSnapshot} :
    w.readAuction auctionId = .ok snapshot ↔ ∃ id, toUint256 auctionId = .ok id ∧
      (w.market.auctions id).auction.exists_ = true ∧ snapshot = {
        auctionId
        state := (w.market.auctions id).auction.state.ordinal
        endTime := (w.market.auctions id).auction.endTime
        sellerDeposit := some ((w.market.auctions id).auction.sellerDeposit : ℤ) } := by
  simp only [readAuction, bind_eq_ok, auctionExists_ok, pure_eq_ok, Except.ok.injEq]
  constructor
  · rintro ⟨id, same, _, ⟨found, rfl⟩, rfl⟩
    exact ⟨id, same, found, rfl⟩
  · rintro ⟨id, same, found, rfl⟩
    exact ⟨id, same, _, ⟨found, rfl⟩, rfl⟩

/-- What is read is so when it is read. -/
theorem Numbered.readAuction_of_found (numbered : w.Numbered) {auctionId : ℤ} {id : AuctionId}
    (names : toUint256 auctionId = .ok id) (found : (w.market.auctions id).auction.exists_ = true) :
    ∃ snapshot, w.readAuction auctionId = .ok snapshot ∧ snapshot.auctionId = auctionId ∧
      w.Knows snapshot id (w.market.auctions id).auction.state := by
  have activated := numbered.activated id
  rw [stateOf, if_pos found] at activated
  refine ⟨_, readAuction_ok.mpr ⟨id, names, found, rfl⟩, rfl, ?_⟩
  exact ⟨names, found, rfl, rfl, rfl, fun created => activated (congrArg some created), .refl⟩

theorem Numbered.readAuction (numbered : w.Numbered) {auctionId : ℤ} {snapshot : AuctionSnapshot}
    (answered : w.readAuction auctionId = .ok snapshot) :
    ∃ id, w.Knows snapshot id (w.market.auctions id).auction.state := by
  obtain ⟨id, names, found, -⟩ := readAuction_ok.mp answered
  obtain ⟨read, reads, -, knows⟩ := numbered.readAuction_of_found names found
  obtain rfl : read = snapshot := Except.ok.inj (reads.symm.trans answered)
  exact ⟨id, knows⟩

section Writes

variable {answers : List AuctionSnapshot} {store : AuctionStateStore}

theorem Mirrored.upsertAuction (mirrored : w.Mirrored store) {record : StoredAuctionRecord}
    (known : w.Known record.snapshot) : w.Mirrored (store.upsertAuction record) := by
  intro auctionId found stored
  change (store.auctions.set record).get auctionId = some found at stored
  rw [Keyed.get_set] at stored
  split at stored
  · rw [← Option.some.inj stored]
    exact known
  · exact mirrored auctionId found stored

/-- A record that is changed and still known. -/
theorem Mirrored.modify (mirrored : w.Mirrored store) {auctionId : ℤ}
    {change : StoredAuctionRecord → StoredAuctionRecord} (kept : ∀ record, (change record).auctionId = record.auctionId)
    (known : ∀ record, store.getAuction auctionId = some record → w.Known (change record).snapshot) :
    ∀ other record, (store.auctions.modify auctionId change).get other = some record → w.Known record.snapshot := by
  intro other record stored
  rw [Keyed.get_modify _ kept] at stored
  split at stored
  · obtain ⟨before, found, rfl⟩ := Option.map_eq_some_iff.mp stored
    exact known before found
  · exact mirrored other record stored

/-- The terms of a record with a state that the chain has answered. -/
theorem Knows.restated {first second : AuctionSnapshot} {id other : AuctionId} {past recent : AuctionState}
    (terms : w.Knows first id past) (state : w.Knows second other recent) (same : second.auctionId = first.auctionId) :
    w.Known { first with state := second.state } := by
  obtain rfl : other = id := by
    have ids := state.id
    rw [same, terms.id] at ids
    exact (Except.ok.inj ids).symm
  exact ⟨other, recent, terms.id, terms.found, terms.endTime, terms.sellerDeposit, state.state, state.activated,
    state.leads⟩

/-- A write of what has been answered. -/
theorem Mirrored.write (mirrored : w.Mirrored store) (known : ∀ answer ∈ answers, w.Known answer)
    {role : KeeperRole} {write : StoreWrite} (answered : Answered answers (.write role write) = true) :
    w.Mirrored (store.write write) := by
  cases write with
  | upsertAuction record =>
    obtain ⟨answer, member, same⟩ := List.any_eq_true.mp answered
    simp only [decide_eq_true_eq] at same
    obtain ⟨auctionId, state, endTime, sellerDeposit⟩ := same
    apply mirrored.upsertAuction
    have equal : answer = record.snapshot := by
      cases answer
      rw [StoredAuctionRecord.snapshot, ← auctionId, ← state, ← endTime, ← sellerDeposit]
    rw [← equal]
    exact known answer member
  | updateAuctionState auctionId state trackedAtMs =>
    obtain ⟨answer, member, same⟩ := List.any_eq_true.mp answered
    simp only [decide_eq_true_eq] at same
    obtain ⟨about, rfl⟩ := same
    rw [AuctionStateStore.write, AuctionStateStore.updateAuctionState_eq]
    apply mirrored.modify
    · exact fun _ => rfl
    · intro record found
      obtain ⟨id, past, terms⟩ := mirrored auctionId record found
      obtain ⟨other, recent, told⟩ := known answer member
      exact terms.restated told (about.trans (Keyed.key_of_get found).symm)
  | recordFinalizeAttempt record =>
    rw [AuctionStateStore.write, AuctionStateStore.recordFinalizeAttempt_eq]
    apply mirrored.modify
    · exact fun _ => rfl
    · exact fun found stored => mirrored _ found stored
  | recordRaceCondition record => exact mirrored
  | enqueueDispatchJob job =>
    rw [AuctionStateStore.write, AuctionStateStore.enqueueDispatchJob_eq]
    exact mirrored
  | markDispatchJobCompleted requestId dispatchedAtMs =>
    rw [AuctionStateStore.write, AuctionStateStore.markDispatchJobCompleted_eq]
    exact mirrored
  | storeResolutionArtifact artifact => exact mirrored
  | markResolutionArtifactSubmitted requestId submittedAtMs =>
    rw [AuctionStateStore.write, AuctionStateStore.markResolutionArtifactSubmitted_eq]
    exact mirrored

end Writes

end World

/-- The chain, everything it has answered so far, and what the roles remember. -/
structure Mirror (σ : Type) where
  world : World σ
  answers : List AuctionSnapshot
  files : SharedFile

inductive MirrorStep (σ : Type) where
  | transaction (input : Msg × Tx σ)
  /-- `getAuction`, called by any role. -/
  | read (auctionId : ℤ)
  /-- `AuctionCreated` comes over the websocket, with the terms that the auction has. -/
  | auctionCreated (auctionId : ℤ)
  | file (step : FileStep)

namespace Mirror

/-- No role has been started yet. -/
def initial (world : World σ) : Mirror σ where
  world
  answers := []
  files := .initial none

/-- The receipt of a trigger tells its sender that the auction is RESOLVING. -/
def receipt (next : World σ) : Tx σ → List AuctionSnapshot
  | .triggerFinalize auctionId => [{
      auctionId := auctionId.toNat
      state := 2
      endTime := (next.market.auctions auctionId).auction.endTime
      sellerDeposit := some ((next.market.auctions auctionId).auction.sellerDeposit : ℤ) }]
  | _ => []

def step (env : External σ) (m : Mirror σ) : MirrorStep σ → Except Unit (Mirror σ)
  | .transaction input =>
    match m.world.transact env input with
    | .ok world => .ok { m with world, answers := receipt world input.2 ++ m.answers }
    | .error _ => .error ()
  | .read auctionId =>
    match m.world.readAuction auctionId with
    | .ok snapshot => .ok { m with answers := snapshot :: m.answers }
    | .error _ => .error ()
  | .auctionCreated auctionId =>
    match m.world.readAuction auctionId with
    | .ok snapshot => .ok { m with answers := { snapshot with state := 1 } :: m.answers }
    | .error _ => .error ()
  | .file fileStep =>
    if Answered m.answers fileStep then
      match m.files.step keeperRules fileStep with
      | .ok files => .ok { m with files }
      | .error _ => .error ()
    else .error ()

/-- What a step can do. -/
theorem step_cases {env : External σ} {m next : Mirror σ} {input : MirrorStep σ} (taken : m.step env input = .ok next) :
    (∃ sent world, input = .transaction sent ∧ m.world.transact env sent = .ok world ∧
      next = { m with world, answers := receipt world sent.2 ++ m.answers }) ∨
    (∃ auctionId read answer, m.world.readAuction auctionId = .ok read ∧
      (input = .read auctionId ∧ answer = read ∨
        input = .auctionCreated auctionId ∧ answer = { read with state := 1 }) ∧
      next = { m with answers := answer :: m.answers }) ∨
    ∃ fileStep files, input = .file fileStep ∧ Answered m.answers fileStep = true ∧
      m.files.step keeperRules fileStep = .ok files ∧ next = { m with files } := by
  cases input with
  | transaction sent =>
    simp only [step] at taken
    split at taken
    · rename_i world done
      exact .inl ⟨sent, world, rfl, done, (Except.ok.inj taken).symm⟩
    · cases taken
  | read auctionId =>
    simp only [step] at taken
    split at taken
    · rename_i read answered
      exact .inr (.inl ⟨auctionId, read, read, answered, .inl ⟨rfl, rfl⟩, (Except.ok.inj taken).symm⟩)
    · cases taken
  | auctionCreated auctionId =>
    simp only [step] at taken
    split at taken
    · rename_i read answered
      exact .inr (.inl ⟨auctionId, read, _, answered, .inr ⟨rfl, rfl⟩, (Except.ok.inj taken).symm⟩)
    · cases taken
  | file fileStep =>
    simp only [step] at taken
    split at taken
    · rename_i answered
      split at taken
      · rename_i files done
        exact .inr (.inr ⟨fileStep, files, rfl, answered, done, (Except.ok.inj taken).symm⟩)
      · cases taken
    · cases taken

/-- The invariant of all that happens. -/
structure Sound (env : External σ) (m : Mirror σ) : Prop where
  wired : m.world.Wired env
  numbered : m.world.Numbered
  answers : ∀ answer ∈ m.answers, m.world.Known answer
  files : m.files.Everywhere m.world.Mirrored

variable {env : External σ} {m next : Mirror σ}

theorem receipt_known {w next : World σ} {msg : Msg} {tx : Tx σ} (done : w.transact env (msg, tx) = .ok next) :
    ∀ answer ∈ receipt next tx, next.Known answer := by
  intro answer member
  cases tx with
  | triggerFinalize auctionId =>
    obtain ⟨⟨known, -⟩, executed, executes, rfl⟩ := World.transact_ok.mp done
    obtain ⟨found, moves⟩ := World.triggerFinalize_moves known executes
    obtain rfl := List.mem_singleton.mp member
    refine ⟨auctionId, .resolving, toUint256_toNat auctionId, ?_, rfl, rfl, rfl, by decide, ?_⟩
    · exact moves.frame.found.trans found
    · have resolving : (executed.market.auctions auctionId).auction.state = .resolving := by
        simp only [World.execute, World.triggerFinalize, bind_eq_ok, World.auctionExists_ok, World.transitionState_ok,
          pure_eq_ok, Except.ok.injEq] at executes
        obtain ⟨cell, ⟨-, rfl⟩, -, -, -, -, -, -, network, -, auction, ⟨-, rfl⟩, nonce, -, reward, -, request, -,
          rfl⟩ := executes
        simp [World.emit, World.setAuction]
      show AuctionState.Leads _ (executed.market.auctions auctionId).auction.state
      rw [resolving]
      exact .refl
  | _ => cases member

theorem Sound.transact (sound : m.Sound env) {msg : Msg} {tx : Tx σ} {world : World σ}
    (done : m.world.transact env (msg, tx) = .ok world) :
    Sound env { m with world, answers := receipt world tx ++ m.answers } := by
  have later : ∀ snapshot, m.world.Known snapshot → world.Known snapshot := by
    rintro snapshot ⟨auctionId, past, knows⟩
    exact ⟨auctionId, past, knows.advances (World.transact_advances sound.wired done knows.found)⟩
  constructor
  · exact (World.transact_stateOf sound.wired done 0).1
  · exact sound.numbered.transact sound.wired done
  · intro answer member
    rcases List.mem_append.mp member with own | earlier
    · exact receipt_known done answer own
    · exact later answer (sound.answers answer earlier)
  · apply sound.files.mono
    exact fun store mirrored auctionId record stored => later _ (mirrored auctionId record stored)

theorem Sound.answered (sound : m.Sound env) {snapshot : AuctionSnapshot} (known : m.world.Known snapshot) :
    Sound env { m with answers := snapshot :: m.answers } where
  wired := sound.wired
  numbered := sound.numbered
  answers := List.forall_mem_cons.mpr ⟨known, sound.answers⟩
  files := sound.files

theorem Sound.step (sound : m.Sound env) (input : MirrorStep σ) (taken : m.step env input = .ok next) :
    next.Sound env := by
  obtain ⟨sent, world, -, done, rfl⟩ | ⟨auctionId, read, answer, answered, tells, rfl⟩ |
    ⟨fileStep, files, -, answered, done, rfl⟩ := step_cases taken
  · exact sound.transact done
  · obtain ⟨id, knows⟩ := sound.numbered.readAuction answered
    rcases tells with ⟨-, rfl⟩ | ⟨-, rfl⟩
    · exact sound.answered ⟨id, _, knows⟩
    · exact sound.answered ⟨id, _, knows.announced⟩
  · refine ⟨sound.wired, sound.numbered, sound.answers, ?_⟩
    apply sound.files.step _ _ done
    · intro auctionId record stored
      cases stored
    · rintro role write rfl mirrored
      exact mirrored.write sound.answers answered

theorem sound_play (sound : m.Sound env) (steps : List (MirrorStep σ)) : Sound env (play (step env) m steps) := by
  apply play_preserves _ sound
  exact fun _ input _ before taken => before.step input taken

end Mirror

theorem Deployment.mirror_sound (deployment : Deployment) (env : External σ) (outside : σ) :
    (Mirror.initial (deployment.genesis env outside)).Sound env := by
  constructor
  · exact deployment.genesis_wired env outside
  · refine ⟨fun _ => nofun, ?_⟩
    intro auctionId nonzero counted
    exact absurd (BitVec.eq_of_toNat_eq (Nat.le_zero.mp counted)) nonzero
  · exact List.forall_mem_nil _
  · constructor
    · intro value stored
      cases stored
    · intro role auctionId record stored
      cases stored

/-- Whatever is delayed, repeated or left undone: every record of an auction, in the file and
in the memory of every role, is of an auction that exists, has its terms, and has a state
that the auction has been in. A state in which an auction has ended is its state. -/
theorem records_lag (deployment : Deployment) (env : External σ) (outside : σ) (steps : List (MirrorStep σ)) :
    let m := play (Mirror.step env) (.initial (deployment.genesis env outside)) steps
    ∀ store, (m.files.shared = some store ∨ ∃ role, m.files.copies role = store) →
      ∀ auctionId record, store.getAuction auctionId = some record → ∃ id past,
        m.world.Knows record.snapshot id past ∧
          (past.terminal = true → (m.world.market.auctions id).auction.state = past) := by
  intro m store kept auctionId record stored
  have sound : m.Sound env := Mirror.sound_play (deployment.mirror_sound env outside) steps
  have mirrored : m.world.Mirrored store := by
    rcases kept with shared | ⟨role, rfl⟩
    · exact sound.files.shared store shared
    · exact sound.files.copies role
  obtain ⟨id, past, knows⟩ := mirrored auctionId record stored
  exact ⟨id, past, knows, knows.leads.eq_of_terminal⟩

end FairMarket
