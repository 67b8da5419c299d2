import FairMarket.Keeper.BackedWrites
import FairMarket.Keeper.Numerals

/-! A pass of the monitor over all auctions. Between its calls anyone's transactions are
carried out and the other roles write to the state file. -/

namespace FairMarket

open Keeper

variable {σ : Type}

namespace Keeper

/-- The values of the loop variable up to a number. -/
def auctionIdsUpTo : Number → List ℤ
  | .finite total => (List.range ⌊total⌋₊).map fun place => (place + 1 : ℕ)
  | _ => []

theorem mem_auctionIdsUpTo {counter : ℕ} (small : counter < 2 ^ 53) {auctionId : ℤ} :
    auctionId ∈ auctionIdsUpTo (.ofBigInt counter) ↔ ∃ id : ℕ, auctionId = id ∧ id ≠ 0 ∧ id ≤ counter := by
  have exact_ : Number.ofBigInt counter = .finite ((counter : ℤ) : ℚ) := by
    apply Number.nearest_intCast
    rw [Nat.abs_cast]
    exact_mod_cast small
  rw [exact_, auctionIdsUpTo, Int.cast_natCast, Nat.floor_natCast]
  constructor
  · intro member
    obtain ⟨place, below, rfl⟩ := List.mem_map.mp member
    exact ⟨place + 1, rfl, Nat.succ_ne_zero place, List.mem_range.mp below⟩
  · rintro ⟨id, rfl, nonzero, counted⟩
    obtain ⟨place, rfl⟩ := Nat.exists_eq_succ_of_ne_zero nonzero
    exact List.mem_map.mpr ⟨place, List.mem_range.mpr counted, rfl⟩

end Keeper

/-- What happens before the monitor looks at an auction, and between its read and its write. -/
structure PassTurn (σ : Type) where
  earlier : List (MirrorStep σ)
  meanwhile : List (MirrorStep σ)
  trackedAtMs : Number

/-- The step is none of the monitor's own. -/
def MirrorStep.foreign : MirrorStep σ → Bool
  | .file (.start role) | .file (.reread role) | .file (.write role _) => role ≠ .auctionMonitor
  | _ => true

namespace Mirror

def monitor (m : Mirror σ) : AuctionStateStore := m.files.copies .auctionMonitor

/-- `synchronizeAuction`. -/
def synchronizeAuction (env : External σ) (m : Mirror σ) (turn : PassTurn σ) (auctionId : ℤ) :
    Except Unit (Mirror σ) :=
  match m.world.readAuction auctionId with
  | .error _ => .error ()
  | .ok snapshot =>
    let reading := play (step env) m (.read auctionId :: turn.meanwhile)
    let record := trackedRecord (reading.monitor.getAuction auctionId) snapshot turn.trackedAtMs
    reading.step env (.file (.write .auctionMonitor (.upsertAuction record)))

/-- The body of the loop. -/
def visitAuction (env : External σ) (m : Mirror σ) (turn : PassTurn σ) (auctionId : ℤ) : Except Unit (Mirror σ) :=
  let visited := play (step env) m turn.earlier
  match visited.monitor.getAuction auctionId with
  | none => visited.synchronizeAuction env turn auctionId
  | some existing =>
    if existing.state = 1 ∨ existing.state = 2 then visited.synchronizeAuction env turn auctionId
    else .ok visited

def visitAuctions (env : External σ) (turns : ℤ → PassTurn σ) (m : Mirror σ) : List ℤ → Except Unit (Mirror σ)
  | [] => .ok m
  | auctionId :: rest => do
    let visited ← m.visitAuction env (turns auctionId) auctionId
    visitAuctions env turns visited rest

def synchronizeAuctionsFromChain (env : External σ) (m : Mirror σ) (turns : ℤ → PassTurn σ) :
    Except Unit (Mirror σ) :=
  m.visitAuctions env turns (auctionIdsUpTo (.ofBigInt m.world.market.auctionCounter))

variable {env : External σ} {start m next : Mirror σ} {turn : PassTurn σ}

/-- How a later moment stands to an earlier one. -/
structure Since (env : External σ) (m next : Mirror σ) : Prop where
  sound : next.Sound env
  advances : ∀ id, (m.world.market.auctions id).auction.exists_ = true → World.Advances m.world next.world id
  running : next.files.running .auctionMonitor = m.files.running .auctionMonitor

theorem Since.refl (sound : m.Sound env) : Since env m m where
  sound := sound
  advances _ found := .refl found
  running := rfl

theorem Since.trans (first : Since env start m) (second : Since env m next) : Since env start next where
  sound := second.sound
  advances id found := (first.advances id found).trans (second.advances id (first.advances id found).found)
  running := second.running.trans first.running

theorem Since.step (sound : m.Sound env) {input : MirrorStep σ} (foreign : input.foreign = true)
    (taken : m.step env input = .ok next) : Since env m next ∧ next.monitor = m.monitor := by
  have later := sound.step input taken
  obtain ⟨sent, world, -, done, rfl⟩ | ⟨auctionId, read, answer, -, -, rfl⟩ |
    ⟨fileStep, files, rfl, -, done, rfl⟩ := step_cases taken
  · exact ⟨⟨later, fun id found => World.transact_advances sound.wired done found, rfl⟩, rfl⟩
  · exact ⟨⟨later, fun id found => .refl found, rfl⟩, rfl⟩
  · have away : ∀ role, decide (role ≠ KeeperRole.auctionMonitor) = true → KeeperRole.auctionMonitor ≠ role :=
      fun role other => (of_decide_eq_true other).symm
    cases fileStep with
    | start role =>
      cases done
      exact ⟨⟨later, fun id found => .refl found, Function.update_of_ne (away role foreign) ..⟩,
        Function.update_of_ne (away role foreign) ..⟩
    | reread role =>
      obtain ⟨rfl, -⟩ := Copies.step_reread done
      exact ⟨⟨later, fun id found => .refl found, rfl⟩, Function.update_of_ne (away role foreign) ..⟩
    | write role write =>
      obtain ⟨rfl, -⟩ := Copies.step_write done
      exact ⟨⟨later, fun id found => .refl found, rfl⟩, Function.update_of_ne (away role foreign) ..⟩

theorem Since.play (sound : m.Sound env) {steps : List (MirrorStep σ)} (foreign : steps.all MirrorStep.foreign = true) :
    Since env m (play (Mirror.step env) m steps) ∧ (FairMarket.play (Mirror.step env) m steps).monitor = m.monitor := by
  induction steps generalizing m with
  | nil => exact ⟨.refl sound, rfl⟩
  | cons input rest ih =>
    obtain ⟨first, others⟩ := Bool.and_eq_true_iff.mp foreign
    rw [play_cons]
    rcases advance_cases (Mirror.step env) m input with refused | taken
    · rw [refused]
      exact ih sound others
    · obtain ⟨since, same⟩ := Since.step sound first taken
      obtain ⟨later, kept⟩ := ih since.sound others
      exact ⟨since.trans later, kept.trans same⟩

/-- The monitor has a record of the auction, of a state it has been in since the start. -/
def Covers (start m : Mirror σ) (auctionId : ℤ) : Prop :=
  ∃ record id past, m.monitor.getAuction auctionId = some record ∧ m.world.Knows record.snapshot id past ∧
    (start.world.market.auctions id).auction.state.Leads past

theorem Covers.since {auctionId : ℤ} (covers : Covers start m auctionId) (since : Since env m next)
    (same : next.monitor.getAuction auctionId = m.monitor.getAuction auctionId) : Covers start next auctionId := by
  obtain ⟨record, id, past, stored, knows, leads⟩ := covers
  exact ⟨record, id, past, same.trans stored, knows.advances (since.advances id knows.found), leads⟩

/-- The id is one of an auction that was there at the start. -/
def Listed (start : Mirror σ) (auctionId : ℤ) : Prop :=
  ∃ id, toUint256 auctionId = .ok id ∧ (start.world.market.auctions id).auction.exists_ = true

/-- What one visit does: the auction is covered, and those that were covered still are. -/
structure Visited (env : External σ) (start m next : Mirror σ) (auctionId : ℤ) : Prop where
  since : Since env m next
  covers : Covers start next auctionId
  others : ∀ other, Covers start m other → Covers start next other

/-- The monitor has put a record into its store and the file. -/
def upserted (m : Mirror σ) (record : StoredAuctionRecord) : Mirror σ :=
  { m with files := { m.files with
    shared := some (m.monitor.upsertAuction record)
    copies := Function.update m.files.copies .auctionMonitor (m.monitor.upsertAuction record) } }

theorem upserted_getAuction (m : Mirror σ) (record : StoredAuctionRecord) (auctionId : ℤ) :
    (m.upserted record).monitor.getAuction auctionId =
      if auctionId = record.auctionId then some record else m.monitor.getAuction auctionId := by
  have written : (m.upserted record).monitor = m.monitor.upsertAuction record := by
    simp [monitor, upserted]
  rw [written]
  exact Keyed.get_set ..

theorem step_upserted {record : StoredAuctionRecord} (running : m.files.running .auctionMonitor = true)
    (backed : Backed .auctionMonitor m.answers (.upsertAuction record)) :
    m.step env (.file (.write .auctionMonitor (.upsertAuction record))) = .ok (m.upserted record) :=
  step_backed running backed

/-- The write of what has been read. -/
theorem upserted_visited {record : StoredAuctionRecord} {id : AuctionId} {past : AuctionState} (sound : m.Sound env)
    (running : m.files.running .auctionMonitor = true)
    (backed : Backed .auctionMonitor m.answers (.upsertAuction record))
    (knows : m.world.Knows record.snapshot id past)
    (leads : (start.world.market.auctions id).auction.state.Leads past) :
    Visited env start m (m.upserted record) record.auctionId := by
  have since : Since env m (m.upserted record) :=
    ⟨sound.step _ (step_upserted running backed), fun id found => .refl found, rfl⟩
  have covers : Covers start (m.upserted record) record.auctionId := by
    refine ⟨record, id, past, ?_, knows, leads⟩
    rw [upserted_getAuction, if_pos rfl]
  refine ⟨since, covers, ?_⟩
  intro other covered
  by_cases same : other = record.auctionId
  · rw [same]
    exact covers
  · apply covered.since since
    rw [upserted_getAuction, if_neg same]

/-- The mirror reads and writes as the program does, on what the chain and the store answer it. -/
theorem synchronizeAuction_follows {auctionId : ℤ} {snapshot : AuctionSnapshot} {answers : SynchronizeAnswers}
    (answered : m.world.readAuction auctionId = .ok snapshot) (read : answers.read = .ok snapshot)
    (existing : answers.existing = .ok
      ((play (step env) m (.read auctionId :: turn.meanwhile)).monitor.getAuction auctionId))
    (now : answers.trackedAtMs = turn.trackedAtMs) :
    ∃ write, (Keeper.synchronizeAuction answers auctionId).events.filterMap MonitorEvent.write = [write] ∧
      m.synchronizeAuction env turn auctionId =
        (play (step env) m (.read auctionId :: turn.meanwhile)).step env (.file (.write .auctionMonitor write)) := by
  obtain ⟨id, -, -, about⟩ := World.readAuction_ok.mp answered
  have own : { snapshot with auctionId } = snapshot := by rw [about]
  have named : snapshot.auctionId = auctionId := by rw [about]
  refine ⟨_, ?_, by rw [synchronizeAuction, answered]⟩
  rw [Keeper.synchronizeAuction, read]
  simp only [Traced.call, Traced.mk_ok_bind, own]
  rw [← now]
  subst named
  have stores := trackAuction_stores answers snapshot existing
  cases returned : (trackAuction answers snapshot).result with
  | ok stored =>
    rw [Traced.bind_of_ok returned, stores]
    rfl
  | error raised =>
    rw [Traced.bind_of_error returned, stores]
    rfl

theorem synchronizeAuction_visited {auctionId : ℤ} (since : Since env start m)
    (running : m.files.running .auctionMonitor = true) (listed : Listed start auctionId)
    (foreign : turn.meanwhile.all MirrorStep.foreign = true) :
    ∃ next, m.synchronizeAuction env turn auctionId = .ok next ∧ Visited env start m next auctionId := by
  obtain ⟨id, names, found⟩ := listed
  have advanced := since.advances id found
  obtain ⟨snapshot, answered, about, knows⟩ := since.sound.numbered.readAuction_of_found names advanced.found
  have asked : m.step env (.read auctionId) = .ok { m with answers := snapshot :: m.answers } := by
    rw [step, answered]
  have reading : play (step env) m (.read auctionId :: turn.meanwhile) =
      play (step env) { m with answers := snapshot :: m.answers } turn.meanwhile := by
    rw [play_cons, advance, asked]
  obtain ⟨first, -⟩ := Since.step since.sound rfl asked
  obtain ⟨second, kept⟩ := Since.play first.sound foreign
  rw [← reading] at second kept
  have later := first.trans second
  have told : snapshot ∈ (play (step env) m (.read auctionId :: turn.meanwhile)).answers := by
    rw [reading]
    exact play_answers _ List.mem_cons_self
  subst about
  generalize final : play (step env) m (.read snapshot.auctionId :: turn.meanwhile) = last at later second kept told
  have backed : Backed .auctionMonitor last.answers (.upsertAuction
      (trackedRecord (last.monitor.getAuction snapshot.auctionId) snapshot turn.trackedAtMs)) :=
    backed_upsertAuction told
  have visited := upserted_visited later.sound (later.running.trans running) backed
    (knows.advances (later.advances id advanced.found)) advanced.leads
  refine ⟨_, ?_, later.trans visited.since, visited.covers, ?_⟩
  · rw [synchronizeAuction, answered]
    dsimp only
    rw [final]
    exact step_upserted (later.running.trans running) backed
  · intro other covered
    exact visited.others other (covered.since later (congrArg (AuctionStateStore.getAuction · other) kept))

/-- A record that is passed over is of an auction that has ended. -/
theorem Covers.of_ended {auctionId : ℤ} {record : StoredAuctionRecord} (since : Since env start m)
    (listed : Listed start auctionId) (stored : m.monitor.getAuction auctionId = some record)
    (ended : ¬ (record.state = 1 ∨ record.state = 2)) : Covers start m auctionId := by
  obtain ⟨id, names, found⟩ := listed
  obtain ⟨other, past, knows⟩ := since.sound.files.copies .auctionMonitor auctionId record stored
  have about : record.auctionId = auctionId := Keyed.key_of_get stored
  obtain rfl : other = id := by
    have same := knows.id
    change toUint256 record.auctionId = .ok other at same
    rw [about, names] at same
    exact (Except.ok.inj same).symm
  have terminal : past.terminal = true := by
    have state : record.state = past.ordinal := knows.state
    rw [state] at ended
    have activated := knows.activated
    revert activated ended
    cases past with
    | _ => simp [AuctionState.ordinal, AuctionState.terminal]
  have leads := (since.advances other found).leads
  rw [knows.leads.eq_of_terminal terminal] at leads
  exact ⟨record, other, past, stored, knows, leads⟩

theorem visitAuction_visited {auctionId : ℤ} (since : Since env start m)
    (running : m.files.running .auctionMonitor = true) (listed : Listed start auctionId)
    (earlier : turn.earlier.all MirrorStep.foreign = true) (meanwhile : turn.meanwhile.all MirrorStep.foreign = true) :
    ∃ next, m.visitAuction env turn auctionId = .ok next ∧ Visited env start m next auctionId := by
  obtain ⟨before, kept⟩ := Since.play since.sound earlier
  have covered : ∀ other, Covers start m other → Covers start (play (step env) m turn.earlier) other :=
    fun other covers => covers.since before (congrArg (AuctionStateStore.getAuction · other) kept)
  have synchronizes : ∃ next, (play (step env) m turn.earlier).synchronizeAuction env turn auctionId = .ok next ∧
      Visited env start m next auctionId := by
    obtain ⟨next, done, visited⟩ := synchronizeAuction_visited (since.trans before)
      (before.running.trans running) listed meanwhile
    exact ⟨next, done, before.trans visited.since, visited.covers, fun other was =>
      visited.others other (covered other was)⟩
  cases stored : (play (step env) m turn.earlier).monitor.getAuction auctionId with
  | none =>
    simp only [visitAuction, stored]
    exact synchronizes
  | some record =>
    simp only [visitAuction, stored]
    split
    · exact synchronizes
    · rename_i ended
      exact ⟨_, rfl, before, .of_ended (since.trans before) listed stored ended, covered⟩

theorem visitAuctions_covers {turns : ℤ → PassTurn σ} {ids : List ℤ} (since : Since env start m)
    (running : m.files.running .auctionMonitor = true) (listed : ∀ auctionId ∈ ids, Listed start auctionId)
    (foreign : ∀ auctionId, (turns auctionId).earlier.all MirrorStep.foreign = true ∧
      (turns auctionId).meanwhile.all MirrorStep.foreign = true) :
    ∃ next, m.visitAuctions env turns ids = .ok next ∧ Since env m next ∧
      (∀ auctionId ∈ ids, Covers start next auctionId) ∧
      ∀ other, Covers start m other → Covers start next other := by
  induction ids generalizing m with
  | nil => exact ⟨m, rfl, .refl since.sound, List.forall_mem_nil _, fun _ => id⟩
  | cons auctionId rest ih =>
    obtain ⟨known, others⟩ := List.forall_mem_cons.mp listed
    obtain ⟨visited, done, visit⟩ := visitAuction_visited since running known (foreign auctionId).1
      (foreign auctionId).2
    obtain ⟨next, finishes, later, covers, kept⟩ := ih (since.trans visit.since) (visit.since.running.trans running)
      others
    refine ⟨next, bind_eq_ok.mpr ⟨visited, done, finishes⟩, visit.since.trans later, ?_, ?_⟩
    · exact List.forall_mem_cons.mpr ⟨kept auctionId visit.covers, covers⟩
    · exact fun other was => kept other (visit.others other was)

/-- The pass goes through and covers every auction. -/
theorem synchronizeAuctionsFromChain_covers {turns : ℤ → PassTurn σ} (sound : start.Sound env)
    (running : start.files.running .auctionMonitor = true) (small : start.world.market.auctionCounter < 2 ^ 53)
    (foreign : ∀ auctionId, (turns auctionId).earlier.all MirrorStep.foreign = true ∧
      (turns auctionId).meanwhile.all MirrorStep.foreign = true) :
    ∃ finish, start.synchronizeAuctionsFromChain env turns = .ok finish ∧ Since env start finish ∧
      ∀ id, (start.world.market.auctions id).auction.exists_ = true → ∃ record past,
        finish.monitor.getAuction id.toNat = some record ∧ finish.world.Knows record.snapshot id past ∧
          (start.world.market.auctions id).auction.state.Leads past := by
  have listed : ∀ auctionId ∈ auctionIdsUpTo (.ofBigInt start.world.market.auctionCounter),
      start.Listed auctionId := by
    intro auctionId member
    obtain ⟨id, rfl, nonzero, counted⟩ := (mem_auctionIdsUpTo small).mp member
    obtain ⟨word, names, same⟩ := toUint256_natCast (show id < 2 ^ 256 by omega)
    refine ⟨word, names, sound.numbered.inUse word ?_ (same.trans_le counted)⟩
    rintro rfl
    exact nonzero same.symm
  obtain ⟨finish, done, since, covers, -⟩ := visitAuctions_covers (.refl sound) running listed foreign
  refine ⟨finish, done, since, fun id found => ?_⟩
  obtain ⟨nonzero, counted⟩ := sound.wired.counted id found
  have member : (id.toNat : ℤ) ∈ auctionIdsUpTo (.ofBigInt start.world.market.auctionCounter) := by
    apply (mem_auctionIdsUpTo small).mpr
    exact ⟨id.toNat, rfl, fun zero => nonzero (BitVec.eq_of_toNat_eq zero), counted⟩
  obtain ⟨record, other, past, stored, knows, leads⟩ := covers id.toNat member
  obtain rfl : other = id := by
    have names := knows.id
    change toUint256 record.auctionId = .ok other at names
    rw [Keyed.key_of_get stored, toUint256_toNat] at names
    exact (Except.ok.inj names).symm
  exact ⟨record, past, stored, knows, leads⟩

end Mirror

/-- A pass of the monitor, whatever others do meanwhile, goes through and leaves it with a
record of every auction that was there at its start: with its terms, and with a state it has
been in since then, which is its state if that has not changed. -/
theorem pass_mirrors (deployment : Deployment) (env : External σ) (outside : σ) (steps : List (MirrorStep σ))
    (turns : ℤ → PassTurn σ) :
    let start := play (Mirror.step env) (.initial (deployment.genesis env outside)) steps
    start.files.running .auctionMonitor = true →
    start.world.market.auctionCounter < 2 ^ 53 →
    (∀ auctionId, (turns auctionId).earlier.all MirrorStep.foreign = true ∧
      (turns auctionId).meanwhile.all MirrorStep.foreign = true) →
      ∃ finish, start.synchronizeAuctionsFromChain env turns = .ok finish ∧
        ∀ id, (start.world.market.auctions id).auction.exists_ = true → ∃ record past,
          finish.monitor.getAuction id.toNat = some record ∧ finish.world.Knows record.snapshot id past ∧
            (start.world.market.auctions id).auction.state.Leads past ∧
            ((finish.world.market.auctions id).auction.state = (start.world.market.auctions id).auction.state →
              past = (finish.world.market.auctions id).auction.state) := by
  intro start running small foreign
  have sound : start.Sound env := Mirror.sound_play (deployment.mirror_sound env outside) steps
  obtain ⟨finish, done, -, covers⟩ := Mirror.synchronizeAuctionsFromChain_covers sound running small foreign
  refine ⟨finish, done, fun id found => ?_⟩
  obtain ⟨record, past, stored, knows, leads⟩ := covers id found
  refine ⟨record, past, stored, knows, leads, ?_⟩
  intro same
  apply knows.leads.antisymm
  rw [same]
  exact leads

/-- The monitor is started, and two auctions are created. -/
def twoListed : List (MirrorStep (ℕ → Address)) :=
  [.file (.start .auctionMonitor),
    .transaction ({ sender := 9, value := 10, timestamp := 1000 }, .createAuction 5 7 100 0 10 false),
    .transaction ({ sender := 9, value := 10, timestamp := 1000 }, .createAuction 5 8 100 0 10 false)]

/-- Each auction is cancelled between the monitor's read and its write. -/
def cancelledMeanwhile (auctionId : ℤ) : PassTurn (ℕ → Address) where
  earlier := []
  meanwhile := [.transaction ({ sender := 9, timestamp := 1001 }, .cancelAuction (.ofInt 256 auctionId))]
  trackedAtMs := 1001

set_option maxRecDepth 4000 in
theorem twoListed_mirrored :
    let start := play (Mirror.step tokenChain) (.initial (tokenDeployment.genesis tokenChain fun _ => 9)) twoListed
    ∃ finish record past, start.synchronizeAuctionsFromChain tokenChain cancelledMeanwhile = .ok finish ∧
      finish.monitor.getAuction 2 = some record ∧ finish.world.Knows record.snapshot 2 past ∧
        AuctionState.active.Leads past := by
  intro start
  obtain ⟨finish, done, covers⟩ := pass_mirrors tokenDeployment tokenChain (fun _ => 9) twoListed cancelledMeanwhile
    (by decide +kernel) (by decide +kernel) (fun auctionId => ⟨rfl, rfl⟩)
  obtain ⟨record, past, stored, knows, leads, -⟩ := covers 2 (by decide +kernel)
  have active : (start.world.market.auctions 2).auction.state = .active := by decide +kernel
  exact ⟨finish, record, past, done, stored, knows, active ▸ leads⟩

end FairMarket
