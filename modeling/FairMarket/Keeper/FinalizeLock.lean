import FairMarket.Keeper.LockCoordinator
import FairMarket.Lib.Lease

/-! Keepers that compete for the finalize lock of one auction. In memory each call is one
step. In Redis a call is two commands, and between them other keepers' commands and the end
of a lock may come. Each keeper waits for one call before it makes the next. -/

namespace FairMarket

namespace Keeper

/-- The clock, and until when each keeper was last granted the lock it has not released. -/
structure Reservations where
  now : ℕ := 0
  granted : Text → Option ℕ := fun _ => none

namespace Reservations

def wait (reservations : Reservations) (elapsedMs : ℕ) : Reservations :=
  { reservations with now := reservations.now + elapsedMs }

def grant (reservations : Reservations) (keeperId : Text) (ttlMs : ℕ+) : Reservations :=
  { reservations with
    granted := Function.update reservations.granted keeperId (some (reservations.now + ttlMs)) }

def release (reservations : Reservations) (keeperId : Text) : Reservations :=
  { reservations with granted := Function.update reservations.granted keeperId none }

/-- The keepers and the coordinator's entry, as parties to a lease. -/
def lease (reservations : Reservations) (entry : Option Lock) : Lease Text where
  now := reservations.now
  entry := entry.map fun lock => (lock.keeperId, lock.expiresAtMs)
  believed := reservations.granted

def Holds (reservations : Reservations) (keeperId : Text) : Prop :=
  ∃ expiresAtMs, reservations.granted keeperId = some expiresAtMs ∧ reservations.now < expiresAtMs

/-- No two keepers hold an unexpired reservation. -/
def Exclusive (reservations : Reservations) : Prop :=
  ∀ first second, reservations.Holds first → reservations.Holds second → first = second

end Reservations

/-- What keepers do that share a coordinator in memory. -/
inductive KeeperStep where
  | wait (elapsedMs : ℕ)
  | reserveLock (keeperId : Text) (ttlMs : ℕ+)
  | releaseLock (keeperId : Text)

structure MemoryRun where
  coordinator : InMemoryLockCoordinator := {}
  reservations : Reservations := {}

def MemoryRun.step (auctionId : ℤ) (run : MemoryRun) : KeeperStep → MemoryRun
  | .wait elapsedMs => { run with reservations := run.reservations.wait elapsedMs }
  | .reserveLock keeperId ttlMs =>
    let (reservation, coordinator) :=
      run.coordinator.reserveLock run.reservations.now auctionId keeperId ttlMs
    { coordinator
      reservations := if reservation.acquired then run.reservations.grant keeperId ttlMs
        else run.reservations }
  | .releaseLock keeperId =>
    { coordinator := run.coordinator.releaseLock auctionId keeperId
      reservations := run.reservations.release keeperId }

/-- Where a keeper is in its call. A release that found the keeper's own lock has yet to
delete it; which lock it found is kept for the proofs. -/
inductive Phase where
  | idle
  | reserving (executionNonce : ℕ) (ttlMs : ℕ+)
  | releasing (found : Lock)

/-- The first command of a call comes with the call. -/
inductive RedisStep where
  | wait (elapsedMs : ℕ)
  | incr (keeperId : Text) (ttlMs : ℕ+)
  | setIfNotExists (keeperId : Text)
  | get (keeperId : Text)
  | del (keeperId : Text)

structure RedisRun where
  redis : Redis := {}
  reservations : Reservations := {}
  phase : Text → Phase := fun _ => .idle

/-- The keeper's call has another command next. -/
inductive OutOfTurn where
  | outOfTurn

def RedisRun.enter (run : RedisRun) (keeperId : Text) (phase : Phase) : RedisRun :=
  { run with phase := Function.update run.phase keeperId phase }

/-- A keeper gives up its reservation when it calls `releaseLock`. -/
def RedisRun.step (server : RedisServer) (auctionId : ℤ) (run : RedisRun) :
    RedisStep → Except OutOfTurn RedisRun
  | .wait elapsedMs => .ok { run with reservations := run.reservations.wait elapsedMs }
  | .incr keeperId ttlMs =>
    match run.phase keeperId with
    | .idle =>
      let (executionNonce, redis) := run.redis.incr auctionId
      .ok ({ run with redis }.enter keeperId (.reserving executionNonce ttlMs))
    | _ => .error .outOfTurn
  | .setIfNotExists keeperId =>
    match run.phase keeperId with
    | .reserving _ ttlMs =>
      let (acquired, redis) :=
        run.redis.setIfNotExists server run.reservations.now auctionId keeperId ttlMs
      .ok ({ run with
        redis
        reservations := if acquired then run.reservations.grant keeperId ttlMs
          else run.reservations }.enter keeperId .idle)
    | _ => .error .outOfTurn
  | .get keeperId =>
    match run.phase keeperId with
    | .idle =>
      let released := { run with reservations := run.reservations.release keeperId }
      match run.redis.lock server run.reservations.now auctionId with
      | some found =>
        if found.keeperId = keeperId then .ok (released.enter keeperId (.releasing found)) else .ok released
      | none => .ok released
    | _ => .error .outOfTurn
  | .del keeperId =>
    match run.phase keeperId with
    | .releasing _ => .ok ({ run with redis := run.redis.del auctionId }.enter keeperId .idle)
    | _ => .error .outOfTurn

/-- When a keeper deletes, the lock it found has not expired, or there is none. -/
def RedisRun.Current (server : RedisServer) (auctionId : ℤ) (run : RedisRun) : RedisStep → Prop
  | .del keeperId => ∀ found, run.phase keeperId = .releasing found →
    server.live found.expiresAtMs run.reservations.now = true ∨
      run.redis.lock server run.reservations.now auctionId = none
  | _ => True

/-- The step is not one of a release that removes the lock of another keeper. -/
def RedisRun.Respects (server : RedisServer) (auctionId : ℤ) (run : RedisRun) (input : RedisStep) : Prop :=
  ∀ keeperId lock, input = .get keeperId ∨ input = .del keeperId →
    run.redis.lock server run.reservations.now auctionId = some lock → lock.keeperId ≠ keeperId →
      (advance (RedisRun.step server auctionId) run input).redis.lock server run.reservations.now auctionId =
        some lock

namespace Reservations

variable (reservations : Reservations) {entry : Option Lock} {keeperId : Text}

theorem grant_step (ttlMs : ℕ+) (free : ∀ lock, entry = some lock →
    reservations.now < lock.expiresAtMs → lock.keeperId = keeperId) :
    Lease.Step (reservations.lease entry) ((reservations.grant keeperId ttlMs).lease
      (some { keeperId, expiresAtMs := reservations.now + ttlMs })) := by
  apply Lease.Step.grant keeperId (ttlMs : ℕ)
  intro other deadline recorded running
  obtain ⟨lock, present, same⟩ := Option.map_eq_some_iff.mp recorded
  cases same
  exact free lock present running

theorem wipe_step (vacant : ∀ lock, entry = some lock → ¬ reservations.Holds lock.keeperId) :
    Lease.Step (reservations.lease entry) (reservations.lease none) := by
  apply Lease.Step.wipe
  intro other deadline recorded
  obtain ⟨lock, present, same⟩ := Option.map_eq_some_iff.mp recorded
  cases same
  exact vacant lock present

theorem release_not_holds : ¬ (reservations.release keeperId).Holds keeperId := by
  rintro ⟨deadline, granted, -⟩
  change Function.update reservations.granted keeperId none keeperId = some deadline at granted
  rw [Function.update_self] at granted
  cases granted

end Reservations

namespace MemoryRun

variable {auctionId : ℤ}

def lease (auctionId : ℤ) (run : MemoryRun) : Lease Text :=
  run.reservations.lease (run.coordinator.locks auctionId)

theorem step_lease (run : MemoryRun) (input : KeeperStep) :
    Relation.ReflTransGen Lease.Step (run.lease auctionId) ((run.step auctionId input).lease auctionId) := by
  unfold lease
  cases input with
  | wait elapsedMs => exact .single (.wait elapsedMs)
  | reserveLock keeperId ttlMs =>
    unfold MemoryRun.step InMemoryLockCoordinator.reserveLock
    dsimp only
    split
    · exact .refl
    · rename_i free
      refine .single ?_
      dsimp only
      rw [if_pos rfl, Function.update_self]
      apply run.reservations.grant_step
      intro lock present running
      by_contra other
      apply free
      rw [present]
      exact decide_eq_true ⟨running, other⟩
  | releaseLock keeperId =>
    refine .head (.forget keeperId) ?_
    unfold MemoryRun.step InMemoryLockCoordinator.releaseLock
    dsimp only
    split
    · rename_i own
      refine .single ?_
      dsimp only
      rw [Function.update_self]
      apply (run.reservations.release keeperId).wipe_step
      intro lock present
      rw [present, Option.map_some, Option.some.injEq] at own
      rw [own]
      exact run.reservations.release_not_holds
    · exact .refl

/-- In memory two keepers never hold the lock at once. -/
theorem exclusive (auctionId : ℤ) (inputs : List KeeperStep) :
    (inputs.foldl (MemoryRun.step auctionId) {}).reservations.Exclusive := by
  have recorded : ((inputs.foldl (MemoryRun.step auctionId) {}).lease auctionId).Recorded := by
    induction inputs using List.reverseRecOn with
    | nil => exact Lease.recorded_initial
    | append_singleton inputs input ih =>
      rw [List.foldl_append]
      exact ih.steps (step_lease _ input)
  exact recorded.exclusive

theorem step_releaseLock {run : MemoryRun} {keeperId : Text} {lock : Lock}
    (present : run.coordinator.locks auctionId = some lock) (other : lock.keeperId ≠ keeperId) :
    (run.step auctionId (.releaseLock keeperId)).coordinator.locks auctionId = some lock := by
  have owner : ¬ (run.coordinator.locks auctionId).map Lock.keeperId = some keeperId := by
    rw [present, Option.map_some, Option.some.injEq]
    exact other
  unfold MemoryRun.step InMemoryLockCoordinator.releaseLock
  dsimp only
  rw [if_neg owner]
  exact present

end MemoryRun

namespace RedisRun

variable {server : RedisServer} {auctionId : ℤ} {run next : RedisRun}

def lease (auctionId : ℤ) (run : RedisRun) : Lease Text :=
  run.reservations.lease (run.redis.locks auctionId)

structure Sound (server : RedisServer) (auctionId : ℤ) (run : RedisRun) : Prop where
  recorded : (run.lease auctionId).Recorded
  own : ∀ keeperId found, run.phase keeperId = .releasing found → found.keeperId = keeperId
  released : ∀ keeperId found, run.phase keeperId = .releasing found →
    run.reservations.granted keeperId = none
  found : ∀ keeperId found, run.phase keeperId = .releasing found → ∀ lock,
    run.redis.locks auctionId = some lock → lock.keeperId = keeperId → lock = found
  kept : ∀ keeperId found, run.phase keeperId = .releasing found →
    server.live found.expiresAtMs run.reservations.now = true → run.redis.locks auctionId = some found

/-- A keeper that enters another phase than a release changes nothing. -/
theorem Sound.enter (sound : run.Sound server auctionId) {keeperId : Text} {phase : Phase}
    (enters : ∀ found, phase ≠ .releasing found) : (run.enter keeperId phase).Sound server auctionId := by
  have before : ∀ other found, (run.enter keeperId phase).phase other = .releasing found →
      run.phase other = .releasing found := by
    intro other found releasing
    change Function.update run.phase keeperId phase other = _ at releasing
    by_cases same : other = keeperId
    · rw [same, Function.update_self] at releasing
      exact absurd releasing (enters found)
    · rwa [Function.update_of_ne same] at releasing
  refine ⟨sound.recorded, ?_, ?_, ?_, ?_⟩
  · exact fun other found releasing => sound.own other found (before other found releasing)
  · exact fun other found releasing => sound.released other found (before other found releasing)
  · exact fun other found releasing => sound.found other found (before other found releasing)
  · exact fun other found releasing => sound.kept other found (before other found releasing)

theorem Sound.wait (sound : run.Sound server auctionId) (elapsedMs : ℕ) :
    ({ run with reservations := run.reservations.wait elapsedMs } : RedisRun).Sound server auctionId := by
  refine ⟨sound.recorded.step (.wait elapsedMs), sound.own, sound.released, sound.found, ?_⟩
  intro other found releasing live
  exact sound.kept other found releasing (server.live_mono (Nat.le_add_right ..) live)

/-- A keeper that gives up its reservation. -/
theorem Sound.release (sound : run.Sound server auctionId) (keeperId : Text) :
    ({ run with reservations := run.reservations.release keeperId } : RedisRun).Sound server auctionId := by
  refine ⟨sound.recorded.step (.forget keeperId), sound.own, ?_, sound.found, sound.kept⟩
  intro other found releasing
  change Function.update run.reservations.granted keeperId none other = none
  by_cases same : other = keeperId
  · rw [same, Function.update_self]
  · rw [Function.update_of_ne same]
    exact sound.released other found releasing

/-- Where the lock is free, what is left of the last one has expired. -/
theorem expired_of_free (free : run.redis.lock server run.reservations.now auctionId = none) {lock : Lock}
    (present : run.redis.locks auctionId = some lock) :
    server.live lock.expiresAtMs run.reservations.now ≠ true := by
  intro live
  rw [Redis.lock, present, Option.filter_some, if_pos live] at free
  cases free

/-- A keeper whose reservation finds the lock free. -/
theorem Sound.grant (sound : run.Sound server auctionId) {keeperId : Text} {executionNonce : ℕ} {ttlMs : ℕ+}
    (reserving : run.phase keeperId = .reserving executionNonce ttlMs)
    (free : run.redis.lock server run.reservations.now auctionId = none) :
    ({ run with
      redis := { run.redis with
        locks := Function.update run.redis.locks auctionId
          (some { keeperId, expiresAtMs := run.reservations.now + ttlMs }) }
      reservations := run.reservations.grant keeperId ttlMs } : RedisRun).Sound server auctionId := by
  have another : ∀ other found, run.phase other = .releasing found → other ≠ keeperId := by
    rintro other found releasing rfl
    rw [reserving] at releasing
    cases releasing
  refine ⟨?_, sound.own, ?_, ?_, ?_⟩
  · refine sound.recorded.step ?_
    unfold lease
    dsimp only
    rw [Function.update_self]
    apply run.reservations.grant_step
    intro lock present running
    exact absurd (server.early _ _ running) (expired_of_free free present)
  · intro other found releasing
    change Function.update run.reservations.granted keeperId _ other = none
    rw [Function.update_of_ne (another other found releasing)]
    exact sound.released other found releasing
  · intro other found releasing lock present same
    dsimp only at present
    rw [Function.update_self, Option.some.injEq] at present
    rw [← present] at same
    exact absurd same.symm (another other found releasing)
  · intro other found releasing live
    have present := sound.kept other found releasing live
    exact absurd live (expired_of_free free present)

/-- A keeper that finds its own lock. -/
theorem Sound.find (sound : run.Sound server auctionId) {keeperId : Text} {lock : Lock}
    (released : run.reservations.granted keeperId = none) (own : lock.keeperId = keeperId)
    (present : run.redis.locks auctionId = some lock) :
    (run.enter keeperId (.releasing lock)).Sound server auctionId := by
  have before : ∀ other found, (run.enter keeperId (.releasing lock)).phase other = .releasing found →
      other = keeperId ∧ found = lock ∨ run.phase other = .releasing found := by
    intro other found releasing
    change Function.update run.phase keeperId _ other = _ at releasing
    by_cases same : other = keeperId
    · rw [same, Function.update_self, Phase.releasing.injEq] at releasing
      exact .inl ⟨same, releasing.symm⟩
    · rw [Function.update_of_ne same] at releasing
      exact .inr releasing
  refine ⟨sound.recorded, ?_, ?_, ?_, ?_⟩
  · intro other found releasing
    rcases before other found releasing with ⟨rfl, rfl⟩ | earlier
    · exact own
    · exact sound.own other found earlier
  · intro other found releasing
    rcases before other found releasing with ⟨rfl, rfl⟩ | earlier
    · exact released
    · exact sound.released other found earlier
  · intro other found releasing entry there same
    rcases before other found releasing with ⟨rfl, rfl⟩ | earlier
    · change run.redis.locks auctionId = some entry at there
      rw [present, Option.some.injEq] at there
      exact there.symm
    · exact sound.found other found earlier entry there same
  · intro other found releasing live
    rcases before other found releasing with ⟨rfl, rfl⟩ | earlier
    · exact present
    · exact sound.kept other found earlier live

/-- What a keeper may delete is the lock it found, or one that has expired. -/
theorem Sound.current (sound : run.Sound server auctionId) {keeperId : Text} {found : Lock}
    (releasing : run.phase keeperId = .releasing found)
    (current : run.Current server auctionId (.del keeperId)) {lock : Lock}
    (held : run.redis.lock server run.reservations.now auctionId = some lock) : lock = found := by
  rcases current found releasing with live | free
  · have present := sound.kept keeperId found releasing live
    rw [Redis.lock, present, Option.filter_some, if_pos live] at held
    exact (Option.some.inj held).symm
  · rw [free] at held
    cases held

/-- A keeper that deletes the lock it found, or an expired one. -/
theorem Sound.delete (sound : run.Sound server auctionId) {keeperId : Text} {found : Lock}
    (releasing : run.phase keeperId = .releasing found)
    (current : run.Current server auctionId (.del keeperId)) :
    ({ run with redis := run.redis.del auctionId }.enter keeperId .idle).Sound server auctionId := by
  have own := sound.own keeperId found releasing
  have released := sound.released keeperId found releasing
  have gone : (run.redis.del auctionId).locks auctionId = none := by
    unfold Redis.del
    dsimp only
    rw [Function.update_self]
  have before : ∀ other lock, Function.update run.phase keeperId .idle other = .releasing lock →
      other ≠ keeperId ∧ run.phase other = .releasing lock := by
    intro other lock there
    by_cases same : other = keeperId
    · rw [same, Function.update_self] at there
      cases there
    · rw [Function.update_of_ne same] at there
      exact ⟨same, there⟩
  refine ⟨?_, ?_, ?_, ?_, ?_⟩
  · refine sound.recorded.step ?_
    unfold lease
    change Lease.Step _ (run.reservations.lease ((run.redis.del auctionId).locks auctionId))
    rw [gone]
    apply run.reservations.wipe_step
    rintro lock present ⟨deadline, granted, running⟩
    have recorded := sound.recorded lock.keeperId deadline granted running
    change (run.redis.locks auctionId).map _ = _ at recorded
    rw [present, Option.map_some, Option.some.injEq, Prod.mk.injEq] at recorded
    have live : run.redis.lock server run.reservations.now auctionId = some lock := by
      rw [Redis.lock, present, Option.filter_some, if_pos]
      rw [recorded.2]
      exact server.early _ _ running
    rw [sound.current releasing current live, own, released] at granted
    cases granted
  · exact fun other lock there => sound.own other lock (before other lock there).2
  · exact fun other lock there => sound.released other lock (before other lock there).2
  · intro other lock _ entry present
    change (run.redis.del auctionId).locks auctionId = some entry at present
    rw [gone] at present
    cases present
  · intro other lock there live
    obtain ⟨different, earlier⟩ := before other lock there
    -- no other release has found a lock that has not expired
    have kept := sound.kept other lock earlier live
    have held : run.redis.lock server run.reservations.now auctionId = some lock := by
      rw [Redis.lock, kept, Option.filter_some]
      exact if_pos live
    have same := sound.own other lock earlier
    rw [sound.current releasing current held, own] at same
    exact absurd same.symm different

/-- No step breaks the invariant, unless a deletion comes too late. -/
theorem Sound.step (sound : run.Sound server auctionId) {input : RedisStep}
    (current : run.Current server auctionId input) (done : run.step server auctionId input = .ok next) :
    next.Sound server auctionId := by
  unfold RedisRun.step at done
  cases input with
  | wait elapsedMs =>
    cases done
    exact sound.wait elapsedMs
  | incr keeperId ttlMs =>
    dsimp only at done
    split at done
    · cases done
      have counted : ({ run with redis := (run.redis.incr auctionId).2 } : RedisRun).Sound server auctionId :=
        ⟨sound.recorded, sound.own, sound.released, sound.found, sound.kept⟩
      exact counted.enter nofun
    · cases done
  | setIfNotExists keeperId =>
    dsimp only at done
    split at done
    · rename_i executionNonce ttlMs reserving
      cases done
      unfold Redis.setIfNotExists
      split
      · exact sound.enter nofun
      · rename_i free
        rw [Bool.not_eq_true, Option.isSome_eq_false_iff, Option.isNone_iff_eq_none] at free
        exact (sound.grant reserving free).enter nofun
    · cases done
  | get keeperId =>
    have released := sound.release keeperId
    dsimp only at done
    split at done
    · split at done
      · rename_i found present
        split at done
        · rename_i own
          cases done
          obtain ⟨there, -⟩ := Option.filter_eq_some_iff.mp present
          exact released.find (Function.update_self ..) own there
        · cases done
          exact released
      · cases done
        exact released
    · cases done
  | del keeperId =>
    dsimp only at done
    split at done
    · rename_i found releasing
      cases done
      exact sound.delete releasing current
    · cases done

/-- A release that has yet to read, or does not delete, removes nothing. -/
theorem advance_get (run : RedisRun) (keeperId : Text) :
    (advance (RedisRun.step server auctionId) run (.get keeperId)).redis = run.redis := by
  unfold advance RedisRun.step
  dsimp only
  cases run.phase keeperId with
  | idle =>
    dsimp only
    split
    · rename_i next done
      split at done
      · split at done
        · cases done
          rfl
        · cases done
          rfl
      · cases done
        rfl
    · rfl
  | reserving => rfl
  | releasing => rfl

/-- A release removes the lock of another keeper just when its deletion comes too late. -/
theorem Sound.respects_iff (sound : run.Sound server auctionId) (input : RedisStep) :
    run.Respects server auctionId input ↔ run.Current server auctionId input := by
  cases input with
  | wait =>
    refine ⟨fun _ => trivial, fun _ _ _ release => ?_⟩
    rcases release with same | same <;> cases same
  | incr =>
    refine ⟨fun _ => trivial, fun _ _ _ release => ?_⟩
    rcases release with same | same <;> cases same
  | setIfNotExists =>
    refine ⟨fun _ => trivial, fun _ _ _ release => ?_⟩
    rcases release with same | same <;> cases same
  | get keeperId =>
    refine ⟨fun _ => trivial, fun _ _ lock _ held _ => ?_⟩
    rw [advance_get]
    exact held
  | del keeperId =>
    constructor
    · intro respects found releasing
      rw [or_iff_not_imp_right, ← Ne, Option.ne_none_iff_exists']
      rintro ⟨lock, held⟩
      obtain ⟨present, live⟩ := Option.filter_eq_some_iff.mp held
      have same : lock.keeperId = keeperId := by
        by_contra other
        have kept := respects keeperId lock (.inr rfl) held other
        have gone : advance (RedisRun.step server auctionId) run (.del keeperId) =
            { run with redis := run.redis.del auctionId }.enter keeperId .idle := by
          unfold advance RedisRun.step
          simp only [releasing]
        rw [gone] at kept
        change ((Function.update run.redis.locks auctionId none) auctionId).filter _ = some lock at kept
        rw [Function.update_self] at kept
        cases kept
      rw [← sound.found keeperId found releasing lock present same]
      exact live
    · intro current releaser lock release held other
      have same : releaser = keeperId := by
        rcases release with same | same <;> cases same
        rfl
      subst same
      cases phase : run.phase releaser with
      | releasing found =>
        have own := sound.own releaser found phase
        rw [← sound.current phase current held] at own
        exact absurd own other
      | idle =>
        have kept : advance (RedisRun.step server auctionId) run (.del releaser) = run := by
          unfold advance RedisRun.step
          simp only [phase]
        rw [kept]
        exact held
      | reserving =>
        have kept : advance (RedisRun.step server auctionId) run (.del releaser) = run := by
          unfold advance RedisRun.step
          simp only [phase]
        rw [kept]
        exact held

theorem sound_initial (server : RedisServer) (auctionId : ℤ) : ({} : RedisRun).Sound server auctionId :=
  ⟨Lease.recorded_initial, nofun, nofun, nofun, nofun⟩

theorem Sound.play (sound : run.Sound server auctionId) {inputs : List RedisStep}
    (along : Along (RedisRun.step server auctionId) (RedisRun.Current server auctionId) run inputs) :
    (play (RedisRun.step server auctionId) run inputs).Sound server auctionId := by
  refine play_preserves_along ?_ sound along
  intro run input next before current done
  exact before.step current done

end RedisRun

/-- The finalize lock in memory is always exclusive. The one in Redis is as long as no keeper
deletes a lock that was granted after the one it had found ran out, and up to then the next
step of a release takes no other keeper's lock exactly if it is no such deletion. -/
theorem finalizeLock_exclusive (server : RedisServer) (auctionId : ℤ) :
    (∀ inputs : List KeeperStep,
      let run := inputs.foldl (MemoryRun.step auctionId) {}
      run.reservations.Exclusive ∧ ∀ keeperId lock, run.coordinator.locks auctionId = some lock →
        lock.keeperId ≠ keeperId →
          (run.step auctionId (.releaseLock keeperId)).coordinator.locks auctionId = some lock) ∧
    ∀ inputs : List RedisStep,
      Along (RedisRun.step server auctionId) (RedisRun.Current server auctionId) {} inputs →
        let run := play (RedisRun.step server auctionId) {} inputs
        run.reservations.Exclusive ∧
          ∀ input, run.Respects server auctionId input ↔ run.Current server auctionId input := by
  constructor
  · intro inputs
    refine ⟨MemoryRun.exclusive auctionId inputs, ?_⟩
    intro keeperId lock present other
    exact MemoryRun.step_releaseLock present other
  · intro inputs along
    have sound := (RedisRun.sound_initial server auctionId).play along
    exact ⟨sound.recorded.exclusive, sound.respects_iff⟩

/-- A keeper reads its own lock, and deletes it when it has run out and is another's. -/
def deletedLate : List RedisStep :=
  [.incr (.literal "keeper-a") 10, .setIfNotExists (.literal "keeper-a"), .wait 9,
    .get (.literal "keeper-a"), .wait 2,
    .incr (.literal "keeper-b") 10, .setIfNotExists (.literal "keeper-b"),
    .del (.literal "keeper-a"),
    .incr (.literal "keeper-c") 10, .setIfNotExists (.literal "keeper-c")]

/-- Two keepers hold the lock until the twenty-first millisecond. -/
theorem deletedLate_held_twice :
    let run := play (RedisRun.step punctual 1) {} deletedLate
    run.reservations.now = 11 ∧
      run.reservations.granted (.literal "keeper-b") = some 21 ∧
        run.reservations.granted (.literal "keeper-c") = some 21 ∧
          ¬ run.reservations.Exclusive := by
  have now : (play (RedisRun.step punctual 1) {} deletedLate).reservations.now = 11 := by decide
  have second : (play (RedisRun.step punctual 1) {} deletedLate).reservations.granted
      (.literal "keeper-b") = some 21 := by decide
  have third : (play (RedisRun.step punctual 1) {} deletedLate).reservations.granted
      (.literal "keeper-c") = some 21 := by decide
  refine ⟨now, second, third, ?_⟩
  intro exclusive
  have same := exclusive _ _ ⟨21, second, by omega⟩ ⟨21, third, by omega⟩
  exact absurd same (by decide)

/-- A keeper that deletes its lock in time, before the next one reserves it. -/
def deletedInTime : List RedisStep :=
  [.incr (.literal "keeper-a") 10, .setIfNotExists (.literal "keeper-a"), .wait 5,
    .get (.literal "keeper-a"), .del (.literal "keeper-a"),
    .incr (.literal "keeper-b") 10, .setIfNotExists (.literal "keeper-b")]

theorem deletedInTime_exclusive :
    (play (RedisRun.step punctual 1) {} deletedInTime).reservations.Exclusive := by
  refine ((finalizeLock_exclusive punctual 1).2 deletedInTime ?_).1
  refine ⟨trivial, trivial, trivial, trivial, ?_, trivial, trivial, trivial⟩
  rintro found ⟨⟩
  exact .inl (by decide)

end Keeper

end FairMarket
