import FairMarket.Keeper.CofheDispatcher
import FairMarket.Lib.Interleave
import Mathlib.Data.PNat.Defs

/-! The two coordinators that hand out the lock for finalizing an auction, one in memory and
one in Redis. Both count the reservations, granted or not. -/

namespace FairMarket

namespace Keeper

structure LockReservation where
  acquired : Bool
  executionNonce : ℕ
  deriving DecidableEq

structure Lock where
  keeperId : Text
  expiresAtMs : ℕ
  deriving DecidableEq

structure InMemoryLockCoordinator where
  locks : ℤ → Option Lock := fun _ => none
  nonces : ℤ → ℕ := fun _ => 0

namespace InMemoryLockCoordinator

def reserveLock (coordinator : InMemoryLockCoordinator) (now : ℕ) (auctionId : ℤ) (keeperId : Text)
    (ttlMs : ℕ+) : LockReservation × InMemoryLockCoordinator :=
  let current := coordinator.locks auctionId
  let executionNonce := coordinator.nonces auctionId + 1
  let counted := { coordinator with
    nonces := Function.update coordinator.nonces auctionId executionNonce }
  if current.any fun lock => lock.expiresAtMs > now ∧ lock.keeperId ≠ keeperId then
    ({ acquired := false, executionNonce }, counted)
  else
    ({ acquired := true, executionNonce }, { counted with
      locks := Function.update counted.locks auctionId (some { keeperId, expiresAtMs := now + ttlMs }) })

def releaseLock (coordinator : InMemoryLockCoordinator) (auctionId : ℤ) (keeperId : Text) :
    InMemoryLockCoordinator :=
  if (coordinator.locks auctionId).map Lock.keeperId = some keeperId then
    { coordinator with locks := Function.update coordinator.locks auctionId none }
  else coordinator

end InMemoryLockCoordinator

/-- When Redis still has a key with a deadline: until then, and for at most a millisecond more. -/
structure RedisServer where
  live : ℕ → ℕ → Bool
  early : ∀ expiresAtMs now, now < expiresAtMs → live expiresAtMs now = true
  late : ∀ expiresAtMs now, expiresAtMs < now → live expiresAtMs now = false

/-- The keys `keeper:nonce:` and `keeper:lock:` of each auction. -/
structure Redis where
  nonces : ℤ → ℕ := fun _ => 0
  locks : ℤ → Option Lock := fun _ => none

namespace Redis

/-- The lock of an auction that has not expired. -/
def lock (server : RedisServer) (redis : Redis) (now : ℕ) (auctionId : ℤ) : Option Lock :=
  (redis.locks auctionId).filter fun lock => server.live lock.expiresAtMs now

def get (server : RedisServer) (redis : Redis) (now : ℕ) (auctionId : ℤ) : Option Text :=
  (redis.lock server now auctionId).map Lock.keeperId

def del (redis : Redis) (auctionId : ℤ) : Redis :=
  { redis with locks := Function.update redis.locks auctionId none }

def incr (redis : Redis) (auctionId : ℤ) : ℕ × Redis :=
  (redis.nonces auctionId + 1,
    { redis with nonces := Function.update redis.nonces auctionId (redis.nonces auctionId + 1) })

def setIfNotExists (server : RedisServer) (redis : Redis) (now : ℕ) (auctionId : ℤ) (value : Text)
    (ttlMs : ℕ+) : Bool × Redis :=
  if (redis.lock server now auctionId).isSome then (false, redis)
  else (true, { redis with
    locks := Function.update redis.locks auctionId (some { keeperId := value, expiresAtMs := now + ttlMs }) })

end Redis

namespace RedisLockCoordinator

def reserveLock (server : RedisServer) (redis : Redis) (now : ℕ) (auctionId : ℤ) (keeperId : Text)
    (ttlMs : ℕ+) : LockReservation × Redis :=
  let (executionNonce, counted) := redis.incr auctionId
  let (acquired, next) := counted.setIfNotExists server now auctionId keeperId ttlMs
  ({ acquired, executionNonce }, next)

def releaseLock (server : RedisServer) (redis : Redis) (now : ℕ) (auctionId : ℤ) (keeperId : Text) : Redis :=
  let currentOwner := redis.get server now auctionId
  if currentOwner = some keeperId then redis.del auctionId else redis

end RedisLockCoordinator

/-- Calls that do not overlap. -/
inductive LockCall where
  | reserveLock (auctionId : ℤ) (keeperId : Text) (ttlMs : ℕ+)
  | releaseLock (auctionId : ℤ) (keeperId : Text)

def InMemoryLockCoordinator.call (coordinator : InMemoryLockCoordinator) (input : ℕ × LockCall) :
    Option LockReservation × InMemoryLockCoordinator :=
  match input with
  | (now, .reserveLock auctionId keeperId ttlMs) =>
    (coordinator.reserveLock now auctionId keeperId ttlMs).map some id
  | (_, .releaseLock auctionId keeperId) => (none, coordinator.releaseLock auctionId keeperId)

def RedisLockCoordinator.call (server : RedisServer) (redis : Redis) (input : ℕ × LockCall) :
    Option LockReservation × Redis :=
  match input with
  | (now, .reserveLock auctionId keeperId ttlMs) =>
    (RedisLockCoordinator.reserveLock server redis now auctionId keeperId ttlMs).map some id
  | (now, .releaseLock auctionId keeperId) =>
    (none, RedisLockCoordinator.releaseLock server redis now auctionId keeperId)

/-- A reservation finds no lock in Redis, or one of another keeper before its deadline. -/
def Redis.Unambiguous (server : RedisServer) (redis : Redis) : ℕ × LockCall → Prop
  | (now, .reserveLock auctionId keeperId _) => ∀ lock, redis.lock server now auctionId = some lock →
    now < lock.expiresAtMs ∧ lock.keeperId ≠ keeperId
  | (_, .releaseLock ..) => True

/-- The nonces are the same, and so are the locks that have not expired at a time. -/
structure Matches (server : RedisServer) (now : ℕ) (coordinator : InMemoryLockCoordinator) (redis : Redis) :
    Prop where
  nonces : coordinator.nonces = redis.nonces
  locks : ∀ auctionId, (coordinator.locks auctionId).filter (fun lock => server.live lock.expiresAtMs now) =
    redis.lock server now auctionId

/-- What has not expired had not expired before. -/
theorem RedisServer.live_mono (server : RedisServer) {expiresAtMs before now : ℕ} (later : before ≤ now)
    (live : server.live expiresAtMs now = true) : server.live expiresAtMs before = true := by
  rcases Nat.lt_or_ge before expiresAtMs with running | expired
  · exact server.early expiresAtMs before running
  · have end_ : now ≤ expiresAtMs := by
      by_contra past
      rw [server.late expiresAtMs now (by omega)] at live
      cases live
    have same : before = now := by omega
    rw [same]
    exact live

namespace Matches

variable {server : RedisServer} {before now : ℕ} {coordinator : InMemoryLockCoordinator} {redis : Redis}

theorem mono (matched : Matches server before coordinator redis) (later : before ≤ now) :
    Matches server now coordinator redis := by
  have thinned : ∀ entry : Option Lock, entry.filter (fun lock => server.live lock.expiresAtMs now) =
      (entry.filter fun lock => server.live lock.expiresAtMs before).filter
        fun lock => server.live lock.expiresAtMs now := by
    intro entry
    rw [Option.filter_filter]
    cases entry with
    | none => rfl
    | some lock =>
      simp only [Option.filter_some]
      cases live : server.live lock.expiresAtMs now with
      | false => simp
      | true => simp [server.live_mono later live]
  refine ⟨matched.nonces, fun auctionId => ?_⟩
  rw [thinned, matched.locks, Redis.lock, Redis.lock, ← thinned]

variable {auctionId : ℤ} {keeperId : Text} {ttlMs : ℕ+}

/-- Memory refuses a keeper just when Redis has the lock of another, before its deadline. -/
theorem refuses_iff (matched : Matches server now coordinator redis) :
    ((coordinator.locks auctionId).any fun lock => lock.expiresAtMs > now ∧ lock.keeperId ≠ keeperId) = true ↔
      ∃ lock, redis.lock server now auctionId = some lock ∧ now < lock.expiresAtMs ∧
        lock.keeperId ≠ keeperId := by
  rw [← matched.locks]
  cases entry : coordinator.locks auctionId with
  | none => simp
  | some lock =>
    simp only [Option.any_some, decide_eq_true_eq, gt_iff_lt, Option.filter_some,
      Option.ite_none_right_eq_some, Option.some.injEq]
    constructor
    · rintro ⟨running, other⟩
      exact ⟨lock, ⟨server.early _ _ running, rfl⟩, running, other⟩
    · rintro ⟨_, ⟨-, rfl⟩, running, other⟩
      exact ⟨running, other⟩

/-- The locks still match once one of them is written on both sides. -/
theorem update (matched : Matches server now coordinator redis) (auctionId : ℤ) (entry : Option Lock)
    (nonces : ℤ → ℕ) : Matches server now
      { nonces, locks := Function.update coordinator.locks auctionId entry }
      { nonces, locks := Function.update redis.locks auctionId entry } where
  nonces := rfl
  locks := by
    intro other
    unfold Redis.lock
    by_cases same : other = auctionId
    · rw [same]
      simp only [Function.update_self]
    · simp only [Function.update_of_ne same]
      exact matched.locks other

theorem recount (matched : Matches server now coordinator redis) (nonces : ℤ → ℕ) :
    Matches server now { coordinator with nonces } { redis with nonces } :=
  ⟨rfl, matched.locks⟩

theorem reserveLock (matched : Matches server now coordinator redis)
    (unambiguous : redis.Unambiguous server (now, .reserveLock auctionId keeperId ttlMs)) :
    (coordinator.reserveLock now auctionId keeperId ttlMs).1 =
        (RedisLockCoordinator.reserveLock server redis now auctionId keeperId ttlMs).1 ∧
      Matches server now (coordinator.reserveLock now auctionId keeperId ttlMs).2
        (RedisLockCoordinator.reserveLock server redis now auctionId keeperId ttlMs).2 := by
  have refuses := @refuses_iff _ _ _ _ auctionId keeperId matched
  unfold InMemoryLockCoordinator.reserveLock RedisLockCoordinator.reserveLock Redis.incr Redis.setIfNotExists
  dsimp only
  rw [matched.nonces]
  cases held : redis.lock server now auctionId with
  | none =>
    have granted : ¬ ((coordinator.locks auctionId).any fun lock =>
        lock.expiresAtMs > now ∧ lock.keeperId ≠ keeperId) = true := by
      rw [refuses, held]
      rintro ⟨_, ⟨⟩, _⟩
    have free : (Redis.lock server { redis with
        nonces := Function.update redis.nonces auctionId (redis.nonces auctionId + 1) } now auctionId).isSome =
          false := congrArg Option.isSome held
    rw [if_neg granted, free]
    exact ⟨rfl, matched.update auctionId _ _⟩
  | some lock =>
    have refused := refuses.mpr ⟨lock, held, unambiguous lock held⟩
    have taken : (Redis.lock server { redis with
        nonces := Function.update redis.nonces auctionId (redis.nonces auctionId + 1) } now auctionId).isSome =
          true := congrArg Option.isSome held
    rw [if_pos refused, taken]
    exact ⟨rfl, matched.recount _⟩

/-- Otherwise memory grants what Redis refuses. -/
theorem reserveLock_ne (matched : Matches server now coordinator redis)
    (ambiguous : ¬ redis.Unambiguous server (now, .reserveLock auctionId keeperId ttlMs)) :
    (coordinator.reserveLock now auctionId keeperId ttlMs).1 ≠
      (RedisLockCoordinator.reserveLock server redis now auctionId keeperId ttlMs).1 := by
  have refuses := @refuses_iff _ _ _ _ auctionId keeperId matched
  simp only [Redis.Unambiguous, not_forall] at ambiguous
  obtain ⟨lock, held, undecided⟩ := ambiguous
  have granted : ¬ ((coordinator.locks auctionId).any fun lock =>
      lock.expiresAtMs > now ∧ lock.keeperId ≠ keeperId) = true := by
    rw [refuses, held]
    rintro ⟨_, ⟨⟩, decided⟩
    exact undecided decided
  have taken : (Redis.lock server { redis with
      nonces := Function.update redis.nonces auctionId (redis.nonces auctionId + 1) } now auctionId).isSome =
        true := congrArg Option.isSome held
  unfold InMemoryLockCoordinator.reserveLock RedisLockCoordinator.reserveLock Redis.incr Redis.setIfNotExists
  dsimp only
  rw [if_neg granted, taken]
  simp

theorem releaseLock (matched : Matches server now coordinator redis) (auctionId : ℤ) (keeperId : Text) :
    Matches server now (coordinator.releaseLock auctionId keeperId)
      (RedisLockCoordinator.releaseLock server redis now auctionId keeperId) := by
  have same := matched.locks auctionId
  unfold InMemoryLockCoordinator.releaseLock RedisLockCoordinator.releaseLock Redis.get Redis.del
  dsimp only
  rw [← same]
  cases entry : coordinator.locks auctionId with
  | none => exact matched
  | some lock =>
    rw [Option.filter_some, Option.map_some]
    cases live : server.live lock.expiresAtMs now with
    | true =>
      rw [if_pos rfl, Option.map_some]
      split
      · rw [← matched.nonces]
        exact matched.update auctionId none _
      · exact matched
    | false =>
      rw [if_neg Bool.false_ne_true, Option.map_none,
        if_neg (show ¬ (none : Option Text) = some keeperId from nofun)]
      split
      · -- memory still had the expired lock
        refine ⟨matched.nonces, fun other => ?_⟩
        by_cases own : other = auctionId
        · rw [own, ← same, entry]
          simp [Option.filter_some, live]
        · rw [← matched.locks other]
          simp only [Function.update_of_ne own]
      · exact matched

end Matches

/-- The two have kept up with each other, and no later call is made earlier. -/
def Follows (server : RedisServer) (coordinator : InMemoryLockCoordinator) (redis : Redis)
    (rest : List (ℕ × LockCall)) : Prop :=
  ∃ past, Matches server past coordinator redis ∧ List.IsChain (· ≤ ·) (past :: rest.map Prod.fst)

/-- The two coordinators give the same answers to a list of calls exactly if, at no
reservation, Redis has a lock of the same keeper, or one of another keeper whose time is
up at that very millisecond. -/
theorem coordinators_agree_iff (server : RedisServer) (calls : List (ℕ × LockCall))
    (ordered : List.IsChain (· ≤ ·) (calls.map Prod.fst)) :
    replies InMemoryLockCoordinator.call {} calls =
        replies (RedisLockCoordinator.call server) {} calls ↔
      Throughout (RedisLockCoordinator.call server) (Redis.Unambiguous server) {} calls := by
  have initial : Follows server {} {} calls := by
    refine ⟨0, ⟨rfl, fun _ => rfl⟩, ?_⟩
    cases calls with
    | nil => exact .singleton 0
    | cons call rest => exact List.isChain_cons_cons.mpr ⟨Nat.zero_le _, ordered⟩
  refine replies_eq_iff ?_ ?_ initial
  · rintro coordinator redis ⟨now, call⟩ rest ⟨past, matched, times⟩ unambiguous
    obtain ⟨later, rest_times⟩ := List.isChain_cons_cons.mp times
    have current := matched.mono later
    cases call with
    | reserveLock auctionId keeperId ttlMs =>
      obtain ⟨same, next⟩ := current.reserveLock unambiguous
      exact ⟨congrArg some same, now, next, rest_times⟩
    | releaseLock auctionId keeperId =>
      exact ⟨rfl, now, current.releaseLock auctionId keeperId, rest_times⟩
  · rintro coordinator redis ⟨now, call⟩ rest ⟨past, matched, times⟩ ambiguous
    obtain ⟨later, -⟩ := List.isChain_cons_cons.mp times
    cases call with
    | reserveLock auctionId keeperId ttlMs =>
      intro same
      exact (matched.mono later).reserveLock_ne ambiguous (Option.some.inj same)
    | releaseLock => exact absurd trivial ambiguous

/-- A Redis that drops a key as soon as its time is up. -/
def punctual : RedisServer where
  live := fun expiresAtMs now => now < expiresAtMs
  early := fun _ _ running => decide_eq_true running
  late := fun _ _ expired => decide_eq_false (by omega)

/-- A keeper that reserves, and reserves again before it has released. -/
def reservedTwice : List (ℕ × LockCall) :=
  [(0, .reserveLock 1 (.literal "keeper-a") 1000), (1, .reserveLock 1 (.literal "keeper-a") 1000)]

/-- In memory the keeper gets its own lock again, and in Redis it does not. -/
theorem reservedTwice_disagree :
    (replies InMemoryLockCoordinator.call {} reservedTwice).map (Option.map LockReservation.acquired) =
        [some true, some true] ∧
      (replies (RedisLockCoordinator.call punctual) {} reservedTwice).map
        (Option.map LockReservation.acquired) = [some true, some false] := by
  decide

/-- Two keepers in turn, the second one after the lock of the first has run out. -/
def reservedInTurn : List (ℕ × LockCall) :=
  [(0, .reserveLock 1 (.literal "keeper-a") 1000), (1, .reserveLock 1 (.literal "keeper-b") 1000),
    (1001, .reserveLock 1 (.literal "keeper-b") 1000), (1002, .releaseLock 1 (.literal "keeper-b"))]

theorem reservedInTurn_agree :
    replies InMemoryLockCoordinator.call {} reservedInTurn =
      replies (RedisLockCoordinator.call punctual) {} reservedInTurn := by
  apply (coordinators_agree_iff punctual reservedInTurn (by decide)).mpr
  refine ⟨?_, ?_, ?_, trivial, trivial⟩
  · rintro lock ⟨⟩
  · rintro lock ⟨⟩
    decide
  · rintro lock ⟨⟩

end Keeper

end FairMarket
