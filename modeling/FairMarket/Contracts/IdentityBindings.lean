import FairMarket.Contracts.ShieldedIdentityRegistry
import FairMarket.Lib.Run

/-! The bindings of a registry over any calls of its market: in each auction a one to one
pairing that only grows, with a winner that stays. -/

namespace FairMarket

namespace ShieldedIdentityRegistry

/-- In each auction the two tables are inverse, and nothing is bound to zero. -/
structure Paired (registry : ShieldedIdentityRegistry) : Prop where
  identity : ∀ auctionId identityHash commitmentHash, identityHash ≠ 0 →
    registry.commitmentToIdentity auctionId commitmentHash = identityHash →
      commitmentHash ≠ 0 ∧ registry.identityToCommitment auctionId identityHash = commitmentHash
  commitment : ∀ auctionId identityHash commitmentHash, commitmentHash ≠ 0 →
    registry.identityToCommitment auctionId identityHash = commitmentHash →
      identityHash ≠ 0 ∧ registry.commitmentToIdentity auctionId commitmentHash = identityHash

variable {registry bound : ShieldedIdentityRegistry} {sender : Address} {auctionId : AuctionId}
  {identityHash commitmentHash : Bytes32}

/-- What a binding leaves behind: the pair was there already, or it is new. -/
theorem bindIdentity_cases
    (binds : registry.bindIdentity sender auctionId identityHash commitmentHash = .ok bound) :
    identityHash ≠ 0 ∧ commitmentHash ≠ 0 ∧
      (bound = registry ∧ registry.identityToCommitment auctionId identityHash = commitmentHash ∨
        registry.identityToCommitment auctionId identityHash = 0 ∧
          (registry.commitmentToIdentity auctionId commitmentHash = 0 ∨
            registry.commitmentToIdentity auctionId commitmentHash = identityHash) ∧
          bound = { registry with
            identityToCommitment := Function.update registry.identityToCommitment auctionId
              (Function.update (registry.identityToCommitment auctionId) identityHash commitmentHash)
            commitmentToIdentity := Function.update registry.commitmentToIdentity auctionId
              (Function.update (registry.commitmentToIdentity auctionId) commitmentHash identityHash) }) := by
  simp only [bindIdentity, bind_eq_ok, exists_revertIf, pure_eq_ok, Except.ok.injEq] at binds
  obtain ⟨-, -, named, committed, unshared, unnamed, rfl⟩ := binds
  refine ⟨named, committed, ?_⟩
  split
  · rename_i vacant
    refine .inr ⟨vacant, ?_, rfl⟩
    by_cases free : registry.commitmentToIdentity auctionId commitmentHash = 0
    · exact .inl free
    · exact .inr (not_not.mp fun other => unnamed ⟨free, other⟩)
  · rename_i taken
    exact .inl ⟨rfl, not_not.mp fun other => unshared ⟨taken, other⟩⟩

theorem Paired.bindIdentity (paired : registry.Paired)
    (binds : registry.bindIdentity sender auctionId identityHash commitmentHash = .ok bound) :
    bound.Paired := by
  obtain ⟨named, committed, ⟨rfl, -⟩ | ⟨vacant, free, rfl⟩⟩ := bindIdentity_cases binds
  · exact paired
  constructor
  · intro auction identity commitment nonzero reads
    dsimp only at reads ⊢
    by_cases about : auction = auctionId
    · subst about
      rw [Function.update_self] at reads ⊢
      by_cases own : commitment = commitmentHash
      · subst own
        rw [Function.update_self] at reads
        rw [← reads, Function.update_self]
        exact ⟨committed, rfl⟩
      · rw [Function.update_of_ne own] at reads
        obtain ⟨known, inverse⟩ := paired.identity auction identity commitment nonzero reads
        have other : identity ≠ identityHash := by
          rintro rfl
          exact known (inverse.symm.trans vacant)
        rw [Function.update_of_ne other]
        exact ⟨known, inverse⟩
    · rw [Function.update_of_ne about] at reads ⊢
      exact paired.identity auction identity commitment nonzero reads
  · intro auction identity commitment nonzero reads
    dsimp only at reads ⊢
    by_cases about : auction = auctionId
    · subst about
      rw [Function.update_self] at reads ⊢
      by_cases own : identity = identityHash
      · subst own
        rw [Function.update_self] at reads
        rw [← reads, Function.update_self]
        exact ⟨named, rfl⟩
      · rw [Function.update_of_ne own] at reads
        obtain ⟨known, inverse⟩ := paired.commitment auction identity commitment nonzero reads
        have other : commitment ≠ commitmentHash := by
          rintro rfl
          rcases free with unnamed | same
          · exact known (inverse.symm.trans unnamed)
          · exact own (inverse.symm.trans same)
        rw [Function.update_of_ne other]
        exact ⟨known, inverse⟩
    · rw [Function.update_of_ne about] at reads ⊢
      exact paired.commitment auction identity commitment nonzero reads

/-- After a binding the commitment has the identity, and the others have what they had. -/
theorem Paired.bindIdentity_reads (paired : registry.Paired)
    (binds : registry.bindIdentity sender auctionId identityHash commitmentHash = .ok bound) :
    bound.commitmentToIdentity auctionId commitmentHash = identityHash ∧
      ∀ auction commitment, bound.commitmentToIdentity auction commitment =
          registry.commitmentToIdentity auction commitment ∨
        auction = auctionId ∧ commitment = commitmentHash := by
  obtain ⟨named, committed, ⟨rfl, reads⟩ | ⟨vacant, free, rfl⟩⟩ := bindIdentity_cases binds
  · exact ⟨(paired.commitment auctionId identityHash commitmentHash committed reads).2, fun _ _ => .inl rfl⟩
  · dsimp only
    refine ⟨by rw [Function.update_self, Function.update_self], fun auction commitment => ?_⟩
    by_cases about : auction = auctionId
    · subst about
      by_cases own : commitment = commitmentHash
      · exact .inr ⟨rfl, own⟩
      · rw [Function.update_self, Function.update_of_ne own]
        exact .inl rfl
    · rw [Function.update_of_ne about]
      exact .inl rfl

/-- Two commitments of an auction never share an identity. -/
theorem Paired.injective (paired : registry.Paired) {first second : Bytes32}
    (named : registry.commitmentToIdentity auctionId first ≠ 0)
    (same : registry.commitmentToIdentity auctionId first = registry.commitmentToIdentity auctionId second) :
    first = second := by
  have left := (paired.identity auctionId _ first named rfl).2
  have right := (paired.identity auctionId _ second named same.symm).2
  exact left.symm.trans right

/-- A binding is accepted exactly if it names a pair and neither half has another one. -/
theorem bindIdentity_accepted : (∃ bound, registry.bindIdentity registry.market auctionId identityHash
    commitmentHash = .ok bound) ↔ identityHash ≠ 0 ∧ commitmentHash ≠ 0 ∧
      (registry.identityToCommitment auctionId identityHash = 0 ∨
        registry.identityToCommitment auctionId identityHash = commitmentHash) ∧
      (registry.commitmentToIdentity auctionId commitmentHash = 0 ∨
        registry.commitmentToIdentity auctionId commitmentHash = identityHash) := by
  simp only [ShieldedIdentityRegistry.bindIdentity, onlyMarket, bind_eq_ok, exists_revertIf, pure_eq_ok,
    Except.ok.injEq, not_and_or, not_not, ne_eq]
  constructor
  · rintro ⟨bound, -, named, committed, unshared, unnamed, -⟩
    exact ⟨named, committed, unshared, unnamed⟩
  · rintro ⟨named, committed, unshared, unnamed⟩
    exact ⟨_, trivial, named, committed, unshared, unnamed, rfl⟩

theorem markWinningIdentity_accepted :
    (∃ marked, registry.markWinningIdentity registry.market auctionId identityHash = .ok marked) ↔
      identityHash ≠ 0 ∧ registry.identityToCommitment auctionId identityHash ≠ 0 ∧
        (registry.winningIdentity auctionId = 0 ∨ registry.winningIdentity auctionId = identityHash) := by
  simp only [markWinningIdentity, onlyMarket, bind_eq_ok, exists_revertIf, pure_eq_ok, Except.ok.injEq,
    not_and_or, not_not, ne_eq]
  constructor
  · rintro ⟨marked, -, named, bound, unmarked, -⟩
    exact ⟨named, bound, unmarked⟩
  · rintro ⟨named, bound, unmarked⟩
    exact ⟨_, trivial, named, bound, unmarked, rfl⟩

theorem markWinningIdentity_reads {marked : ShieldedIdentityRegistry}
    (marks : registry.markWinningIdentity sender auctionId identityHash = .ok marked) :
    registry.identityToCommitment auctionId identityHash ≠ 0 ∧
      (registry.winningIdentity auctionId = 0 ∨ registry.winningIdentity auctionId = identityHash) ∧
      marked = { registry with
        winningIdentity := Function.update registry.winningIdentity auctionId identityHash } := by
  simp only [markWinningIdentity, bind_eq_ok, exists_revertIf, pure_eq_ok, Except.ok.injEq] at marks
  obtain ⟨-, -, -, bound, unmarked, rfl⟩ := marks
  refine ⟨bound, ?_, rfl⟩
  by_cases free : registry.winningIdentity auctionId = 0
  · exact .inl free
  · exact .inr (not_not.mp fun other => unmarked ⟨free, other⟩)

end ShieldedIdentityRegistry

/-- A call of the market to its registry. -/
inductive IdentityCall where
  | bindIdentity (auctionId : AuctionId) (identityHash commitmentHash : Bytes32)
  | markWinningIdentity (auctionId : AuctionId) (identityHash : Bytes32)

namespace ShieldedIdentityRegistry

def call (registry : ShieldedIdentityRegistry) : IdentityCall → Except Revert ShieldedIdentityRegistry
  | .bindIdentity auctionId identityHash commitmentHash =>
    registry.bindIdentity registry.market auctionId identityHash commitmentHash
  | .markWinningIdentity auctionId identityHash => registry.markWinningIdentity registry.market auctionId identityHash

/-- The registry of a market after its calls. -/
def afterCalls (market : Address) (calls : List IdentityCall) : ShieldedIdentityRegistry :=
  play call { market } calls

/-- The tables of an auction pair identities with commitments, and a marked winner is one of
the identities. -/
structure Bijective (registry : ShieldedIdentityRegistry) : Prop where
  paired : registry.Paired
  winner : ∀ auctionId, registry.winningIdentity auctionId ≠ 0 →
    registry.identityToCommitment auctionId (registry.winningIdentity auctionId) ≠ 0

/-- What the first registry has bound or marked, the second one has too. -/
structure Extends (before after : ShieldedIdentityRegistry) : Prop where
  identity : ∀ auctionId identityHash, before.identityToCommitment auctionId identityHash ≠ 0 →
    after.identityToCommitment auctionId identityHash = before.identityToCommitment auctionId identityHash
  commitment : ∀ auctionId commitmentHash, before.commitmentToIdentity auctionId commitmentHash ≠ 0 →
    after.commitmentToIdentity auctionId commitmentHash = before.commitmentToIdentity auctionId commitmentHash
  winner : ∀ auctionId, before.winningIdentity auctionId ≠ 0 →
    after.winningIdentity auctionId = before.winningIdentity auctionId

variable {before middle after next : ShieldedIdentityRegistry}

theorem Extends.refl (registry : ShieldedIdentityRegistry) : Extends registry registry :=
  ⟨fun _ _ _ => rfl, fun _ _ _ => rfl, fun _ _ => rfl⟩

theorem Extends.trans (first : Extends before middle) (second : Extends middle after) : Extends before after := by
  constructor
  · intro auctionId identityHash bound
    have kept := first.identity auctionId identityHash bound
    rw [second.identity auctionId identityHash (by rwa [kept]), kept]
  · intro auctionId commitmentHash bound
    have kept := first.commitment auctionId commitmentHash bound
    rw [second.commitment auctionId commitmentHash (by rwa [kept]), kept]
  · intro auctionId marked
    have kept := first.winner auctionId marked
    rw [second.winner auctionId (by rwa [kept]), kept]

theorem bindIdentity_extends (paired : registry.Paired)
    (binds : registry.bindIdentity sender auctionId identityHash commitmentHash = .ok bound) :
    Extends registry bound := by
  obtain ⟨-, -, ⟨rfl, -⟩ | ⟨vacant, free, rfl⟩⟩ := bindIdentity_cases binds
  · exact .refl _
  constructor
  · intro auction identity known
    dsimp only
    by_cases about : auction = auctionId
    · subst about
      have other : identity ≠ identityHash := fun same => known (same ▸ vacant)
      rw [Function.update_self, Function.update_of_ne other]
    · rw [Function.update_of_ne about]
  · intro auction commitment known
    dsimp only
    by_cases about : auction = auctionId
    · subst about
      by_cases own : commitment = commitmentHash
      · subst own
        rw [Function.update_self, Function.update_self]
        exact (free.resolve_left known).symm
      · rw [Function.update_self, Function.update_of_ne own]
    · rw [Function.update_of_ne about]
  · exact fun _ _ => rfl

theorem markWinningIdentity_extends
    (marks : registry.markWinningIdentity sender auctionId identityHash = .ok next) : Extends registry next := by
  obtain ⟨-, unmarked, rfl⟩ := markWinningIdentity_reads marks
  refine ⟨fun _ _ _ => rfl, fun _ _ _ => rfl, ?_⟩
  intro auction marked
  dsimp only
  by_cases about : auction = auctionId
  · subst about
    rw [Function.update_self]
    exact (unmarked.resolve_left marked).symm
  · rw [Function.update_of_ne about]

/-- A call that is accepted keeps the pairing and takes nothing away. -/
theorem Bijective.call (bijective : registry.Bijective) {input : IdentityCall}
    (done : registry.call input = .ok next) : next.Bijective ∧ Extends registry next := by
  cases input with
  | bindIdentity auctionId identityHash commitmentHash =>
    have kept := bindIdentity_extends bijective.paired done
    refine ⟨⟨bijective.paired.bindIdentity done, ?_⟩, kept⟩
    have winners : next.winningIdentity = registry.winningIdentity := by
      obtain ⟨-, -, ⟨rfl, -⟩ | ⟨-, -, rfl⟩⟩ := bindIdentity_cases done
      · rfl
      · rfl
    rw [winners]
    intro auction marked
    rw [kept.identity auction _ (bijective.winner auction marked)]
    exact bijective.winner auction marked
  | markWinningIdentity auctionId identityHash =>
    refine ⟨?_, markWinningIdentity_extends done⟩
    obtain ⟨bound, -, rfl⟩ := markWinningIdentity_reads done
    refine ⟨⟨bijective.paired.identity, bijective.paired.commitment⟩, ?_⟩
    intro auction marked
    dsimp only at marked ⊢
    by_cases about : auction = auctionId
    · subst about
      rw [Function.update_self]
      exact bound
    · rw [Function.update_of_ne about] at marked ⊢
      exact bijective.winner auction marked

theorem Bijective.play (bijective : registry.Bijective) (calls : List IdentityCall) :
    (FairMarket.play ShieldedIdentityRegistry.call registry calls).Bijective ∧
      Extends registry (FairMarket.play ShieldedIdentityRegistry.call registry calls) := by
  induction calls generalizing registry with
  | nil => exact ⟨bijective, .refl registry⟩
  | cons input rest ih =>
    rw [play_cons]
    rcases advance_cases ShieldedIdentityRegistry.call registry input with kept | taken
    · rw [kept]
      exact ih bijective
    · obtain ⟨after, first⟩ := bijective.call taken
      obtain ⟨last, second⟩ := ih after
      exact ⟨last, first.trans second⟩

theorem Bijective.fresh (market : Address) : Bijective { market } :=
  ⟨⟨fun _ _ _ nonzero reads => absurd reads.symm nonzero, fun _ _ _ nonzero reads => absurd reads.symm nonzero⟩,
    fun _ marked => absurd rfl marked⟩

end ShieldedIdentityRegistry

open ShieldedIdentityRegistry

/-- The registry is a bijection that only grows. After any calls of the market, in every
auction the two tables are inverse to one another on all but zero, which is bound to nothing;
whatever is called later, what is bound stays bound and who has won stays the winner, who is
one of the bound identities. A call is accepted exactly if its arguments are not zero and
it agrees with what is there, it then reads back, and a refused call changes nothing. -/
theorem identity_registry_bijective (market : Address) (calls : List IdentityCall) :
    let registry := afterCalls market calls
    (∀ auctionId identityHash commitmentHash, identityHash ≠ 0 → commitmentHash ≠ 0 →
      (registry.commitmentForIdentity auctionId identityHash = commitmentHash ↔
        registry.identityForCommitment auctionId commitmentHash = identityHash)) ∧
    (∀ auctionId, registry.commitmentForIdentity auctionId 0 = 0 ∧ registry.identityForCommitment auctionId 0 = 0) ∧
    (∀ later, let last := afterCalls market (calls ++ later)
      (∀ auctionId identityHash, registry.commitmentForIdentity auctionId identityHash ≠ 0 →
        last.commitmentForIdentity auctionId identityHash = registry.commitmentForIdentity auctionId identityHash) ∧
      (∀ auctionId commitmentHash, registry.identityForCommitment auctionId commitmentHash ≠ 0 →
        last.identityForCommitment auctionId commitmentHash =
          registry.identityForCommitment auctionId commitmentHash) ∧
      ∀ auctionId, registry.winningIdentity auctionId ≠ 0 →
        last.winningIdentity auctionId = registry.winningIdentity auctionId) ∧
    (∀ auctionId, registry.winningIdentity auctionId ≠ 0 →
      registry.commitmentForIdentity auctionId (registry.winningIdentity auctionId) ≠ 0) ∧
    (∀ auctionId identityHash commitmentHash,
      ((∃ next, registry.call (.bindIdentity auctionId identityHash commitmentHash) = .ok next) ↔
        identityHash ≠ 0 ∧ commitmentHash ≠ 0 ∧
          (registry.commitmentForIdentity auctionId identityHash = 0 ∨
            registry.commitmentForIdentity auctionId identityHash = commitmentHash) ∧
          (registry.identityForCommitment auctionId commitmentHash = 0 ∨
            registry.identityForCommitment auctionId commitmentHash = identityHash)) ∧
      ∀ next, registry.call (.bindIdentity auctionId identityHash commitmentHash) = .ok next →
        next.commitmentForIdentity auctionId identityHash = commitmentHash ∧
          next.identityForCommitment auctionId commitmentHash = identityHash) ∧
    (∀ auctionId identityHash,
      ((∃ next, registry.call (.markWinningIdentity auctionId identityHash) = .ok next) ↔
        identityHash ≠ 0 ∧ registry.commitmentForIdentity auctionId identityHash ≠ 0 ∧
          (registry.winningIdentity auctionId = 0 ∨ registry.winningIdentity auctionId = identityHash)) ∧
      ∀ next, registry.call (.markWinningIdentity auctionId identityHash) = .ok next →
        next.winningIdentity auctionId = identityHash) ∧
    ∀ input raised, registry.call input = .error raised → afterCalls market (calls ++ [input]) = registry := by
  intro registry
  obtain ⟨bijective, -⟩ := (Bijective.fresh market).play calls
  have paired : registry.Paired := bijective.paired
  refine ⟨?_, ?_, ?_, bijective.winner, ?_, ?_, ?_⟩
  · intro auctionId identityHash commitmentHash named committed
    constructor
    · exact fun reads => (paired.commitment auctionId identityHash commitmentHash committed reads).2
    · exact fun reads => (paired.identity auctionId identityHash commitmentHash named reads).2
  · intro auctionId
    constructor
    · by_contra bound
      exact (paired.commitment auctionId 0 _ bound rfl).1 rfl
    · by_contra bound
      exact (paired.identity auctionId _ 0 bound rfl).1 rfl
  · intro later last
    have grown : Extends registry last := by
      have after := (bijective.play later).2
      rwa [← play_append] at after
    exact ⟨grown.identity, grown.commitment, grown.winner⟩
  · intro auctionId identityHash commitmentHash
    refine ⟨bindIdentity_accepted, ?_⟩
    intro next binds
    have committed := (bindIdentity_cases binds).2.1
    have named := (bindIdentity_cases binds).1
    have reads := (paired.bindIdentity_reads binds).1
    exact ⟨((paired.bindIdentity binds).identity auctionId identityHash commitmentHash named reads).2, reads⟩
  · intro auctionId identityHash
    refine ⟨markWinningIdentity_accepted, ?_⟩
    intro next marks
    obtain ⟨-, -, rfl⟩ := markWinningIdentity_reads marks
    exact Function.update_self ..
  · intro input raised refused
    exact play_refused refused

end FairMarket
