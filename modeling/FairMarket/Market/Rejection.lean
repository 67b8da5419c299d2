import FairMarket.Market.Agreement
import FairMarket.Market.Custody

/-! Resolutions that revert or are not accepted, sent by anyone at any time. The attestation
services they reach are the ones of this repository, hosted outside of the market's world. -/

namespace FairMarket

/-- The attestation services by address, and the rest of the outside. -/
structure Hosted (τ : Type) where
  services : Address → Option MockEigenLayerAVS
  rest : τ

variable {τ : Type}

namespace Hosted

/-- The outside with all slash counters left out. -/
def withoutSlashes (s : Hosted τ) : Hosted τ :=
  { s with services := fun address => (s.services address).map (·.withoutSlashes) }

/-- Call the service at an address, and keep what it becomes. -/
def consult (s : Hosted τ) (service : Address)
    (verify : MockEigenLayerAVS → Except Revert (Bool × MockEigenLayerAVS)) :
    Except Revert (Bool × Hosted τ) := do
  let avs ← requireSome (s.services service) .callFailed
  let (accepted, judged) ← verify avs
  return (accepted, { s with services := Function.update s.services service (some judged) })

/-- A service has a full counter for an operator the proof names. -/
def Saturated (s : Hosted τ) (proof : Proof) : Prop :=
  ∃ service avs, s.services service = some avs ∧ avs.Saturated proof

end Hosted

/-- The outside `base` with attestation services hosted in it. Nothing else outside reads
their counters; their owners may change them between transactions. -/
def External.hosting (base : External τ) : External (Hosted τ) where
  toChain := base.toChain
  market := base.market
  isContract := fun s address => (s.services address).isSome || base.isContract s.rest address
  gt := fun s => base.gt s.rest
  lte := fun s => base.lte s.rest
  verifyBidCoverage := fun s => base.verifyBidCoverage s.rest
  verifyAttestation := fun s service market auctionId requestId winner winnerCiphertext winningAmount proof =>
    s.consult service fun avs => avs.verifyAttestation base.toChain service market auctionId requestId
      winner winnerCiphertext winningAmount proof
  verifyShieldedAttestation := fun s service market auctionId requestId winnerIdentity winnerCiphertext
      winningAmount proof =>
    s.consult service fun avs => avs.verifyShieldedAttestation base.toChain service market auctionId
      requestId winnerIdentity winnerCiphertext winningAmount proof
  ownerOf := fun s => base.ownerOf s.rest
  getApproved := fun s => base.getApproved s.rest
  isApprovedForAll := fun s => base.isApprovedForAll s.rest
  safeTransferFrom := fun s nft sender recipient tokenId => do
    let rest ← base.safeTransferFrom s.rest nft sender recipient tokenId
    return { s with rest }
  commitmentState := fun s => base.commitmentState s.rest
  previewCommitment := fun s => base.previewCommitment s.rest
  identityForCommitment := fun s => base.identityForCommitment s.rest
  receiveEther := fun s recipient amount =>
    (base.receiveEther s.rest recipient amount).map fun rest => { s with rest }
  admits := fun s next => base.admits s.rest next.rest

def Event.isRejection : Event → Bool
  | .resolutionRejected .. => true
  | _ => false

/-- Worlds that may differ in slash counters and in the rejections recorded. -/
def Difference.slashed : Difference (Hosted τ) where
  outsides := fun s t => s.withoutSlashes = t.withoutSlashes
  records := fun left right => (left.filter fun event => ¬ event.isRejection) =
    right.filter fun event => ¬ event.isRejection
  dependencies := Eq

theorem Difference.slashed_symmetric : (slashed : Difference (Hosted τ)).Symmetric where
  outsides := ⟨fun _ => rfl, Eq.symm, Eq.trans⟩
  records := ⟨fun _ => rfl, Eq.symm, Eq.trans⟩
  dependencies := ⟨fun _ => rfl, Eq.symm, Eq.trans⟩

theorem Difference.slashed_recording : (slashed : Difference (Hosted τ)).Recording := by
  intro event left right same
  show List.filter _ _ = List.filter _ _
  rw [List.filter_cons, List.filter_cons, show left.filter _ = right.filter _ from same]

namespace Hosted

variable {s t : Hosted τ}

theorem rest_eq (near : s.withoutSlashes = t.withoutSlashes) : t.rest = s.rest :=
  (congrArg Hosted.rest near).symm

theorem services_near (near : s.withoutSlashes = t.withoutSlashes) (address : Address) :
    (s.services address).map (·.withoutSlashes) = (t.services address).map (·.withoutSlashes) :=
  congrFun (congrArg Hosted.services near) address

theorem withRest_near (near : s.withoutSlashes = t.withoutSlashes) (rest : τ) :
    { s with rest }.withoutSlashes = { t with rest }.withoutSlashes := by
  have same := congrArg Hosted.services near
  simp only [withoutSlashes] at same ⊢
  rw [same]

/-- A service that keeps all but its counters leaves the outside near where it was. -/
theorem withoutSlashes_update {service : Address} {avs judged : MockEigenLayerAVS}
    (found : s.services service = some avs) (kept : judged.withoutSlashes = avs.withoutSlashes) :
    ({ s with services := Function.update s.services service (some judged) } : Hosted τ).withoutSlashes =
      s.withoutSlashes := by
  unfold withoutSlashes
  dsimp only
  congr 1
  funext address
  by_cases same : address = service
  · rw [same, Function.update_self, found, Option.map_some, Option.map_some, kept]
  · rw [Function.update_of_ne same]

theorem consult_keeps {service : Address}
    {verify : MockEigenLayerAVS → Except Revert (Bool × MockEigenLayerAVS)} {accepted : Bool}
    (keeps : ∀ {avs judged accepted}, verify avs = .ok (accepted, judged) →
      judged.withoutSlashes = avs.withoutSlashes)
    (done : s.consult service verify = .ok (accepted, t)) : t.withoutSlashes = s.withoutSlashes := by
  simp only [consult, bind_eq_ok, requireSome_eq_ok, pure_eq_ok, Except.ok.injEq, Prod.mk.injEq] at done
  obtain ⟨avs, found, ⟨_, judged⟩, verified, rfl, rfl⟩ := done
  exact withoutSlashes_update found (keeps verified)

/-- Services that judge alike are consulted alike. -/
theorem consult_sameReply (near : s.withoutSlashes = t.withoutSlashes) (service : Address) {proof : Proof}
    {verify : MockEigenLayerAVS → Except Revert (Bool × MockEigenLayerAVS)}
    (keeps : ∀ {avs judged accepted}, verify avs = .ok (accepted, judged) →
      judged.withoutSlashes = avs.withoutSlashes)
    (judge : ∀ {avs other}, avs.withoutSlashes = other.withoutSlashes →
      MockEigenLayerAVS.SameVerdict avs other proof (verify avs) (verify other)) :
    SameReply (fun x y => x.1 = y.1 ∧ x.2.withoutSlashes = y.2.withoutSlashes) (s.Saturated proof)
      (t.Saturated proof) (s.consult service verify) (t.consult service verify) := by
  have served := services_near near service
  unfold consult
  cases found : s.services service with
  | none =>
    rw [found, Option.map_none, eq_comm, Option.map_eq_none_iff] at served
    rw [served]
    exact .same (.error _)
  | some avs =>
    rw [found, Option.map_some, eq_comm, Option.map_eq_some_iff] at served
    obtain ⟨other, foundToo, same⟩ := served
    rw [foundToo]
    show SameReply _ _ _ (verify avs >>= _) (verify other >>= _)
    refine .bind (judge same.symm) ?_ ?_ ?_
    · rintro ⟨accepted, judged⟩ ⟨_, judgedToo⟩ verified verifiedToo ⟨rfl, -⟩
      refine .same (.ok ⟨rfl, ?_⟩)
      rw [withoutSlashes_update found (keeps verified), withoutSlashes_update foundToo (keeps verifiedToo)]
      exact near
    · rintro raised ⟨accepted, judged⟩ ⟨overflow, rejected, full⟩
      exact ⟨_, rfl, overflow, rejected, service, avs, found, full⟩
    · rintro ⟨accepted, judged⟩ raised ⟨overflow, rejected, full⟩
      exact ⟨_, rfl, overflow, rejected, service, other, foundToo, full⟩

end Hosted

theorem External.blind_hosting (base : External τ) :
    base.hosting.Blind (Difference.slashed : Difference (Hosted τ)).outsides where
  isContract := by
    intro s t near
    funext address
    have served := congrArg Option.isSome (Hosted.services_near near address)
    rw [Option.isSome_map, Option.isSome_map] at served
    simp only [hosting, Hosted.rest_eq near, served]
  gt := by
    intro s t near
    simp only [hosting, Hosted.rest_eq near]
  lte := by
    intro s t near
    simp only [hosting, Hosted.rest_eq near]
  verifyBidCoverage := by
    intro s t near
    simp only [hosting, Hosted.rest_eq near]
  ownerOf := by
    intro s t near
    simp only [hosting, Hosted.rest_eq near]
  getApproved := by
    intro s t near
    simp only [hosting, Hosted.rest_eq near]
  isApprovedForAll := by
    intro s t near
    simp only [hosting, Hosted.rest_eq near]
  safeTransferFrom := by
    intro s t near nft sender recipient tokenId
    simp only [hosting, Hosted.rest_eq near]
    exact .bind_same fun rest _ => .ok (Hosted.withRest_near near rest)
  receiveEther := by
    intro s t near recipient amount
    simp only [hosting, Hosted.rest_eq near]
    cases base.receiveEther s.rest recipient amount with
    | none => exact .none
    | some rest => exact .some (Hosted.withRest_near near rest)

/-- The transaction submits a resolution. -/
def Tx.resolves {σ : Type} : Tx σ → Bool
  | .submitResolution .. | .submitShieldedResolution .. => true
  | _ => false

/-- The same transaction, or two changes outside that differ in slash counters only. -/
inductive Tx.Alike : Tx (Hosted τ) → Tx (Hosted τ) → Prop where
  | same (tx : Tx (Hosted τ)) : Alike tx tx
  | outside {s t : Hosted τ} (near : s.withoutSlashes = t.withoutSlashes) : Alike (.outside s) (.outside t)

namespace World

variable {base : External τ} {w v next : World (Hosted τ)} {msg : Msg}

theorem sameVerdicts_slashed (agree : Agree .slashed w v) :
    SameVerdicts base.hosting .slashed w.outside.Saturated v.outside.Saturated w v := by
  have near : w.outside.withoutSlashes = v.outside.withoutSlashes := agree.outside
  constructor
  · intro service market auctionId requestId winner winnerCiphertext winningAmount proof
    exact Hosted.consult_sameReply near service MockEigenLayerAVS.verifyAttestation_keeps
      fun same => MockEigenLayerAVS.verifyAttestation_sameVerdict same proof
  · intro service market auctionId requestId winnerIdentity winnerCiphertext winningAmount proof
    exact Hosted.consult_sameReply near service MockEigenLayerAVS.verifyShieldedAttestation_keeps
      fun same => MockEigenLayerAVS.verifyShieldedAttestation_sameVerdict same proof

/-- A rejected public submission leaves counters and a record behind, nothing else. -/
theorem submitResolution_false {auctionId : AuctionId} {winner : Address} {winnerCiphertext : Bytes32}
    {winningAmount : ℕ} {avsProof : Proof}
    (done : w.submitResolution base.hosting msg auctionId winner winnerCiphertext winningAmount avsProof =
      .ok (false, next)) : Agree .slashed w next := by
  simp only [submitResolution, SettlementEngine.verifyResolutionProof, SettlementEngine.verifyProof,
    bind_eq_ok] at done
  obtain ⟨cell, -, -, -, -, -, -, -, -, -, engine, -, ⟨accepted, s⟩, ⟨-, -, judged⟩, done⟩ := done
  have near : s.withoutSlashes = w.outside.withoutSlashes :=
    Hosted.consult_keeps MockEigenLayerAVS.verifyAttestation_keeps judged
  split at done
  · cases done
    exact { Agree.refl Difference.slashed_symmetric w with outside := near.symm, log := rfl }
  · simp only [bind_eq_ok] at done
    obtain ⟨recorded, -, opened, -, done⟩ := done
    cases done

theorem submitShieldedResolution_false {auctionId : AuctionId}
    {winnerIdentityHash winnerCiphertext : Bytes32} {winningAmount : ℕ} {avsProof : Proof}
    (done : w.submitShieldedResolution base.hosting msg auctionId winnerIdentityHash winnerCiphertext
      winningAmount avsProof = .ok (false, next)) : Agree .slashed w next := by
  simp only [submitShieldedResolution, SettlementEngine.verifyShieldedResolutionProof,
    SettlementEngine.verifyProof, bind_eq_ok] at done
  obtain ⟨cell, -, -, -, -, -, -, -, commitmentHash, -, engine, -, ⟨accepted, s⟩, ⟨-, -, judged⟩, done⟩ := done
  have near : s.withoutSlashes = w.outside.withoutSlashes :=
    Hosted.consult_keeps MockEigenLayerAVS.verifyShieldedAttestation_keeps judged
  split at done
  · cases done
    exact { Agree.refl Difference.slashed_symmetric w with outside := near.symm, log := rfl }
  · simp only [bind_eq_ok] at done
    obtain ⟨recorded, -, settled, -, opened, -, marked, -, done⟩ := done
    cases done

theorem respond_false {input : Msg × Tx (Hosted τ)}
    (done : w.respond base.hosting input = .ok (false, next)) : Agree .slashed w next := by
  obtain ⟨msg, tx⟩ := input
  simp only [respond, bind_eq_ok] at done
  obtain ⟨-, -, -, -, ⟨returned, left⟩, replied, done⟩ := done
  cases done
  have near : Agree .slashed w left := by
    cases tx with
    | submitResolution => exact submitResolution_false replied
    | submitShieldedResolution => exact submitShieldedResolution_false replied
    | _ =>
      simp only [reply, bind_eq_ok, pure_eq_ok, Except.ok.injEq, Prod.mk.injEq] at replied
      obtain ⟨-, -, impossible, -⟩ := replied
      cases impossible
  exact { near with }

/-- A resolution that did not revert and whose proof was accepted. -/
def accepts {σ : Type} : Except Revert (Bool × World σ) → Bool
  | .ok (accepted, _) => accepted
  | .error _ => false

/-- The call submits a resolution that reverts or is not accepted. -/
def Rejects (base : External τ) (w : World (Hosted τ)) (input : Msg × Tx (Hosted τ)) : Prop :=
  input.2.resolves = true ∧ accepts (w.respond base.hosting input) = false

theorem Rejects.advance_agrees {input : Msg × Tx (Hosted τ)} (rejects : Rejects base w input) :
    Agree .slashed w (advance (World.transact base.hosting) w input) := by
  have unaccepted := rejects.2
  rw [advance, transact_eq_respond]
  cases replied : w.respond base.hosting input with
  | error raised => exact .refl Difference.slashed_symmetric w
  | ok reply =>
    obtain ⟨accepted, next⟩ := reply
    rw [replied] at unaccepted
    obtain rfl : accepted = false := unaccepted
    exact respond_false replied

/-- Both sides make the same call, in time for both. -/
structure SharedCall (w v : World (Hosted τ)) (x y : Msg × Tx (Hosted τ)) : Prop where
  msg : x.1 = y.1
  alike : x.2.Alike y.2
  timely : w.timestamp ≤ x.1.timestamp
  timelyToo : v.timestamp ≤ x.1.timestamp

/-- Rotations do the same to worlds with the same dependencies. -/
theorem rotates_agrees (agree : Agree .slashed w v) {tx : Tx (Hosted τ)} (rotates : tx.rotates = true) :
    SameOutcome (Agree .slashed) (w.execute base.hosting msg tx) (v.execute base.hosting msg tx) := by
  have settled : w.dependencies = v.dependencies := agree.dependencies
  have required := requireDependency_agrees base.blind_hosting agree
  have owned : ∀ sender, v.onlyOwner sender = w.onlyOwner sender := by
    intro sender
    rw [onlyOwner, onlyOwner, agree.owner]
  cases tx with
  | setCofheAdapter newAdapter =>
    simp only [execute, setCofheAdapter, owned, required]
    refine .bind_same fun _ _ => .bind_same fun _ _ => .ok { agree with dependencies := ?_ }
    exact congrArg
      (fun before : AuctionDependencySnapshot => { before with cofheAdapter := newAdapter }) settled
  | setSettlementEngine newSettlementEngine =>
    simp only [execute, setSettlementEngine, owned, required]
    refine .bind_same fun _ _ => .bind_same fun _ _ => .ok { agree with dependencies := ?_ }
    exact congrArg
      (fun before : AuctionDependencySnapshot => { before with settlementEngine := newSettlementEngine }) settled
  | setSlashedPot newSlashedPot =>
    simp only [execute, setSlashedPot, owned, required]
    refine .bind_same fun _ _ => .bind_same fun _ _ => .ok { agree with dependencies := ?_ }
    exact congrArg
      (fun before : AuctionDependencySnapshot => { before with slashedPot := newSlashedPot }) settled
  | setShieldedEscrowVault newVault =>
    simp only [execute, setShieldedEscrowVault, owned, required]
    refine .bind_same fun _ _ => .bind_same fun _ _ => .ok { agree with dependencies := ?_ }
    exact congrArg
      (fun before : AuctionDependencySnapshot => { before with shieldedEscrowVault := newVault }) settled
  | setShieldedIdentityRegistry newRegistry =>
    simp only [execute, setShieldedIdentityRegistry, owned, required]
    refine .bind_same fun _ _ => .bind_same fun _ _ => .ok { agree with dependencies := ?_ }
    exact congrArg
      (fun before : AuctionDependencySnapshot => { before with shieldedIdentityRegistry := newRegistry }) settled
  | _ => cases rotates

/-- A shared call does the same in both worlds, unless one side rejects its proof and the
other one has a full counter. -/
theorem SharedCall.respond_agrees (wired : w.Wired base.hosting) (agree : Agree .slashed w v)
    {x y : Msg × Tx (Hosted τ)} (call : SharedCall w v x y) :
    SameReply (SameFlag .slashed) (w.outside.Saturated x.2.proof) (v.outside.Saturated x.2.proof)
      (w.respond base.hosting x) (v.respond base.hosting y) := by
  obtain ⟨msg, tx⟩ := x
  obtain ⟨_, other⟩ := y
  obtain ⟨rfl, alike, timely, timelyToo⟩ := call
  have configured := configured_agrees agree (Eq.symm agree.dependencies)
  cases alike with
  | same =>
    refine World.respond_agrees agree rfl rfl (fun _ => configured) timely timelyToo ?_
    cases ordinary : tx.ordinary with
    | true =>
      exact reply_agrees base.blind_hosting Difference.slashed_recording wired agree
        (sameVerdicts_slashed agree) ordinary
    | false =>
      cases tx with
      | createAuction =>
        exact executed_agrees (createAuction_agrees base.blind_hosting Difference.slashed_recording agree
          (Eq.symm agree.dependencies) ..)
      | outside later =>
        simp only [reply, execute, External.hosting, Hosted.rest_eq agree.outside, bind_assoc, pure_bind]
        exact .bind_same fun _ _ => .same (.ok ⟨rfl, { agree with outside := rfl }⟩)
      | setCofheAdapter | setSettlementEngine | setSlashedPot | setShieldedEscrowVault
      | setShieldedIdentityRegistry => exact executed_agrees (rotates_agrees agree rfl)
      | _ => cases ordinary
  | @outside later laterToo near =>
    have payable : (Tx.outside laterToo).payable = (Tx.outside later).payable := rfl
    refine World.respond_agrees agree payable rfl (fun _ => configured) timely timelyToo ?_
    simp only [reply, execute, External.hosting, Hosted.rest_eq agree.outside, Hosted.rest_eq near, bind_assoc,
      pure_bind]
    exact .bind_same fun _ _ => .same (.ok ⟨rfl, { agree with outside := near }⟩)

/-- Whatever becomes of a shared call, the worlds it leaves agree. -/
theorem SharedCall.advance_agrees (wired : w.Wired base.hosting) (agree : Agree .slashed w v)
    {x y : Msg × Tx (Hosted τ)} (call : SharedCall w v x y) :
    Agree .slashed (advance (World.transact base.hosting) w x) (advance (World.transact base.hosting) v y) := by
  have same := call.respond_agrees wired agree
  rw [advance, advance, transact_eq_respond, transact_eq_respond]
  generalize replied : w.respond base.hosting x = left, repliedToo : v.respond base.hosting y = right at same
  cases same with
  | same same =>
    cases same with
    | ok near => exact near.2
    | error raised => exact agree
  | @left raised reply excuse =>
    obtain ⟨accepted, after⟩ := reply
    obtain ⟨-, rejected, -⟩ := excuse
    obtain rfl : accepted = false := rejected
    exact .trans Difference.slashed_symmetric agree (respond_false repliedToo)
  | @right reply raised excuse =>
    obtain ⟨accepted, after⟩ := reply
    obtain ⟨-, rejected, -⟩ := excuse
    obtain rfl : accepted = false := rejected
    exact .trans Difference.slashed_symmetric (.symm Difference.slashed_symmetric (respond_false replied)) agree

/-- The world with the slash counters, the records of rejections and the clock left out. -/
def untraced (w : World (Hosted τ)) : World (Hosted τ) :=
  { w with
    outside := w.outside.withoutSlashes
    log := w.log.filter fun event => ¬ event.isRejection
    timestamp := 0 }

theorem Agree.untraced_eq (agree : Agree .slashed w v) : w.untraced = v.untraced := by
  have settled : w.dependencies = v.dependencies := agree.dependencies
  simp only [World.dependencies, AuctionDependencySnapshot.mk.injEq, true_and] at settled
  obtain ⟨cofheAdapter, settlementEngine, slashedPot, shieldedEscrowVault, registry⟩ := settled
  have market : v.market = w.market := by
    obtain ⟨⟨_, _, _, _, _, _, _, _, _, _⟩, _, _, _, _, _, _, _, _⟩ := w
    obtain ⟨⟨_, _, _, _, _, _, _, _, _, _⟩, _, _, _, _, _, _, _, _⟩ := v
    simp only [FhenixFairMarket.mk.injEq]
    exact ⟨agree.auctions, agree.auctionCounter, agree.owner, slashedPot.symm, cofheAdapter.symm,
      settlementEngine.symm, shieldedEscrowVault.symm, registry.symm, agree.network, agree.balance⟩
  unfold untraced
  rw [market, agree.vaults, agree.registries, agree.pots, agree.engines, agree.unsolicited,
    show w.outside.withoutSlashes = v.outside.withoutSlashes from agree.outside,
    show w.log.filter _ = v.log.filter _ from agree.log]

/-- Two runs that share their calls, the first with rejected submissions in between. -/
abbrev Padded (base : External τ) : World (Hosted τ) → World (Hosted τ) → List (Msg × Tx (Hosted τ)) →
    List (Msg × Tx (Hosted τ)) → Prop :=
  Interleaved (World.transact base.hosting) (Rejects base) (fun _ _ => False) SharedCall

end World

/-- From any reachable state, submissions that revert or are not accepted, anywhere in a run
and any number of them, change slash counters and the record of rejections at most. A call
made next, in time, returns and does the same as in the run without them, unless its own
proof is rejected on one side and names an operator whose counter is full on the other one. -/
theorem rejected_resolutions_untraced (deployment : Deployment) (base : External τ) (outside : Hosted τ)
    (past first second : List (Msg × Tx (Hosted τ)))
    (runs : World.Padded base (deployment.run base.hosting outside past)
      (deployment.run base.hosting outside past) first second) :
    let start := deployment.run base.hosting outside past
    let w := play (World.transact base.hosting) start first
    let v := play (World.transact base.hosting) start second
    w.untraced = v.untraced ∧
      ∀ x y, World.SharedCall w v x y →
        SameReply (fun left right => left.1 = right.1 ∧ left.2.untraced = right.2.untraced)
          (w.outside.Saturated x.2.proof) (v.outside.Saturated x.2.proof)
          (w.respond base.hosting x) (v.respond base.hosting y) := by
  intro start w v
  have wired := deployment.run_wired base.hosting outside past
  have initial : World.Twins base.hosting .slashed start start :=
    ⟨wired, wired, .refl Difference.slashed_symmetric start⟩
  have ends : World.Twins base.hosting .slashed w v := by
    refine Interleaved.related ?_ ?_ ?_ runs initial
    · intro w v input twins rejects
      exact twins.ownLeft Difference.slashed_symmetric rejects.advance_agrees
    · intro w v input twins impossible
      exact impossible.elim
    · intro w v x y twins call
      exact twins.both (call.advance_agrees twins.left twins.agree)
  refine ⟨ends.agree.untraced_eq, fun x y call => ?_⟩
  exact (call.respond_agrees ends.left ends.agree).mono fun left right near =>
    ⟨near.1, near.2.untraced_eq⟩

/-- A market whose engine asks one attestation service. -/
def hostDeployment : Deployment :=
  { tokenDeployment with
    engineOwner := fun address => if address = 14 then some 1 else none
    noneAtZero := ⟨rfl, rfl, rfl, rfl⟩ }

def soleAttester : MockEigenLayerAVS where
  isOperator := fun operator => operator = 41
  operatorCount := 1
  owner := 1
  threshold := 1
  quorum := MockEigenLayerAVS.sole_quorum

def hostedOutside : Hosted (ℕ → Address) where
  services := fun address => if address = 15 then some soleAttester else none
  rest := fun _ => 9

/-- Auction 1 awaits its resolution. -/
def awaiting : World (Hosted (ℕ → Address)) :=
  hostDeployment.run tokenChain.hosting hostedOutside
    [({ sender := 1, timestamp := 900 }, .setAVS 14 15),
      ({ sender := 1, timestamp := 900 }, .setSettlementEngine 14),
      ({ sender := 9, value := 10, timestamp := 1000 }, .createAuction 5 7 100 0 10 false),
      ({ sender := 8, timestamp := 1200 }, .triggerFinalize 1)]

/-- A proof that names another auction. -/
def garbled : ProofEnvelope where
  auctionId := 2
  requestId := 0
  winner := 0
  winnerCiphertext := 0
  winningAmount := 0
  operators := [41]
  signatures := [[]]

def garbage : Msg × Tx (Hosted (ℕ → Address)) :=
  ({ sender := 8, timestamp := 1200 }, .submitResolution 1 0 0 0 (some garbled))

set_option maxRecDepth 4000 in
theorem garbage_rejects : World.Rejects tokenChain awaiting garbage :=
  ⟨rfl, by decide +kernel⟩

/-- The seller's bidders void the auction later. -/
def void : Msg × Tx (Hosted (ℕ → Address)) :=
  ({ sender := 8, timestamp := 9000 }, .triggerFallbackVoid 1)

set_option maxRecDepth 4000 in
/-- A garbled proof does not hold up the fallback. -/
theorem garbage_untraced :
    let padded := play (World.transact tokenChain.hosting) awaiting [garbage, void]
    (padded.market.auctions 1).auction.state = .voided ∧
      padded.untraced = (play (World.transact tokenChain.hosting) awaiting [void]).untraced := by
  refine ⟨by decide +kernel, (rejected_resolutions_untraced hostDeployment tokenChain hostedOutside
    _ _ _ (show World.Padded tokenChain awaiting awaiting [garbage, void] [void] from ?_)).1⟩
  exact .left garbage_rejects (.both ⟨rfl, .same _, by decide +kernel, by decide +kernel⟩ (.done _ _))

set_option maxRecDepth 4000 in
theorem awaiting_facts :
    let cell := awaiting.market.auctions 1
    cell.auction.exists_ = true ∧ cell.auction.state = .resolving ∧
      cell.resolutionRequest.exists_ = true ∧ cell.dependencySnapshot.initialized = true ∧
      cell.dependencySnapshot.settlementEngine = 14 ∧ (awaiting.engines 14).map (·.avs) = some 15 ∧
      awaiting.isSystem tokenChain.hosting 8 = false := by
  decide +kernel

/-- After some number of rejections the market still awaits the resolution. -/
structure Padding (count : ℕ) (w : World (Hosted (ℕ → Address))) : Prop where
  agree : World.Agree .slashed awaiting w
  clock : w.timestamp = 1200
  counted : ∃ avs, w.outside.services 15 = some avs ∧ avs.isOperator 41 = true ∧ avs.slashCount 41 = count

/-- The garbled proof is rejected by the service, whatever else holds of it. -/
theorem garbage_respond {w : World (Hosted (ℕ → Address))} (agree : World.Agree .slashed awaiting w)
    (clock : w.timestamp = 1200) {avs : MockEigenLayerAVS} (served : w.outside.services 15 = some avs)
    {outcome : Except Revert MockEigenLayerAVS} (slashes : avs.slashOperators [41] = outcome) :
    (w.respond tokenChain.hosting garbage).map (fun reply => (reply.1, reply.2.outside.services 15)) =
      outcome.map fun slashed => (false, some slashed) := by
  obtain ⟨found, resolving, requested, pinned, engine, asks, user⟩ := awaiting_facts
  obtain ⟨settlement, deployed, avsSet⟩ := Option.map_eq_some_iff.mp asks
  have system : w.isSystem tokenChain.hosting 8 = false := by
    rw [← user]
    unfold World.isSystem
    rw [agree.vaults, agree.registries, agree.pots, agree.engines]
  have judged : ∀ requestId, tokenChain.hosting.verifyAttestation w.outside 15 100 1 requestId 0 0 0
      (some garbled) = outcome >>= fun slashed => pure (false, { w.outside with
        services := Function.update w.outside.services 15 (some slashed) }) := by
    intro requestId
    simp +decide only [External.hosting, Hosted.consult, MockEigenLayerAVS.verifyAttestation,
      MockEigenLayerAVS.verifyEnvelope, MockEigenLayerAVS.rejectSlashing, garbled, revertIf, requireSome,
      served, slashes, true_or, if_true, if_false, ok_bind, bind_assoc, pure_bind]
  have market : tokenChain.hosting.market = 100 := rfl
  simp +decide only [garbage, World.respond, World.reply, World.submitResolution, World.auctionExists,
    World.onlyAuctionState, World.validatePublicWinner, World.auctionSettlementEngine,
    World.auctionDependency, SettlementEngine.verifyResolutionProof, SettlementEngine.verifyProof, revertIf,
    requireSome, agree.auctions, agree.engines, found, resolving, engine, deployed, system, clock, avsSet,
    market, judged, if_true, if_false, ok_bind, bind_assoc, pure_eq_ok]
  cases outcome with
  | error raised => rfl
  | ok slashed =>
    show Except.ok (false, Function.update w.outside.services 15 (some slashed) 15) = _
    rw [Function.update_self]
    rfl

theorem slashOperators_sole {avs : MockEigenLayerAVS} {operator : Address}
    (registered : avs.isOperator operator = true) : avs.slashOperators [operator] = do
      let count ← checkedAdd (avs.slashCount operator) 1
      return { avs with slashCount := Function.update avs.slashCount operator count } := by
  simp [MockEigenLayerAVS.slashOperators, MockEigenLayerAVS.slashFrom, registered, bind_assoc]

namespace Padding

variable {count : ℕ} {w : World (Hosted (ℕ → Address))}

theorem full (padding : Padding count w) (saturated : ¬ FitsUint256 (count + 1)) :
    w.respond tokenChain.hosting garbage = .error .arithmeticOverflow := by
  obtain ⟨avs, served, registered, rfl⟩ := padding.counted
  have slashed : avs.slashOperators [41] = .error .arithmeticOverflow := by
    rw [slashOperators_sole registered, checkedAdd_eq_error.mpr ⟨saturated, rfl⟩]
    rfl
  have failed := garbage_respond padding.agree padding.clock served slashed
  cases replied : w.respond tokenChain.hosting garbage with
  | ok reply =>
    rw [replied] at failed
    cases failed
  | error raised =>
    rw [replied] at failed
    cases failed
    rfl

theorem next (padding : Padding count w) (fits : FitsUint256 (count + 1)) :
    ∃ after, w.respond tokenChain.hosting garbage = .ok (false, after) ∧ Padding (count + 1) after := by
  obtain ⟨avs, served, registered, rfl⟩ := padding.counted
  have slashed := slashOperators_sole registered
  rw [checkedAdd_eq_ok.mpr ⟨fits, rfl⟩, ok_bind] at slashed
  have counted := garbage_respond padding.agree padding.clock served slashed
  cases replied : w.respond tokenChain.hosting garbage with
  | error raised =>
    rw [replied] at counted
    cases counted
  | ok reply =>
    obtain ⟨accepted, after⟩ := reply
    rw [replied] at counted
    simp only [Except.map, pure, Except.pure, Except.ok.injEq, Prod.mk.injEq] at counted
    obtain ⟨rfl, serves⟩ := counted
    refine ⟨after, rfl, ?_, ?_, _, serves, registered, ?_⟩
    · exact .trans Difference.slashed_symmetric padding.agree (World.respond_false replied)
    · simp only [World.respond, bind_eq_ok] at replied
      obtain ⟨-, -, -, -, ⟨_, left⟩, -, done⟩ := replied
      cases done
      rfl
    · show Function.update avs.slashCount 41 (avs.slashCount 41 + 1) 41 = _
      exact Function.update_self ..

theorem run {v : World (Hosted (ℕ → Address))} (limit : ℕ) (padding : Padding count w)
    (fits : FitsUint256 (count + limit)) :
    World.Padded tokenChain w v (List.replicate limit garbage) [] ∧
      Padding (count + limit) (play (World.transact tokenChain.hosting) w (List.replicate limit garbage)) := by
  induction limit generalizing count w with
  | zero => exact ⟨.done w v, padding⟩
  | succ limit ih =>
    rw [← Nat.add_assoc, Nat.add_right_comm] at fits ⊢
    obtain ⟨after, replied, later⟩ := padding.next (fits.mono (Nat.le_add_right ..))
    have reached : advance (World.transact tokenChain.hosting) w garbage = after := by
      rw [advance, World.transact_eq_respond, replied]
      rfl
    obtain ⟨runs, ends⟩ := ih later fits
    rw [List.replicate_succ, play_cons, reached]
    refine ⟨.left ⟨rfl, ?_⟩ ?_, ends⟩
    · rw [replied]
      rfl
    · rw [reached]
      exact runs

end Padding

theorem Padding.initial : Padding 0 awaiting :=
  ⟨.refl Difference.slashed_symmetric awaiting, by decide +kernel, soleAttester, by rfl, rfl, rfl⟩

/-- Where a counter is full after some number of garbled proofs, the next one reverts. -/
theorem Padding.overflow {limit : ℕ} (fits : FitsUint256 limit) (full : ¬ FitsUint256 (limit + 1)) :
    let padding := List.replicate limit garbage
    let w := play (World.transact tokenChain.hosting) awaiting padding
    World.Padded tokenChain awaiting awaiting padding [] ∧ World.SharedCall w awaiting garbage garbage ∧
      w.respond tokenChain.hosting garbage = .error .arithmeticOverflow ∧
      ∃ after, awaiting.respond tokenChain.hosting garbage = .ok (false, after) := by
  intro padding w
  obtain ⟨runs, ends⟩ := Padding.initial.run (v := awaiting) limit (by rwa [Nat.zero_add])
  rw [Nat.zero_add] at ends
  obtain ⟨after, replied, -⟩ := Padding.initial.next (by decide)
  refine ⟨runs, ⟨rfl, .same _, ?_, ?_⟩, ends.full full, after, replied⟩
  · exact Nat.le_of_eq ends.clock
  · exact Nat.le_of_eq Padding.initial.clock

/-- After as many garbled proofs as a counter counts, the next one reverts where it would
have been rejected. -/
theorem rejected_resolutions_overflow :
    let padding := List.replicate (2 ^ 256 - 1) garbage
    let w := play (World.transact tokenChain.hosting) awaiting padding
    World.Padded tokenChain awaiting awaiting padding [] ∧ World.SharedCall w awaiting garbage garbage ∧
      w.respond tokenChain.hosting garbage = .error .arithmeticOverflow ∧
      ∃ after, awaiting.respond tokenChain.hosting garbage = .ok (false, after) :=
  Padding.overflow (by decide) (by decide)

end FairMarket
