import FairMarket.Market.Agreement
import FairMarket.Market.Custody

/-! The owner of the market may replace its current dependencies at any time. Auctions that
exist keep the ones they were created with. -/

namespace FairMarket

variable {σ : Type}

/-- Worlds that may differ in the market's current dependencies only. -/
def Difference.rotated : Difference σ where
  outsides := Eq
  records := Eq
  dependencies := fun _ _ => True

theorem Difference.rotated_recording : (rotated : Difference σ).Recording := by
  rintro event left right rfl
  rfl

theorem Difference.rotated_symmetric : (rotated : Difference σ).Symmetric where
  outsides := ⟨fun _ => rfl, Eq.symm, Eq.trans⟩
  records := ⟨fun _ => rfl, Eq.symm, Eq.trans⟩
  dependencies := ⟨fun _ => trivial, fun _ => trivial, fun _ _ => trivial⟩

theorem External.blind_rotated (env : External σ) : env.Blind (Difference.rotated : Difference σ).outsides where
  isContract := by
    rintro s t rfl
    rfl
  gt := by
    rintro s t rfl
    rfl
  lte := by
    rintro s t rfl
    rfl
  verifyBidCoverage := by
    rintro s t rfl
    rfl
  ownerOf := by
    rintro s t rfl
    rfl
  getApproved := by
    rintro s t rfl
    rfl
  isApprovedForAll := by
    rintro s t rfl
    rfl
  safeTransferFrom := by
    rintro s t rfl nft sender recipient tokenId
    exact .refl (fun _ => rfl) _
  receiveEther := by
    rintro s t rfl recipient amount
    cases env.receiveEther s recipient amount with
    | none => exact .none
    | some next => exact .some rfl

namespace World

variable {env : External σ} {w v next : World σ} {msg : Msg} {auctionId : AuctionId}

/-- The world with the market's current dependencies and the clock left out. -/
def withoutDependencies (w : World σ) : World σ :=
  { w with
    market := { w.market with
      cofheAdapter := 0
      settlementEngine := 0
      slashedPot := 0
      shieldedEscrowVault := 0
      shieldedIdentityRegistry := 0 }
    timestamp := 0 }

theorem Agree.withoutDependencies_eq (agree : Agree .rotated w v) :
    w.withoutDependencies = v.withoutDependencies := by
  unfold withoutDependencies
  dsimp only
  rw [agree.auctions, agree.auctionCounter, agree.owner, agree.network, agree.balance, agree.vaults,
    agree.registries, agree.pots, agree.engines, agree.unsolicited, show v.outside = w.outside from
    agree.outside.symm, show v.log = w.log from agree.log.symm]

/-- A rotation changes the current dependencies and nothing else. -/
theorem transact_rotates {tx : Tx σ} (rotates : tx.rotates = true)
    (done : w.transact env (msg, tx) = .ok next) : Agree .rotated w next := by
  obtain ⟨-, executed, executes, rfl⟩ := transact_ok.mp done
  cases tx with
  | setCofheAdapter | setSettlementEngine | setSlashedPot | setShieldedEscrowVault
  | setShieldedIdentityRegistry =>
    simp only [execute, setCofheAdapter, setSettlementEngine, setSlashedPot, setShieldedEscrowVault,
      setShieldedIdentityRegistry, bind_eq_ok, pure_eq_ok, Except.ok.injEq] at executes
    obtain ⟨-, -, -, -, rfl⟩ := executes
    exact { Agree.refl Difference.rotated_symmetric w with }
  | _ => cases rotates

theorem sameVerdicts_rotated (agree : Agree .rotated w v) :
    SameVerdicts env .rotated (fun _ => False) (fun _ => False) w v := by
  have same : w.outside = v.outside := agree.outside
  constructor
  · intros
    rw [same]
    exact .same (.refl (fun _ => ⟨rfl, rfl⟩) _)
  · intros
    rw [same]
    exact .same (.refl (fun _ => ⟨rfl, rfl⟩) _)

/-- The two sides make the same call, in time for both, on what exists. -/
def SameCall (w v : World σ) (x y : Msg × Tx σ) : Prop :=
  x = y ∧ x.2.creates = false ∧ x.2.rotates = false ∧ w.timestamp ≤ x.1.timestamp ∧
    v.timestamp ≤ x.1.timestamp

/-- A common call returns the same in both worlds, and does the same. -/
theorem SameCall.respond_agrees (wired : w.Wired env) (agree : Agree .rotated w v) {x y : Msg × Tx σ}
    (call : SameCall w v x y) :
    SameOutcome (SameFlag .rotated) (w.respond env x) (v.respond env y) := by
  obtain ⟨rfl, existing, unrotated, timely, timelyToo⟩ := call
  obtain ⟨msg, tx⟩ := x
  refine SameReply.outcome (World.respond_agrees agree rfl rfl (fun creates => ?_) timely timelyToo ?_)
  · exact absurd (existing.symm.trans creates) Bool.false_ne_true
  cases ordinary : tx.ordinary with
  | true =>
    exact reply_agrees env.blind_rotated Difference.rotated_recording wired agree
      (sameVerdicts_rotated agree) ordinary
  | false =>
    cases tx with
    | createAuction => cases existing
    | outside later =>
      have same : v.outside = w.outside := Eq.symm agree.outside
      simp only [reply, execute, same, bind_assoc, pure_bind]
      exact .bind_same fun _ _ => .same (.ok ⟨rfl, { agree with outside := rfl }⟩)
    | setCofheAdapter | setSettlementEngine | setSlashedPot | setShieldedEscrowVault
    | setShieldedIdentityRegistry => cases unrotated
    | _ => cases ordinary

theorem SameCall.transact_agrees (wired : w.Wired env) (agree : Agree .rotated w v) {x y : Msg × Tx σ}
    (call : SameCall w v x y) :
    SameOutcome (Agree .rotated) (w.transact env x) (v.transact env y) := by
  rw [transact_eq_respond, transact_eq_respond]
  exact afterResolution_agrees (call.respond_agrees wired agree)

/-- What a caller sees of a call that is no rotation: what it returns or the error, and the
whole world it leaves behind except for the current dependencies. -/
def seen (env : External σ) (w : World σ) (input : Msg × Tx σ) :
    List (Except Revert (Bool × World σ)) :=
  if input.2.rotates then []
  else [(w.respond env input).map fun reply => (reply.1, reply.2.withoutDependencies)]

theorem SameCall.seen_eq (wired : w.Wired env) (agree : Agree .rotated w v) {x y : Msg × Tx σ}
    (call : SameCall w v x y) : w.seen env x = v.seen env y := by
  have same := call.respond_agrees wired agree
  obtain ⟨rfl, -, unrotated, -⟩ := call
  simp only [seen, unrotated]
  generalize w.respond env x = left, v.respond env x = right at same
  cases same with
  | error raised => rfl
  | ok near => simp [Except.map, near.1, near.2.withoutDependencies_eq]

/-- Two runs that make the same calls on what exists, with rotations anywhere in either. -/
abbrev Rotated (env : External σ) : World σ → World σ → List (Msg × Tx σ) → List (Msg × Tx σ) → Prop :=
  Interleaved (World.transact env) (fun _ input => input.2.rotates = true)
    (fun _ input => input.2.rotates = true) SameCall

theorem advance_rotates {input : Msg × Tx σ} (rotates : input.2.rotates = true) :
    Agree .rotated w (advance (World.transact env) w input) := by
  obtain ⟨msg, tx⟩ := input
  rcases advance_cases (World.transact env) w (msg, tx) with kept | taken
  · rw [kept]
    exact .refl Difference.rotated_symmetric w
  · exact transact_rotates rotates taken

end World

/-- From any reachable state, two runs that make the same calls on what exists and differ in
rotations of the market's dependencies: every call returns the same and leaves the same
world behind, the runs end in worlds that differ in the current dependencies at most, and
the views on every auction agree there. -/
theorem rotation_unseen (deployment : Deployment) (env : External σ) (outside : σ)
    (past first second : List (Msg × Tx σ))
    (runs : World.Rotated env (deployment.run env outside past) (deployment.run env outside past)
      first second) :
    let start := deployment.run env outside past
    let w := play (World.transact env) start first
    let v := play (World.transact env) start second
    observations (World.transact env) (World.seen env) start first =
        observations (World.transact env) (World.seen env) start second ∧
      w.withoutDependencies = v.withoutDependencies ∧
      ∀ auctionId,
        (∀ claimant, w.previewRefund auctionId claimant = v.previewRefund auctionId claimant) ∧
        w.previewSellerPayout auctionId = v.previewSellerPayout auctionId ∧
        ((w.market.auctions auctionId).auction.exists_ = true →
          w.previewDynamicTimeout (w.market.auctions auctionId) =
            v.previewDynamicTimeout (v.market.auctions auctionId)) := by
  intro start w v
  have wired := deployment.run_wired env outside past
  have initial : World.Twins env .rotated start start :=
    ⟨wired, wired, .refl Difference.rotated_symmetric start⟩
  have rotateLeft : ∀ w v (input : Msg × Tx σ), World.Twins env .rotated w v → input.2.rotates = true →
      World.Twins env .rotated (advance (World.transact env) w input) v :=
    fun w v input twins rotates => twins.ownLeft Difference.rotated_symmetric (World.advance_rotates rotates)
  have rotateRight : ∀ w v (input : Msg × Tx σ), World.Twins env .rotated w v → input.2.rotates = true →
      World.Twins env .rotated w (advance (World.transact env) v input) :=
    fun w v input twins rotates => twins.ownRight Difference.rotated_symmetric (World.advance_rotates rotates)
  have calls : ∀ w v x y, World.Twins env .rotated w v → World.SameCall w v x y →
      World.Twins env .rotated (advance (World.transact env) w x) (advance (World.transact env) v y) :=
    fun w v x y twins call => twins.both
      (advance_related twins.agree (call.transact_agrees twins.left twins.agree))
  have hidden : ∀ (w : World σ) (input : Msg × Tx σ), input.2.rotates = true → w.seen env input = [] :=
    fun w input rotates => if_pos rotates
  have ends : World.Twins env .rotated w v := Interleaved.related rotateLeft rotateRight calls runs initial
  refine ⟨Interleaved.observations_eq rotateLeft rotateRight calls hidden hidden
    (fun w v x y twins call => call.seen_eq twins.left twins.agree) runs initial,
    ends.agree.withoutDependencies_eq, fun auctionId => ⟨fun claimant => ?_, ?_, fun found => ?_⟩⟩
  · exact (ends.agree.previewRefund ends.left auctionId claimant).symm
  · exact (ends.agree.previewSellerPayout ends.left auctionId).symm
  · have on : World.AgreeOn .rotated auctionId w v :=
      { ends.agree with pinned := ends.left.initialized auctionId found }
    rw [ends.agree.auctions]
    exact on.previewDynamicTimeout.symm

def twoPots : Deployment :=
  { tokenDeployment with
    pots := fun address => address = 11 ∨ address = 12
    noneAtZero := ⟨rfl, rfl, rfl, rfl⟩ }

/-- An auction with one bidder, whose seller cancels it and whose bidder is refunded. -/
def cancelAndRefund : List (Msg × Tx (ℕ → Address)) :=
  [({ sender := 9, timestamp := 1002 }, .cancelAuction 1),
    ({ sender := 8, timestamp := 1003 }, .claimRefund 1)]

def bidWithTwoPots : World (ℕ → Address) :=
  twoPots.run tokenChain (fun _ => 9)
    [({ sender := 9, value := 10, timestamp := 1000 }, .createAuction 5 7 100 0 10 false),
      ({ sender := 8, value := 100, timestamp := 1001 }, .lockEscrow 1)]

set_option maxRecDepth 4000 in
/-- The owner replaces the pot first; the penalty still goes to the old one. -/
theorem cancelAndRefund_unseen :
    let rotation : Msg × Tx (ℕ → Address) := ({ sender := 1, timestamp := 1001 }, .setSlashedPot 12)
    let rotated := play (World.transact tokenChain) bidWithTwoPots (rotation :: cancelAndRefund)
    rotated.market.slashedPot = 12 ∧
      rotated.withoutDependencies =
        (play (World.transact tokenChain) bidWithTwoPots cancelAndRefund).withoutDependencies := by
  refine ⟨by decide +kernel, (rotation_unseen twoPots tokenChain (fun _ => 9) _ _ _ ?_).2.1⟩
  exact .left rfl (.both ⟨rfl, rfl, rfl, by decide +kernel, by decide +kernel⟩
    (.both ⟨rfl, rfl, rfl, by decide +kernel, by decide +kernel⟩ (.done _ _)))

end FairMarket
