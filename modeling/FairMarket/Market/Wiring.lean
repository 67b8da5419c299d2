import FairMarket.Market.AuctionStep
import FairMarket.Market.Execution

/-! What an auction looks like in a world, what a transaction on one auction leaves
alone, and how the contracts stay wired to one another. -/

namespace FairMarket

/-- Two tables of contracts deployed at the same addresses, related one by one. -/
def Tables {Contract : Type} (related : Address → Contract → Contract → Prop)
    (before after : Address → Option Contract) : Prop :=
  ∀ address, Option.Rel (related address) (before address) (after address)

namespace Tables

variable {Contract : Type} {related : Address → Contract → Contract → Prop}
  {before middle after : Address → Option Contract}

theorem refl (reflexive : ∀ address contract, related address contract contract) :
    Tables related before before := by
  intro address
  cases before address with
  | none => exact .none
  | some contract => exact .some (reflexive address contract)

theorem trans {nearer farther : Address → Contract → Contract → Prop}
    (transitive : ∀ address x y z, nearer address x y → farther address y z → related address x z)
    (first : Tables nearer before middle) (second : Tables farther middle after) :
    Tables related before after := by
  intro address
  have left := first address
  have right := second address
  generalize before address = x, middle address = y, after address = z at left right
  cases left with
  | none => cases right; exact .none
  | some near => cases right with | some far => exact .some (transitive address _ _ _ near far)

/-- Writing one deployed contract. -/
theorem update (reflexive : ∀ address contract, related address contract contract)
    {address : Address} {contract next : Contract} (found : before address = some contract)
    (near : related address contract next) :
    Tables related before (Function.update before address (some next)) := by
  intro other
  by_cases same : other = address
  · subst same
    rw [Function.update_self, found]
    exact .some near
  · rw [Function.update_of_ne same]
    exact refl reflexive other

theorem mono {weaker : Address → Contract → Contract → Prop}
    (implied : ∀ address x y, related address x y → weaker address x y)
    (tables : Tables related before after) : Tables weaker before after := by
  intro address
  have near := tables address
  generalize before address = x, after address = y at near
  cases near with
  | none => exact .none
  | some near => exact .some (implied address _ _ near)

theorem isSome_eq (tables : Tables related before after) (address : Address) :
    (after address).isSome = (before address).isSome := by
  have near := tables address
  generalize before address = x, after address = y at near
  cases near <;> rfl

theorem eq_none (tables : Tables related before after) {address : Address}
    (absent : before address = none) : after address = none := by
  rw [← Option.not_isSome_iff_eq_none, tables.isSome_eq, absent]
  exact Bool.false_ne_true

theorem exists_before (tables : Tables related before after) {address : Address} {next : Contract}
    (found : after address = some next) :
    ∃ contract, before address = some contract ∧ related address contract next := by
  have near := tables address
  rw [found] at near
  generalize before address = x at near
  cases near with | some near => exact ⟨_, rfl, near⟩

theorem exists_after (tables : Tables related before after) {address : Address} {contract : Contract}
    (found : before address = some contract) :
    ∃ next, after address = some next ∧ related address contract next := by
  have near := tables address
  rw [found] at near
  generalize after address = x at near
  cases near with | some near => exact ⟨_, rfl, near⟩

end Tables

/-- The market's own settings. -/
structure Settings where
  auctionCounter : ℕ
  slashedPot : Address
  settlementEngine : Address
  shieldedEscrowVault : Address
  shieldedIdentityRegistry : Address

def FhenixFairMarket.settings (market : FhenixFairMarket) : Settings where
  auctionCounter := market.auctionCounter
  slashedPot := market.slashedPot
  settlementEngine := market.settlementEngine
  shieldedEscrowVault := market.shieldedEscrowVault
  shieldedIdentityRegistry := market.shieldedIdentityRegistry

variable {σ : Type}

namespace World

def snapshot (w : World σ) (auctionId : AuctionId) : AuctionDependencySnapshot :=
  (w.market.auctions auctionId).dependencySnapshot

/-- One auction as the contracts of a world hold it. -/
def view (w : World σ) (auctionId : AuctionId) : AuctionView where
  cell := w.market.auctions auctionId
  lane := (w.vaults (w.snapshot auctionId).shieldedEscrowVault).map (·.lane auctionId)
  pot := ((w.pots (w.snapshot auctionId).slashedPot).map (·.pots auctionId)).getD {}
  log := w.log.filter fun event => event.auctionId = auctionId

section View

variable (w : World σ) (auctionId : AuctionId)

@[simp] theorem view_cell : (w.view auctionId).cell = w.market.auctions auctionId := rfl

@[simp] theorem view_setNetwork (network : NetworkObservation) :
    (w.setNetwork network).view auctionId = w.view auctionId := rfl

@[simp] theorem view_setOutside (outside : σ) :
    (w.setOutside outside).view auctionId = w.view auctionId := rfl

@[simp] theorem view_setRegistry (address : Address) (registry : ShieldedIdentityRegistry) :
    (w.setRegistry address registry).view auctionId = w.view auctionId := rfl

@[simp] theorem view_credit (amount : ℕ) : (w.credit amount).view auctionId = w.view auctionId := rfl

@[simp] theorem view_debit (amount : ℕ) : (w.debit amount).view auctionId = w.view auctionId := rfl

@[simp] theorem view_receiveEther (amount : ℕ) :
    (w.receiveEther amount).view auctionId = w.view auctionId := rfl

theorem view_emit {event : Event} (about : event.auctionId = auctionId) :
    (w.emit event).view auctionId = (w.view auctionId).emit event := by
  simp [view, emit, snapshot, AuctionView.emit, about]

theorem view_setAuction {cell : AuctionStorage}
    (same : cell.dependencySnapshot = w.snapshot auctionId) :
    (w.setAuction auctionId cell).view auctionId = { w.view auctionId with cell } := by
  simp [view, setAuction, snapshot, same]

theorem view_setVault {address : Address} (own : (w.snapshot auctionId).shieldedEscrowVault = address)
    (vault : ShieldedEscrowVault) :
    (w.setVault address vault).view auctionId =
      { w.view auctionId with lane := some (vault.lane auctionId) } := by
  subst own
  simp [view, setVault, snapshot]

theorem view_setPot {address : Address} (own : (w.snapshot auctionId).slashedPot = address)
    (pot : SlashedPot) :
    (w.setPot address pot).view auctionId = { w.view auctionId with pot := pot.pots auctionId } := by
  subst own
  simp [view, setPot, snapshot]

end View

/-- A transaction about one auction leaves the cells, lanes, pots and logs of all
others as they were, and every contract where it was. -/
structure Frame (auctionId : AuctionId) (w next : World σ) : Prop where
  cells : ∀ other, other ≠ auctionId → next.market.auctions other = w.market.auctions other
  found : (next.market.auctions auctionId).auction.exists_ = (w.market.auctions auctionId).auction.exists_
  snapshot : next.snapshot auctionId = w.snapshot auctionId
  vaults : Tables (fun address vault changed => changed.market = vault.market ∧
    ∀ other, (other = auctionId → address ≠ (w.snapshot auctionId).shieldedEscrowVault) →
      changed.lane other = vault.lane other) w.vaults next.vaults
  pots : Tables (fun address pot changed => changed.market = pot.market ∧
    ∀ other, (other = auctionId → address ≠ (w.snapshot auctionId).slashedPot) →
      changed.pots other = pot.pots other) w.pots next.pots
  registries : Tables (fun _ registry changed => changed.market = registry.market)
    w.registries next.registries
  engines : next.engines = w.engines
  settings : next.market.settings = w.market.settings
  logs : ∀ other, other ≠ auctionId →
    (next.log.filter fun event => event.auctionId = other) =
      w.log.filter fun event => event.auctionId = other

namespace Frame

variable {auctionId : AuctionId} {w middle next : World σ}

theorem refl (auctionId : AuctionId) (w : World σ) : Frame auctionId w w where
  cells := fun _ _ => rfl
  found := rfl
  snapshot := rfl
  vaults := .refl fun _ _ => ⟨rfl, fun _ _ => rfl⟩
  pots := .refl fun _ _ => ⟨rfl, fun _ _ => rfl⟩
  registries := .refl fun _ _ => rfl
  engines := rfl
  settings := rfl
  logs := fun _ _ => rfl

theorem trans (first : Frame auctionId w middle) (second : Frame auctionId middle next) :
    Frame auctionId w next where
  cells := fun other different => (second.cells other different).trans (first.cells other different)
  found := second.found.trans first.found
  snapshot := second.snapshot.trans first.snapshot
  vaults := by
    have later := second.vaults
    rw [first.snapshot] at later
    exact first.vaults.trans (fun address x y z near far => ⟨far.1.trans near.1,
      fun other away => (far.2 other away).trans (near.2 other away)⟩) later
  pots := by
    have later := second.pots
    rw [first.snapshot] at later
    exact first.pots.trans (fun address x y z near far => ⟨far.1.trans near.1,
      fun other away => (far.2 other away).trans (near.2 other away)⟩) later
  registries := first.registries.trans (fun _ _ _ _ near far => far.trans near) second.registries
  engines := second.engines.trans first.engines
  settings := second.settings.trans first.settings
  logs := fun other different => (second.logs other different).trans (first.logs other different)

theorem setNetwork (network : NetworkObservation) : Frame auctionId w (w.setNetwork network) :=
  { refl auctionId w with }

theorem setOutside (outside : σ) : Frame auctionId w (w.setOutside outside) :=
  { refl auctionId w with }

theorem credit (amount : ℕ) : Frame auctionId w (w.credit amount) := { refl auctionId w with }

theorem debit (amount : ℕ) : Frame auctionId w (w.debit amount) := { refl auctionId w with }

theorem receiveEther (amount : ℕ) : Frame auctionId w (w.receiveEther amount) :=
  { refl auctionId w with }

theorem emit {event : Event} (about : event.auctionId = auctionId) :
    Frame auctionId w (w.emit event) :=
  { refl auctionId w with
    logs := by
      intro other different
      have skipped : event.auctionId ≠ other := fun same => different (same.symm.trans about)
      simp [World.emit, skipped] }

theorem setAuction {cell : AuctionStorage}
    (found : cell.auction.exists_ = (w.market.auctions auctionId).auction.exists_)
    (same : cell.dependencySnapshot = w.snapshot auctionId) :
    Frame auctionId w (w.setAuction auctionId cell) :=
  { refl auctionId w with
    cells := fun other different => Function.update_of_ne different ..
    found := by simpa [World.setAuction] using found
    snapshot := by simpa [World.setAuction, World.snapshot] using same }

theorem setVault {address : Address} {vault changed : ShieldedEscrowVault}
    (own : (w.snapshot auctionId).shieldedEscrowVault = address)
    (deployed : w.vaults address = some vault) (market : changed.market = vault.market)
    (lanes : ∀ other, other ≠ auctionId → changed.lane other = vault.lane other) :
    Frame auctionId w (w.setVault address changed) :=
  { refl auctionId w with
    vaults := .update (fun _ _ => ⟨rfl, fun _ _ => rfl⟩) deployed
      ⟨market, fun other away => lanes other fun same => away same own.symm⟩ }

theorem setPot {address : Address} {pot changed : SlashedPot}
    (own : (w.snapshot auctionId).slashedPot = address)
    (deployed : w.pots address = some pot) (market : changed.market = pot.market)
    (pots : ∀ other, other ≠ auctionId → changed.pots other = pot.pots other) :
    Frame auctionId w (w.setPot address changed) :=
  { refl auctionId w with
    pots := .update (fun _ _ => ⟨rfl, fun _ _ => rfl⟩) deployed
      ⟨market, fun other away => pots other fun same => away same own.symm⟩ }

theorem setRegistry {address : Address} {registry changed : ShieldedIdentityRegistry}
    (deployed : w.registries address = some registry) (market : changed.market = registry.market) :
    Frame auctionId w (w.setRegistry address changed) :=
  { refl auctionId w with
    registries := by
      refine .update ?_ deployed market
      exact fun _ _ => rfl }

/-- Other auctions look the same. -/
theorem view_eq (frame : Frame auctionId w next) {other : AuctionId} (different : other ≠ auctionId) :
    next.view other = w.view other := by
  have cell := frame.cells other different
  have dependencies : next.snapshot other = w.snapshot other := by
    rw [World.snapshot, World.snapshot, cell]
  have lane : (next.vaults (w.snapshot other).shieldedEscrowVault).map (·.lane other) =
      (w.vaults (w.snapshot other).shieldedEscrowVault).map (·.lane other) := by
    have near := frame.vaults (w.snapshot other).shieldedEscrowVault
    generalize w.vaults _ = x, next.vaults _ = y at near
    cases near with
    | none => rfl
    | some near => exact congrArg some (near.2 other fun same => absurd same different)
  have pot : (next.pots (w.snapshot other).slashedPot).map (·.pots other) =
      (w.pots (w.snapshot other).slashedPot).map (·.pots other) := by
    have near := frame.pots (w.snapshot other).slashedPot
    generalize w.pots _ = x, next.pots _ = y at near
    cases near with
    | none => rfl
    | some near => exact congrArg some (near.2 other fun same => absurd same different)
  simp only [World.view, cell, dependencies, lane, pot, frame.logs other different]

end Frame

end World

end FairMarket
