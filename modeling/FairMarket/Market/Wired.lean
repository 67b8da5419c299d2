import FairMarket.Market.Wiring

/-! The wiring every run keeps: dependencies stay deployed and bound to the market,
they know only the auctions that were created with them, and ids are handed out once. -/

namespace FairMarket

variable {σ : Type}

namespace World

structure Wired (env : External σ) (w : World σ) : Prop where
  vaultMarket : ∀ address vault, w.vaults address = some vault → vault.market = env.market
  lanes : ∀ address vault auctionId, w.vaults address = some vault →
    ((w.market.auctions auctionId).auction.exists_ = true →
      (w.snapshot auctionId).shieldedEscrowVault ≠ address) → vault.lane auctionId = {}
  potMarket : ∀ address pot, w.pots address = some pot → pot.market = env.market
  pots : ∀ address pot auctionId, w.pots address = some pot →
    ((w.market.auctions auctionId).auction.exists_ = true →
      (w.snapshot auctionId).slashedPot ≠ address) → pot.pots auctionId = {}
  registryMarket : ∀ address registry, w.registries address = some registry →
    registry.market = env.market
  zero : w.vaults 0 = none ∧ w.registries 0 = none ∧ w.pots 0 = none ∧ w.engines 0 = none
  counted : ∀ auctionId, (w.market.auctions auctionId).auction.exists_ = true →
    auctionId ≠ 0 ∧ auctionId.toNat ≤ w.market.auctionCounter
  blank : ∀ auctionId, (w.market.auctions auctionId).auction.exists_ = false →
    w.market.auctions auctionId = {} ∧ (w.log.filter fun event => event.auctionId = auctionId) = []
  initialized : ∀ auctionId, (w.market.auctions auctionId).auction.exists_ = true →
    (w.snapshot auctionId).initialized = true
  snapshots : ∀ auctionId, (w.market.auctions auctionId).auction.exists_ = true →
    w.Deployed (w.snapshot auctionId).slashedPot (w.snapshot auctionId).shieldedEscrowVault
      (w.snapshot auctionId).shieldedIdentityRegistry (w.snapshot auctionId).settlementEngine

/-- Where contracts stay deployed, deployed dependencies stay deployed. -/
theorem Deployed.transfer {w next : World σ} {pot vault registry engine : Address}
    (deployed : w.Deployed pot vault registry engine)
    (pots : (next.pots pot).isSome = (w.pots pot).isSome)
    (vaults : (next.vaults vault).isSome = (w.vaults vault).isSome)
    (registries : (next.registries registry).isSome = (w.registries registry).isSome)
    (engines : (next.engines engine).isSome = (w.engines engine).isSome) :
    next.Deployed pot vault registry engine where
  pot := pots.trans deployed.pot
  vault := deployed.vault.imp_right vaults.trans
  registry := deployed.registry.imp_right registries.trans
  engine := deployed.engine.imp_right engines.trans

namespace Wired

variable {env : External σ} {w next : World σ} {auctionId : AuctionId}

/-- Nothing is known anywhere about an id that was not handed out. -/
theorem view_blank (wired : w.Wired env)
    (absent : (w.market.auctions auctionId).auction.exists_ = false) : w.view auctionId = {} := by
  obtain ⟨empty, silent⟩ := wired.blank auctionId absent
  obtain ⟨vaults, -, pots, -⟩ := wired.zero
  simp only [view, snapshot, empty, silent, vaults, pots, Option.map_none, Option.getD_none]

theorem of_frame (wired : w.Wired env) (frame : Frame auctionId w next)
    (found : (w.market.auctions auctionId).auction.exists_ = true) : next.Wired env := by
  have known : ∀ other, (next.market.auctions other).auction.exists_ =
      (w.market.auctions other).auction.exists_ := by
    intro other
    by_cases same : other = auctionId
    · exact same ▸ frame.found
    · rw [frame.cells other same]
  have snapshots : ∀ other, next.snapshot other = w.snapshot other := by
    intro other
    by_cases same : other = auctionId
    · exact same ▸ frame.snapshot
    · rw [snapshot, snapshot, frame.cells other same]
  have counter : next.market.auctionCounter = w.market.auctionCounter :=
    congrArg Settings.auctionCounter frame.settings
  have deployed : ∀ {pot vault registry engine}, w.Deployed pot vault registry engine →
      next.Deployed pot vault registry engine := fun before =>
    before.transfer (frame.pots.isSome_eq _) (frame.vaults.isSome_eq _)
      (frame.registries.isSome_eq _) (by rw [frame.engines])
  constructor
  · intro address changed present
    obtain ⟨vault, before, market, -⟩ := frame.vaults.exists_before present
    exact market.trans (wired.vaultMarket address vault before)
  · intro address changed other present away
    obtain ⟨vault, before, -, lanes⟩ := frame.vaults.exists_before present
    rw [known, snapshots] at away
    rw [lanes other fun same own => away (same ▸ found) (same ▸ own.symm)]
    exact wired.lanes address vault other before away
  · intro address changed present
    obtain ⟨pot, before, market, -⟩ := frame.pots.exists_before present
    exact market.trans (wired.potMarket address pot before)
  · intro address changed other present away
    obtain ⟨pot, before, -, pots⟩ := frame.pots.exists_before present
    rw [known, snapshots] at away
    rw [pots other fun same own => away (same ▸ found) (same ▸ own.symm)]
    exact wired.pots address pot other before away
  · intro address changed present
    obtain ⟨registry, before, market⟩ := frame.registries.exists_before present
    exact market.trans (wired.registryMarket address registry before)
  · obtain ⟨vaults, registries, pots, engines⟩ := wired.zero
    exact ⟨frame.vaults.eq_none vaults, frame.registries.eq_none registries,
      frame.pots.eq_none pots, by rw [frame.engines, engines]⟩
  · intro other present
    rw [known] at present
    rw [counter]
    exact wired.counted other present
  · intro other absent
    rw [known] at absent
    by_cases same : other = auctionId
    · subst same
      rw [found] at absent
      cases absent
    · rw [frame.cells other same, frame.logs other same]
      exact wired.blank other absent
  · intro other present
    rw [known] at present
    rw [snapshots]
    exact wired.initialized other present
  · intro other present
    rw [known] at present
    rw [snapshots]
    exact deployed (wired.snapshots other present)

end Wired

end World

end FairMarket
