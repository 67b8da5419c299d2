import FairMarket.Evm.Types

/-! The settlement arithmetic. Every function is pure; the engine's storage only
names the service that verifies attestations. -/

namespace FairMarket

structure SettlementEngine where
  owner : Address
  avs : Address := 0

namespace SettlementEngine

def bpsDenominator : ℕ := 10000

def minDynamicTimeout : ℕ := 15 * 60

def maxDynamicTimeout : ℕ := 2 * 60 * 60

def dynamicTimeoutMultiplier : ℕ := 90

def minCancellationSlashBps : ℕ := 2500

def computeDynamicTimeout (movingAverageBlockDelta : ℕ) : Except Revert ℕ := do
  let timeoutWindow ←
    if movingAverageBlockDelta = 0 then pure minDynamicTimeout
    else checkedMul movingAverageBlockDelta dynamicTimeoutMultiplier
  return if timeoutWindow < minDynamicTimeout then minDynamicTimeout
    else if timeoutWindow > maxDynamicTimeout then maxDynamicTimeout
    else timeoutWindow

def computeCancellationSlash (sellerDeposit elapsed duration totalEscrow : ℕ) : Except Revert ℕ :=
  if sellerDeposit = 0 ∨ totalEscrow = 0 then .ok 0
  else if duration = 0 then .ok sellerDeposit
  else do
    let boundedElapsed := if elapsed > duration then duration else elapsed
    let scaled ← checkedMul boundedElapsed (bpsDenominator - minCancellationSlashBps)
    let variableSlashBps := scaled / duration
    let slashBps ← checkedAdd minCancellationSlashBps variableSlashBps
    let slash ← checkedMul sellerDeposit slashBps
    return slash / bpsDenominator

def computeWinningRefund (escrowedAmount winningAmount : ℕ) : ℕ :=
  if winningAmount ≥ escrowedAmount then 0 else escrowedAmount - winningAmount

def computeSellerPayout (sellerDeposit winningAmount : ℕ) : Except Revert ℕ :=
  checkedAdd sellerDeposit winningAmount

def computeSellerCancellationPayout (sellerDeposit slashAmount : ℕ) : ℕ :=
  if slashAmount ≥ sellerDeposit then 0 else sellerDeposit - slashAmount

def computeProRataShare (contribution totalEscrow totalPot : ℕ) : Except Revert ℕ :=
  if contribution = 0 ∨ totalEscrow = 0 ∨ totalPot = 0 then .ok 0
  else do
    let product ← checkedMul contribution totalPot
    return product / totalEscrow

structure ResolutionRequest where
  requestId : Bytes32
  winnerHandle : Bytes32
  amountHandle : Bytes32

/-- The handles are derived from the request id. -/
def ResolutionRequest.ofId (keccak : List Word → Bytes32) (requestId : Bytes32) : ResolutionRequest where
  requestId
  winnerHandle := keccak [.ofBytes32 requestId, .text "winner"]
  amountHandle := keccak [.ofBytes32 requestId, .text "amount"]

def prepareResolutionRequest (chain : Chain) (self market : Address) (auctionId : AuctionId)
    (bidCount endTime finalizeNonce : ℕ) (raceSalt : Bytes32) : Except Revert ResolutionRequest := do
  revertIf (market = 0) .zeroAddress
  return .ofId chain.keccak (chain.keccak [.ofAddress self, .value chain.chainId, .ofAddress market,
    .ofBytes32 auctionId, .value bidCount, .value endTime, .value finalizeNonce, .ofBytes32 raceSalt])

/-- Ask the service the engine names, which must be set. -/
def verifyProof {σ : Type} (engine : SettlementEngine) (market : Address)
    (verify : Address → Except Revert (Bool × σ)) : Except Revert (Bool × σ) := do
  revertIf (market = 0 ∨ engine.avs = 0) .zeroAddress
  verify engine.avs

/-- `verifyAttestation` takes the service's address first. -/
def verifyResolutionProof {σ Proof : Type} (engine : SettlementEngine)
    (verifyAttestation : Address → Address → AuctionId → Bytes32 → Address → Bytes32 → ℕ → Proof →
      Except Revert (Bool × σ))
    (market : Address) (auctionId : AuctionId) (requestId : Bytes32) (winner : Address)
    (winnerCiphertext : Bytes32) (winningAmount : ℕ) (avsProof : Proof) : Except Revert (Bool × σ) :=
  engine.verifyProof market fun avs =>
    verifyAttestation avs market auctionId requestId winner winnerCiphertext winningAmount avsProof

def verifyShieldedResolutionProof {σ Proof : Type} (engine : SettlementEngine)
    (verifyShieldedAttestation : Address → Address → AuctionId → Bytes32 → Bytes32 → Bytes32 → ℕ →
      Proof → Except Revert (Bool × σ))
    (market : Address) (auctionId : AuctionId) (requestId winnerIdentity winnerCiphertext : Bytes32)
    (winningAmount : ℕ) (avsProof : Proof) : Except Revert (Bool × σ) :=
  engine.verifyProof market fun avs =>
    verifyShieldedAttestation avs market auctionId requestId winnerIdentity winnerCiphertext
      winningAmount avsProof

def setAVS (engine : SettlementEngine) (sender newAVS : Address) : Except Revert SettlementEngine := do
  revertIf (sender ≠ engine.owner) (.ownableUnauthorizedAccount sender)
  revertIf (newAVS = 0) .zeroAddress
  return { engine with avs := newAVS }

/-- The capped elapsed share of the variable penalty is at most all of it. -/
theorem variableSlash_le (elapsed duration : ℕ) :
    (if elapsed > duration then duration else elapsed) *
      (bpsDenominator - minCancellationSlashBps) / duration ≤
        bpsDenominator - minCancellationSlashBps := by
  apply Nat.div_le_of_le_mul
  apply Nat.mul_le_mul_right
  split <;> omega

/-- A slash the engine computes never exceeds the deposit it is taken from. -/
theorem computeCancellationSlash_le {sellerDeposit elapsed duration totalEscrow slash : ℕ}
    (computed : computeCancellationSlash sellerDeposit elapsed duration totalEscrow = .ok slash) :
    slash ≤ sellerDeposit := by
  unfold computeCancellationSlash at computed
  split at computed
  · cases computed
    exact Nat.zero_le _
  split at computed
  · cases computed
    exact Nat.le_refl _
  simp only [bind_eq_ok, checkedMul_eq_ok, checkedAdd_eq_ok, pure_eq_ok, Except.ok.injEq] at computed
  obtain ⟨scaled, ⟨-, rfl⟩, slashBps, ⟨-, rfl⟩, product, ⟨-, rfl⟩, rfl⟩ := computed
  have share := variableSlash_le elapsed duration
  apply Nat.div_le_of_le_mul
  rw [Nat.mul_comm bpsDenominator]
  apply Nat.mul_le_mul_left
  have whole : minCancellationSlashBps + (bpsDenominator - minCancellationSlashBps) = bpsDenominator := rfl
  omega

/-- The penalty as a share of the deposit. -/
def cancellationSlashBps (elapsed duration : ℕ) : ℕ :=
  minCancellationSlashBps +
    (if elapsed > duration then duration else elapsed) * (bpsDenominator - minCancellationSlashBps) / duration

theorem cancellationSlashBps_le (elapsed duration : ℕ) : cancellationSlashBps elapsed duration ≤ bpsDenominator := by
  have share := variableSlash_le elapsed duration
  have whole : minCancellationSlashBps + (bpsDenominator - minCancellationSlashBps) = bpsDenominator := rfl
  unfold cancellationSlashBps
  omega

/-- Until the time is up the penalty is not the whole deposit. -/
theorem cancellationSlashBps_lt {elapsed duration : ℕ} (early : elapsed < duration) :
    cancellationSlashBps elapsed duration < bpsDenominator := by
  have share : elapsed * (bpsDenominator - minCancellationSlashBps) / duration <
      bpsDenominator - minCancellationSlashBps := by
    apply Nat.div_lt_of_lt_mul
    exact Nat.mul_lt_mul_of_pos_right early (by decide)
  have whole : minCancellationSlashBps + (bpsDenominator - minCancellationSlashBps) = bpsDenominator := rfl
  rw [cancellationSlashBps, if_neg (Nat.lt_asymm early)]
  omega

theorem cancellationSlashBps_mono {first second : ℕ} (later : first ≤ second) (duration : ℕ) :
    cancellationSlashBps first duration ≤ cancellationSlashBps second duration := by
  apply Nat.add_le_add_left
  apply Nat.div_le_div_right
  apply Nat.mul_le_mul_right
  split <;> split <;> omega

/-- With a deposit, an escrow and a duration, the engine takes its share of the deposit,
if the products fit. -/
theorem computeCancellationSlash_eq_ok {sellerDeposit elapsed duration totalEscrow slash : ℕ}
    (deposited : sellerDeposit ≠ 0) (escrowed : totalEscrow ≠ 0) (lasting : duration ≠ 0) :
    computeCancellationSlash sellerDeposit elapsed duration totalEscrow = .ok slash ↔
      FitsUint256 ((if elapsed > duration then duration else elapsed) *
        (bpsDenominator - minCancellationSlashBps)) ∧
      FitsUint256 (sellerDeposit * cancellationSlashBps elapsed duration) ∧
      sellerDeposit * cancellationSlashBps elapsed duration / bpsDenominator = slash := by
  have bps : FitsUint256 (cancellationSlashBps elapsed duration) :=
    (cancellationSlashBps_le elapsed duration).trans_lt (by norm_num [bpsDenominator])
  unfold computeCancellationSlash
  rw [if_neg (not_or.mpr ⟨deposited, escrowed⟩), if_neg lasting]
  simp only [bind_eq_ok, checkedMul_eq_ok, checkedAdd_eq_ok, pure_eq_ok, Except.ok.injEq]
  constructor
  · rintro ⟨scaled, ⟨fits, rfl⟩, slashBps, ⟨-, rfl⟩, product, ⟨small, rfl⟩, rfl⟩
    exact ⟨fits, small, rfl⟩
  · rintro ⟨fits, small, rfl⟩
    exact ⟨_, ⟨fits, rfl⟩, _, ⟨bps, rfl⟩, _, ⟨small, rfl⟩, rfl⟩

/-- The engine fails only where a product does not fit. -/
theorem computeCancellationSlash_succeeds {sellerDeposit elapsed duration totalEscrow : ℕ}
    (escrowed : totalEscrow ≠ 0) :
    (∃ slash, computeCancellationSlash sellerDeposit elapsed duration totalEscrow = .ok slash) ↔
      sellerDeposit = 0 ∨ duration = 0 ∨ FitsUint256 (min elapsed duration * 7500) ∧
        FitsUint256 (sellerDeposit * (2500 + min elapsed duration * 7500 / duration)) := by
  by_cases deposited : sellerDeposit = 0
  · refine iff_of_true ⟨0, ?_⟩ (.inl deposited)
    rw [computeCancellationSlash, if_pos (.inl deposited)]
  by_cases lasting : duration = 0
  · refine iff_of_true ⟨sellerDeposit, ?_⟩ (.inr (.inl lasting))
    rw [computeCancellationSlash, if_neg (not_or.mpr ⟨deposited, escrowed⟩), if_pos lasting]
  have bounded : (if elapsed > duration then duration else elapsed) = min elapsed duration := by
    split <;> omega
  simp only [computeCancellationSlash_eq_ok deposited escrowed lasting, deposited, lasting, false_or,
    cancellationSlashBps, bounded, exists_and_left, exists_eq', and_true]
  exact Iff.rfl

/-- With escrow at stake, at least a quarter of the deposit is taken, at most all of it, and
later not less. -/
theorem computeCancellationSlash_bounds {sellerDeposit first second duration totalEscrow firstSlash secondSlash : ℕ}
    (escrowed : totalEscrow ≠ 0) (later : first ≤ second)
    (early : computeCancellationSlash sellerDeposit first duration totalEscrow = .ok firstSlash)
    (late : computeCancellationSlash sellerDeposit second duration totalEscrow = .ok secondSlash) :
    sellerDeposit / 4 ≤ firstSlash ∧ firstSlash ≤ secondSlash ∧ secondSlash ≤ sellerDeposit := by
  have most := computeCancellationSlash_le late
  by_cases deposited : sellerDeposit = 0
  · subst deposited
    unfold computeCancellationSlash at early
    rw [if_pos (.inl rfl)] at early
    cases early
    exact ⟨Nat.le_refl 0, Nat.zero_le _, most⟩
  by_cases lasting : duration = 0
  · subst lasting
    unfold computeCancellationSlash at early late
    rw [if_neg (not_or.mpr ⟨deposited, escrowed⟩), if_pos rfl] at early late
    cases early
    cases late
    exact ⟨Nat.div_le_self .., Nat.le_refl _, most⟩
  obtain ⟨-, -, rfl⟩ := (computeCancellationSlash_eq_ok deposited escrowed lasting).mp early
  obtain ⟨-, -, rfl⟩ := (computeCancellationSlash_eq_ok deposited escrowed lasting).mp late
  refine ⟨?_, ?_, most⟩
  · have least : minCancellationSlashBps ≤ cancellationSlashBps first duration := Nat.le_add_right ..
    have quarter : sellerDeposit * minCancellationSlashBps / bpsDenominator = sellerDeposit / 4 := by
      unfold minCancellationSlashBps bpsDenominator
      omega
    rw [← quarter]
    exact Nat.div_le_div_right (Nat.mul_le_mul_left _ least)
  · exact Nat.div_le_div_right (Nat.mul_le_mul_left _ (cancellationSlashBps_mono later duration))

/-- How much escrow is at stake makes no difference. -/
theorem computeCancellationSlash_totalEscrow {totalEscrow other : ℕ} (escrowed : totalEscrow ≠ 0)
    (staked : other ≠ 0) (sellerDeposit elapsed duration : ℕ) :
    computeCancellationSlash sellerDeposit elapsed duration totalEscrow =
      computeCancellationSlash sellerDeposit elapsed duration other := by
  unfold computeCancellationSlash
  by_cases deposited : sellerDeposit = 0
  · rw [if_pos (.inl deposited), if_pos (.inl deposited)]
  · rw [if_neg (not_or.mpr ⟨deposited, escrowed⟩), if_neg (not_or.mpr ⟨deposited, staked⟩)]

theorem computeCancellationSlash_lt {sellerDeposit elapsed duration totalEscrow slash : ℕ}
    (deposited : sellerDeposit ≠ 0) (early : elapsed < duration)
    (computed : computeCancellationSlash sellerDeposit elapsed duration totalEscrow = .ok slash) :
    slash < sellerDeposit := by
  by_cases escrowed : totalEscrow = 0
  · unfold computeCancellationSlash at computed
    rw [if_pos (.inr escrowed)] at computed
    cases computed
    exact Nat.pos_of_ne_zero deposited
  obtain ⟨-, -, rfl⟩ := (computeCancellationSlash_eq_ok deposited escrowed (by omega)).mp computed
  apply Nat.div_lt_of_lt_mul
  rw [Nat.mul_comm bpsDenominator]
  exact Nat.mul_lt_mul_of_pos_left (cancellationSlashBps_lt early) (Nat.pos_of_ne_zero deposited)

theorem computeProRataShare_eq {contribution totalEscrow totalPot share : ℕ}
    (computed : computeProRataShare contribution totalEscrow totalPot = .ok share) :
    share = contribution * totalPot / totalEscrow := by
  unfold computeProRataShare at computed
  split at computed
  · rename_i empty
    cases computed
    rcases empty with rfl | rfl | rfl <;> simp
  · simp only [bind_eq_ok, checkedMul_eq_ok, pure_eq_ok, Except.ok.injEq] at computed
    obtain ⟨product, ⟨-, rfl⟩, rfl⟩ := computed
    rfl

theorem computeProRataShare_ok {contribution totalEscrow totalPot : ℕ}
    (fits : FitsUint256 (contribution * totalPot)) :
    computeProRataShare contribution totalEscrow totalPot =
      .ok (contribution * totalPot / totalEscrow) := by
  unfold computeProRataShare
  split
  · rename_i empty
    rcases empty with rfl | rfl | rfl <;> simp
  · simp [checkedMul, fits]

end SettlementEngine

end FairMarket
