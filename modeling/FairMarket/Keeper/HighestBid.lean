import FairMarket.Keeper.CofheDispatcher

/-! Which bid the local resolver picks, and which bids have no say in it. -/

namespace FairMarket

namespace Keeper

open EncryptedBidRecord

variable {startingPrice : ℤ} {bids : List EncryptedBidRecord}

theorem pickHighest_of_leads (numeric : ∀ bid ∈ bids, bid.Numeric) {place highest : ℕ}
    {winner : EncryptedBidRecord} (leads : Foremost (eligibleAmount startingPrice) bids place winner highest) :
    pickHighestLocalPrototypeEncryptedBid bids startingPrice = .ok (some winner) := by
  rw [pickHighest_foremost numeric, foremost_eq_some.mpr ⟨place, leads⟩]
  rfl

/-- What the resolver picks from a list of bids that it can read, and what makes no
difference to it. It picks nothing exactly if no bid is eligible, and else the first of the
eligible bids with the highest amount. Lists with the same eligible bids, in the same order,
have the same winner, whatever else is in them. The winner stands if another bid gives way to
one that is not eligible or is below the winning amount. And in any other order the winning
amount is the same, as is the winner if no other bid has its amount. -/
theorem pickHighest_stable (startingPrice : ℤ) (bids : List EncryptedBidRecord)
    (numeric : ∀ bid ∈ bids, bid.Numeric) :
    ∃ picked, pickHighestLocalPrototypeEncryptedBid bids startingPrice = .ok picked ∧
      (picked = none ↔ ∀ bid ∈ bids, ∀ amount, ¬ bid.Eligible startingPrice amount) ∧
      (∀ winner, picked = some winner ↔
        ∃ place highest, Foremost (eligibleAmount startingPrice) bids place winner highest) ∧
      (∀ others : List EncryptedBidRecord, (∀ bid ∈ others, bid.Numeric) →
        (others.filter fun bid => (bid.eligibleAmount startingPrice).isSome) =
          (bids.filter fun bid => (bid.eligibleAmount startingPrice).isSome) →
        pickHighestLocalPrototypeEncryptedBid others startingPrice = .ok picked) ∧
      (∀ place winner highest, Foremost (eligibleAmount startingPrice) bids place winner highest →
        ∀ other ≠ place, ∀ replacement : EncryptedBidRecord, ∀ amount,
          decodeLocalPrototypeEncryptedNumeric replacement.encryptedBid = .ok amount →
          ¬ replacement.Eligible startingPrice amount ∨ amount < highest →
          pickHighestLocalPrototypeEncryptedBid (bids.set other replacement) startingPrice = .ok picked) ∧
      ∀ others : List EncryptedBidRecord, others.Perm bids →
        ∃ other, pickHighestLocalPrototypeEncryptedBid others startingPrice = .ok other ∧
          other.bind (eligibleAmount startingPrice) = picked.bind (eligibleAmount startingPrice) ∧
          ∀ winner highest, picked = some winner → winner.Eligible startingPrice highest →
            (∀ bid ∈ bids, bid.Eligible startingPrice highest → bid = winner) → other = some winner := by
  have amounts : ∀ list : List EncryptedBidRecord,
      ((foremost (eligibleAmount startingPrice) list).map Prod.fst).bind (eligibleAmount startingPrice) =
        (foremost (eligibleAmount startingPrice) list).map Prod.snd := by
    intro list
    cases found : foremost (eligibleAmount startingPrice) list with
    | none => rfl
    | some best =>
      obtain ⟨place, leads⟩ := foremost_eq_some.mp found
      exact leads.scored
  refine ⟨_, pickHighest_foremost numeric, ?_, ?_, ?_, ?_, ?_⟩
  · rw [Option.map_eq_none_iff, foremost_eq_none]
    exact forall₂_congr fun bid _ => eligibleAmount_eq_none
  · intro winner
    rw [Option.map_eq_some_iff]
    constructor
    · rintro ⟨⟨leader, highest⟩, found, rfl⟩
      obtain ⟨place, leads⟩ := foremost_eq_some.mp found
      exact ⟨place, highest, leads⟩
    · rintro ⟨place, highest, leads⟩
      exact ⟨(winner, highest), foremost_eq_some.mpr ⟨place, leads⟩, rfl⟩
  · intro others readable same
    rw [pickHighest_foremost readable, ← foremost_filter _ others, same, foremost_filter]
  · intro place winner highest leads other elsewhere replacement amount decoded worse
    have lower : ∀ own, replacement.eligibleAmount startingPrice = some own → own < highest := by
      intro own scored
      have eligible := eligibleAmount_eq_some.mp scored
      obtain rfl := Except.ok.inj (eligible.1.symm.trans decoded)
      exact worse.resolve_left (not_not_intro eligible)
    have readable : ∀ bid ∈ bids.set other replacement, bid.Numeric := by
      intro bid member
      rcases List.mem_or_eq_of_mem_set member with kept | rfl
      · exact numeric bid kept
      · exact ⟨amount, decoded⟩
    rw [pickHighest_of_leads readable (leads.set elsewhere lower), foremost_eq_some.mpr ⟨place, leads⟩]
    rfl
  · intro others same
    have readable : ∀ bid ∈ others, bid.Numeric := fun bid member => numeric bid (same.mem_iff.mp member)
    refine ⟨_, pickHighest_foremost readable, ?_, ?_⟩
    · rw [amounts, amounts]
      exact foremost_perm same
    · intro winner highest won eligible sole
      have top : (foremost (eligibleAmount startingPrice) others).map Prod.snd = some highest := by
        rw [foremost_perm same, ← amounts, won]
        exact eligibleAmount_eq_some.mpr eligible
      obtain ⟨⟨leader, _⟩, found, rfl⟩ := Option.map_eq_some_iff.mp top
      obtain ⟨place, leads⟩ := foremost_eq_some.mp found
      have own := sole leader (same.mem_iff.mp leads.mem) (eligibleAmount_eq_some.mp leads.scored)
      rw [found, ← own]
      rfl

/-- Two bids of sixty, one of them shielded, and a higher one without the escrow. -/
def tiedBids : List EncryptedBidRecord :=
  [{ bidder := .account 7, encryptedBid := .hash (CofheCiphertextEncoding.encodeEuint96 90), availableEscrow := 80 },
    { bidder := .account 8, encryptedBid := .hash (CofheCiphertextEncoding.encodeEuint32 60), availableEscrow := 60 },
    { bidder := .hash 9, encryptedBid := .hash (CofheCiphertextEncoding.encodeEuint96 60), availableEscrow := 100,
      isShielded := true }]

/-- The first of the two wins, and without the higher one too. -/
theorem pickHighest_stable_tied :
    ∃ picked, pickHighestLocalPrototypeEncryptedBid tiedBids 10 = .ok picked ∧
      picked.map EncryptedBidRecord.bidder = some (.account 8) ∧
      pickHighestLocalPrototypeEncryptedBid (tiedBids.drop 1) 10 = .ok picked := by
  have numeric : ∀ bid ∈ tiedBids, bid.Numeric := by
    refine List.forall_mem_cons.mpr ⟨⟨90, ?_⟩, List.forall_mem_cons.mpr ⟨⟨60, ?_⟩, List.forall_mem_cons.mpr
      ⟨⟨60, ?_⟩, List.forall_mem_nil _⟩⟩⟩
    all_goals exact decode_hash_ok.mpr (by decide +kernel)
  obtain ⟨picked, picks, -, -, same, -⟩ := pickHighest_stable 10 tiedBids numeric
  have first := same (tiedBids.drop 1) (fun bid member => numeric bid (List.mem_of_mem_drop member))
    (by decide +kernel)
  have known : (foremost (eligibleAmount 10) tiedBids).map Prod.fst = tiedBids[1]? := by decide +kernel
  have won := Except.ok.inj (picks.symm.trans (pickHighest_foremost numeric))
  refine ⟨picked, picks, ?_, first⟩
  rw [won, known]
  rfl

end Keeper

end FairMarket
