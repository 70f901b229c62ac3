import Mathlib
import Regenesis.Proofs.Stake.Reordering
import Regenesis.Proofs.Assembly.Success
import Regenesis.Proofs.Address.Checksum

/-!
# Proofs.Stake.InitialValidators — who validates first

A height belongs to one round, and what was recorded two rounds before decides: of the delegates of
its first record, banned ones do not count at all, and of the others the ones with the lowest
addresses are taken, in ascending order. This is said without a sort and without a search
(`IsSelection`, `IsFirstFor`), and it determines who is taken: whoever is taken of few places is
taken of more, and in the same place.

* `Stake.roundOf_eq_ok_iff` — the round of a height.
* `Stake.IsSelection.isPrefix` — a longer selection goes on where a shorter one ends.
* `Stake.genesisData_selects` — the initial validators are the selection, or the record is missing,
  or the number of its round has too many digits.
-/

namespace Regenesis.Genesis.Stake

open Record Outcome

-- ---------------------------------------------------------------------------
-- Rounds
-- ---------------------------------------------------------------------------

/-- Whether a height lies in a round: behind the end of the round before, and not behind its own. -/
def IsRoundOf (height length round : Int) : Prop :=
  (round - 1) * length < height ∧ height ≤ round * length

variable {height length round : Int}

/-- No height lies in two rounds. -/
theorem IsRoundOf.unique {round' : Int} (hlength : 1 ≤ length) (h : IsRoundOf height length round)
    (h' : IsRoundOf height length round') : round = round' := by
  have hlt : round - 1 < round' := lt_of_mul_lt_mul_right (h.1.trans_le h'.2) (by omega)
  have hlt' : round' - 1 < round := lt_of_mul_lt_mul_right (h'.1.trans_le h.2) (by omega)
  omega

/-- Rounding up the height divided by the length of a round gives the round of the height. -/
theorem isRoundOf_neg_ediv (hlength : 1 ≤ length) :
    IsRoundOf height length (-(-height / length)) := by
  have hlow : -height / length * length ≤ -height := Int.ediv_mul_le _ (by omega)
  have hhigh : -height < (-height / length + 1) * length :=
    Int.lt_ediv_add_one_mul_self _ (by omega)
  constructor <;> linarith

theorem roundOf_eq_ok_iff (hlength : 1 ≤ length) :
    roundOf height length = .ok round ↔ IsRoundOf height length round := by
  rw [roundOf_eq_ok, and_iff_right (by omega)]
  constructor
  · rintro rfl
    exact isRoundOf_neg_ediv hlength
  · exact fun h => h.unique hlength (isRoundOf_neg_ediv hlength)

-- ---------------------------------------------------------------------------
-- Recorded rounds
-- ---------------------------------------------------------------------------

variable {weights : VoteWeights} {entry : VoteWeight}

/-- Whether an entry is the first that is recorded for a round. -/
def IsFirstFor (weights : VoteWeights) (round : Int) (entry : VoteWeight) : Prop :=
  ∃ before after, weights.rounds = before ++ entry :: after ∧ entry.round = round ∧
    ∀ earlier ∈ before, earlier.round ≠ round

/-- Whether no delegates are recorded for a round: no entry is, or the first one has none. -/
def IsMissing (weights : VoteWeights) (round : Int) : Prop :=
  (∀ entry ∈ weights.rounds, entry.round ≠ round) ∨
    ∃ entry, IsFirstFor weights round entry ∧ entry.delegates = []

theorem forRound_eq_some_iff :
    weights.forRound round = some entry ↔ IsFirstFor weights round entry := by
  simp only [VoteWeights.forRound, List.find?_eq_some_iff_append, beq_iff_eq, Bool.not_eq_true',
    beq_eq_false_iff_ne, IsFirstFor]
  constructor
  · rintro ⟨hround, before, after, hrounds, hbefore⟩
    exact ⟨before, after, hrounds, hround, hbefore⟩
  · rintro ⟨before, after, hrounds, hround, hbefore⟩
    exact ⟨hround, before, after, hrounds, hbefore⟩

theorem forRound_eq_none_iff :
    weights.forRound round = none ↔ ∀ entry ∈ weights.rounds, entry.round ≠ round := by
  simp only [VoteWeights.forRound, List.find?_eq_none, beq_iff_eq]

theorem isMissing_iff :
    IsMissing weights round ↔
      ∀ entry, IsFirstFor weights round entry → entry.delegates = [] := by
  rw [IsMissing, ← forRound_eq_none_iff]
  simp only [← forRound_eq_some_iff]
  cases weights.forRound round with
  | none => exact ⟨fun _ => nofun, fun _ => Or.inl rfl⟩
  | some first =>
    constructor
    · rintro (h | ⟨_, hfirst, hnil⟩) entry hentry
      · exact nomatch h
      · rwa [Option.some.inj (hentry.symm.trans hfirst)]
    · exact fun h => Or.inr ⟨first, rfl, h first rfl⟩

theorem IsFirstFor.mem (h : IsFirstFor weights round entry) : entry ∈ weights.rounds := by
  obtain ⟨before, after, hrounds, -⟩ := h
  rw [hrounds]
  exact List.mem_append_right _ List.mem_cons_self

theorem exists_isFirstFor (h : ¬ IsMissing weights round) :
    ∃ entry, IsFirstFor weights round entry ∧ entry.delegates ≠ [] := by
  rw [isMissing_iff] at h
  push Not at h
  exact h

variable {n : Network}

theorem topDelegates_of_isFirstFor (hfirst : IsFirstFor weights round entry)
    (hne : entry.delegates ≠ []) : topDelegates weights round = .ok entry.delegates :=
  topDelegates_eq_ok.2 ⟨entry, forRound_eq_some_iff.2 hfirst, rfl, hne⟩

/-- Missing delegates are told by the number of their round. -/
theorem topDelegates_of_isMissing (hmissing : IsMissing weights round)
    (hfits : Decimal.fits round = true) :
    topDelegates weights round = .error (.history (.topDelegates (Decimal.ofInt round))) := by
  rw [isMissing_iff] at hmissing
  unfold topDelegates
  split
  · rename_i d rest hrecorded
    cases hmissing _ (forRound_eq_some_iff.1 hrecorded)
  · rw [Decimal.writeText_of_fits hfits, ok_bind]

-- ---------------------------------------------------------------------------
-- The selection
-- ---------------------------------------------------------------------------

/-- Whether byte strings are the least ones of a collection, in ascending order: `count` of them, or
all if there are not so many. -/
structure IsSelection (taken : List Octets) (all : Multiset Octets) (count : Nat) : Prop where
  ascending : taken.Pairwise (· ≤ ·)
  length_eq : taken.length = min count all.card
  least : ∃ left : Multiset Octets, all = ↑taken + left ∧ ∀ a ∈ taken, ∀ b ∈ left, a ≤ b

variable {taken taken' : List Octets} {all : Multiset Octets} {count count' : Nat}

theorem isSelection_take (xs : List Octets) (count : Nat) :
    IsSelection ((xs.mergeSort Octets.le).take count) ↑xs count := by
  have hsorted : (xs.mergeSort Octets.le).Pairwise (· ≤ ·) :=
    (List.pairwise_mergeSort Octets.le_trans Octets.le_total xs).imp Octets.le_iff.1
  have hsplit := List.take_append_drop count (xs.mergeSort Octets.le)
  rw [← hsplit] at hsorted
  obtain ⟨htaken, -, hleft⟩ := List.pairwise_append.1 hsorted
  refine ⟨htaken, ?_, ↑((xs.mergeSort Octets.le).drop count), ?_, hleft⟩
  · rw [List.length_take, List.length_mergeSort, Multiset.coe_card]
  · rw [Multiset.coe_add, hsplit, Multiset.coe_eq_coe]
    exact (List.mergeSort_perm xs Octets.le).symm

/-- A selection begins the one ascending list of all. -/
theorem IsSelection.exists_sorted (h : IsSelection taken all count) :
    ∃ sorted : List Octets, taken <+: sorted ∧ sorted.Pairwise (· ≤ ·) ∧ ↑sorted = all := by
  obtain ⟨left, hall, hleft⟩ := h.least
  have hperm := List.mergeSort_perm left.toList Octets.le
  refine ⟨taken ++ left.toList.mergeSort Octets.le, List.prefix_append _ _, ?_, ?_⟩
  · refine List.pairwise_append.2 ⟨h.ascending, ?_, fun a ha b hb => ?_⟩
    · exact (List.pairwise_mergeSort Octets.le_trans Octets.le_total _).imp Octets.le_iff.1
    · exact hleft a ha b (Multiset.mem_toList.1 (hperm.mem_iff.1 hb))
  · rw [← Multiset.coe_add, Multiset.coe_eq_coe.2 hperm, Multiset.coe_toList, hall]

/-- **Selection.** A selection of more goes on where one of less ends. -/
theorem IsSelection.isPrefix (h : IsSelection taken all count)
    (h' : IsSelection taken' all count') (hle : count ≤ count') : taken <+: taken' := by
  obtain ⟨sorted, hprefix, hsorted, hall⟩ := h.exists_sorted
  obtain ⟨sorted', hprefix', hsorted', hall'⟩ := h'.exists_sorted
  -- both begin the same list, since equal byte strings cannot be told apart
  obtain rfl : sorted = sorted' :=
    (Multiset.coe_eq_coe.1 (hall.trans hall'.symm)).eq_of_pairwise
      (fun _ _ _ _ => List.le_antisymm) hsorted hsorted'
  refine List.prefix_of_prefix_length_le hprefix hprefix' ?_
  rw [h.length_eq, h'.length_eq]
  exact min_le_min_right _ hle

/-- There is one selection of each number. -/
theorem IsSelection.unique (h : IsSelection taken all count) (h' : IsSelection taken' all count) :
    taken = taken' :=
  (h.isPrefix h' le_rfl).eq_of_length (h.length_eq.trans h'.length_eq.symm)

-- ---------------------------------------------------------------------------
-- Who can be selected
-- ---------------------------------------------------------------------------

variable {accounts : List Account}

/-- Whether an address is the one of a banned account. -/
def IsBanned (accounts : List Account) (b : Octets) : Prop :=
  ∃ a ∈ accounts, a.address = b ∧ a.dpos.delegate.isBanned = true

instance (accounts : List Account) (b : Octets) : Decidable (IsBanned accounts b) :=
  inferInstanceAs (Decidable (∃ a ∈ accounts, _))

/-- The addresses of recorded delegates, as often as they are recorded, without the banned ones. -/
def electorate (accounts : List Account) (entry : VoteWeight) : Multiset Octets :=
  (Multiset.ofList (entry.delegates.map DelegateWeight.address)).filter
    fun b => ¬ IsBanned accounts b

theorem mem_bannedAddresses {b : Octets} : b ∈ bannedAddresses accounts ↔ IsBanned accounts b := by
  rw [bannedAddresses, List.mem_map]
  exact exists_congr fun a => by rw [List.mem_filter, and_assoc, and_comm (a := a.address = b)]

theorem electorate_eq (accounts : List Account) (entry : VoteWeight) :
    electorate accounts entry = ↑(eligible accounts entry.delegates) := by
  rw [electorate, Multiset.filter_coe, eligible]
  congr 1
  refine List.filter_congr fun b _ => ?_
  rw [List.contains_eq_mem, decide_not, decide_eq_decide.2 mem_bannedAddresses]

/-- The initial validators are a selection of the recorded delegates that are not banned. -/
theorem isSelection_initialValidators (accounts : List Account) (entry : VoteWeight) {max : Int}
    (hmax : 0 ≤ max) :
    IsSelection (initialValidators accounts entry.delegates max) (electorate accounts entry)
      max.toNat := by
  rw [initialValidators_eq_eligible, takeFirst, if_pos hmax, electorate_eq]
  exact isSelection_take _ _

/-- No banned delegate is selected. -/
theorem not_isBanned_of_mem (h : IsSelection taken (electorate accounts entry) count) {b : Octets}
    (hb : b ∈ taken) : ¬ IsBanned accounts b := by
  obtain ⟨left, hall, -⟩ := h.least
  have hmem : b ∈ electorate accounts entry := by
    rw [hall]
    exact Multiset.mem_add.2 (Or.inl (Multiset.mem_coe.2 hb))
  exact (Multiset.mem_filter.1 hmem).2

-- ---------------------------------------------------------------------------
-- The data of the new chain
-- ---------------------------------------------------------------------------

/-- Texts of accounts are read as the accounts. -/
theorem mapM_ofText_of_mapM_toText {label : String} {texts : List String}
    (hlabel : Bech32.IsLabel label.toList)
    (h : taken.mapM (Address.toText label) = .ok texts) :
    texts.mapM Address.ofText = .ok (taken.map fun b => (label, b)) := by
  rw [mapM_eq_ok, List.forall₂_map_right_iff]
  exact ((mapM_eq_ok.1 h).imp fun _ _ htext => Address.ofText_toText hlabel htext).flip

/-- A round whose number has too many digits is neither told by the failure nor by the log. -/
theorem genesisData_of_not_fits (accounts : List Account) (weights : VoteWeights)
    (hround : roundOf height n.roundLength = .ok round) (hfits : Decimal.fits (round - 2) = false) :
    genesisData accounts weights height n = .error (.value (.integer .tooLarge)) := by
  cases htop : topDelegates weights (round - 2) with
  | ok top =>
    rw [genesisData_of_topDelegates hround htop,
      Decimal.print_of_not_fits (List.mem_singleton.2 rfl) hfits, error_bind]
  | error e =>
    rw [genesisData_of_topDelegates_error hround htop]
    unfold topDelegates at htop
    split at htop
    · exact nomatch htop
    · rw [Decimal.writeText_of_not_fits hfits, error_bind] at htop
      exact congrArg Except.error (Except.error.inj htop).symm

section
variable (hround : roundOf height n.roundLength = .ok round)
  (hfits : Decimal.fits (round - 2) = true)
include hround hfits

/-- What is recorded for its round decides who validates first. -/
theorem exists_genesisData_of_isFirstFor (accounts : List Account)
    (hmax : 0 ≤ n.maxInitValidators) (hfirst : IsFirstFor weights (round - 2) entry)
    (hne : entry.delegates ≠ [])
    (haddress : ∀ d ∈ entry.delegates, d.address.length = Address.length) :
    ∃ g taken, genesisData accounts weights height n = .ok g ∧
      taken.mapM (Address.toText n.addressLabel) = .ok g.initValidators ∧
      IsSelection taken (electorate accounts entry) n.maxInitValidators.toNat := by
  obtain ⟨g, hg⟩ : ∃ g, genesisData accounts weights height n = .ok g :=
    exists_genesisData hround hfits (forRound_eq_some_iff.2 hfirst) hne haddress
  have hdata := hg
  rw [genesisData_of_topDelegates hround (topDelegates_of_isFirstFor hfirst hne)] at hdata
  obtain ⟨_, -, hdata⟩ := bind_eq_ok.1 hdata
  obtain ⟨texts, htexts, rfl⟩ := bind_pure_eq_ok.1 hdata
  exact ⟨_, _, hg, htexts, isSelection_initialValidators accounts entry hmax⟩

/-- Without a record, the failure names the missing round. -/
theorem genesisData_of_isMissing (accounts : List Account)
    (hmissing : IsMissing weights (round - 2)) :
    genesisData accounts weights height n =
      .error (.history (.topDelegates (Decimal.ofInt (round - 2)))) :=
  genesisData_of_topDelegates_error hround (topDelegates_of_isMissing hmissing hfits)

/-- History is missing exactly where no delegates are recorded. -/
theorem exists_history_iff (hmax : 0 ≤ n.maxInitValidators)
    (haddress : ∀ entry ∈ weights.rounds, ∀ d ∈ entry.delegates,
      d.address.length = Address.length) :
    (∃ fault, genesisData accounts weights height n = .error (.history fault)) ↔
      IsMissing weights (round - 2) := by
  constructor
  · rintro ⟨fault, hfault⟩
    by_contra hrecorded
    obtain ⟨entry, hfirst, hne⟩ := exists_isFirstFor hrecorded
    obtain ⟨g, _, hg, -⟩ := exists_genesisData_of_isFirstFor hround hfits accounts hmax hfirst hne
      (haddress entry hfirst.mem)
    exact nomatch hfault.symm.trans hg
  · exact fun hmissing => ⟨_, genesisData_of_isMissing hround hfits accounts hmissing⟩

/-- Raising the number of places leaves who had one in theirs. -/
theorem initValidators_isPrefix {g : GenesisData} {max : Int} (hmax : 0 ≤ n.maxInitValidators)
    (hle : n.maxInitValidators ≤ max) (hfirst : IsFirstFor weights (round - 2) entry)
    (hne : entry.delegates ≠ [])
    (haddress : ∀ d ∈ entry.delegates, d.address.length = Address.length)
    (htexts : taken.mapM (Address.toText n.addressLabel) = .ok g.initValidators)
    (hselection : IsSelection taken (electorate accounts entry) n.maxInitValidators.toNat) :
    ∃ g', genesisData accounts weights height { n with maxInitValidators := max } = .ok g' ∧
      g.initValidators <+: g'.initValidators := by
  obtain ⟨g', taken', hg', htexts', hselection'⟩ := exists_genesisData_of_isFirstFor
    (n := { n with maxInitValidators := max }) hround hfits accounts (hmax.trans hle) hfirst hne
    haddress
  obtain ⟨more, rfl⟩ := hselection.isPrefix hselection' (Int.toNat_le_toNat hle)
  refine ⟨g', hg', ?_⟩
  rw [List.mapM_append, htexts, ok_bind] at htexts'
  obtain ⟨texts, -, hall⟩ := bind_eq_ok.1 htexts'
  exact ⟨texts, Except.ok.inj hall⟩

end

/-- **Initial validators.** A height lies in one round `r`. Where `r - 2` can be written, as it can
at every height that can be written, the initial validators are missing exactly if no delegates are
recorded for that round, which the failure then names. Otherwise they are the selection of the
recorded delegates that are not banned, read from their texts. So a banned one takes nobody's place,
one without an account has a place, and more places only append. Where `r - 2` has too many digits,
the round cannot be named, whether it is recorded or not. -/
theorem genesisData_selects (accounts : List Account) (hzero : 0 ≤ height)
    (hlength : 1 ≤ n.roundLength) (hmax : 0 ≤ n.maxInitValidators)
    (hlabel : Bech32.IsLabel n.addressLabel.toList)
    (haddress : ∀ entry ∈ weights.rounds, ∀ d ∈ entry.delegates,
      d.address.length = Address.length) :
    ∃ r, (∀ r', IsRoundOf height n.roundLength r' ↔ r' = r) ∧
      (Decimal.fits height = true → Decimal.fits (r - 2) = true) ∧
      (Decimal.fits (r - 2) = true →
        ((∃ fault, genesisData accounts weights height n = .error (.history fault)) ↔
          IsMissing weights (r - 2)) ∧
        (IsMissing weights (r - 2) → genesisData accounts weights height n =
          .error (.history (.topDelegates (Decimal.ofInt (r - 2))))) ∧
        (¬ IsMissing weights (r - 2) →
          ∃ entry g taken, IsFirstFor weights (r - 2) entry ∧
            genesisData accounts weights height n = .ok g ∧
            g.initValidators.mapM Address.ofText = .ok (taken.map fun b => (n.addressLabel, b)) ∧
            IsSelection taken (electorate accounts entry) n.maxInitValidators.toNat ∧
            (∀ b ∈ taken, ¬ IsBanned accounts b) ∧
            (∀ d ∈ entry.delegates, (∀ a ∈ accounts, a.address ≠ d.address) →
              d.address ∈ electorate accounts entry) ∧
            ∀ max, n.maxInitValidators ≤ max → ∃ g',
              genesisData accounts weights height { n with maxInitValidators := max } = .ok g' ∧
              g.initValidators <+: g'.initValidators)) ∧
      (Decimal.fits (r - 2) = false →
        genesisData accounts weights height n = .error (.value (.integer .tooLarge))) := by
  obtain ⟨r, hround⟩ : ∃ r, roundOf height n.roundLength = .ok r :=
    ⟨_, (roundOf_eq_ok_iff hlength).2 (isRoundOf_neg_ediv hlength)⟩
  have hr := (roundOf_eq_ok_iff hlength).1 hround
  refine ⟨r, fun r' => ⟨fun h => h.unique hlength hr, fun h => h ▸ hr⟩,
    fits_of_roundOf hzero hround, fun hfits => ⟨exists_history_iff hround hfits hmax haddress,
      genesisData_of_isMissing hround hfits accounts, fun hrecorded => ?_⟩,
    genesisData_of_not_fits accounts weights hround⟩
  -- a round that is not missing has a first record, and delegates in it
  obtain ⟨entry, hfirst, hne⟩ := exists_isFirstFor hrecorded
  have hlengths := haddress entry hfirst.mem
  obtain ⟨g, taken, hg, htexts, hselection⟩ :=
    exists_genesisData_of_isFirstFor hround hfits accounts hmax hfirst hne hlengths
  refine ⟨entry, g, taken, hfirst, hg, mapM_ofText_of_mapM_toText hlabel htexts, hselection,
    fun b => not_isBanned_of_mem hselection, fun d hd hno => ?_, fun max hle => ?_⟩
  · refine Multiset.mem_filter.2 ⟨Multiset.mem_coe.2 (List.mem_map_of_mem hd), ?_⟩
    rintro ⟨a, ha, heq, -⟩
    exact hno a ha heq
  · exact initValidators_isPrefix hround hfits hmax hle hfirst hne hlengths htexts hselection

/-- A delegate that is banned. -/
def bannedDelegate (address : Octets) : Account :=
  ⟨address, ⟨0⟩, ⟨0⟩, ⟨[], [], 0⟩, ⟨{ DelegateAccount.none with isBanned := true }, [], []⟩⟩

/-- A round that is recorded twice, the second time without delegates. -/
def recordedTwice : VoteWeights :=
  ⟨[⟨0, [3, 1, 4, 2].map fun b => ⟨Token.repeated b, 5⟩⟩, ⟨0, []⟩]⟩

/-- Two places at the end of the second round, where the delegate with the lowest address is banned.
With the next height, another round is asked for, which is missing. -/
theorem genesisData_selects_unbanned :
    (∃ g, genesisData [bannedDelegate (Token.repeated 1)] recordedTwice 206
        { Network.mainnet with maxInitValidators := 2 } = .ok g ∧
      g.initValidators.mapM Address.ofText =
        .ok [("lsk", Token.repeated 2), ("lsk", Token.repeated 3)]) ∧
    ∃ fault, genesisData [bannedDelegate (Token.repeated 1)] recordedTwice 207
      { Network.mainnet with maxInitValidators := 2 } = .error (.history fault) := by
  have hlengths : ∀ entry ∈ recordedTwice.rounds, ∀ d ∈ entry.delegates,
      d.address.length = Address.length := by decide
  constructor
  · obtain ⟨r, hr, hfits, hnamed, -⟩ := genesisData_selects
      (n := { Network.mainnet with maxInitValidators := 2 })
      [bannedDelegate (Token.repeated 1)] (show (0 : Int) ≤ 206 by decide) (by decide) (by decide)
      (by decide +kernel) hlengths
    -- 206 belongs to round 2, so the delegates of round 0 are the ones taken
    obtain rfl : 2 = r := (hr 2).1 (by unfold IsRoundOf; decide)
    obtain ⟨-, -, hselects⟩ := hnamed (hfits (by decide))
    have hfirst : IsFirstFor recordedTwice (2 - 2) (recordedTwice.rounds.head (by decide)) :=
      forRound_eq_some_iff.1 (by decide)
    obtain ⟨entry, g, taken, hentry, hg, htexts, hselection, -⟩ := hselects fun hmissing =>
      absurd (isMissing_iff.1 hmissing _ hfirst) (by decide)
    obtain rfl : entry = recordedTwice.rounds.head (by decide) := Option.some.inj
      ((forRound_eq_some_iff.2 hentry).symm.trans (forRound_eq_some_iff.2 hfirst))
    -- without the one that is banned, two of the other three
    have htwo : IsSelection [Token.repeated 2, Token.repeated 3]
        (electorate [bannedDelegate (Token.repeated 1)] (recordedTwice.rounds.head (by decide)))
        2 := ⟨by decide, by decide, {Token.repeated 4}, by decide, by decide⟩
    obtain rfl := hselection.unique htwo
    exact ⟨g, hg, htexts⟩
  · obtain ⟨r, hr, hfits, hnamed, -⟩ := genesisData_selects
      (n := { Network.mainnet with maxInitValidators := 2 })
      [bannedDelegate (Token.repeated 1)] (show (0 : Int) ≤ 207 by decide) (by decide) (by decide)
      (by decide +kernel) hlengths
    -- one height later it is round 3, and nothing is recorded for round 1
    obtain rfl : 3 = r := (hr 3).1 (by unfold IsRoundOf; decide)
    exact (hnamed (hfits (by decide))).1.2 (Or.inl (by decide))

/-- A network whose rounds have one block. -/
def shortRounds : Network := { Network.mainnet with roundLength := 1 }

/-- The height in rounds of one block for which the least round with too many digits is asked. -/
def overlongHeight : Int := (10 ^ Decimal.maxDigits : Nat) + 2

/-- No round is recorded, and the failure at this height is not that history is missing. -/
theorem genesisData_at_overlongHeight :
    0 ≤ overlongHeight ∧ IsRoundOf overlongHeight shortRounds.roundLength overlongHeight ∧
      IsMissing ⟨[]⟩ (overlongHeight - 2) ∧
      ∀ fault, genesisData [] ⟨[]⟩ overlongHeight shortRounds ≠ .error (.history fault) := by
  have hfits : Decimal.fits (overlongHeight - 2) = false := by
    refine Decimal.fits_eq_false ?_
    rw [overlongHeight, add_sub_cancel_right, Int.natAbs_natCast]
  have hround : IsRoundOf overlongHeight shortRounds.roundLength overlongHeight := by
    have hlength : shortRounds.roundLength = 1 := rfl
    rw [hlength, IsRoundOf, mul_one, mul_one]
    omega
  have hdata := genesisData_of_not_fits [] ⟨[]⟩
    ((roundOf_eq_ok_iff (by decide)).2 hround) hfits
  have hzero : 0 ≤ overlongHeight := add_nonneg (Int.natCast_nonneg _) (by decide)
  refine ⟨hzero, hround, Or.inl nofun, fun fault h => ?_⟩
  exact nomatch hdata.symm.trans h

end Regenesis.Genesis.Stake
