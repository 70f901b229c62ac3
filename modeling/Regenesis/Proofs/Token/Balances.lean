import Mathlib
import Regenesis.Genesis.Token
import Regenesis.Proofs.Address
import Regenesis.Proofs.Amount
import Regenesis.Proofs.Decimal
import Regenesis.Proofs.Outcome

/-!
# Proofs.Token.Balances — what the entries of the token module say

The users are the accounts other than the reserve, and the reserve. An entry prints what its user
holds, so that reading the printed amounts gives the amounts again. `data_eq_ok` says what data
are handed on, and `data_of_prints` what becomes of balances that can be printed: they are handed on
if they add up to the supply, and refused otherwise.
-/

namespace Regenesis.Genesis.Token

open Record

-- ---------------------------------------------------------------------------
-- Amounts as texts
-- ---------------------------------------------------------------------------

/-- Texts that can all be read add up to the sum of their numbers. -/
theorem sumTexts_of_mapM {texts : List String} {ns : List Int}
    (h : texts.mapM Decimal.readText = .ok ns) : sumTexts texts = .ok (Amount.sumInt ns) := by
  rw [sumTexts, h]
  rfl

/-- Printed amounts add up to what they stand for. -/
theorem sumTexts_map_ofInt {α : Type} (f : α → Int) {xs : List α}
    (h : ∀ x ∈ xs, Decimal.fits (f x) = true) :
    sumTexts (xs.map fun x => Decimal.ofInt (f x)) = .ok (Amount.sumInt (xs.map f)) := by
  refine sumTexts_of_mapM ?_
  rw [Outcome.mapM_eq_ok, List.forall₂_map_left_iff, List.forall₂_map_right_iff, List.forall₂_same]
  exact fun x hx => Decimal.readText_ofInt (h x hx)

/-- What a pass writes of its items adds up to what they amount to. -/
theorem sumTexts_of_writeText {α β : Type} {f : α → Except Failure β} {amount : α → Int}
    {text : β → String} {xs : List α} {ys : List β} (h : xs.mapM f = .ok ys)
    (hf : ∀ x y, f x = .ok y → Decimal.writeText (amount x) = .ok (text y)) :
    sumTexts (ys.map text) = .ok (Amount.sumInt (xs.map amount)) := by
  refine sumTexts_of_mapM ?_
  rw [Outcome.mapM_eq_ok, List.forall₂_map_left_iff, List.forall₂_map_right_iff]
  exact ((Outcome.mapM_eq_ok.1 h).imp fun x y hxy =>
    Decimal.readText_of_writeText (hf x y hxy)).flip

/-- The sum of two lists of texts is the sum of their sums. -/
theorem sumTexts_append {xs ys : List String} {m n : Int} (hx : sumTexts xs = .ok m)
    (hy : sumTexts ys = .ok n) : sumTexts (xs ++ ys) = .ok (m + n) := by
  obtain ⟨ms, hms, hm⟩ := Outcome.bind_eq_ok.1 hx
  obtain ⟨ns, hns, hn⟩ := Outcome.bind_eq_ok.1 hy
  rw [← Except.ok.inj hm, ← Except.ok.inj hn, ← Amount.sumInt_append]
  refine sumTexts_of_mapM ?_
  rw [List.mapM_append, hms, hns]
  rfl

/-- Amounts that add up to something do so in every part. -/
theorem sumTexts_append_eq_ok {xs ys : List String} {n : Int} :
    sumTexts (xs ++ ys) = .ok n ↔
      ∃ k m, sumTexts xs = .ok k ∧ sumTexts ys = .ok m ∧ n = k + m := by
  constructor
  · intro h
    obtain ⟨ns, hns, rfl⟩ := Outcome.bind_pure_eq_ok.1 h
    rw [List.mapM_append] at hns
    obtain ⟨ks, hks, hns⟩ := Outcome.bind_eq_ok.1 hns
    obtain ⟨ms, hms, hns⟩ := Outcome.bind_eq_ok.1 hns
    refine ⟨_, _, sumTexts_of_mapM hks, sumTexts_of_mapM hms, ?_⟩
    rw [← Except.ok.inj hns, Amount.sumInt_append]
  · rintro ⟨k, m, hk, hm, rfl⟩
    exact sumTexts_append hk hm

theorem sumTexts_singleton {s : String} {n : Int} :
    sumTexts [s] = .ok n ↔ Decimal.readText s = .ok n := by
  rw [sumTexts, List.mapM_cons, List.mapM_nil]
  cases Decimal.readText s with
  | error e => exact iff_of_false nofun nofun
  | ok k => exact iff_of_eq (congrArg (fun m => Except.ok m = Except.ok n) (add_zero k))

/-- The sum over groups of texts is the sum of the groups' sums. -/
theorem sumTexts_flatMap {α : Type} {f : α → List String} {xs : List α} {ns : List Int}
    (h : List.Forall₂ (fun x n => sumTexts (f x) = .ok n) xs ns) :
    sumTexts (xs.flatMap f) = .ok (Amount.sumInt ns) := by
  induction h with
  | nil => rfl
  | cons hxy _ ih =>
    rw [List.flatMap_cons, Amount.sumInt]
    exact sumTexts_append hxy ih

-- ---------------------------------------------------------------------------
-- Users
-- ---------------------------------------------------------------------------

/-- Those who hold the token: the accounts other than the reserve, and the reserve. -/
def holders (accounts : List Account) (legacyAmount : Int) (n : Network) : List UserBalance :=
  (accounts.filter fun a => addressText a != n.reserveAddress).map (userBalance n) ++
    [reserveBalance accounts legacyAmount n]

variable {accounts : List Account} {legacyAmount : Int} {n : Network}

/-- The holders are the accounts other than the reserve, and the reserve. -/
theorem mem_holders {u : UserBalance} :
    u ∈ holders accounts legacyAmount n ↔
      (∃ a ∈ accounts, addressText a ≠ n.reserveAddress ∧ userBalance n a = u) ∨
        u = reserveBalance accounts legacyAmount n := by
  simp only [holders, List.mem_append, List.mem_map, List.mem_filter, bne_iff_ne,
    List.mem_singleton, and_assoc]

theorem mem_sortLocks {l : Lock} {locks : List Lock} : l ∈ sortLocks locks ↔ l ∈ locks :=
  List.mem_mergeSort

/-- What holds of the balances and the votes of accounts, of nothing and of the legacy balances
holds of every amount that somebody has. -/
theorem forall_amounts_of_mem_holders {P : Int → Prop} (hzero : P 0)
    (haccounts : ∀ a ∈ accounts, P a.token.balance ∧ P a.lockedAmount) (hlegacy : P legacyAmount)
    {u : UserBalance} (hu : u ∈ holders accounts legacyAmount n) :
    P u.available ∧ ∀ l ∈ u.locked, P l.2 := by
  have hvotes : ∀ a ∈ accounts, ∀ l ∈ voteLocks a, P l.2 := by
    intro a ha l hl
    rw [voteLocks] at hl
    split at hl
    · rw [List.mem_singleton.1 hl]
      exact (haccounts a ha).2
    · simp at hl
  -- an account of its own, or the reserve with whatever it held before
  rcases mem_holders.1 hu with ⟨a, ha, -, rfl⟩ | rfl
  · exact ⟨(haccounts a ha).1, hvotes a ha⟩
  · unfold reserveBalance
    simp only [mem_sortLocks]
    cases hfind : accounts.find? fun a => addressText a == n.reserveAddress with
    | none =>
      refine ⟨hzero, fun l hl => ?_⟩
      rw [List.mem_singleton.1 hl]
      exact hlegacy
    | some a =>
      have ha := List.mem_of_find?_eq_some hfind
      refine ⟨(haccounts a ha).1, fun l hl => ?_⟩
      rcases List.mem_append.1 hl with hl | hl
      · exact hvotes a ha l hl
      · rw [List.mem_singleton.1 hl]
        exact hlegacy

/-- Only the token of the network is held. -/
theorem tokenId_of_mem_holders {u : UserBalance} (h : u ∈ holders accounts legacyAmount n) :
    u.tokenId = n.tokenId := by
  rcases mem_holders.1 h with ⟨a, -, -, rfl⟩ | rfl
  · rfl
  · rfl

/-- The entries are those of the holders, in another order. -/
theorem userBalances_perm {us : List UserBalance}
    (h : userBalances accounts legacyAmount n = .ok us) :
    us.Perm (holders accounts legacyAmount n) := by
  obtain ⟨places, hplaces, hus⟩ := Outcome.bind_eq_ok.1 h
  have hlength := (Outcome.mapM_eq_ok.1 hplaces).length_eq
  rw [← Except.ok.inj hus]
  refine ((List.mergeSort_perm _ _).map _).trans ?_
  rw [List.map_snd_zip hlength.le]
  exact List.Perm.refl _

/-- The holders can be put in order if the reserve and the token have hex texts. -/
theorem exists_userBalances {token reserve : Octets} (htoken : Hex.readText n.tokenId = .ok token)
    (hreserve : Hex.readText n.reserveAddress = .ok reserve) :
    ∃ us, userBalances accounts legacyAmount n = .ok us := by
  have hplace : ∀ u ∈ holders accounts legacyAmount n,
      u.place = .ok (((Hex.readText u.address).toOption.getD []), token) := by
    intro u hu
    have haddress : ∃ b, Hex.readText u.address = .ok b := by
      rcases mem_holders.1 hu with ⟨a, -, -, rfl⟩ | rfl
      · exact ⟨a.address, Hex.readText_encode a.address⟩
      · exact ⟨reserve, hreserve⟩
    obtain ⟨b, hb⟩ := haddress
    rw [UserBalance.place, hb, tokenId_of_mem_holders hu, htoken]
    rfl
  exact ⟨_, Outcome.bind_eq_ok.2 ⟨_, Outcome.mapM_eq_map hplace, rfl⟩⟩

-- ---------------------------------------------------------------------------
-- Entries
-- ---------------------------------------------------------------------------

/-- Whether the amounts of a balance can be printed. -/
def UserBalance.Prints (u : UserBalance) : Prop :=
  Decimal.fits u.available = true ∧ ∀ l ∈ u.locked, Decimal.fits l.2 = true

/-- The entry of a balance under a Bech32 address. -/
def UserBalance.printed (u : UserBalance) (address : String) : UserEntry :=
  ⟨address, u.tokenId, Decimal.ofInt u.available,
    (sortLocks u.locked).map fun l => ⟨l.1, Decimal.ofInt l.2⟩⟩

/-- A balance has an entry if its address has a text and its amounts can be written. -/
theorem UserBalance.entry_eq_ok {label : String} {u : UserBalance} {e : UserEntry} :
    u.entry label = .ok e ↔
      ∃ address, Address.hexToText label u.address = .ok address ∧ u.Prints ∧
        e = u.printed address := by
  constructor
  · intro h
    obtain ⟨address, haddress, h⟩ := Outcome.bind_eq_ok.1 h
    obtain ⟨available, havailable, h⟩ := Outcome.bind_eq_ok.1 h
    obtain ⟨locked, hlocked, h⟩ := Outcome.bind_eq_ok.1 h
    obtain ⟨hfits, rfl⟩ := Decimal.writeText_eq_ok.1 havailable
    -- the locks are printed in sorted order, but all of them are
    have hlocks : ∀ l ∈ u.locked, Decimal.fits l.2 = true := by
      intro l hl
      obtain ⟨p, -, hp⟩ := Outcome.exists_of_mem hlocked (mem_sortLocks.2 hl)
      obtain ⟨s, hs, -⟩ := Outcome.bind_eq_ok.1 hp
      exact (Decimal.writeText_eq_ok.1 hs).1
    refine ⟨address, haddress, ⟨hfits, hlocks⟩, ?_⟩
    rw [Outcome.mapM_eq_map (g := fun l => (⟨l.1, Decimal.ofInt l.2⟩ : LockedBalance))] at hlocked
    · rw [← Except.ok.inj h, ← Except.ok.inj hlocked]
      rfl
    · intro l hl
      rw [Decimal.writeText_of_fits (hlocks l (mem_sortLocks.1 hl))]
      rfl
  · rintro ⟨address, haddress, ⟨havailable, hlocked⟩, rfl⟩
    refine Outcome.bind_eq_ok.2 ⟨address, haddress, ?_⟩
    refine Outcome.bind_eq_ok.2 ⟨_, Decimal.writeText_of_fits havailable, ?_⟩
    refine Outcome.bind_eq_ok.2 ⟨_, Outcome.mapM_eq_map fun l hl => ?_, rfl⟩
    rw [Decimal.writeText_of_fits (hlocked l (mem_sortLocks.1 hl))]
    rfl

/-- The printed locks of an entry add up to what its user has locked. -/
theorem sumTexts_locks_printed {u : UserBalance} (h : u.Prints) (address : String) :
    sumTexts ((u.printed address).lockedBalances.map LockedBalance.amount) =
      .ok (Amount.sumInt (u.locked.map (·.2))) := by
  have hlocks := sumTexts_map_ofInt (fun l : Lock => l.2) fun l hl => h.2 l (mem_sortLocks.1 hl)
  rw [UserBalance.printed, List.map_map]
  refine hlocks.trans (congrArg _ ?_)
  exact Amount.sumInt_eq_of_perm ((List.mergeSort_perm _ _).map _)

/-- The printed amounts of an entry add up to what its user holds. -/
theorem sumTexts_amounts_printed {u : UserBalance} (h : u.Prints) (address : String) :
    sumTexts (u.printed address).amounts = .ok u.total := by
  have havailable := sumTexts_singleton.2 (Decimal.readText_ofInt h.1)
  exact sumTexts_append havailable (sumTexts_locks_printed h address)

/-- Entries with the balances that they print. -/
theorem sumTexts_amounts_entries {label : String} {us : List UserBalance} {es : List UserEntry}
    (h : us.mapM (UserBalance.entry label) = .ok es) :
    sumTexts (es.flatMap UserEntry.amounts) = .ok (Amount.sumInt (us.map UserBalance.total)) := by
  refine sumTexts_flatMap ?_
  rw [List.forall₂_map_right_iff]
  refine (Outcome.mapM_eq_ok.1 h).flip.imp fun e u hu => ?_
  obtain ⟨address, -, hprints, rfl⟩ := UserBalance.entry_eq_ok.1 hu
  exact sumTexts_amounts_printed hprints address

/-- All entries are about the one token. -/
theorem tokenId_of_mem_entries {us : List UserBalance} {es : List UserEntry}
    (hus : userBalances accounts legacyAmount n = .ok us)
    (hes : us.mapM (UserBalance.entry n.addressLabel) = .ok es) {e : UserEntry} (he : e ∈ es) :
    e.tokenId = n.tokenId := by
  obtain ⟨u, hu, hentry⟩ := Outcome.exists_of_mem_mapM hes he
  obtain ⟨address, -, -, rfl⟩ := UserBalance.entry_eq_ok.1 hentry
  exact tokenId_of_mem_holders ((userBalances_perm hus).mem_iff.1 hu)

-- ---------------------------------------------------------------------------
-- Data
-- ---------------------------------------------------------------------------

/-- Data of one token hold what the users' amounts add up to. -/
theorem held_of_tokenId {d : Data} {tokenId : String} (h : ∀ u ∈ d.users, u.tokenId = tokenId) :
    d.held tokenId = sumTexts (d.users.flatMap UserEntry.amounts) := by
  have hall : d.users.filter (fun u => u.tokenId == tokenId) = d.users :=
    List.filter_eq_self.2 fun u hu => beq_iff_eq.2 (h u hu)
  rw [Data.held, hall]

/-- What becomes of data of which the sum that is held can be written: they are passed if they
declare this supply and no other, and refused with both otherwise. -/
theorem verifySupply_of_fits {d : Data} {tokenId : String} {held : Int} {declared : List Int}
    (hheld : d.held tokenId = .ok held) (hdeclared : d.declared tokenId = .ok declared)
    (hfits : Decimal.fits held = true) :
    verifySupply d tokenId =
      if declared = [held] then .ok ()
      else .error (.supply tokenId (Decimal.ofInt held)
        ("[" ++ ", ".intercalate (declared.map Decimal.ofInt) ++ "]")) := by
  have htexts : declared.mapM Decimal.writeText = .ok (declared.map Decimal.ofInt) := by
    refine Outcome.mapM_eq_map fun m hm => ?_
    obtain ⟨s, -, hs⟩ := Outcome.exists_of_mem_mapM hdeclared hm
    exact Decimal.writeText_of_fits (Decimal.fits_of_readText hs)
  rw [verifySupply, hheld, hdeclared, Outcome.ok_bind, Outcome.ok_bind,
    Decimal.writeText_of_fits hfits, htexts]
  by_cases h : declared = [held]
  · rw [if_pos h, if_neg (not_not.2 h)]
    rfl
  · rw [if_neg h, if_pos h]
    rfl

/-- The supply that is declared is read back. -/
theorem declared_one {users : List UserEntry} {tokenId : String} {total : Int}
    (h : Decimal.fits total = true) :
    Data.declared ⟨users, [⟨tokenId, Decimal.ofInt total⟩], [], []⟩ tokenId = .ok [total] := by
  have hall : [(⟨tokenId, Decimal.ofInt total⟩ : SupplyEntry)].filter
      (fun s => s.tokenId == tokenId) = [⟨tokenId, Decimal.ofInt total⟩] :=
    List.filter_eq_self.2 fun s hs => by rw [List.mem_singleton.1 hs]; exact beq_self_eq_true _
  rw [Data.declared, hall, List.map_singleton, List.mapM_cons, Decimal.readText_ofInt h]
  rfl

/-- The data that entries make, with the supply declared. -/
def dataOf (accounts : List Account) (legacyAmount : Int) (n : Network) (users : List UserEntry) :
    Data :=
  ⟨users, [⟨n.tokenId, Decimal.ofInt (totalSupply accounts legacyAmount)⟩], [], []⟩

/-- Data are handed on if balances are in order, printed, and pass the check. -/
theorem data_eq_ok {d : Data} :
    data accounts legacyAmount n = .ok d ↔
      ∃ us users, userBalances accounts legacyAmount n = .ok us ∧
        us.mapM (UserBalance.entry n.addressLabel) = .ok users ∧
        Decimal.fits (totalSupply accounts legacyAmount) = true ∧
        verifySupply (dataOf accounts legacyAmount n users) n.tokenId = .ok () ∧
        d = dataOf accounts legacyAmount n users := by
  constructor
  · intro h
    obtain ⟨us, hus, h⟩ := Outcome.bind_eq_ok.1 h
    obtain ⟨users, husers, h⟩ := Outcome.bind_eq_ok.1 h
    obtain ⟨supply, hsupply, h⟩ := Outcome.bind_eq_ok.1 h
    obtain ⟨hfits, rfl⟩ := Decimal.writeText_eq_ok.1 hsupply
    obtain ⟨⟨⟩, hverify, h⟩ := Outcome.bind_eq_ok.1 h
    exact ⟨us, users, hus, husers, hfits, hverify, (Except.ok.inj h).symm⟩
  · rintro ⟨us, users, hus, husers, hfits, hverify, rfl⟩
    refine Outcome.bind_eq_ok.2 ⟨us, hus, Outcome.bind_eq_ok.2 ⟨users, husers, ?_⟩⟩
    refine Outcome.bind_eq_ok.2 ⟨_, Decimal.writeText_of_fits hfits, ?_⟩
    exact Outcome.bind_eq_ok.2 ⟨(), hverify, rfl⟩

/-- What becomes of balances that can be printed: the supply decides. -/
theorem data_of_prints {us : List UserBalance} {users : List UserEntry}
    (hus : userBalances accounts legacyAmount n = .ok us)
    (husers : us.mapM (UserBalance.entry n.addressLabel) = .ok users)
    (hfits : Decimal.fits (totalSupply accounts legacyAmount) = true)
    (hheld : Decimal.fits (Amount.sumInt (us.map UserBalance.total)) = true) :
    data accounts legacyAmount n =
      if totalSupply accounts legacyAmount = Amount.sumInt (us.map UserBalance.total) then
        .ok (dataOf accounts legacyAmount n users)
      else .error (.supply n.tokenId (Decimal.ofInt (Amount.sumInt (us.map UserBalance.total)))
        ("[" ++ ", ".intercalate [Decimal.ofInt (totalSupply accounts legacyAmount)] ++ "]")) := by
  have hsum : (dataOf accounts legacyAmount n users).held n.tokenId =
      .ok (Amount.sumInt (us.map UserBalance.total)) := by
    rw [held_of_tokenId fun e => tokenId_of_mem_entries hus husers]
    exact sumTexts_amounts_entries husers
  have hverify := verifySupply_of_fits hsum (declared_one hfits) hheld
  rw [data, hus, Outcome.ok_bind, husers, Outcome.ok_bind, Decimal.writeText_of_fits hfits,
    Outcome.ok_bind]
  show (verifySupply (dataOf accounts legacyAmount n users) n.tokenId >>= fun _ =>
    pure (dataOf accounts legacyAmount n users)) = _
  rw [hverify]
  by_cases h : totalSupply accounts legacyAmount = Amount.sumInt (us.map UserBalance.total)
  · rw [if_pos h, if_pos (congrArg (fun m => [m]) h)]
    rfl
  · rw [if_neg h, if_neg fun hone => h (List.singleton_inj.1 hone)]
    rfl

end Regenesis.Genesis.Token
