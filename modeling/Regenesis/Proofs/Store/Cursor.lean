import Mathlib
import Regenesis.Store.Cursor
import Regenesis.Proofs.Outcome
import Regenesis.Proofs.Store.Rows

/-!
# Proofs.Store.Cursor — a scan gives the rows that remain

What a cursor will still give if nothing is written is the rest of its page and, unless that page is
the last one, every row ahead of it. Taking a row takes the first of these, whether a page has to be
fetched for it or not: `next_eq`. So the size of a page makes no difference to a scan that runs to
its end, and what is done with the rows is done with them in order. That holds of the sizes that the
store takes (`IsPageSize`). With a size that is no integer of the store a scan fails at the first
row, before it has given any.
-/

namespace Regenesis

/-- Whether a scan can fetch pages of a size: they are not empty, and the store takes the number. -/
structure IsPageSize (pageSize : Int) : Prop where
  pos : 1 ≤ pageSize
  lt : pageSize < Database.integerLimit

instance (pageSize : Int) : Decidable (IsPageSize pageSize) :=
  decidable_of_iff (1 ≤ pageSize ∧ pageSize < Database.integerLimit)
    ⟨fun h => ⟨h.1, h.2⟩, fun h => ⟨h.pos, h.lt⟩⟩

/-- A positive size is one of pages if it is an integer of the store. -/
theorem isPageSize_iff {pageSize : Int} :
    IsPageSize pageSize ↔ 1 ≤ pageSize ∧ Database.isInteger pageSize = true := by
  have hlimit : 0 < Database.integerLimit := by decide
  rw [Database.isInteger, Bool.and_eq_true, decide_eq_true_eq, decide_eq_true_eq]
  exact ⟨fun h => ⟨h.pos, by have := h.pos; omega, h.lt⟩, fun h => ⟨h.1, h.2.2⟩⟩

/-- From the limit on, a number is no integer of the store. -/
theorem isInteger_of_integerLimit_le {pageSize : Int} (h : Database.integerLimit ≤ pageSize) :
    Database.isInteger pageSize = false := by
  rw [Database.isInteger, decide_eq_false (Int.not_lt.2 h), Bool.and_false]

/-- A positive number that is no integer of the store is too large. -/
theorem integerLimit_le_of_isInteger_eq_false {pageSize : Int} (hpage : 1 ≤ pageSize)
    (h : Database.isInteger pageSize = false) : Database.integerLimit ≤ pageSize := by
  by_contra hlt
  have htakes : IsPageSize pageSize := ⟨hpage, Int.not_le.1 hlt⟩
  exact nomatch h.symm.trans (isPageSize_iff.1 htakes).2

namespace Cursor

variable {db : Database} {c : Cursor} {r : Row} {key : Octets}

-- ---------------------------------------------------------------------------
-- Keys ahead
-- ---------------------------------------------------------------------------

/-- Before the first page all keys from the lower bound on are ahead. -/
theorem isAhead_of_last_none (h : c.last = none) : c.isAhead key = true ↔ c.low ≤ key := by
  rw [isAhead, h, Octets.le_iff]

/-- Behind a page the keys behind its last one are ahead. -/
theorem isAhead_of_last_some {last : Octets} (h : c.last = some last) :
    c.isAhead key = true ↔ last < key := by
  rw [isAhead, h, decide_eq_true_eq]

/-- What is behind a key ahead is ahead as well. -/
theorem isAhead_of_lt {other : Octets} (h : c.isAhead key = true) (hlt : key < other) :
    c.isAhead other = true := by
  cases hlast : c.last with
  | none =>
    rw [isAhead_of_last_none hlast] at h ⊢
    exact List.le_trans h (List.le_of_lt hlt)
  | some last =>
    rw [isAhead_of_last_some hlast] at h ⊢
    exact List.lt_trans h hlt

-- ---------------------------------------------------------------------------
-- Pages
-- ---------------------------------------------------------------------------

theorem takePage_of_pos {pageSize : Int} (h : 1 ≤ pageSize) (rows : List Row) :
    takePage pageSize rows = rows.take pageSize.toNat := by
  rw [takePage, if_neg (by omega)]

/-- The rows of a page are ahead and within the bounds. -/
theorem mem_range_of_mem_page (h : r ∈ c.page db) : r ∈ db.store.range c.isAhead c.high := by
  rw [page, takePage] at h
  split at h
  · exact h
  · exact List.mem_of_mem_take h

/-- A page is in the order of its keys. -/
theorem ascending_page (db : Database) (c : Cursor) : Ascending (c.page db) := by
  have hrange := db.store.ascending_range c.isAhead c.high
  rw [page, takePage]
  split
  · exact hrange
  · exact hrange.sublist (List.take_sublist _ _)

/-- No page has more rows than its size says. -/
theorem length_page_le (hpage : 1 ≤ db.pageSize) (c : Cursor) :
    ((c.page db).length : Int) ≤ db.pageSize := by
  rw [page, takePage_of_pos hpage, List.length_take]
  omega

@[simp]
theorem load_pending (db : Database) (c : Cursor) (rows : List Row) :
    (c.load db rows).pending = rows := rfl

/-- A full page may have another one behind it. -/
theorem load_more (db : Database) (c : Cursor) (rows : List Row) :
    (c.load db rows).more = true ↔ db.pageSize ≤ rows.length := by
  rw [load, decide_eq_true_eq]

theorem load_last_of_getLast? {rows : List Row} (h : rows.getLast? = some r) :
    (c.load db rows).last = some r.1 := by
  rw [load, h]
  rfl

/-- A row of a page is not ahead of the cursor that has fetched the page. -/
theorem not_isAhead_load_of_mem (h : r ∈ c.page db) :
    ¬ (c.load db (c.page db)).isAhead r.1 = true := by
  obtain ⟨before, last, hsplit⟩ := List.eq_nil_or_concat' (c.page db) |>.resolve_left
    (List.ne_nil_of_mem h)
  have hlast : (c.page db).getLast? = some last := by rw [hsplit, List.getLast?_concat]
  rw [isAhead_of_last_some (load_last_of_getLast? hlast)]
  have hasc := ascending_page db c
  rw [hsplit] at h hasc
  intro hlt
  rcases List.mem_append.1 h with hr | hr
  · exact List.lt_irrefl _ (List.lt_trans hlt
      ((List.pairwise_append.1 hasc).2.2 r hr last (List.mem_singleton.2 rfl)))
  · rw [List.mem_singleton.1 hr] at hlt
    exact List.lt_irrefl _ hlt

/-- Fetching a page leaves fewer keys ahead. -/
theorem isAhead_of_isAhead_load (h : (c.load db (c.page db)).isAhead key = true) :
    c.isAhead key = true := by
  cases hlast : (c.page db).getLast? with
  | none =>
    have hnil : c.page db = [] := List.getLast?_eq_none_iff.1 hlast
    rw [hnil] at h
    exact h
  | some last =>
    rw [isAhead_of_last_some (load_last_of_getLast? hlast)] at h
    have hmem : last ∈ c.page db := List.mem_of_getLast? hlast
    exact isAhead_of_lt (Store.mem_range.1 (mem_range_of_mem_page hmem)).2.1 h

/-- A row that is ahead is on the next page, or the page is full and the row is still ahead. -/
theorem mem_page_or_isAhead_load (hpage : 1 ≤ db.pageSize)
    (h : r ∈ db.store.range c.isAhead c.high) :
    r ∈ c.page db ∨ (c.load db (c.page db)).more = true ∧
      (c.load db (c.page db)).isAhead r.1 = true := by
  have hpageEq : c.page db = (db.store.range c.isAhead c.high).take db.pageSize.toNat :=
    takePage_of_pos hpage _
  have hasc := db.store.ascending_range c.isAhead c.high
  rw [← List.take_append_drop db.pageSize.toNat (db.store.range c.isAhead c.high), ← hpageEq]
    at h hasc
  rcases List.mem_append.1 h with hr | hr
  · exact Or.inl hr
  · -- something is left over, so the page is full and ends before it
    refine Or.inr ?_
    have hlength : (c.page db).length = db.pageSize.toNat := by
      have hdrop := List.length_pos_of_mem hr
      rw [List.length_drop] at hdrop
      rw [hpageEq, List.length_take]
      omega
    have hne : c.page db ≠ [] := List.ne_nil_of_length_pos (by omega)
    have hlast := List.getLast?_eq_getLast_of_ne_nil hne
    refine ⟨(load_more db c _).2 (by omega), ?_⟩
    rw [isAhead_of_last_some (load_last_of_getLast? hlast)]
    exact (List.pairwise_append.1 hasc).2.2 _ (List.getLast_mem hne) r hr

-- ---------------------------------------------------------------------------
-- The next row
-- ---------------------------------------------------------------------------

/-- The rows that a scan still gives if nothing is written. -/
def remaining (db : Database) (c : Cursor) : List Row :=
  c.pending ++ if c.more then db.store.range c.isAhead c.high else []

/-- All rows within the bounds remain for a scan that has not begun. -/
theorem remaining_ofRange (db : Database) (low high : Octets) :
    (ofRange low high).remaining db = db.store.range low.le high := rfl

theorem length_remaining_le (db : Database) (c : Cursor) :
    (c.remaining db).length ≤ c.bound db := by
  rw [remaining, bound, List.length_append]
  split
  · have := db.store.length_range_le c.isAhead c.high
    omega
  · simp

/-- The page that is fetched and what remains behind it are what was ahead. -/
theorem remaining_load (hpage : 1 ≤ db.pageSize) (c : Cursor) :
    (c.load db (c.page db)).remaining db = db.store.range c.isAhead c.high := by
  have hbehind : ∀ x, x ∈ (if (c.load db (c.page db)).more then
      db.store.range (c.load db (c.page db)).isAhead c.high else []) ↔
      (c.load db (c.page db)).more = true ∧
        x ∈ db.store.range (c.load db (c.page db)).isAhead c.high := by
    intro x
    split <;> simp_all
  -- both sides ascend, so it is enough that they have the same rows
  have hasc : Ascending ((c.load db (c.page db)).remaining db) := by
    refine List.pairwise_append.2 ⟨ascending_page db c, ?_, ?_⟩
    · split
      · exact db.store.ascending_range _ _
      · exact List.Pairwise.nil
    · intro a ha b hb
      obtain ⟨-, hb⟩ := (hbehind b).1 hb
      -- a row behind the page is ahead of it, and no row of the page is
      by_contra hlt
      refine not_isAhead_load_of_mem ha ?_
      rcases List.le_iff_lt_or_eq.1 (List.not_lt.1 hlt) with hba | heq
      · exact isAhead_of_lt (Store.mem_range.1 hb).2.1 hba
      · rw [← heq]
        exact (Store.mem_range.1 hb).2.1
  refine hasc.eq_of_mem_iff (db.store.ascending_range _ _) fun r => ?_
  constructor
  · intro hr
    rcases List.mem_append.1 hr with hr | hr
    · exact mem_range_of_mem_page hr
    · obtain ⟨hmem, hahead, hhigh⟩ := Store.mem_range.1 ((hbehind r).1 hr).2
      exact Store.mem_range.2 ⟨hmem, isAhead_of_isAhead_load hahead, hhigh⟩
  · intro hr
    rcases mem_page_or_isAhead_load hpage hr with hin | ⟨hmore, hahead⟩
    · exact List.mem_append_left _ hin
    · obtain ⟨hmem, -, hhigh⟩ := Store.mem_range.1 hr
      exact List.mem_append_right _
        ((hbehind r).2 ⟨hmore, Store.mem_range.2 ⟨hmem, hahead, hhigh⟩⟩)

/-- The rows of a page are given one by one. -/
theorem next_of_pending {rest : List Row} (h : c.pending = r :: rest) :
    c.next db = .ok (some (r, { c with pending := rest })) := by
  rw [next, h]

/-- Behind a page that was not full, the scan is at its end. -/
theorem next_of_last (hpending : c.pending = []) (hmore : c.more = false) :
    c.next db = .ok none := by
  rw [next, hpending, hmore]
  rfl

/-- A page is fetched if its rows can be read and the store takes its size. -/
theorem checkFetch_eq_ok :
    c.checkFetch db = .ok () ↔
      db.access.allowsReading = true ∧ Database.isInteger db.pageSize = true := by
  unfold checkFetch
  cases haccess : db.access <;> cases Database.isInteger db.pageSize <;>
    simp [Access.allowsReading]

/-- That the size is no integer of the store shows even if the rows are gone. -/
theorem checkFetch_of_isInteger_eq_false (hopen : db.access ≠ .closed)
    (hpage : Database.isInteger db.pageSize = false) (c : Cursor) :
    c.checkFetch db = .error .pageSizeOutside := by
  rw [checkFetch, if_neg hopen, hpage]
  rfl

/-- Pages of a positive size are of one that the store takes, or none is fetched. -/
theorem isPageSize_or_refused (hread : db.access.allowsReading = true) (hpage : 1 ≤ db.pageSize) :
    IsPageSize db.pageSize ∨ ∀ c : Cursor, c.checkFetch db = .error .pageSizeOutside := by
  cases hinteger : Database.isInteger db.pageSize with
  | true => exact Or.inl (isPageSize_iff.2 ⟨hpage, hinteger⟩)
  | false =>
    refine Or.inr (checkFetch_of_isInteger_eq_false (fun hclosed => ?_) hinteger)
    rw [hclosed] at hread
    exact nomatch hread

/-- Where rows cannot be read, the failure names the bounds of the scan. -/
theorem checkFetch_of_not_allowsReading (hread : db.access.allowsReading = false)
    (hpage : Database.isInteger db.pageSize = true) (c : Cursor) :
    c.checkFetch db = .error (.storage (.scan c.low c.high)) := by
  rw [checkFetch, hpage, hread]
  split <;> rfl

/-- A page that is not fetched ends the scan. -/
theorem next_of_refused {e : Failure} (h : c.checkFetch db = .error e) (hpending : c.pending = [])
    (hmore : c.more = true) : c.next db = .error e := by
  rw [next, hpending, hmore, h]
  rfl

/-- Where the page is used up, the next one is fetched; it is the end if there is nothing on it. -/
theorem next_of_fetch (hread : db.access.allowsReading = true) (hpage : IsPageSize db.pageSize)
    (hpending : c.pending = []) (hmore : c.more = true) :
    c.next db = .ok (match c.page db with
      | [] => none
      | r :: rest => some (r, { c.load db (c.page db) with pending := rest })) := by
  have hpos := hpage.pos
  have hcheck : c.checkFetch db = .ok () :=
    checkFetch_eq_ok.2 ⟨hread, (isPageSize_iff.1 hpage).2⟩
  rw [next, hpending, hmore, hcheck, Outcome.ok_bind]
  simp only [Bool.not_true, Bool.false_eq_true, if_false, load_pending]
  cases hrows : c.page db with
  | nil =>
    -- an empty page is not full
    have hshort : ¬ (c.load db []).more = true := by
      rw [load_more, List.length_nil]
      omega
    simp only [hshort]
    rfl
  | cons r rest => rfl

/-- **The next row.** A scan gives the first of the rows that remain, and the others remain behind
it. -/
theorem next_eq (hread : db.access.allowsReading = true) (hpage : IsPageSize db.pageSize)
    (c : Cursor) :
    (c.remaining db = [] ∧ c.next db = .ok none) ∨
      ∃ r c', c.remaining db = r :: c'.remaining db ∧ c.next db = .ok (some (r, c')) := by
  cases hpending : c.pending with
  | cons r rest =>
    refine Or.inr ⟨r, { c with pending := rest }, ?_, next_of_pending hpending⟩
    rw [remaining, hpending]
    rfl
  | nil =>
    cases hmore : c.more with
    | false =>
      refine Or.inl ⟨?_, next_of_last hpending hmore⟩
      rw [remaining, hpending, hmore]
      rfl
    | true =>
      -- what remains is what remains behind the next page
      have hahead : c.remaining db = (c.load db (c.page db)).remaining db := by
        rw [remaining_load hpage.pos, remaining, hpending, hmore]
        rfl
      have hnext := next_of_fetch hread hpage hpending hmore
      cases hrows : c.page db with
      | nil =>
        rw [hrows] at hahead hnext
        refine Or.inl ⟨?_, hnext⟩
        have hpos := hpage.pos
        -- an empty page is short, so nothing is behind it
        have hshort : ¬ (c.load db []).more = true := by
          rw [load_more, List.length_nil]
          omega
        rw [hahead, remaining, load_pending, if_neg hshort]
        rfl
      | cons r rest =>
        rw [hrows] at hahead hnext
        refine Or.inr ⟨r, { c.load db (r :: rest) with pending := rest }, ?_, hnext⟩
        rw [hahead]
        rfl

end Cursor

-- ---------------------------------------------------------------------------
-- Scans that run to their end
-- ---------------------------------------------------------------------------

section
variable {σ α ρ : Type}

/-- The results of items up to the first that fails, and its failure. -/
def collect (f : ρ → Except Failure α) : List ρ → List α × Option Failure
  | [] => ([], none)
  | x :: rest =>
    match f x with
    | .error e => ([], some e)
    | .ok a => (a :: (collect f rest).1, (collect f rest).2)

/-- What is collected without a failure is the pass over the items. -/
theorem allOf_collect (f : ρ → Except Failure α) (xs : List ρ) :
    allOf (collect f xs) = xs.mapM f := by
  induction xs with
  | nil => rfl
  | cons x rest ih =>
    rw [List.mapM_cons, ← ih, collect]
    cases f x with
    | error e => rfl
    | ok a =>
      simp only [allOf]
      cases (collect f rest).2 <;> rfl

/-- **Where a scan stops.** What is collected are the results of the items before the first that
fails, with its failure; they are the results of all items if none fails. -/
theorem collect_split (f : ρ → Except Failure α) (xs : List ρ) :
    ∃ before behind, xs = before ++ behind ∧
      List.Forall₂ (fun x a => f x = .ok a) before (collect f xs).1 ∧
      ((behind = [] ∧ (collect f xs).2 = none) ∨
        ∃ x rest e, behind = x :: rest ∧ f x = .error e ∧ (collect f xs).2 = some e) := by
  induction xs with
  | nil => exact ⟨[], [], rfl, .nil, Or.inl ⟨rfl, rfl⟩⟩
  | cons x rest ih =>
    rw [collect]
    cases hx : f x with
    | error e => exact ⟨[], x :: rest, rfl, .nil, Or.inr ⟨x, rest, e, rfl, hx, rfl⟩⟩
    | ok a =>
      obtain ⟨before, behind, hrest, hbefore, hbehind⟩ := ih
      exact ⟨x :: before, behind, congrArg (x :: ·) hrest, .cons hx hbefore, hbehind⟩

/-- A scan that takes one item after the other collects their results. `items` are those that it
has not taken yet, in any state that it can be in. -/
theorem runScan_eq_collect {next : σ → Except Failure (Option (α × σ))} (items : σ → List ρ)
    (Reached : σ → Prop) {f : ρ → Except Failure α}
    (hstep : ∀ s, Reached s → (items s = [] ∧ next s = .ok none) ∨
      ∃ x s', Reached s' ∧ items s = x :: items s' ∧ next s = (f x).map fun a => some (a, s'))
    {fuel : Nat} {s : σ} (hs : Reached s) (hfuel : (items s).length < fuel) :
    runScan next fuel s = collect f (items s) := by
  induction fuel generalizing s with
  | zero => exact absurd hfuel (Nat.not_lt_zero _)
  | succ fuel ih =>
    rcases hstep s hs with ⟨hitems, hnext⟩ | ⟨x, s', hs', hitems, hnext⟩
    · rw [runScan, hnext, hitems]
      rfl
    · rw [hitems, List.length_cons] at hfuel
      rw [runScan, hnext, hitems, collect]
      cases f x with
      | error e => rfl
      | ok a =>
        show (a :: (runScan next fuel s').1, (runScan next fuel s').2) = _
        rw [ih hs' (Nat.lt_of_succ_lt_succ hfuel)]

end

/-- A scan that cannot take its first step gives nothing. -/
theorem runScan_of_error {σ α : Type} {next : σ → Except Failure (Option (α × σ))} {s : σ}
    {e : Failure} (h : next s = .error e) (fuel : Nat) :
    runScan next (fuel + 1) s = ([], some e) := by
  rw [runScan, h]

/-- A scan of rows gives the rows that remain, whatever the page size. -/
theorem Cursor.run_eq {db : Database} (hread : db.access.allowsReading = true)
    (hpage : IsPageSize db.pageSize) (c : Cursor) : c.run db = (c.remaining db, none) := by
  have hcollect : ∀ rows : List Row, collect (fun r => .ok r) rows = (rows, none) := by
    intro rows
    induction rows with
    | nil => rfl
    | cons r rest ih => rw [collect, ih]
  have hlength := c.length_remaining_le db
  rw [run, runScan_eq_collect (remaining db) (fun _ => True) (f := fun r => .ok r) ?_ trivial
    (by omega), hcollect]
  intro c _
  rcases next_eq hread hpage c with h | ⟨r, c', hrows, hnext⟩
  · exact Or.inl h
  · exact Or.inr ⟨r, c', trivial, hrows, hnext⟩

end Regenesis
