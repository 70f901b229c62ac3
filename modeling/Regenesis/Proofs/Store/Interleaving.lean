import Mathlib
import Regenesis.Proofs.Store.Cursor

/-!
# Proofs.Store.Interleaving — a scan while rows are written

Between two rows of a scan rows may be written to the database that is scanned. `Progress` follows
both: the database, the scan, what it has given, and, for the record, each page that was fetched
with the store that it came from. What can happen is said once, by `Moves`: rows are put, a page is
fetched, a row is taken off the page, or the scan finishes. Two facts carry over from one move to
the next:

* the pages fetched so far are ascending, and what was given is their beginning (`Exact`);
* whether a key that is in the store comes, being on a page already or behind the last one, is
  settled when it is put there (`comes_of_moves`).

Main statement: `scan_exact`. It is about pages of a size that the store takes. With a size that is
no integer of the store a scan is refused its first page and fails (`run_of_isInteger_eq_false`).
-/

namespace Regenesis

/-- What happens while a scan is open. -/
inductive Event where
  /-- Rows are put into the database, as far as it lets rows be put. -/
  | put (rows : List Row)
  /-- The scan is asked for its next row. -/
  | ask

/-- A page and the store from which it was fetched. -/
structure Fetch where
  store : Store
  rows : List Row

/-- A database and a scan of it. -/
structure Progress where
  db : Database
  /-- The scan; none after its end. -/
  scan : Option Cursor
  /-- The rows that the scan has given. -/
  given : List Row
  /-- The pages that were fetched. -/
  fetched : List Fetch
  /-- The failure in which the scan ended, if it did. -/
  failure : Option Failure

namespace Progress

/-- A scan of the keys from `low` to `high` that was not asked for anything yet. -/
def start (db : Database) (low high : Octets) : Progress :=
  ⟨db, some (.ofRange low high), [], [], none⟩

/-- The pages after a scan was asked: with the next one if the last one was used up and another can
be fetched. -/
def fetchedBy (p : Progress) (c : Cursor) : List Fetch :=
  if c.pending.isEmpty && c.more && (c.checkFetch p.db).isOk then
    p.fetched ++ [⟨p.db.store, c.page p.db⟩]
  else p.fetched

/-- What an event changes. -/
def step (p : Progress) : Event → Progress
  | .put rows =>
    match p.db.putAll rows with
    | .error _ => p
    | .ok db => { p with db }
  | .ask =>
    match p.scan with
    | none => p
    | some c =>
      match c.next p.db with
      | .error e => { p with scan := none, fetched := p.fetchedBy c, failure := some e }
      | .ok none => { p with scan := none, fetched := p.fetchedBy c }
      | .ok (some (r, c')) =>
        { p with scan := some c', given := p.given ++ [r], fetched := p.fetchedBy c }

/-- What events change, one after the other. -/
def run (p : Progress) (events : List Event) : Progress := events.foldl step p

/-- Whether the scan has ended. -/
def hasEnded (p : Progress) : Bool := p.scan.isNone

theorem run_append (p : Progress) (before after : List Event) :
    p.run (before ++ after) = (p.run before).run after := List.foldl_append

-- ---------------------------------------------------------------------------
-- Moves
-- ---------------------------------------------------------------------------

/-- The parts that events are made of. -/
inductive Moves : Progress → Progress → Prop where
  | put (p : Progress) (rows : List Row) :
      Moves p { p with db := { p.db with store := p.db.store.putAll rows } }
  | fetch (p : Progress) (c : Cursor) :
      p.scan = some c → c.pending = [] → c.more = true →
      Moves p { p with
        scan := some (c.load p.db (c.page p.db))
        fetched := p.fetched ++ [⟨p.db.store, c.page p.db⟩] }
  | take (p : Progress) (c : Cursor) (r : Row) (rest : List Row) :
      p.scan = some c → c.pending = r :: rest →
      Moves p { p with scan := some { c with pending := rest }, given := p.given ++ [r] }
  | finish (p : Progress) (c : Cursor) :
      p.scan = some c → c.pending = [] → c.more = false → Moves p { p with scan := none }

section
variable {p q : Progress} {c : Cursor} {r : Row} {rest : List Row}

/-- To ask for a row of the current page gives it. -/
theorem step_ask_of_pending (hscan : p.scan = some c) (hpending : c.pending = r :: rest) :
    p.step .ask = { p with scan := some { c with pending := rest }, given := p.given ++ [r] } := by
  simp only [step, hscan, Cursor.next_of_pending hpending, fetchedBy, hpending, List.isEmpty_cons,
    Bool.false_and, Bool.false_eq_true, if_false]

/-- To ask behind the last page ends the scan. -/
theorem step_ask_of_last (hscan : p.scan = some c) (hpending : c.pending = [])
    (hmore : c.more = false) : p.step .ask = { p with scan := none } := by
  simp only [step, hscan, Cursor.next_of_last hpending hmore, fetchedBy, hmore, Bool.and_false,
    Bool.false_and, Bool.false_eq_true, if_false]

/-- To ask where the page is used up is to fetch the next one and to ask again. -/
theorem step_ask_of_fetch (hread : p.db.access.allowsReading = true)
    (hpage : IsPageSize p.db.pageSize) (hscan : p.scan = some c) (hpending : c.pending = [])
    (hmore : c.more = true) :
    p.step .ask =
      step { p with
        scan := some (c.load p.db (c.page p.db))
        fetched := p.fetched ++ [⟨p.db.store, c.page p.db⟩] } .ask := by
  have hpos := hpage.pos
  have hnext := Cursor.next_of_fetch hread hpage hpending hmore
  have hfetched : p.fetchedBy c = p.fetched ++ [⟨p.db.store, c.page p.db⟩] := by
    rw [fetchedBy, hpending, hmore,
      Cursor.checkFetch_eq_ok.2 ⟨hread, (isPageSize_iff.1 hpage).2⟩]
    rfl
  cases hrows : c.page p.db with
  | nil =>
    rw [hrows] at hnext hfetched
    have hshort : (c.load p.db []).more = false := by
      rw [← Bool.not_eq_true, Cursor.load_more, List.length_nil]
      omega
    refine Eq.trans ?_ (step_ask_of_last (Eq.refl (some (c.load p.db []))) rfl hshort).symm
    simp only [step, hscan, hnext, hfetched]
  | cons r rest =>
    rw [hrows] at hnext hfetched
    refine Eq.trans ?_ (step_ask_of_pending (Eq.refl (some (c.load p.db (r :: rest)))) rfl).symm
    simp only [step, hscan, hnext, hfetched]

/-- Every event is made of moves. -/
theorem moves_of_step (hread : p.db.access.allowsReading = true)
    (hpage : IsPageSize p.db.pageSize) (e : Event) :
    Relation.ReflTransGen Moves p (p.step e) := by
  cases e with
  | put rows =>
    cases h : p.db.putAll rows with
    | error e =>
      rw [show p.step (.put rows) = p by rw [step, h]]
    | ok db' =>
      rw [show p.step (.put rows) = { p with db := db' } by rw [step, h],
        Database.putAll_eq_ok h]
      exact .single (.put p rows)
  | ask =>
    cases hscan : p.scan with
    | none => rw [show p.step .ask = p by rw [step, hscan]]
    | some c =>
      have hgo : ∀ {p : Progress} {c : Cursor}, p.scan = some c →
          (c.pending = [] → c.more = false) → Moves p (p.step .ask) := by
        intro p c hscan hused
        cases hpending : c.pending with
        | nil =>
          rw [step_ask_of_last hscan hpending (hused hpending)]
          exact .finish p c hscan hpending (hused hpending)
        | cons r rest =>
          rw [step_ask_of_pending hscan hpending]
          exact .take p c r rest hscan hpending
      by_cases hfetch : c.pending = [] ∧ c.more = true
      · rw [step_ask_of_fetch hread hpage hscan hfetch.1 hfetch.2]
        refine .head (.fetch p c hscan hfetch.1 hfetch.2) (.single (hgo rfl ?_))
        -- what was fetched is empty only if it is short
        intro hempty
        have hpos := hpage.pos
        rw [Cursor.load_pending] at hempty
        rw [← Bool.not_eq_true, Cursor.load_more, hempty, List.length_nil]
        omega
      · refine .single (hgo hscan fun hempty => ?_)
        rw [← Bool.not_eq_true]
        exact fun hmore => hfetch ⟨hempty, hmore⟩

end

-- ---------------------------------------------------------------------------
-- Pages that are refused
-- ---------------------------------------------------------------------------

/-- To ask for the first page ends the scan if its size is no integer of the store. -/
theorem step_ask_of_isInteger_eq_false {p : Progress} {low high : Octets}
    (hopen : p.db.access ≠ .closed) (hpage : Database.isInteger p.db.pageSize = false)
    (hscan : p.scan = some (.ofRange low high)) :
    p.step .ask = { p with scan := none, failure := some .pageSizeOutside } := by
  have hcheck := Cursor.checkFetch_of_isInteger_eq_false hopen hpage (.ofRange low high)
  have hnext := Cursor.next_of_refused hcheck rfl rfl
  have hfetched : p.fetchedBy (.ofRange low high) = p.fetched := by
    rw [fetchedBy, hcheck]
    rfl
  simp only [step, hscan, hnext, hfetched]

/-- What is known of a scan whose first page is refused, after events: it is as it was before it was
asked, or it has failed. -/
structure Refused (db : Database) (low high : Octets) (events : List Event) (p : Progress) :
    Prop where
  access_eq : p.db.access = db.access
  pageSize_eq : p.db.pageSize = db.pageSize
  given_eq : p.given = []
  fetched_eq : p.fetched = []
  scan_eq : p.scan = some (.ofRange low high) ∧ .ask ∉ events ∨
    p.scan = none ∧ p.failure = some .pageSizeOutside

section
variable {db : Database} {low high : Octets} (hopen : db.access ≠ .closed)
  (hpage : Database.isInteger db.pageSize = false)
include hopen hpage

/-- A scan that is refused stays refused, whatever is put and asked for. -/
theorem Refused.step {events : List Event} {p : Progress} (h : Refused db low high events p)
    (e : Event) : Refused db low high (events ++ [e]) (p.step e) := by
  cases e with
  | put rows =>
    have hnot : .ask ∉ events → .ask ∉ events ++ [.put rows] := by simp
    cases hput : p.db.putAll rows with
    | error e =>
      rw [show p.step (.put rows) = p by rw [Progress.step, hput]]
      exact ⟨h.access_eq, h.pageSize_eq, h.given_eq, h.fetched_eq,
        h.scan_eq.imp_left (And.imp_right hnot)⟩
    | ok db' =>
      rw [show p.step (.put rows) = { p with db := db' } by rw [Progress.step, hput],
        Database.putAll_eq_ok hput]
      exact ⟨h.access_eq, h.pageSize_eq, h.given_eq, h.fetched_eq,
        h.scan_eq.imp_left (And.imp_right hnot)⟩
  | ask =>
    -- the first ask is refused and ends the scan; later ones change nothing
    rcases h.scan_eq with ⟨hfresh, -⟩ | hended
    · rw [step_ask_of_isInteger_eq_false (h.access_eq ▸ hopen) (h.pageSize_eq ▸ hpage) hfresh]
      exact ⟨h.access_eq, h.pageSize_eq, h.given_eq, h.fetched_eq, Or.inr ⟨rfl, rfl⟩⟩
    · rw [show p.step .ask = p by rw [Progress.step, hended.1]]
      exact ⟨h.access_eq, h.pageSize_eq, h.given_eq, h.fetched_eq, Or.inr hended⟩

/-- From its start on, a scan in pages of a size that the store does not take is refused. -/
theorem refused_run (events : List Event) :
    Refused db low high events ((start db low high).run events) := by
  induction events using List.reverseRecOn with
  | nil => exact ⟨rfl, rfl, rfl, rfl, Or.inl ⟨rfl, List.not_mem_nil⟩⟩
  | append_singleton events e ih =>
    rw [run_append]
    exact ih.step hopen hpage e

/-- Whatever is written, a scan whose page size is no integer of the store gives no row: it fails
when it is first asked for one. -/
theorem run_of_isInteger_eq_false (low high : Octets) (events : List Event) :
    let p := (start db low high).run events
    p.given = [] ∧ (.ask ∈ events → p.failure = some .pageSizeOutside) := by
  have h : Refused db low high events _ := refused_run hopen hpage events
  exact ⟨h.given_eq, fun hask => h.scan_eq.elim (fun hfresh => absurd hask hfresh.2) And.right⟩

end

-- ---------------------------------------------------------------------------
-- What moves preserve
-- ---------------------------------------------------------------------------

/-- The rows of all pages that were fetched. -/
def carried (p : Progress) : List Row := p.fetched.flatMap Fetch.rows

/-- Whether there is a page to come: none was fetched yet, or the last one was full. -/
def isOpen (p : Progress) : Bool :=
  match p.fetched.getLast? with
  | none => true
  | some f => decide (p.db.pageSize ≤ f.rows.length)

/-- Whether a key is on a page that was fetched, or will be on one if it stays in the store: there
is a page to come, and the key is behind what was fetched. -/
def Comes (p : Progress) (key : Octets) : Prop :=
  key ∈ p.carried.map (·.1) ∨
    p.isOpen = true ∧ ∀ last, p.carried.getLast? = some last → last.1 < key

/-- What is known of a scan of the keys from `low` to `high`, whatever was written. -/
structure Exact (low high : Octets) (pageSize : Int) (p : Progress) : Prop where
  readable : p.db.access.allowsReading = true
  pageSize_eq : p.db.pageSize = pageSize
  noFailure : p.failure = none
  ascending : Ascending p.carried
  within : ∀ r ∈ p.carried, low ≤ r.1 ∧ r.1 ≤ high
  full : ∀ f ∈ p.fetched, (f.rows.length : Int) ≤ pageSize
  stored : ∀ f ∈ p.fetched, ∀ r ∈ f.rows, r ∈ f.store.rows
  /-- Keys stay where they were once put. -/
  grown : ∀ f ∈ p.fetched, ∀ key, f.store.get? key ≠ none → p.db.store.get? key ≠ none
  underway : ∀ c, p.scan = some c → c.low = low ∧ c.high = high ∧
    p.carried = p.given ++ c.pending ∧ c.last = p.carried.getLast?.map (·.1) ∧ c.more = p.isOpen
  ended : p.scan = none → p.carried = p.given ∧ p.isOpen = false

section
variable {p q : Progress} {low high key : Octets} {pageSize : Int} {c : Cursor} {r : Row}

/-- A scan that has not begun has given nothing, and nothing is wrong with it. -/
theorem exact_start {db : Database} (hread : db.access.allowsReading = true) :
    Exact low high db.pageSize (start db low high) where
  readable := hread
  pageSize_eq := rfl
  noFailure := rfl
  ascending := List.Pairwise.nil
  within := nofun
  full := nofun
  stored := nofun
  grown := nofun
  underway c hc := by
    obtain rfl := Option.some.inj hc
    exact ⟨rfl, rfl, rfl, rfl, rfl⟩
  ended h := nomatch h

/-- Keys ahead of the cursor, within the bounds, are those behind what was fetched. -/
theorem Exact.isAhead_iff (h : Exact low high pageSize p) (hscan : p.scan = some c)
    (hlow : low ≤ key) :
    c.isAhead key = true ↔ ∀ last, p.carried.getLast? = some last → last.1 < key := by
  obtain ⟨hlowEq, -, -, hlast, -⟩ := h.underway c hscan
  cases hc : p.carried.getLast? with
  | none =>
    rw [hc] at hlast
    rw [Cursor.isAhead_of_last_none hlast, hlowEq]
    exact ⟨fun _ => nofun, fun _ => hlow⟩
  | some last =>
    rw [hc] at hlast
    rw [Cursor.isAhead_of_last_some hlast]
    constructor
    · rintro hlt _ ⟨⟩
      exact hlt
    · intro hall
      exact hall last rfl

/-- While a scan is open, a key comes if it was fetched or is ahead. -/
theorem Exact.comes_iff (h : Exact low high pageSize p) (hscan : p.scan = some c)
    (hlow : low ≤ key) :
    p.Comes key ↔ key ∈ p.carried.map (·.1) ∨ c.more = true ∧ c.isAhead key = true := by
  rw [Comes, (h.underway c hscan).2.2.2.2, h.isAhead_iff hscan hlow]

/-- The rows of the next page are in the store, ahead and within the bounds. -/
theorem Exact.mem_page (h : Exact low high pageSize p) (hscan : p.scan = some c)
    (hr : r ∈ c.page p.db) : r ∈ p.db.store.rows ∧ c.isAhead r.1 = true ∧ r.1 ≤ high := by
  rw [← (h.underway c hscan).2.1]
  exact Store.mem_range.1 (Cursor.mem_range_of_mem_page hr)

/-- The next page is behind all that was fetched. -/
theorem Exact.lt_of_mem_page (h : Exact low high pageSize p) (hscan : p.scan = some c) {a b : Row}
    (ha : a ∈ p.carried) (hb : b ∈ c.page p.db) : a.1 < b.1 := by
  obtain ⟨-, -, -, hlast, -⟩ := h.underway c hscan
  obtain ⟨before, last, hsplit⟩ := List.eq_nil_or_concat' p.carried |>.resolve_left
    (List.ne_nil_of_mem ha)
  rw [hsplit, List.getLast?_concat, Option.map_some] at hlast
  have hlt : last.1 < b.1 := (Cursor.isAhead_of_last_some hlast).1 (h.mem_page hscan hb).2.1
  have hasc := h.ascending
  rw [hsplit] at ha hasc
  rcases List.mem_append.1 ha with ha | ha
  · exact List.lt_trans
      ((List.pairwise_append.1 hasc).2.2 a ha last (List.mem_singleton.2 rfl)) hlt
  · rw [List.mem_singleton.1 ha]
    exact hlt

/-- The next page does not begin before the lower bound. -/
theorem Exact.low_le_of_mem_page (h : Exact low high pageSize p) (hscan : p.scan = some c)
    (hr : r ∈ c.page p.db) : low ≤ r.1 := by
  obtain ⟨hlow, -, -, hlast, -⟩ := h.underway c hscan
  cases hc : p.carried.getLast? with
  | none =>
    rw [hc] at hlast
    rw [← hlow]
    exact (Cursor.isAhead_of_last_none hlast).1 (h.mem_page hscan hr).2.1
  | some last =>
    have hmem := List.mem_of_getLast? hc
    exact List.le_trans (h.within last hmem).1 (List.le_of_lt (h.lt_of_mem_page hscan hmem hr))

/-- A fetched page goes on where the last one ended. -/
theorem Exact.fetch (hpage : 1 ≤ pageSize) (h : Exact low high pageSize p) (hscan : p.scan = some c)
    (hpending : c.pending = []) :
    Exact low high pageSize { p with
      scan := some (c.load p.db (c.page p.db))
      fetched := p.fetched ++ [⟨p.db.store, c.page p.db⟩] } := by
  obtain ⟨hlow, hhigh, hcarried, hlast, -⟩ := h.underway c hscan
  have hpaged : 1 ≤ p.db.pageSize := by
    rw [h.pageSize_eq]
    exact hpage
  -- what has been carried grows by the page; every field is read off from this
  have hrows : carried { p with
      scan := some (c.load p.db (c.page p.db))
      fetched := p.fetched ++ [⟨p.db.store, c.page p.db⟩] } = p.carried ++ c.page p.db := by
    rw [carried, List.flatMap_append, List.flatMap_singleton, carried]
  refine ⟨h.readable, h.pageSize_eq, h.noFailure, ?ascending, ?within, ?full, ?stored, ?grown,
    ?underway, nofun⟩
  case ascending =>
    rw [hrows]
    exact List.pairwise_append.2
      ⟨h.ascending, Cursor.ascending_page p.db c, fun _ ha _ hb => h.lt_of_mem_page hscan ha hb⟩
  case within =>
    rw [hrows]
    exact List.forall_mem_append.2 ⟨h.within, fun r hr =>
      ⟨h.low_le_of_mem_page hscan hr, (h.mem_page hscan hr).2.2⟩⟩
  case full =>
    refine List.forall_mem_append.2 ⟨h.full, List.forall_mem_singleton.2 ?_⟩
    rw [← h.pageSize_eq]
    exact Cursor.length_page_le hpaged c
  -- the page is taken from the store as it is now
  case stored =>
    exact List.forall_mem_append.2
      ⟨h.stored, List.forall_mem_singleton.2 fun r hr => (h.mem_page hscan hr).1⟩
  case grown =>
    exact List.forall_mem_append.2 ⟨h.grown, List.forall_mem_singleton.2 fun _ hkey => hkey⟩
  case underway =>
    rintro _ ⟨⟩
    refine ⟨hlow, hhigh, ?_, ?_, ?_⟩
    · rw [hrows, hcarried, hpending, List.append_nil]
      rfl
    · -- an empty page leaves the last key where it was
      rw [hrows, List.getLast?_append, Cursor.load, hlast]
      cases (c.page p.db).getLast? <;> rfl
    · rw [isOpen, List.getLast?_concat]
      rfl

/-- What is known of a scan stays known after every move. -/
theorem exact_of_moves (hpage : 1 ≤ pageSize) (h : Exact low high pageSize p) (hmove : Moves p q) :
    Exact low high pageSize q := by
  cases hmove with
  | put rows =>
    refine ⟨h.readable, h.pageSize_eq, h.noFailure, h.ascending, h.within, h.full, h.stored, ?_,
      h.underway, h.ended⟩
    -- a put touches the store only, and no key leaves it
    exact fun f hf key hkey => Store.get?_putAll_ne_none rows (h.grown f hf key hkey)
  | fetch c hscan hpending => exact h.fetch hpage hscan hpending
  | take c r rest hscan hpending =>
    -- a row goes from the pending ones to the given ones; what is carried stays
    obtain ⟨hlow, hhigh, hcarried, hlast, hmore⟩ := h.underway c hscan
    refine ⟨h.readable, h.pageSize_eq, h.noFailure, h.ascending, h.within, h.full, h.stored,
      h.grown, ?_, nofun⟩
    rintro _ ⟨⟩
    refine ⟨hlow, hhigh, ?_, hlast, hmore⟩
    rw [List.append_assoc, List.singleton_append, ← hpending]
    exact hcarried
  | finish c hscan hpending hmore =>
    obtain ⟨-, -, hcarried, -, hopen⟩ := h.underway c hscan
    refine ⟨h.readable, h.pageSize_eq, h.noFailure, h.ascending, h.within, h.full, h.stored,
      h.grown, nofun, fun _ => ⟨?_, ?_⟩⟩
    · rw [hpending, List.append_nil] at hcarried
      exact hcarried
    · exact hopen.symm.trans hmore

/-- Whether a key that is in the store comes is not changed by any move. -/
theorem comes_of_moves (hpage : 1 ≤ pageSize) (h : Exact low high pageSize p) (hmove : Moves p q)
    (hlow : low ≤ key) (hhigh : key ≤ high) (hstored : p.db.store.get? key ≠ none) :
    q.Comes key ↔ p.Comes key := by
  cases hmove with
  | put rows => exact Iff.rfl
  | take c r rest hscan hpending => exact Iff.rfl
  | finish c hscan hpending hmore => exact Iff.rfl
  | fetch c hscan hpending hmore =>
    -- only a fetch moves keys: from those that are ahead to those that were fetched
    have hafter := h.fetch hpage hscan hpending
    obtain ⟨-, hhighEq, -, -, -⟩ := h.underway c hscan
    have hpaged : 1 ≤ p.db.pageSize := by rw [h.pageSize_eq]; exact hpage
    have hkeys : (carried { p with
        scan := some (c.load p.db (c.page p.db))
        fetched := p.fetched ++ [⟨p.db.store, c.page p.db⟩] }).map (·.1) =
        p.carried.map (·.1) ++ (c.page p.db).map (·.1) := by
      rw [carried, List.flatMap_append, List.flatMap_singleton, List.map_append, carried]
    rw [h.comes_iff hscan hlow, hafter.comes_iff rfl hlow, hkeys, List.mem_append]
    constructor
    · rintro ((hin | hin) | ⟨-, hahead⟩)
      · exact Or.inl hin
      · obtain ⟨r, hr, rfl⟩ := List.mem_map.1 hin
        exact Or.inr ⟨hmore, (Store.mem_range.1 (Cursor.mem_range_of_mem_page hr)).2.1⟩
      · exact Or.inr ⟨hmore, Cursor.isAhead_of_isAhead_load hahead⟩
    · rintro (hin | ⟨-, hahead⟩)
      · exact Or.inl (Or.inl hin)
      · -- a key that is stored and ahead is on the page, or still ahead behind a full one
        obtain ⟨value, hvalue⟩ := Option.ne_none_iff_exists'.1 hstored
        have hrange : (key, value) ∈ p.db.store.range c.isAhead c.high :=
          Store.mem_range.2 ⟨Store.mem_rows_iff.2 hvalue, hahead, hhighEq ▸ hhigh⟩
        rcases Cursor.mem_page_or_isAhead_load hpaged hrange with hin | hopen
        · exact Or.inl (Or.inr (List.mem_map_of_mem hin))
        · exact Or.inr hopen

/-- A key that is in the store stays in the store. -/
theorem get?_ne_none_of_moves (hmove : Moves p q) (h : p.db.store.get? key ≠ none) :
    q.db.store.get? key ≠ none := by
  cases hmove with
  | put rows => exact Store.get?_putAll_ne_none rows h
  | fetch | take | finish => exact h

/-- The first page stays the first page. -/
theorem head?_fetched_of_moves {f : Fetch} (hmove : Moves p q) (h : q.fetched.head? = some f) :
    p.fetched.head? = some f ∨ p.fetched = [] ∧ f.store = p.db.store := by
  cases hmove with
  | put | take | finish => exact Or.inl h
  | fetch c hscan hpending hmore =>
    cases hfetched : p.fetched with
    | nil =>
      rw [hfetched] at h
      obtain rfl := Option.some.inj h
      exact Or.inr ⟨rfl, rfl⟩
    | cons f' rest =>
      rw [hfetched] at h
      exact Or.inl h

-- ---------------------------------------------------------------------------
-- What runs preserve
-- ---------------------------------------------------------------------------

/-- Whatever can be reached by moves is exact, and does not change whether a key comes that was in
the store. -/
theorem Exact.reach (hpage : 1 ≤ pageSize) (h : Exact low high pageSize p)
    (hreach : Relation.ReflTransGen Moves p q) :
    Exact low high pageSize q ∧ ∀ key, low ≤ key → key ≤ high → p.db.store.get? key ≠ none →
      q.db.store.get? key ≠ none ∧ (q.Comes key ↔ p.Comes key) := by
  induction hreach with
  | refl => exact ⟨h, fun key _ _ hstored => ⟨hstored, Iff.rfl⟩⟩
  | @tail q q' _ hmove ih =>
    obtain ⟨hq, hkeys⟩ := ih
    refine ⟨exact_of_moves hpage hq hmove, fun key hlow hhigh hstored => ?_⟩
    obtain ⟨hstored', hcomes⟩ := hkeys key hlow hhigh hstored
    exact ⟨get?_ne_none_of_moves hmove hstored',
      (comes_of_moves hpage hq hmove hlow hhigh hstored').trans hcomes⟩

/-- Events only make moves. -/
theorem Exact.moves_of_run (hpage : IsPageSize pageSize) (h : Exact low high pageSize p)
    (events : List Event) : Relation.ReflTransGen Moves p (p.run events) := by
  induction events generalizing p with
  | nil => exact .refl
  | cons e rest ih =>
    have hstep := moves_of_step h.readable (by rw [h.pageSize_eq]; exact hpage) e
    exact hstep.trans (ih (h.reach hpage.pos hstep).1)

/-- All keys that were in the store when the first page was fetched come. -/
theorem comes_of_first_page (hpage : 1 ≤ pageSize) (h : Exact low high pageSize p)
    (hfresh : p.fetched = []) (hreach : Relation.ReflTransGen Moves p q) {f : Fetch}
    (hfirst : q.fetched.head? = some f) (hlow : low ≤ key) (hhigh : key ≤ high)
    (hstored : f.store.get? key ≠ none) : q.Comes key := by
  induction hreach with
  | refl =>
    rw [hfresh] at hfirst
    exact nomatch hfirst
  | @tail q q' hreach hmove ih =>
    obtain ⟨hq, -⟩ := h.reach hpage hreach
    rcases head?_fetched_of_moves hmove hfirst with hfirst' | ⟨hnone, hstore⟩
    · have hstill := hq.grown f (List.mem_of_head? hfirst') key hstored
      exact (comes_of_moves hpage hq hmove hlow hhigh hstill).2 (ih hfirst')
    · -- before its first page a scan waits for every key of the range
      rw [hstore] at hstored
      refine (comes_of_moves hpage hq hmove hlow hhigh hstored).2 (Or.inr ?_)
      rw [isOpen, carried, hnone]
      exact ⟨rfl, nofun⟩

/-- At the end of a scan the keys that come are those that were given. -/
theorem Exact.comes_iff_of_ended (h : Exact low high pageSize p) (hended : p.scan = none) :
    p.Comes key ↔ key ∈ p.given.map (·.1) := by
  obtain ⟨hcarried, hclosed⟩ := h.ended hended
  rw [Comes, hcarried, hclosed]
  simp

/-- What was given is the front of what was fetched. -/
theorem Exact.given_prefix (h : Exact low high pageSize p) : p.given <+: p.carried := by
  cases hscan : p.scan with
  | none => rw [(h.ended hscan).1]
  | some c =>
    rw [(h.underway c hscan).2.2.1]
    exact List.prefix_append _ _

/-- The last row that was fetched is the last one of the last page, unless that is empty. -/
theorem getLast?_carried {f : Fetch} (hlast : p.fetched.getLast? = some f) (hne : f.rows ≠ []) :
    p.carried.getLast? = f.rows.getLast? := by
  obtain ⟨before, hsplit⟩ := List.getLast?_eq_some_iff.1 hlast
  rw [carried, hsplit, List.flatMap_append, List.flatMap_singleton, List.getLast?_append,
    List.getLast?_eq_getLast_of_ne_nil hne]
  rfl

/-- A key that is not in the store comes if it is put there now, if and only if the last page was
full and the key is behind it. -/
theorem Exact.comes_iff_of_absent (hpage : 1 ≤ pageSize) (h : Exact low high pageSize p)
    (hfetched : p.fetched ≠ []) (habsent : p.db.store.get? key = none) :
    p.Comes key ↔ ∃ f r, p.fetched.getLast? = some f ∧ (f.rows.length : Int) = pageSize ∧
      f.rows.getLast? = some r ∧ r.1 < key := by
  -- keys are never removed, so a key that is absent now was absent from every page
  have hnot : key ∉ p.carried.map (·.1) := by
    intro hin
    obtain ⟨r, hr, rfl⟩ := List.mem_map.1 hin
    obtain ⟨f, hf, hr⟩ := List.mem_flatMap.1 hr
    have hstored := Store.mem_rows_iff.1 (h.stored f hf r hr)
    exact h.grown f hf r.1 (by rw [hstored]; exact nofun) habsent
  obtain ⟨f, hlast⟩ := Option.ne_none_iff_exists'.1 (List.getLast?_eq_none_iff.not.2 hfetched)
  -- the scan goes on exactly if its last page was full
  have hopen : p.isOpen = true ↔ (f.rows.length : Int) = pageSize := by
    have hle := h.full f (List.mem_of_getLast? hlast)
    rw [isOpen, hlast, h.pageSize_eq, decide_eq_true_eq]
    exact ⟨fun hge => le_antisymm hle hge, ge_of_eq⟩
  rw [Comes, or_iff_right hnot, hopen]
  constructor
  · rintro ⟨hfull, hbehind⟩
    have hne : f.rows ≠ [] := List.ne_nil_of_length_pos (by omega)
    have hrow := List.getLast?_eq_getLast_of_ne_nil hne
    refine ⟨f, f.rows.getLast hne, hlast, hfull, hrow, hbehind _ ?_⟩
    rw [getLast?_carried hlast hne, hrow]
  · rintro ⟨f', r, hlast', hfull, hrow, hlt⟩
    obtain rfl := Option.some.inj (hlast.symm.trans hlast')
    refine ⟨hfull, fun last hcarried => ?_⟩
    rw [getLast?_carried hlast (List.ne_nil_of_mem (List.mem_of_getLast? hrow)), hrow] at hcarried
    rw [← Option.some.inj hcarried]
    exact hlt

/-- To put rows does not change what comes. -/
theorem comes_step_put (p : Progress) (rows : List Row) :
    (p.step (.put rows)).Comes key ↔ p.Comes key := by
  rw [step]
  cases hput : p.db.putAll rows with
  | error e => exact Iff.rfl
  | ok db' =>
    rw [Database.putAll_eq_ok hput]
    exact Iff.rfl

-- ---------------------------------------------------------------------------
-- Asking to the end
-- ---------------------------------------------------------------------------

theorem run_asks_of_ended (h : p.scan = none) (n : Nat) :
    p.run (List.replicate n .ask) = p := by
  induction n with
  | zero => rfl
  | succ n ih =>
    have hstep : p.step .ask = p := by rw [step, h]
    rw [List.replicate_succ, run, List.foldl_cons, hstep]
    exact ih

/-- A scan that is asked often enough, and nothing else happens, gives what remains and ends. -/
theorem run_asks (hread : p.db.access.allowsReading = true) (hpage : IsPageSize p.db.pageSize)
    (hscan : p.scan = some c) {n : Nat} (hn : (c.remaining p.db).length < n) :
    (p.run (List.replicate n .ask)).scan = none ∧
      (p.run (List.replicate n .ask)).given = p.given ++ c.remaining p.db := by
  induction n generalizing p c with
  | zero => exact absurd hn (Nat.not_lt_zero _)
  | succ n ih =>
    rw [List.replicate_succ, run, List.foldl_cons]
    -- the cursor is used up, or one row fewer remains after the step
    rcases Cursor.next_eq hread hpage c with ⟨hnil, hnext⟩ | ⟨r, c', hcons, hnext⟩
    · have hstep : p.step .ask = { p with scan := none, fetched := p.fetchedBy c } := by
        simp only [step, hscan, hnext]
      have hended :=
        run_asks_of_ended (p := { p with scan := none, fetched := p.fetchedBy c }) rfl n
      have hgiven := congrArg given hended
      rw [hstep, hnil, List.append_nil]
      exact ⟨congrArg scan hended, hgiven⟩
    · have hstep : p.step .ask =
          { p with scan := some c', given := p.given ++ [r], fetched := p.fetchedBy c } := by
        simp only [step, hscan, hnext]
      rw [hcons, List.length_cons] at hn
      obtain ⟨hend, hgiven⟩ := ih (c := c')
        (p := { p with scan := some c', given := p.given ++ [r], fetched := p.fetchedBy c })
        hread hpage rfl (Nat.lt_of_succ_lt_succ hn)
      rw [hstep, hcons]
      refine ⟨hend, hgiven.trans ?_⟩
      rw [List.append_assoc, List.singleton_append]

/-- Every scan can be asked to its end. -/
theorem exists_run_asks_ended (hpage : IsPageSize pageSize) (h : Exact low high pageSize p) :
    ∃ n, ∀ k, n ≤ k → (p.run (List.replicate k .ask)).scan = none := by
  cases hscan : p.scan with
  | none => exact ⟨0, fun k _ => by rw [run_asks_of_ended hscan, hscan]⟩
  | some c =>
    refine ⟨(c.remaining p.db).length + 1, fun k hk => ?_⟩
    exact (run_asks h.readable (by rw [h.pageSize_eq]; exact hpage) hscan (by omega)).1

end

-- ---------------------------------------------------------------------------
-- Exactness
-- ---------------------------------------------------------------------------

/-- **Exactness of a scan.** Whatever rows are put while a scan of the keys from `low` to `high` is
open, in pages of a size that the store takes: it never fails; its keys are strictly ascending and
within the bounds; what it gives are the rows of its pages in order, and every row of a page was in
the store when the page was fetched; if it is asked to its end, every key within the bounds that was
there when the first page was fetched is given exactly once; and a key within the bounds that is put
only after a page was fetched is given if and only if the last page before was full and the key is
behind its last key. When no more rows are put, the scan ends; when none are put at all, it gives
the rows within the bounds in order. -/
theorem scan_exact {db : Database} (low high : Octets) (hread : db.access.allowsReading = true)
    (hpage : IsPageSize db.pageSize) :
    (∀ events, let p := (start db low high).run events
      p.failure = none ∧ Ascending p.given ∧ (∀ r ∈ p.given, low ≤ r.1 ∧ r.1 ≤ high) ∧
      p.given <+: p.fetched.flatMap Fetch.rows ∧
      (∀ f ∈ p.fetched, ∀ r ∈ f.rows, r ∈ f.store.rows) ∧
      (p.hasEnded = true → ∀ f, p.fetched.head? = some f → ∀ key, low ≤ key → key ≤ high →
        f.store.get? key ≠ none → (p.given.map (·.1)).count key = 1)) ∧
    (∀ before rows after key, let p := (start db low high).run before
      let q := (start db low high).run (before ++ .put rows :: after)
      p.fetched ≠ [] → low ≤ key → key ≤ high → p.db.store.get? key = none →
      (p.step (.put rows)).db.store.get? key ≠ none → q.hasEnded = true →
      (key ∈ q.given.map (·.1) ↔ ∃ f r, p.fetched.getLast? = some f ∧
        (f.rows.length : Int) = db.pageSize ∧ f.rows.getLast? = some r ∧ r.1 < key)) ∧
    (∀ events, ∃ n, ∀ k, n ≤ k →
      ((start db low high).run (events ++ List.replicate k .ask)).hasEnded = true) ∧
    ∃ n, ∀ k, n ≤ k → let p := (start db low high).run (List.replicate k .ask)
      p.hasEnded = true ∧ p.given = db.store.range low.le high := by
  -- one invariant carries all four parts: it holds at the start and every move keeps it
  have hstart : Exact low high db.pageSize (start db low high) := exact_start hread
  have hmoves := hstart.moves_of_run hpage
  have hexact : ∀ events, Exact low high db.pageSize ((start db low high).run events) :=
    fun events => (hstart.reach hpage.pos (hmoves events)).1
  refine ⟨fun events => ?_, fun before rows after key => ?_, fun events => ?_, ?_⟩
  · have h := hexact events
    have hascending : Ascending ((start db low high).run events).given :=
      h.ascending.sublist h.given_prefix.sublist
    refine ⟨h.noFailure, hascending, ?_, h.given_prefix, h.stored, ?_⟩
    · exact fun r hr => h.within r (h.given_prefix.subset hr)
    · intro hended f hfirst key hlow hhigh hstored
      -- keys only leave the keys that come by being given, so at the end the key was given
      have hcomes :=
        comes_of_first_page hpage.pos hstart rfl (hmoves events) hfirst hlow hhigh hstored
      have hin := (h.comes_iff_of_ended (Option.isNone_iff_eq_none.1 hended)).1 hcomes
      exact List.count_eq_one_of_mem hascending.nodup_keys hin
  · intro p q hfetched hlow hhigh habsent hput hended
    -- after the put the key comes or not, and no later move changes that
    have hq : q = (p.step (.put rows)).run after := run_append _ _ _
    have hafter : Exact low high db.pageSize (p.step (.put rows)) := by
      have h := hexact (before ++ [.put rows])
      rw [run_append] at h
      exact h
    obtain ⟨hqExact, hkeys⟩ := hafter.reach hpage.pos (hafter.moves_of_run hpage after)
    rw [← hq] at hqExact hkeys
    rw [← hqExact.comes_iff_of_ended (Option.isNone_iff_eq_none.1 hended),
      (hkeys key hlow hhigh hput).2, comes_step_put]
    exact (hexact before).comes_iff_of_absent hpage.pos hfetched habsent
  · -- each row that remains takes one step
    obtain ⟨n, hn⟩ := exists_run_asks_ended hpage (hexact events)
    refine ⟨n, fun k hk => ?_⟩
    rw [run_append, hasEnded, hn k hk]
    rfl
  · refine ⟨((Cursor.ofRange low high).remaining db).length + 1, fun k hk => ?_⟩
    obtain ⟨hend, hgiven⟩ := run_asks (p := start db low high) hread hpage rfl hk
    exact ⟨Option.isNone_iff_eq_none.2 hend, hgiven⟩

/-- A database of two rows that is scanned one row at a time. -/
def twoRows : Database := ⟨"store.db", .readWrite, 1, Store.empty.putAll [([1], []), ([3], [])]⟩

/-- A row that is put behind the first page is given. -/
theorem scan_exact_two_rows :
    let p := (start twoRows [0] [9]).run [.ask]
    let q := (start twoRows [0] [9]).run [.ask, .put [([2], [])], .ask, .ask, .ask]
    twoRows.access.allowsReading = true ∧ IsPageSize twoRows.pageSize ∧ p.fetched ≠ [] ∧
      p.db.store.get? [2] = none ∧ (p.step (.put [([2], [])])).db.store.get? [2] ≠ none ∧
      q.hasEnded = true ∧ [2] ∈ q.given.map (·.1) ∧ (q.given.map (·.1)).count [3] = 1 := by
  have hread : twoRows.access.allowsReading = true := rfl
  have hpage : IsPageSize twoRows.pageSize := by decide
  have hended : ((start twoRows [0] [9]).run
      ([.ask] ++ .put [([2], [])] :: [.ask, .ask, .ask])).hasEnded = true := by decide
  obtain ⟨hrun, hput, -, -⟩ := scan_exact [0] [9] hread hpage
  refine ⟨hread, hpage, by decide, by decide, by decide, hended, ?_, ?_⟩
  · refine (hput [.ask] [([2], [])] [.ask, .ask, .ask] [2] (by decide) (by decide) (by decide)
      (by decide) (by decide) hended).2 ?_
    exact ⟨⟨twoRows.store, [([1], [])]⟩, ([1], []), rfl, rfl, rfl, by decide⟩
  · exact (hrun _).2.2.2.2.2 hended ⟨twoRows.store, [([1], [])]⟩ rfl [3] (by decide) (by decide)
      (by decide)

/-- A database of one row that is scanned in pages of a size that the store does not take. -/
def oversizedPages : Database :=
  ⟨"store.db", .readWrite, Database.integerLimit, Store.empty.putAll [([97], [98])]⟩

/-- The row within the bounds is not given, although nothing is written: the scan fails at once. -/
theorem scan_of_oversizedPages :
    let p := (start oversizedPages [97] [122]).run [.ask]
    oversizedPages.access.allowsReading = true ∧ 1 ≤ oversizedPages.pageSize ∧
      oversizedPages.store.range (Octets.le [97]) [122] = [([97], [98])] ∧
      p.given = [] ∧ p.failure = some .pageSizeOutside := by
  have hopen : oversizedPages.access ≠ .closed := nofun
  obtain ⟨hgiven, hfailure⟩ :=
    run_of_isInteger_eq_false hopen (isInteger_of_integerLimit_le le_rfl) [97] [122] [.ask]
  exact ⟨rfl, by decide, by decide, hgiven, hfailure (List.mem_singleton.2 rfl)⟩

end Progress

end Regenesis
