import Mathlib
import Regenesis.Snapshot.Load
import Regenesis.Proofs.Outcome
import Regenesis.Proofs.Snapshot.Accounts
import Regenesis.Proofs.Store.Layout

/-!
# Proofs.Snapshot.Load — what a loaded snapshot is made of

A snapshot is loaded if its heights are in range and each of its parts can be read, and then it is
made of these parts.
-/

namespace Regenesis.Snapshot

open Record

variable {db : Database} {height previous : Int}

/-- Heights are in range if keys hold them and the previous one is lower. -/
theorem checkRange_eq_ok :
    checkRange height previous = .ok () ↔
      0 ≤ previous ∧ previous < height ∧ height ≤ Layout.maxHeight := by
  have hbind : checkRange height previous = .ok () ↔
      Layout.checkHeight height = .ok () ∧ Layout.checkHeight previous = .ok () ∧
        previous < height := by
    rw [checkRange, Outcome.bind_eq_ok]
    constructor
    · rintro ⟨_, hheight, h⟩
      obtain ⟨_, hprevious, h⟩ := Outcome.bind_eq_ok.1 h
      split at h
      · exact nomatch h
      · exact ⟨hheight, hprevious, by omega⟩
    · rintro ⟨hheight, hprevious, hlt⟩
      refine ⟨(), hheight, Outcome.bind_eq_ok.2 ⟨(), hprevious, ?_⟩⟩
      rw [if_neg (by omega)]
      rfl
  rw [hbind, Layout.checkHeight_eq_ok, Layout.checkHeight_eq_ok]
  omega

/-- A snapshot is loaded if its heights are in range and each of its parts can be read. -/
theorem load_eq_ok {s : Snapshot} :
    load db height previous = .ok s ↔
      checkRange height previous = .ok () ∧ s.height = height ∧ s.previousHeight = previous ∧
        readAccounts db = .ok s.accounts ∧ readUnregistered db = .ok s.legacyAccounts ∧
        readVoteWeights db = .ok s.voteWeights ∧ headerAt db height = .ok s.block := by
  constructor
  · intro h
    obtain ⟨_, hrange, h⟩ := Outcome.bind_eq_ok.1 h
    obtain ⟨accounts, haccounts, h⟩ := Outcome.bind_eq_ok.1 h
    obtain ⟨legacy, hlegacy, h⟩ := Outcome.bind_eq_ok.1 h
    obtain ⟨weights, hweights, h⟩ := Outcome.bind_eq_ok.1 h
    obtain ⟨block, hblock, h⟩ := Outcome.bind_eq_ok.1 h
    rw [← Except.ok.inj h]
    exact ⟨hrange, rfl, rfl, haccounts, hlegacy, hweights, hblock⟩
  · rintro ⟨hrange, rfl, rfl, haccounts, hlegacy, hweights, hblock⟩
    rw [load, hrange, Outcome.ok_bind, haccounts, Outcome.ok_bind, hlegacy, Outcome.ok_bind,
      hweights, Outcome.ok_bind, hblock]
    rfl

/-- A snapshot is loaded from a store that can be read only. -/
theorem allowsReading_of_load {s : Snapshot} (h : load db height previous = .ok s) :
    db.access.allowsReading = true := by
  obtain ⟨-, -, -, -, -, hweights, -⟩ := load_eq_ok.1 h
  obtain ⟨value, hget, -⟩ := Outcome.bind_eq_ok.1 hweights
  rw [Database.get] at hget
  split at hget
  · assumption
  · cases hget

/-- A scan of accounts that is refused its first page keeps a snapshot from being loaded. -/
theorem load_of_refused {e : Failure} (hrange : checkRange height previous = .ok ())
    (h : accountCursor.checkFetch db = .error e) : load db height previous = .error e := by
  rw [load, hrange, Outcome.ok_bind, readAccounts_of_refused h, Outcome.error_bind]

/-- A positive page size of a store from which a snapshot is loaded is one that the store takes. -/
theorem isPageSize_of_load {s : Snapshot} (hpage : 1 ≤ db.pageSize)
    (h : load db height previous = .ok s) : IsPageSize db.pageSize := by
  obtain ⟨-, -, -, haccounts, -⟩ := load_eq_ok.1 h
  cases hcheck : accountCursor.checkFetch db with
  | error e => exact nomatch (readAccounts_of_refused hcheck).symm.trans haccounts
  | ok _ => exact isPageSize_iff.2 ⟨hpage, (Cursor.checkFetch_eq_ok.1 hcheck).2⟩

end Regenesis.Snapshot
