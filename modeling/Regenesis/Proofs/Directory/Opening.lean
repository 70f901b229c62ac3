import Mathlib
import Regenesis.Directory.Opening
import Regenesis.Proofs.Store.Locator

/-!
# Proofs.Directory.Opening — what opening a store changes

Opening a store changes the directory only where a missing file is made. Nothing can be read from
such a file, and making it takes a mode that a name which separates nothing does not bring:
`openStore_eq_ok`.
-/

namespace Regenesis.Directory

variable {d d' : Directory} {db : Database} {name : String}

/-- Whether a directory differs from another in a file without a text, where nothing was. -/
def MakesFile (d d' : Directory) : Prop :=
  ∃ p, d.isFile p = false ∧ d.isFolder p = false ∧ d' = d.putFile p ""

theorem openPlace?_eq_some {mode : Locator.Mode} {p : Path}
    (h : d.openPlace? name mode p = some (db, d')) :
    db.pageSize = Database.defaultPageSize ∧
      (d' = d ∨ (mode = .create ∧ db.access = .closed ∧ MakesFile d d')) := by
  unfold openPlace? at h
  dsimp only at h
  split at h
  · obtain ⟨rfl, rfl⟩ := Prod.mk.inj (Option.some.inj h)
    exact ⟨rfl, Or.inl rfl⟩
  · rename_i hstore
    split at h
    · obtain ⟨rfl, rfl⟩ := Prod.mk.inj (Option.some.inj h)
      exact ⟨rfl, Or.inl rfl⟩
    · rename_i hfile
      split at h
      · rename_i hcreate
        rw [Bool.and_eq_true, Bool.and_eq_true, Bool.not_eq_true', decide_eq_true_eq] at hcreate
        obtain ⟨⟨hfolder, -⟩, hmode⟩ := hcreate
        rw [Bool.not_eq_true] at hfile
        obtain ⟨rfl, rfl⟩ := Prod.mk.inj (Option.some.inj h)
        refine ⟨rfl, Or.inr ⟨hmode, rfl, p, ?_, hfolder, rfl⟩⟩
        rw [isFile, hfile, hstore]
        rfl
      · cases h

theorem openLocator?_eq_some {l : Locator} (h : d.openLocator? name l = some (db, d')) :
    db.pageSize = Database.defaultPageSize ∧
      (d' = d ∨ ((∃ t, l.terms? = some t ∧ t.mode = .create) ∧ db.access = .closed ∧
        MakesFile d d')) := by
  obtain ⟨t, ht, h⟩ := Option.bind_eq_some_iff.1 h
  split at h
  · obtain ⟨rfl, rfl⟩ := Prod.mk.inj (Option.some.inj h)
    exact ⟨rfl, Or.inl rfl⟩
  · obtain ⟨p, -, h⟩ := Option.bind_eq_some_iff.1 h
    exact (openPlace?_eq_some h).imp_right (Or.imp_right fun h => ⟨⟨t, ht, h.1⟩, h.2⟩)

theorem exists_locator_of_openStore (h : d.openStore name = .ok (db, d')) :
    ∃ l, Locator.ofText? (name ++ "?mode=ro") = some l ∧
      d.openLocator? name l = some (db, d') := by
  rw [openStore] at h
  split at h
  · exact nomatch h
  · split at h
    · rename_i opened hopened
      obtain rfl := Except.ok.inj h
      exact Option.bind_eq_some_iff.1 hopened
    · exact nomatch h

/-- **Opening.** Opening a store leaves the directory as it is, unless the name has a question mark
or a hash sign in it; then it may make a file, of which nothing can be read. -/
theorem openStore_eq_ok (h : d.openStore name = .ok (db, d')) :
    d' = d ∨ ((∃ b ∈ Octets.ofText name, ¬ Locator.IsPlain b) ∧ db.access = .closed ∧
      MakesFile d d') := by
  obtain ⟨l, hl, hopened⟩ := exists_locator_of_openStore h
  refine (openLocator?_eq_some hopened).2.imp_right fun ⟨⟨t, ht, hmode⟩, h⟩ => ⟨?_, h⟩
  by_contra hplain
  push Not at hplain
  rw [Locator.mode_of_readOnly hplain hl ht] at hmode
  exact nomatch hmode

/-- Whatever is opened has pages of the size that is used unless another is asked for. -/
theorem pageSize_of_openStore (h : d.openStore name = .ok (db, d')) :
    db.pageSize = Database.defaultPageSize := by
  obtain ⟨l, -, hopened⟩ := exists_locator_of_openStore h
  exact (openLocator?_eq_some hopened).1

/-- A name without a null character is at worst that of a store that cannot be opened. -/
theorem openStore_error {e : Failure} (hname : ¬ name.toList.contains (Char.ofNat 0))
    (h : d.openStore name = .error e) : e.isMigrationFailure = true := by
  rw [openStore, if_neg hname] at h
  split at h
  · exact nomatch h
  · rw [← Except.error.inj h]
    rfl

end Regenesis.Directory
