import Mathlib
import Regenesis.Directory.Basic

/-!
# Proofs.Directory.Writing — what a write changes

Making folders adds places to the folders and changes nothing else, and a path that led somewhere
leads to the same place afterwards. So a write that succeeds puts its text at the place to which its
path leads in the end, takes a store away that was there, and leaves all other places alone:
`write_eq_ok`.
-/

namespace Regenesis.Directory

variable {d d' : Directory} {p : Path} {text content : String}

-- ---------------------------------------------------------------------------
-- Directories with more folders
-- ---------------------------------------------------------------------------

/-- Whether a directory differs from another in that it may have more folders. -/
structure AddsFolders (d d' : Directory) : Prop where
  stores : d'.stores = d.stores
  files : d'.files = d.files
  folders : d.folders ⊆ d'.folders

namespace AddsFolders

theorem refl (d : Directory) : AddsFolders d d := ⟨rfl, rfl, List.Subset.refl _⟩

theorem trans {d'' : Directory} (h : AddsFolders d d') (h' : AddsFolders d' d'') :
    AddsFolders d d'' :=
  ⟨h'.stores.trans h.stores, h'.files.trans h.files, List.Subset.trans h.folders h'.folders⟩

/-- What was a folder stays one. -/
theorem isFolder (h : AddsFolders d d') (hfolder : d.isFolder p = true) :
    d'.isFolder p = true := by
  rw [Directory.isFolder, Bool.or_eq_true, List.contains_iff_mem] at hfolder ⊢
  exact hfolder.imp_right fun hmem => h.folders hmem

/-- A path that could be followed can still be followed, to the same place. -/
theorem follow (h : AddsFolders d d') {names : List String} {start : Path}
    (hfollow : d.follow start names = .ok p) : d'.follow start names = .ok p := by
  induction names generalizing start with
  | nil => exact hfollow
  | cons name rest ih =>
    rw [Directory.follow] at hfollow ⊢
    split at hfollow
    · cases hfollow
    · rename_i hfolder
      rw [Bool.not_eq_true', Bool.not_eq_false] at hfolder
      rw [if_neg (by rw [h.isFolder hfolder]; decide)]
      split at hfollow
      · cases hfollow
      · rename_i hlength
        rw [if_neg hlength]
        exact ih hfollow

/-- A place that was reached is still reached. -/
theorem reach (h : AddsFolders d d') (hreach : d.reach text = .ok p) :
    d'.reach text = .ok p := by
  rw [Directory.reach] at hreach ⊢
  split at hreach
  · cases hreach
  · rename_i hclean
    rw [if_neg hclean]
    split at hreach
    · cases hreach
    · rename_i hnonempty
      rw [if_neg hnonempty]
      exact h.follow hreach

end AddsFolders

/-- Making a folder adds folders only. -/
theorem addsFolders_makeFolder (h : d.makeFolder text = .ok d') : AddsFolders d d' := by
  rw [makeFolder] at h
  split at h
  · exact nomatch h
  · split at h
    · rw [← Except.ok.inj h]
      exact .refl d
    · split at h
      · exact nomatch h
      · rw [← Except.ok.inj h]
        exact ⟨rfl, rfl, List.subset_append_left _ _⟩

/-- Making folders adds folders, whether it succeeds or not. -/
theorem addsFolders_makeFolders (d : Directory) (texts : List String) :
    AddsFolders d (d.makeFolders texts).1 := by
  induction texts generalizing d with
  | nil => exact .refl d
  | cons text rest ih =>
    rw [makeFolders]
    split
    · exact ih d
    · split
      · exact .refl d
      · rename_i d' hmake
        exact (addsFolders_makeFolder hmake).trans (ih d')

-- ---------------------------------------------------------------------------
-- Writing
-- ---------------------------------------------------------------------------

/-- **Writing.** A write that succeeds puts the text at the place to which the path leads in the
end, in place of any store, and changes no other place. Paths that led somewhere lead to the same
place. -/
theorem write_eq_ok (h : d.write text content = (d', none)) :
    ∃ p, d'.reach text = .ok p ∧
      (∀ q, d'.files.get? q = if q == p then some content else d.files.get? q) ∧
      (∀ q, d'.stores.get? q = if q == p then none else d.stores.get? q) ∧
      ∀ other q, d.reach other = .ok q → d'.reach other = .ok q := by
  rw [write] at h
  have hadds := addsFolders_makeFolders d (Path.folderTexts text)
  split at h
  · cases h
  · rename_i d₁ hmake
    rw [hmake] at hadds
    split at h
    · cases h
    · rename_i p hreach
      split at h
      · cases h
      · obtain rfl := (Prod.mk.inj h).1
        refine ⟨p, reach_putFile hreach, fun q => ?_, fun q => ?_, fun other q hother => ?_⟩
        · rw [get?_files_putFile, hadds.files]
        · rw [get?_stores_putFile, hadds.stores]
        · exact reach_putFile (hadds.reach hother)

/-- A path through no folders that leads to no folder can be written. -/
theorem write_of_reach (hfolders : Path.folderTexts text = []) (hreach : d.reach text = .ok p)
    (hfolder : d.isFolder p = false) (content : String) :
    d.write text content = (d.putFile p content, none) := by
  rw [write, hfolders, makeFolders]
  simp only [hreach, hfolder, Bool.false_eq_true, if_false]

/-- A folder fails to be made at a path. -/
theorem makeFolder_error {e : Failure} (h : d.makeFolder text = .error e) :
    ∃ path fault, e = .path path fault := by
  rw [makeFolder] at h
  split at h
  · exact ⟨_, _, (Except.error.inj h).symm⟩
  · split at h
    · exact nomatch h
    · split at h
      · exact ⟨_, _, (Except.error.inj h).symm⟩
      · exact nomatch h

theorem makeFolders_error {texts : List String} {e : Failure}
    (h : (d.makeFolders texts).2 = some e) : ∃ path fault, e = .path path fault := by
  induction texts generalizing d with
  | nil => exact nomatch h
  | cons text rest ih =>
    rw [makeFolders] at h
    split at h
    · exact ih h
    · split at h
      · rename_i hmake
        exact Option.some.inj h ▸ makeFolder_error hmake
      · exact ih h

/-- A write that fails does so at a path. -/
theorem write_error {e : Failure} (h : (d.write text content).2 = some e) :
    ∃ path fault, e = .path path fault := by
  rw [write] at h
  split at h
  · rename_i hmake
    exact makeFolders_error ((congrArg Prod.snd hmake).trans h)
  · split at h
    · exact ⟨_, _, (Option.some.inj h).symm⟩
    · split at h
      · exact ⟨_, _, (Option.some.inj h).symm⟩
      · cases h

end Regenesis.Directory
