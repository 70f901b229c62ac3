import Regenesis.Directory.Path
import Regenesis.Failure
import Regenesis.Store.Basic
import Regenesis.Table

/-!
# Directory — what lies in and around the working folder

A directory knows folders, files with their texts, and stores, by place. The working folder, the
folders around it and the root are always there. A path is followed name by name, and each name is
looked up in a folder; so a path through what is missing leads nowhere, even if two points lead
back out. Writing a file makes the folders through which its path leads, and replaces what was in
its place, be it a file or a store.
-/

namespace Regenesis

/-- Folders, and what lies in them. -/
structure Directory where
  stores : Table Path Store := []
  files : Table Path String := []
  folders : List Path := []

namespace Directory

/-- Whether a folder is at a place. -/
def isFolder (d : Directory) (p : Path) : Bool := p.isAround || d.folders.contains p

/-- Whether a file is at a place, which may be the file of a store. -/
def isFile (d : Directory) (p : Path) : Bool :=
  (d.files.get? p).isSome || (d.stores.get? p).isSome

-- ---------------------------------------------------------------------------
-- Following paths
-- ---------------------------------------------------------------------------

/-- The greatest length of a name, in bytes. -/
def maxNameLength : Nat := 255

/-- The place to which names lead from a place. -/
def follow (d : Directory) : Path → List String → Except PathFault Path
  | p, [] => .ok p
  | p, name :: rest =>
    if !d.isFolder p then .error (if d.isFile p then .notFolder else .missing)
    else if maxNameLength < name.utf8ByteSize then .error .nameTooLong
    else d.follow (p.step name) rest

/-- The place to which the text of a path leads. Nothing needs to be there. -/
def reach (d : Directory) (text : String) : Except PathFault Path :=
  if text.toList.contains (Char.ofNat 0) then .error .null
  else if text.isEmpty then .error .missing
  else d.follow (.start text) (Path.namesOf text)

/-- Whether something is where the text of a path leads. -/
def holds (d : Directory) (text : String) : Bool :=
  match d.reach text with
  | .ok p => d.isFolder p || d.isFile p
  | .error _ => false

/-- The text of the file to which a path leads. -/
def read? (d : Directory) (text : String) : Option String :=
  match d.reach text with
  | .ok p => d.files.get? p
  | .error _ => none

-- ---------------------------------------------------------------------------
-- Writing
-- ---------------------------------------------------------------------------

/-- Makes one folder, unless it is there. -/
def makeFolder (d : Directory) (text : String) : Except Failure Directory :=
  match d.reach text with
  | .error fault => .error (.path text fault)
  | .ok p =>
    if d.isFolder p then .ok d
    else if d.isFile p then .error (.path text .taken)
    else .ok { d with folders := d.folders ++ [p] }

/-- Makes folders one after the other, and gives the directory as far as this went. Whatever is at
the place of a folder may stay there, but the last place must hold a folder in the end. -/
def makeFolders (d : Directory) : List String → Directory × Option Failure
  | [] => (d, none)
  | text :: rest =>
    if d.holds text && !rest.isEmpty then d.makeFolders rest
    else
      match d.makeFolder text with
      | .error e => (d, some e)
      | .ok d => d.makeFolders rest

/-- Puts a text at a place. -/
def putFile (d : Directory) (p : Path) (content : String) : Directory :=
  { d with stores := d.stores.erase p, files := d.files.put p content }

theorem get?_files_putFile (d : Directory) (p q : Path) (content : String) :
    (d.putFile p content).files.get? q = if q == p then some content else d.files.get? q :=
  Table.get?_put d.files p q content

theorem get?_stores_putFile (d : Directory) (p q : Path) (content : String) :
    (d.putFile p content).stores.get? q = if q == p then none else d.stores.get? q :=
  Table.get?_erase d.stores p q

theorem isFolder_putFile (d : Directory) (p q : Path) (content : String) :
    (d.putFile p content).isFolder q = d.isFolder q := rfl

/-- A new file stands in the way of no path that led somewhere before. -/
theorem follow_putFile {d : Directory} {content : String} {p : Path} {names : List String}
    {start q : Path} (h : d.follow start names = .ok q) :
    (d.putFile p content).follow start names = .ok q := by
  induction names generalizing start with
  | nil => exact h
  | cons name rest ih =>
    rw [follow] at h ⊢
    rw [isFolder_putFile]
    cases folder : d.isFolder start with
    | false => simp [folder] at h
    | true =>
      by_cases long : maxNameLength < name.utf8ByteSize
      · simp [folder, long] at h
      · simp only [folder, long, Bool.not_true, Bool.false_eq_true, if_false] at h ⊢
        exact ih h

theorem reach_putFile {d : Directory} {content text : String} {p q : Path}
    (h : d.reach text = .ok q) : (d.putFile p content).reach text = .ok q := by
  simp only [reach] at h ⊢
  split at h
  · cases h
  · rename_i clean
    rw [if_neg clean]
    split at h
    · cases h
    · rename_i nonempty
      rw [if_neg nonempty]
      exact follow_putFile h

/-- Writes a text into the file to which a path leads. Folders that are made on the way stay even
if the file cannot be written. -/
def write (d : Directory) (path content : String) : Directory × Option Failure :=
  match d.makeFolders (Path.folderTexts path) with
  | (d, some e) => (d, some e)
  | (d, none) =>
    match d.reach path with
    | .error fault => (d, some (.path path fault))
    | .ok p =>
      if d.isFolder p then (d, some (.path path .folder)) else (d.putFile p content, none)

/-- What was written is what is read. -/
theorem read?_write {d d' : Directory} {path content : String}
    (h : d.write path content = (d', none)) : d'.read? path = some content := by
  simp only [write] at h
  split at h
  · cases h
  · split at h
    · cases h
    · rename_i p reached
      split at h
      · cases h
      · obtain rfl := congrArg Prod.fst h
        simp [read?, reach_putFile reached, get?_files_putFile]

end Directory

end Regenesis
