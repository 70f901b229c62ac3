import Regenesis.Octets

/-!
# Store.Locator — naming a store

A store is named by a locator: the path of its file, and behind a question mark options, each a
name with a value behind an equals sign, and ampersands between them. A percent sign with two hex
digits stands for a byte, and for that byte only, be it a separator or not; `%00` makes the rest of
what it stands in disappear. A hash sign ends a locator. A locator that begins with two slashes
names a host first, which must be this one.

The options say on what terms the store is opened. Options of other names have no effect.
-/

namespace Regenesis

/-- What a locator names: a path, and options with their values. -/
structure Locator where
  path : Octets
  options : List (Octets × Octets)
deriving DecidableEq, Repr

namespace Locator

-- ---------------------------------------------------------------------------
-- Symbols
-- ---------------------------------------------------------------------------

/-- A symbol of a locator. -/
inductive Symbol where
  /-- A byte that stands for itself, or separates. -/
  | plain (b : UInt8)
  /-- A byte that never separates. -/
  | escaped (b : UInt8)
  /-- The end of what it stands in. -/
  | cut
deriving DecidableEq, Repr

/-- The byte of a character of ASCII. -/
def ascii (c : Char) : UInt8 := UInt8.ofNat c.toNat

/-- The value of a hex digit. -/
def hexValue? (b : UInt8) : Option Nat :=
  if ascii '0' ≤ b ∧ b ≤ ascii '9' then some (b.toNat - '0'.toNat)
  else if ascii 'a' ≤ b ∧ b ≤ ascii 'f' then some (b.toNat - 'a'.toNat + 10)
  else if ascii 'A' ≤ b ∧ b ≤ ascii 'F' then some (b.toNat - 'A'.toNat + 10)
  else none

/-- The symbol that a percent sign and two bytes make, if the bytes are hex digits. -/
def escape? (a b : UInt8) : Option Symbol := do
  let n := (← hexValue? a) * 16 + (← hexValue? b)
  return if n = 0 then .cut else .escaped (UInt8.ofNat n)

/-- The symbols of a locator up to its end. -/
def symbols : Octets → List Symbol
  | [] => []
  | [b] => if b = ascii '#' then [] else [.plain b]
  | [a, b] => if a = ascii '#' then [] else .plain a :: symbols [b]
  | c :: a :: b :: rest =>
    if c = ascii '#' then []
    else
      match if c = ascii '%' then escape? a b else none with
      | some s => s :: symbols rest
      | none => .plain c :: symbols (a :: b :: rest)

/-- The bytes of symbols, up to the first that cuts. -/
def bytes : List Symbol → Octets
  | [] | .cut :: _ => []
  | .plain b :: rest | .escaped b :: rest => b :: bytes rest

/-- The symbols before the first separator, and those behind it. -/
def splitAt (separator : Char) (s : List Symbol) : List Symbol × List Symbol :=
  match s.span (· != .plain (ascii separator)) with
  | (before, behind) => (before, behind.drop 1)

-- ---------------------------------------------------------------------------
-- Parts
-- ---------------------------------------------------------------------------

/-- The name and the value of an option. Without an equals sign the value is empty. -/
def optionOf (s : List Symbol) : Octets × Octets :=
  let (name, value) := splitAt '=' s
  (bytes name, bytes value)

/-- The options of a list; one without a name is none. -/
def optionsOf (s : List Symbol) : List (Octets × Octets) :=
  ((s.splitOn (.plain (ascii '&'))).map optionOf).filter fun (name, _) => !name.isEmpty

/-- The bytes behind the host, unless the host is another one. -/
def behindHost? (b : Octets) : Option Octets :=
  match b with
  | s :: s' :: rest =>
    if s = ascii '/' ∧ s' = ascii '/' then
      match rest.span (· != ascii '/') with
      | (host, path) =>
        if host.isEmpty || host == Octets.ofText "localhost" then some path else none
    else some b
  | b => some b

/-- The locator of a text, if it does not name another host. -/
def ofText? (text : String) : Option Locator := do
  let (path, options) := splitAt '?' (symbols (← behindHost? (Octets.ofText text)))
  return ⟨bytes path, optionsOf options⟩

/-- A character that stands for a byte. Beyond ASCII it is one of those that nobody uses. -/
def byteChar (b : UInt8) : Char := Char.ofNat (if b < 128 then b.toNat else 0x10FF00 + b.toNat)

/-- The text of the path. Bytes that are not UTF-8 make a text that is no other path's. -/
def pathText (l : Locator) : String := l.path.toText?.getD (String.ofList (l.path.map byteChar))

-- ---------------------------------------------------------------------------
-- Terms
-- ---------------------------------------------------------------------------

/-- What may be done with a store that is opened. -/
inductive Mode where
  | read
  | write
  /-- Reading, writing, and making the store if it is missing. -/
  | create
  /-- The store is nowhere on disk. -/
  | memory
deriving DecidableEq, Repr

namespace Mode

/-- How much a mode asks for. -/
def demand : Mode → Nat
  | .memory => 0
  | .read => 1
  | .write => 2
  | .create => 3

/-- How much may be asked for after a mode. -/
def allowance : Mode → Nat
  | .read => 1
  | .write => 2
  | .create | .memory => 3

/-- The mode of a name. -/
def ofName? (name : Octets) : Option Mode :=
  [("ro", read), ("rw", write), ("rwc", create), ("memory", memory)].findSome? fun (n, m) =>
    if name = Octets.ofText n then some m else none

end Mode

/-- On what terms a store is opened: the mode, and whether the file system is one that is only in
memory. -/
structure Terms where
  mode : Mode := .create
  volatile : Bool := false

/-- The file systems; only the last of them is in memory. -/
def fileSystems : List String := ["unix", "unix-none", "unix-dotfile", "unix-excl", "memdb"]

/-- The terms after one more option. A mode must not ask for more than the mode before it. -/
def Terms.add? (t : Terms) (option : Octets × Octets) : Option Terms := do
  let (name, value) := option
  if name = Octets.ofText "mode" then
    let mode ← Mode.ofName? value
    if mode.demand ≤ t.mode.allowance then return { t with mode } else none
  else if name = Octets.ofText "cache" then
    if value = Octets.ofText "shared" ∨ value = Octets.ofText "private" then return t else none
  else return t

/-- The file system that options name, if they name one. The last one counts. -/
def fileSystem? (options : List (Octets × Octets)) : Option Octets :=
  ((options.filter fun (name, _) => name = Octets.ofText "vfs").getLast?).map (·.2)

/-- The terms of a locator, if its options make sense. -/
def terms? (l : Locator) : Option Terms := do
  let t ← l.options.foldlM Terms.add? {}
  match fileSystem? l.options with
  | none => return t
  | some system =>
    if (fileSystems.map Octets.ofText).contains system then
      return { t with volatile := system = Octets.ofText "memdb" }
    else none

/-- Whether a store of these terms is nowhere on disk: in memory, or without a name. -/
def isTransient (l : Locator) (t : Terms) : Bool :=
  t.mode = .memory || t.volatile || l.path.isEmpty || l.path == Octets.ofText ":memory:"

end Locator

end Regenesis
