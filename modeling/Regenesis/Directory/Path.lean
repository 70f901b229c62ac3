/-!
# Directory.Path — places among folders

A path is a row of names that leads from the working folder, or from the root, to a place. In the
text of a path slashes stand between the names. An empty name and a point lead nowhere else, two
points lead back out; where they lead out of the working folder they stay in the row.
-/

namespace Regenesis

/-- A place, by the names that lead there. -/
structure Path where
  absolute : Bool
  names : List String
deriving DecidableEq, Repr

namespace Path

/-- The folder around a place. The root is the folder around itself. -/
def outer (p : Path) : Path :=
  match p.names.getLast? with
  | none | some ".." => if p.absolute then p else { p with names := p.names ++ [".."] }
  | some _ => { p with names := p.names.dropLast }

/-- The place to which a name leads. -/
def step (p : Path) (name : String) : Path :=
  if name = "" ∨ name = "." then p
  else if name = ".." then p.outer
  else { p with names := p.names ++ [name] }

/-- The folder from which the text of a path leads on. -/
def start (text : String) : Path := ⟨text.startsWith "/", []⟩

/-- The names in the text of a path. -/
def namesOf (text : String) : List String := (text.toList.splitOn '/').map String.ofList

/-- The place to which a text leads if nothing is in the way. -/
def ofText (text : String) : Path := (namesOf text).foldl step (start text)

/-- The text of a path. -/
def text (p : Path) : String :=
  if p.absolute then "/" ++ "/".intercalate p.names
  else if p.names.isEmpty then "." else "/".intercalate p.names

/-- Whether a place is the root, the working folder or a folder around it. -/
def isAround (p : Path) : Bool := p.names.all (· == "..")

/-- The beginnings of a text that end in front of slashes, `before` being what is already read of
the text, in reverse. -/
def beginningsFrom (before : List Char) : List Char → List String
  | [] => []
  | '/' :: rest =>
    let later := beginningsFrom ('/' :: before) rest
    if before.isEmpty || before.head? == some '/' then later
    else String.ofList before.reverse :: later
  | c :: rest => beginningsFrom (c :: before) rest

/-- The texts of the folders through which the text of a path leads, the outermost first. -/
def folderTexts (text : String) : List String := beginningsFrom [] text.toList

end Path

end Regenesis
