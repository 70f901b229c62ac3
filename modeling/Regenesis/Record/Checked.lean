import Regenesis.Json.Value
import Regenesis.Record.Issue

/-!
# Record.Checked — reading that collects issues

Reading a part of a record gives a value or at least one issue. Two parts read side by side give
the issues of both, those of the first part first, so that one pass over a record finds everything
that is wrong with it. The second part reads the members of an object against the names that a
schema knows.
-/

namespace Regenesis.Record

/-- A value, or what is wrong. -/
inductive Checked (α : Type) where
  | ok (a : α)
  | issues (list : List Issue)
deriving Repr

namespace Checked

variable {α β : Type}

/-- One issue with the value itself. -/
def fail (c : Complaint) : Checked α := .issues [⟨c, []⟩]

/-- Applies a function to the value. -/
def map (f : α → β) : Checked α → Checked β
  | .ok a => .ok (f a)
  | .issues list => .issues list

/-- Puts a function and its argument together, or the issues of both. -/
def both : Checked (α → β) → Checked α → Checked β
  | .ok f, .ok a => .ok (f a)
  | .ok _, .issues list => .issues list
  | .issues list, .ok _ => .issues list
  | .issues first, .issues second => .issues (first ++ second)

instance : Applicative Checked where
  pure a := .ok a
  map f c := c.map f
  seq f c := both f (c ())

/-- Goes on with the value. -/
def andThen (c : Checked α) (f : α → Checked β) : Checked β :=
  match c with
  | .ok a => f a
  | .issues list => .issues list

/-- The issues seen from one step further out. -/
def under (s : Step) : Checked α → Checked α
  | .ok a => .ok a
  | .issues list => .issues (list.map fun i => { i with path := s :: i.path })

end Checked

/-- The items of a list, read one by one from an index on. -/
def readItems {α : Type} (read : Json → Checked α) : Nat → List Json → Checked (List α)
  | _, [] => .ok []
  | i, v :: rest =>
    Checked.both (((read v).under (.item i)).map List.cons) (readItems read (i + 1) rest)

-- ---------------------------------------------------------------------------
-- Members
-- ---------------------------------------------------------------------------

/-- A record is read from the members of an object. -/
def readRecord {α : Type} (read : Json.Members → Checked α) : Json → Checked α
  | .obj members => read members
  | _ => .fail .notRecord

/-- A member that must be there. -/
def required {α : Type} (name : String) (read : Json → Checked α) (members : Json.Members) :
    Checked α :=
  match members.get? name with
  | some v => (read v).under (.member name)
  | none => (Checked.fail .missing).under (.member name)

/-- A member that must be there under one of two names, of which the first is preferred. -/
def requiredEither {α : Type} (name other : String) (read : Json → Checked α)
    (members : Json.Members) : Checked α :=
  if (members.get? name).isNone && (members.get? other).isSome then
    required other read members
  else required name read members

/-- A member that has a default. -/
def optional {α : Type} (name : String) (read : Json → Checked α) (default : α)
    (members : Json.Members) : Checked α :=
  match members.get? name with
  | some v => (read v).under (.member name)
  | none => .ok default

/-- A member that has a default, under one of two names, of which the first is preferred. -/
def optionalEither {α : Type} (name other : String) (read : Json → Checked α) (default : α)
    (members : Json.Members) : Checked α :=
  if (members.get? name).isNone then optional other read default members
  else optional name read default members

/-- Passes a value on, unless there is a member of an unknown name. -/
def closed {α : Type} (known : List String) (members : Json.Members) (c : Checked α) : Checked α :=
  match members.filter fun m => !known.contains m.1 with
  | [] => c
  | unknown =>
    let extra : Checked Unit := .issues (unknown.map fun m => ⟨.unknownMember, [.member m.1]⟩)
    Checked.both (c.map fun a _ => a) extra

end Regenesis.Record
