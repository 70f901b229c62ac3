import Regenesis.Decimal.Binary64
import Regenesis.Table

/-!
# Json — values

A value is null, a boolean, an integer of any size, a double, a text, a list of values, or an
object, which is a list of named members in the order in which they were written. `canonical`
brings the members of all objects into the order of their names, so that two values which differ
only in the order of members become equal.
-/

namespace Regenesis

/-- A JSON value. -/
inductive Json where
  | null
  | bool (b : Bool)
  | int (n : Int)
  | float (x : Binary64)
  | str (s : String)
  | arr (items : List Json)
  | obj (members : List (String × Json))
deriving Repr, Inhabited

namespace Json

-- ---------------------------------------------------------------------------
-- Members
-- ---------------------------------------------------------------------------

/-- The members of an object. -/
abbrev Members := Table String Json

/-- The value of a member of an object; `none` for other values. -/
def get? (name : String) : Json → Option Json
  | .obj members => Table.get? members name
  | _ => none

-- ---------------------------------------------------------------------------
-- Canonical order
-- ---------------------------------------------------------------------------

/-- Inserts a member before the first one whose name is not smaller. -/
def insertMember (m : String × Json) : Members → Members
  | [] => [m]
  | m' :: rest => if m'.1 < m.1 then m' :: insertMember m rest else m :: m' :: rest

mutual

/-- The value with the members of every object in the order of their names, by code point. -/
def canonical : Json → Json
  | .arr items => .arr (canonicalItems items)
  | .obj members => .obj (canonicalMembers members)
  | .null => .null
  | .bool b => .bool b
  | .int n => .int n
  | .float x => .float x
  | .str s => .str s

/-- Each item of a list in canonical form. -/
def canonicalItems : List Json → List Json
  | [] => []
  | v :: rest => canonical v :: canonicalItems rest

/-- Each member in canonical form, and the members in order. -/
def canonicalMembers : Members → Members
  | [] => []
  | (name, v) :: rest => insertMember (name, canonical v) (canonicalMembers rest)

end

-- ---------------------------------------------------------------------------
-- Numbers and depth
-- ---------------------------------------------------------------------------

mutual

/-- Whether a test holds of every number in a value: integers and doubles. -/
def allNumbers (onInt : Int → Bool) (onFloat : Binary64 → Bool) : Json → Bool
  | .int n => onInt n
  | .float x => onFloat x
  | .arr items => allNumbersInItems onInt onFloat items
  | .obj members => allNumbersInMembers onInt onFloat members
  | .null | .bool _ | .str _ => true

/-- Whether the test holds of every number in the items of a list. -/
def allNumbersInItems (onInt : Int → Bool) (onFloat : Binary64 → Bool) : List Json → Bool
  | [] => true
  | v :: rest => allNumbers onInt onFloat v && allNumbersInItems onInt onFloat rest

/-- Whether the test holds of every number in the members of an object. -/
def allNumbersInMembers (onInt : Int → Bool) (onFloat : Binary64 → Bool) :
    Members → Bool
  | [] => true
  | (_, v) :: rest => allNumbers onInt onFloat v && allNumbersInMembers onInt onFloat rest

end

/-- Whether a value contains no double. -/
def floatFree (v : Json) : Bool := allNumbers (fun _ => true) (fun _ => false) v

mutual

/-- The number of values inside one another: one for a value without parts. -/
def depth : Json → Nat
  | .arr items => depthOfItems items + 1
  | .obj members => depthOfMembers members + 1
  | .null | .bool _ | .int _ | .float _ | .str _ => 1

/-- The greatest depth of the items of a list. -/
def depthOfItems : List Json → Nat
  | [] => 0
  | v :: rest => max (depth v) (depthOfItems rest)

/-- The greatest depth of the members of an object. -/
def depthOfMembers : Members → Nat
  | [] => 0
  | (_, v) :: rest => max (depth v) (depthOfMembers rest)

end

end Json

end Regenesis
