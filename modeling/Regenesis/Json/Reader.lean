import Regenesis.Octets
import Regenesis.Json.Token

/-!
# Json.Reader — from text to value

The symbols of a text are taken one by one. The state tells what may come next and holds the
containers that are still open, the innermost first. When a value is complete it goes into the
container around it; the value that is complete when no container is open is the value of the text.
Of members with one name the last one counts. A reader may limit how many containers are open when
an item or a member's value begins, and how many digits the whole part of a number has.
-/

namespace Regenesis.Json

/-- What a reader puts up with. -/
structure Limits where
  /-- The greatest number of open containers around a value. -/
  depth : Option Nat
  /-- The greatest number of digits of the whole part of a number. -/
  numberLength : Option Nat

/-- The limits for stored records. -/
def Limits.stored : Limits := ⟨some 200, some Decimal.maxDigits⟩

/-- No limits. -/
def Limits.none : Limits := ⟨.none, .none⟩

/-- A container with a value missing, the parts before it in reverse. -/
inductive Frame where
  | list (done : List Json)
  | object (done : List (String × Json)) (name : String)
deriving Inhabited

/-- What may come next, and the open containers. -/
inductive State where
  /-- A value. -/
  | value (stack : List Frame)
  /-- The first item of a list, or its end. -/
  | listStart (stack : List Frame)
  /-- A comma or the end of a list. -/
  | listNext (done : List Json) (stack : List Frame)
  /-- The first name of an object, or its end. -/
  | objectStart (stack : List Frame)
  /-- A name. -/
  | nextName (done : List (String × Json)) (stack : List Frame)
  /-- The colon behind a name. -/
  | colon (done : List (String × Json)) (name : String) (stack : List Frame)
  /-- A comma or the end of an object. -/
  | objectNext (done : List (String × Json)) (stack : List Frame)
  /-- Nothing. -/
  | finished (v : Json)
deriving Inhabited

/-- The state after a value is complete. -/
def State.complete (v : Json) : List Frame → State
  | [] => .finished v
  | .list done :: stack => .listNext (v :: done) stack
  | .object done name :: stack => .objectNext ((name, v) :: done) stack

/-- The state after the first symbol of a value. -/
def State.begin (limits : Limits) (stack : List Frame) (t : Token) : Option State :=
  if limits.depth.any (· < stack.length) then none
  else
    match t with
    | .scalar v => some (.complete v stack)
    | .openList => some (.listStart stack)
    | .openObject => some (.objectStart stack)
    | _ => none

/-- The state after one more symbol, if the symbol may come. -/
def State.step (limits : Limits) : State → Token → Option State
  | .value stack, t => State.begin limits stack t
  | .listStart stack, .closeList => some (.complete (.arr []) stack)
  | .listStart stack, t => State.begin limits (.list [] :: stack) t
  | .listNext done stack, .comma => some (.value (.list done :: stack))
  | .listNext done stack, .closeList => some (.complete (.arr done.reverse) stack)
  | .objectStart stack, .closeObject => some (.complete (.obj []) stack)
  | .objectStart stack, .scalar (.str name) => some (.colon [] name stack)
  | .nextName done stack, .scalar (.str name) => some (.colon done name stack)
  | .colon done name stack, .colon => some (.value (.object done name :: stack))
  | .objectNext done stack, .comma => some (.nextName done stack)
  | .objectNext done stack, .closeObject =>
    some (.complete (.obj (Table.ofEntries done.reverse)) stack)
  | _, _ => none

/-- The state after a row of symbols. -/
def State.run (limits : Limits) : State → List Token → Option State
  | s, [] => some s
  | s, t :: ts =>
    match s.step limits t with
    | none => none
    | some s' => s'.run limits ts

/-- The value of a row of symbols. -/
def ofTokens? (limits : Limits) (ts : List Token) : Option Json :=
  match State.run limits (.value []) ts with
  | some (.finished v) => some v
  | _ => none

/-- The value of a JSON text. -/
def parse? (limits : Limits) (cs : List Char) : Option Json := do
  ofTokens? limits (← Token.tokens? limits.numberLength cs)

/-- The value of a JSON text in UTF-8. -/
def ofOctets? (limits : Limits) (b : Octets) : Option Json := do
  parse? limits (← b.toText?).toList

end Regenesis.Json
