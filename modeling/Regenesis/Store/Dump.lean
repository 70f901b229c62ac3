import Regenesis.Hex
import Regenesis.Store.Basic

/-!
# Store.Dump — a store as text

On disk a store is a text with one line for every row, in the order of the keys: the hex text of
the key, a space, and the hex text of the value. Reading takes rows in any order, of which the last
one of a key counts, and passes over empty lines.
-/

namespace Regenesis.Store

/-- The line of a row. -/
def rowLine (r : Row) : List Char := Hex.digits r.1 ++ ' ' :: Hex.digits r.2

/-- The text of a store. -/
def dump (s : Store) : String := String.ofList (s.rows.flatMap fun r => rowLine r ++ ['\n'])

/-- The row of a line. The first space of the line stands between the key and the value. -/
def rowOfLine? (line : List Char) : Option Row :=
  match line.span (· != ' ') with
  | (key, _ :: value) => do
    return (← (Hex.scan 0 key).toOption, ← (Hex.scan 0 value).toOption)
  | (_, []) => none

/-- The store of a text, if every line that is not empty is the line of a row. -/
def ofDump? (text : String) : Option Store := do
  let lines := (text.toList.splitOn '\n').filter (!·.isEmpty)
  return empty.putAll (← lines.mapM rowOfLine?)

end Regenesis.Store
