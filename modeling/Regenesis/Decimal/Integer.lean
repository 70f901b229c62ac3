import Regenesis.Octets
import Regenesis.Text.Blank
import Regenesis.Text.Digit

/-!
# Integer — whole numbers in decimal notation

An integer is written with a minus sign if it is negative and without leading zeros. Reading a text
that people write is more generous: blanks around the number, a sign of either kind, leading zeros,
single underscores between digits, and the decimal digits of any script. Neither direction handles
numbers of more than 4300 digits, counted with leading zeros.
-/

namespace Regenesis.Decimal

/-- The greatest number of digits that is read or written. -/
def maxDigits : Nat := 4300

/-- The digits of a natural number. -/
def natDigits (n : Nat) : List Char := Nat.toDigits 10 n

/-- The decimal notation of an integer. -/
def intDigits : Int → List Char
  | .ofNat n => natDigits n
  | .negSucc n => '-' :: natDigits (n + 1)

/-- The decimal notation of an integer, as text. -/
def ofInt (n : Int) : String := String.ofList (intDigits n)

/-- The value of digits, continuing from the value of the digits before them. -/
def valueFrom (n : Nat) (digits : List Nat) : Nat := digits.foldl (fun n d => n * 10 + d) n

/-- Why a number has no text, or a text no number. -/
inductive IntegerFault where
  /-- The text is not an integer in decimal notation. -/
  | notInteger (text : String)
  /-- The text has more digits than are read. -/
  | tooManyDigits (count : Nat)
  /-- The number has more digits than are written. -/
  | tooLarge
deriving DecidableEq, Repr

/-- Whether an integer has few enough digits to be written. -/
def fits (n : Int) : Bool := (natDigits n.natAbs).length ≤ maxDigits

/-- The decimal notation of an integer that is not too long. -/
def write (n : Int) : Except IntegerFault String :=
  if fits n then .ok (ofInt n) else .error .tooLarge

-- ---------------------------------------------------------------------------
-- Reading
-- ---------------------------------------------------------------------------

/-- The values of a run of digits with single underscores between them, and what follows the run.
`none` if an underscore is not between two digits. -/
def digitRun : List Char → Option (List Nat × List Char)
  | [] => some ([], [])
  | '_' :: c :: rest =>
    match Text.decimalValue? c with
    | none => none
    | some d => (digitRun rest).map fun (ds, tail) => (d :: ds, tail)
  | c :: rest =>
    match Text.decimalValue? c with
    | none => if c == '_' then none else some ([], c :: rest)
    | some d => (digitRun rest).map fun (ds, tail) => (d :: ds, tail)

/-- The sign at the front of a text, and what follows it. -/
def takeSign : List Char → Bool × List Char
  | '-' :: rest => (true, rest)
  | '+' :: rest => (false, rest)
  | cs => (false, cs)

/-- The integer that a text stands for. -/
def read (s : String) : Except IntegerFault Int :=
  let (negative, cs) := takeSign (s.toList.dropWhile Text.isBlank)
  match cs with
  | [] | '_' :: _ => .error (.notInteger s)
  | cs =>
    match digitRun cs with
    | none => .error (.notInteger s)
    | some (ds, rest) =>
      if maxDigits < ds.length then .error (.tooManyDigits ds.length)
      else if ds.isEmpty || !rest.all Text.isBlank then .error (.notInteger s)
      else .ok (if negative then -(valueFrom 0 ds) else valueFrom 0 ds)

end Regenesis.Decimal
