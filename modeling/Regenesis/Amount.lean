/-!
# Amount — sums of balances

Balances, votes and supplies are integers in the smallest unit of a token. They may be of any size,
so that their sums are exact.
-/

namespace Regenesis.Amount

/-- The sum of amounts that cannot be negative. -/
def sum : List Nat → Nat
  | [] => 0
  | n :: rest => n + sum rest

/-- The sum of amounts. -/
def sumInt : List Int → Int
  | [] => 0
  | n :: rest => n + sumInt rest

theorem sumInt_append (xs ys : List Int) : sumInt (xs ++ ys) = sumInt xs + sumInt ys := by
  induction xs with
  | nil => simp [sumInt]
  | cons n rest ih => simp only [List.cons_append, sumInt, ih, Int.add_assoc]

end Regenesis.Amount
