/-! # Ordinals

The label of a position: a word for the first ten, then the number with its ending. The numbers
from eleven to nineteen of every hundred end in `th`.
-/
namespace LineShell.Ordinal

def words : List String :=
  ["first", "second", "third", "fourth", "fifth", "sixth", "seventh", "eighth", "ninth", "tenth"]

def ending (n : Int) : String :=
  if 10 < n % 100 ∧ n % 100 < 20 then "th"
  else if n % 10 = 1 then "st"
  else if n % 10 = 2 then "nd"
  else if n % 10 = 3 then "rd"
  else "th"

def label (n : Int) : String :=
  match words[(n - 1).toNat]? with
  | some word => if 0 < n then word else toString n ++ ending n
  | none => toString n ++ ending n

end LineShell.Ordinal
