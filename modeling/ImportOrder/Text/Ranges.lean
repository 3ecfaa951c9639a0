import ImportOrder.Text.Lines

/-!
# ImportOrder.Text.Ranges

Classes of characters and character maps given by tables of code points in ascending order.
A look-up stops at the first entry that starts behind the code point.

A long table is written as text. An entry is a code point in hexadecimal digits, or a range of them
with a hyphen in it; a slash and a number behind a range take every so many code points of it only,
from the first on. Blanks stand between the entries of a line.
-/

namespace ImportOrder
namespace Text

/-- Membership in a list of closed ranges in ascending order. -/
def inRanges (n : Nat) : List (Nat × Nat) → Bool
  | [] => false
  | (first, last) :: rest => first ≤ n && (n ≤ last || inRanges n rest)

/-- Every `step`-th code point from `first` to `last`. -/
structure Run where
  first : Nat
  last : Nat
  step : Nat
  deriving Repr, DecidableEq

def Run.contains (r : Run) (n : Nat) : Bool :=
  r.first ≤ n && n ≤ r.last && (n - r.first) % r.step == 0

/-- Membership in a list of runs that do not overlap, in ascending order. -/
def inRuns (n : Nat) : List Run → Bool
  | [] => false
  | r :: rest => r.first ≤ n && (r.contains n || inRuns n rest)

/-- A run whose code points are all moved by the same distance. -/
structure Shift extends Run where
  distance : Int
  deriving Repr, DecidableEq

/-- The code point that `n` is moved to; a code point in no run stays where it is. -/
def shifted (n : Nat) : List Shift → Nat
  | [] => n
  | s :: rest =>
    if n < s.first then n
    else if s.contains n then ((n : Int) + s.distance).toNat
    else shifted n rest

/-- The code points of a shifted run, each with the one it is moved to. -/
def Shift.pairs (s : Shift) : List (Nat × Nat) :=
  (List.range ((s.last - s.first) / s.step + 1)).map fun i =>
    let n := s.first + i * s.step
    (n, ((n : Int) + s.distance).toNat)

/-! ## Digits -/

def isDigit (c : Char) : Bool :=
  '0' ≤ c && c ≤ '9'

def decimalValue (digits : List Char) : Nat :=
  digits.foldl (fun acc c => 10 * acc + (c.toNat - 48)) 0

def hexDigit? (c : Char) : Option Nat :=
  if '0' ≤ c && c ≤ '9' then some (c.toNat - 48)
  else if 'a' ≤ c && c ≤ 'f' then some (c.toNat - 87)
  else if 'A' ≤ c && c ≤ 'F' then some (c.toNat - 55)
  else none

/-- The number that hexadecimal digits write, if all are digits. -/
def hexValue? (digits : List Char) : Option Nat :=
  (digits.mapM hexDigit?).map fun values => values.foldl (fun acc v => 16 * acc + v) 0

/-! ## Tables as text -/

/-- Every `step`-th code point from `first` to `last`, each as a range of its own. -/
def stride (first last step : Nat) : List (Nat × Nat) :=
  (List.range ((last - first) / step + 1)).map fun i => (first + i * step, first + i * step)

/-- The ranges that an entry writes; what is no entry writes none. -/
def entryRanges (entry : List Char) : List (Nat × Nat) :=
  match (splitWhere (fun c => c == '-' || c == '/') entry).map hexValue? with
  | [some n] => [(n, n)]
  | [some first, some last] => [(first, last)]
  | [some first, some last, some step] => stride first last step
  | _ => []

/-- The ranges that the lines of a table write. -/
def tableRanges (table : List String) : List (Nat × Nat) :=
  table.flatMap fun line => (splitWhere (· == ' ') line.toList).flatMap entryRanges

end Text
end ImportOrder
