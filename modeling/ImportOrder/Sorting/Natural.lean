import ImportOrder.Text.Blank
import ImportOrder.Text.Case
import ImportOrder.Text.Letter
import ImportOrder.Text.Ranges

/-!
# ImportOrder.Sorting.Natural

The natural order of module paths and names.

Runs of digits are compared by their value, all other characters by their place in the collation:
blanks, punctuation, digits, letters, and letters without regard to case. Texts that agree in this
are told apart, unless case is to be ignored, by their first different characters, a small letter
coming before a capital.
-/

namespace ImportOrder
namespace Sorting

open Text

/-- The punctuation of ASCII in collation order. -/
def punctuation : List Char :=
  ['_', '-', ',', ';', ':', '!', '?', '.', '\'', '"', '(', ')', '[', ']', '\x7b', '\x7d', '@', '*',
   '/', '\\', '&', '#', '%', '\x60', '^', '+', '<', '=', '>', '|', '~', '$']

/-- Where a character stands in the collation: its class, then its rank in the class. -/
structure Place where
  kind : Nat
  rank : Nat
  deriving Repr, DecidableEq

/-- Class 0 is blanks and punctuation, class 1 digits, class 2 letters. Blanks rank first;
punctuation outside the list follows the list by code point. -/
def place (c : Char) : Place :=
  if isDigit c then ⟨1, c.toNat⟩
  else if isLetter c then ⟨2, smallCode c⟩
  else if isBlank c then ⟨0, 0⟩
  else
    match punctuation.findIdx? (· == c) with
    | some i => ⟨0, i + 1⟩
    | none => ⟨0, 0x100 + c.toNat⟩

def Place.compare (a b : Place) : Ordering :=
  (Ord.compare a.kind b.kind).then (Ord.compare a.rank b.rank)

/-- Lexicographic comparison by code point. -/
def byCode : List Char → List Char → Ordering
  | [], [] => .eq
  | [], _ :: _ => .lt
  | _ :: _, [] => .gt
  | a :: as, b :: bs => (Ord.compare a.toNat b.toNat).then (byCode as bs)

/-- Compares two runs of digits by value: without leading zeros the longer run is the greater. -/
def byValue (a b : List Char) : Ordering :=
  let a := a.dropWhile (· == '0')
  let b := b.dropWhile (· == '0')
  (Ord.compare a.length b.length).then (byCode a b)

theorem length_dropWhile_le (p : Char → Bool) (s : List Char) :
    (s.dropWhile p).length ≤ s.length :=
  (List.dropWhile_suffix p).length_le

/-- Comparison without regard to case. -/
def caseless : List Char → List Char → Ordering
  | [], [] => .eq
  | [], _ :: _ => .lt
  | _ :: _, [] => .gt
  | a :: as, b :: bs =>
    if isDigit a && isDigit b then
      match byValue (a :: as.takeWhile isDigit) (b :: bs.takeWhile isDigit) with
      | .eq => caseless (as.dropWhile isDigit) (bs.dropWhile isDigit)
      | other => other
    else
      match (place a).compare (place b) with
      | .eq => caseless as bs
      | other => other
termination_by s => s.length
decreasing_by
  · have := length_dropWhile_le isDigit as
    simp only [List.length_cons]
    omega
  · simp

/-- The order of the first two characters that differ: small before capital, otherwise by code
point. Of two texts without such a pair the shorter comes first. -/
def byCase : List Char → List Char → Ordering
  | [], [] => .eq
  | [], _ :: _ => .lt
  | _ :: _, [] => .gt
  | a :: as, b :: bs =>
    if a = b then byCase as bs
    else if isSmall a && isCapital b then .lt
    else if isCapital a && isSmall b then .gt
    else Ord.compare a.toNat b.toNat

/-- The natural order. -/
def natural (ignoreCase : Bool) (a b : List Char) : Ordering :=
  match caseless a b with
  | .eq => if ignoreCase then .eq else byCase a b
  | other => other

end Sorting
end ImportOrder
