import ImportOrder.Text.Blank
import ImportOrder.Text.Folding
import ImportOrder.Text.Ranges
import ImportOrder.Text.Word

/-!
# ImportOrder.Pattern.CharSet

Sets of characters as a regular expression writes them, and membership in them.

A set is the list of the ranges of its code points, in ascending order and with a gap between any
two of them, so that equal sets are equal lists.
-/

namespace ImportOrder
namespace Pattern

open Text

structure CharSet where
  ranges : List (Nat × Nat)
  deriving Repr, DecidableEq

namespace CharSet

/-- Joins ranges that overlap or touch; they come in the order of their first code points. -/
def joinRanges : List (Nat × Nat) → List (Nat × Nat)
  | (a, b) :: (c, d) :: rest =>
    if c ≤ b + 1 then joinRanges ((a, max b d) :: rest) else (a, b) :: joinRanges ((c, d) :: rest)
  | ranges => ranges
termination_by ranges => ranges.length

/-- The code points that two lists of ascending ranges have in common. -/
def commonRanges : List (Nat × Nat) → List (Nat × Nat) → List (Nat × Nat)
  | (a, b) :: xs, (c, d) :: ys =>
    let rest := if b < d then commonRanges xs ((c, d) :: ys) else commonRanges ((a, b) :: xs) ys
    if max a c ≤ min b d then (max a c, min b d) :: rest else rest
  | _, _ => []
termination_by xs ys => xs.length + ys.length

def lastCode : Nat := 0x10FFFF

/-- What ascending ranges leave out from `start` on. -/
def gapsFrom (start : Nat) : List (Nat × Nat) → List (Nat × Nat)
  | [] => if start ≤ lastCode then [(start, lastCode)] else []
  | (a, b) :: rest =>
    if start < a then (start, a - 1) :: gapsFrom (b + 1) rest else gapsFrom (b + 1) rest

/-- The set of the code points in some ranges, in any order. A range backwards is empty. -/
def ofRanges (ranges : List (Nat × Nat)) : CharSet :=
  ⟨joinRanges ((ranges.filter fun (a, b) => a ≤ b).mergeSort fun x y => x.1 ≤ y.1)⟩

def ofTable (table : List String) : CharSet :=
  ofRanges (tableRanges table)

def ofCodes (codes : List Nat) : CharSet :=
  ofRanges (codes.map fun n => (n, n))

def none : CharSet :=
  ⟨[]⟩

/-- The set of all characters. Surrogates are no characters. -/
def all : CharSet :=
  ⟨[(0, 0xD7FF), (0xE000, lastCode)]⟩

def range (first last : Char) : CharSet :=
  ofRanges [(first.toNat, last.toNat)]

def single (c : Char) : CharSet :=
  ⟨[(c.toNat, c.toNat)]⟩

def mem (s : CharSet) (c : Char) : Bool :=
  inRanges c.toNat s.ranges

def union (a b : CharSet) : CharSet :=
  ⟨joinRanges (a.ranges.merge b.ranges fun x y => x.1 ≤ y.1)⟩

def unions (sets : List CharSet) : CharSet :=
  sets.foldl union none

def inter (a b : CharSet) : CharSet :=
  ⟨commonRanges a.ranges b.ranges⟩

def compl (a : CharSet) : CharSet :=
  all.inter ⟨gapsFrom 0 a.ranges⟩

def diff (a b : CharSet) : CharSet :=
  a.inter b.compl

def symmDiff (a b : CharSet) : CharSet :=
  (a.diff b).union (b.diff a)

def size (s : CharSet) : Nat :=
  s.ranges.foldl (fun n (first, last) => n + (last + 1 - first)) 0

/-- The only member of a set of one character. -/
def only? (s : CharSet) : Option Char :=
  match s.ranges with
  | [(a, b)] => if a = b then some (Char.ofNat a) else Option.none
  | _ => Option.none

def isAscii (s : CharSet) : Bool :=
  s.ranges.all fun (_, last) => last < 0x80

/-! ### Case -/

/-- Adds what the pairs lead from and to. One round back and forth suffices, because the second code
point of a pair is the first of none. -/
def closeUnder (pairs : List (Nat × Nat)) (s : CharSet) : CharSet :=
  let forth := s.union (ofCodes ((pairs.filter fun (a, _) => inRanges a s.ranges).map (·.2)))
  forth.union (ofCodes ((pairs.filter fun (_, b) => inRanges b forth.ranges).map (·.1)))

/-- Every case variant of the members. -/
def anyCase (s : CharSet) : CharSet :=
  s.closeUnder foldPairs

/-- Every variant of the members in the case of ASCII letters. -/
def anyAsciiCase (s : CharSet) : CharSet :=
  s.closeUnder ((List.range 26).map fun i => (0x41 + i, 0x61 + i))

/-! ### Classes with a letter -/

def blank : CharSet :=
  ofTable ["9-D 20 85 A0 1680 2000-200A 2028-2029 202F 205F 3000"]

def decimal : CharSet :=
  (ofRanges decimalRanges).diff (ofRanges lateRanges)

def word : CharSet :=
  let ranges := alphabeticRanges ++ markRanges ++ decimalRanges ++ connectorRanges ++ joinerRanges
  (ofRanges ranges).diff (ofRanges lateRanges)

def asciiBlank : CharSet :=
  ofRanges [(0x9, 0xD), (0x20, 0x20)]

def asciiDigit : CharSet :=
  range '0' '9'

def asciiWord : CharSet :=
  unions [asciiDigit, range 'A' 'Z', single '_', range 'a' 'z']

end CharSet

/-- The ASCII classes that may be named inside brackets. -/
def asciiClass? (name : String) : Option CharSet :=
  match name with
  | "alnum" => some (.unions [.asciiDigit, .range 'A' 'Z', .range 'a' 'z'])
  | "alpha" => some (.unions [.range 'A' 'Z', .range 'a' 'z'])
  | "ascii" => some (.range '\x00' '\x7f')
  | "blank" => some (.unions [.single '\t', .single ' '])
  | "cntrl" => some (.unions [.range '\x00' '\x1f', .single '\x7f'])
  | "digit" => some .asciiDigit
  | "graph" => some (.range '!' '~')
  | "lower" => some (.range 'a' 'z')
  | "print" => some (.range ' ' '~')
  | "punct" =>
    some (.unions [.range '!' '/', .range ':' '@', .range '[' '\x60', .range '\x7b' '~'])
  | "space" => some .asciiBlank
  | "upper" => some (.range 'A' 'Z')
  | "word" => some .asciiWord
  | "xdigit" => some (.unions [.asciiDigit, .range 'A' 'F', .range 'a' 'f'])
  | _ => none

end Pattern
end ImportOrder
