import ImportOrder.Pattern.CharSet

/-!
# ImportOrder.Pattern.Automaton.Bytes

The bytes of a set of characters in UTF-8. A range of code points is cut until the bytes of each
piece vary independently: then the piece is a sequence of ranges of bytes.
-/

namespace ImportOrder
namespace Pattern

abbrev ByteRange := Nat × Nat

def codeBytes (n : Nat) : List Nat :=
  if n < 0x80 then [n]
  else if n < 0x800 then [0xC0 + n / 0x40, 0x80 + n % 0x40]
  else if n < 0x10000 then [0xE0 + n / 0x1000, 0x80 + n / 0x40 % 0x40, 0x80 + n % 0x40]
  else
    [0xF0 + n / 0x40000, 0x80 + n / 0x1000 % 0x40, 0x80 + n / 0x40 % 0x40, 0x80 + n % 0x40]

def textBytes (text : List Char) : List Nat :=
  text.flatMap fun c => codeBytes c.toNat

/-- Where a range of code points has to be cut: between numbers of bytes, and where some bytes but
not all of their values follow one another. The answer is the start of the second piece. -/
def cutAt? (first last : Nat) : Option Nat :=
  match [0x80, 0x800, 0x10000].find? fun n => first < n && n ≤ last with
  | some n => some n
  | none => if last < 0x80 then none else [0x40, 0x1000, 0x40000].findSome? uneven
where
  uneven (unit : Nat) : Option Nat :=
    if first / unit = last / unit then none
    else if first % unit ≠ 0 then some ((first / unit + 1) * unit)
    else if last % unit ≠ unit - 1 then some (last / unit * unit)
    else none

/-- The sequences of ranges of bytes that write the code points of a range. -/
def byteSequences (first last : Nat) : List (List ByteRange) :=
  match cutAt? first last with
  | none => [(codeBytes first).zip (codeBytes last)]
  | some n =>
    if first < n ∧ n ≤ last then byteSequences first (n - 1) ++ byteSequences n last
    else [(codeBytes first).zip (codeBytes last)]
termination_by last - first

def CharSet.byteSequences (s : CharSet) : List (List ByteRange) :=
  (s.inter .all).ranges.flatMap fun (first, last) => Pattern.byteSequences first last

/-- Sequences by their first range, with what follows it in each. -/
def byFirst (sequences : List (List ByteRange)) : List (ByteRange × List (List ByteRange)) :=
  (sequences.splitBy fun a b => a.head? == b.head?).filterMap fun group =>
    group.head?.bind fun sequence => sequence.head?.map fun range => (range, group.map List.tail)

/-- A code point has at most so many bytes. -/
def maxBytes : Nat := 4

end Pattern
end ImportOrder
