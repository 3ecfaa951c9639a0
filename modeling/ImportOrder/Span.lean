import ImportOrder.Text.Offset

/-!
# ImportOrder.Span

Spans of a text: pairs of byte offsets whose start is not behind their end.
-/

namespace ImportOrder

structure Span where
  start : Nat
  stop : Nat
  start_le_stop : start ≤ stop := by omega
  deriving Repr, DecidableEq

namespace Span

/-- The span between two offsets, if they are in order. -/
def ofOffsets? (start stop : Nat) : Option Span :=
  if h : start ≤ stop then some ⟨start, stop, h⟩ else none

def length (s : Span) : Nat :=
  s.stop - s.start

def isEmpty (s : Span) : Bool :=
  s.start == s.stop

def display (s : Span) : String :=
  toString s.start ++ ".." ++ toString s.stop

/-- The part of a text that the span covers, if both offsets are places of the text. -/
def slice? (s : Span) (text : List Char) : Option (List Char) :=
  Text.slice? s.start s.stop text

/-- Whether two spans share a byte, counting an empty span strictly inside another. -/
def overlaps (a b : Span) : Bool :=
  a.start < b.stop && b.start < a.stop

/-- Order by start, then by end. -/
def compare (a b : Span) : Ordering :=
  (Ord.compare a.start b.start).then (Ord.compare a.stop b.stop)

end Span
end ImportOrder
