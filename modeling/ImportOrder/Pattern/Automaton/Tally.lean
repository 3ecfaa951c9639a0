/-!
# ImportOrder.Pattern.Automaton.Tally

The size of an automaton while it is built, in bytes of memory. An automaton has states, each of a
fixed size. A state that reads one of several ranges of bytes takes more for each range, and a state
that branches takes more for each branch. A state is known by its number, which is the number of the
states before it.
-/

namespace ImportOrder
namespace Pattern

structure Tally where
  /-- The number of states, which is also the number of the next state. -/
  states : Nat
  /-- What the states take beyond their fixed size. -/
  extra : Nat
  deriving Repr, DecidableEq

namespace Tally

def stateSize : Nat := 32

/-- What each range of bytes adds to a state. -/
def rangeSize : Nat := 8

/-- What each branch adds to a state. -/
def branchSize : Nat := 4

def sizeLimit : Nat := 10 * Nat.pow 2 20

def zero : Tally := ⟨0, 0⟩

def add (t u : Tally) : Tally :=
  ⟨t.states + u.states, t.extra + u.extra⟩

/-- Adds states that neither branch nor read several ranges. -/
def plain (n : Nat) (t : Tally) : Tally :=
  t.add ⟨n, 0⟩

/-- Adds a state that reads one of so many ranges of bytes. -/
def reading (ranges : Nat) (t : Tally) : Tally :=
  t.add ⟨1, rangeSize * ranges⟩

/-- Adds a state with so many branches. -/
def branching (branches : Nat) (t : Tally) : Tally :=
  t.add ⟨1, branchSize * branches⟩

def branch (t : Tally) : Tally :=
  t.add ⟨0, branchSize⟩

def size (t : Tally) : Nat :=
  stateSize * t.states + t.extra

/-- The tally, unless it is of too large an automaton. -/
def within? (t : Tally) : Option Tally :=
  if t.size ≤ sizeLimit then some t else none

/-- Repeats an addition, and stops where the automaton becomes too large. -/
def repeated? (step : Tally → Option Tally) : Nat → Tally → Option Tally
  | 0, t => some t
  | n + 1, t =>
    match step t with
    | none => none
    | some t => repeated? step n t

end Tally

end Pattern
end ImportOrder
