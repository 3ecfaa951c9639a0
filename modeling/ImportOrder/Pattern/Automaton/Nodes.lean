import ImportOrder.Pattern.Automaton.Bytes
import ImportOrder.Pattern.Automaton.Tally
import Std.Data.HashMap

/-!
# ImportOrder.Pattern.Automaton.Nodes

The states that read a character of a set.

Reading forward, states that go on alike are shared, and reading backward, ways that end alike share
their end. What was made is remembered in slots. The slot of a thing is the remainder of a hash; it
keeps what was put there last, so a thing whose slot was taken by another is made once more.
-/

namespace ImportOrder
namespace Pattern

/-! ### Slots -/

/-- The FNV-1a hash of some numbers. -/
def hashNumbers (numbers : List Nat) : UInt64 :=
  numbers.foldl (fun h n => (h ^^^ n.toUInt64) * 1099511628211) 14695981039346656037

/-- The states that were made from things of a type, by the slots of these things. -/
structure Slots (α : Type) where
  kept : Std.HashMap UInt64 (α × Nat)

namespace Slots

variable {α : Type}

def empty : Slots α :=
  ⟨{}⟩

/-- The number of the state that was made from the thing, if its slot still keeps it. -/
def find? [BEq α] (slots : Slots α) (slot : UInt64) (thing : α) : Option Nat :=
  match slots.kept.get? slot with
  | some (other, number) => if other == thing then some number else none
  | none => none

def put (slots : Slots α) (slot : UInt64) (thing : α) (number : Nat) : Slots α :=
  ⟨slots.kept.insert slot (thing, number)⟩

end Slots

/-! ### Reading forward -/

/-- What a state reads: ranges of bytes, each with the number of the state it leads to. -/
abbrev ByteNode := List (ByteRange × Nat)

def ByteNode.slot (node : ByteNode) : UInt64 :=
  hashNumbers (node.flatMap fun ((first, last), next) => [first, last, next]) % 10000

/-- Adds the state that reads a node, unless one is remembered, and says its number. -/
def addNode (node : ByteNode) (t : Tally) (slots : Slots ByteNode) :
    Nat × Tally × Slots ByteNode :=
  match slots.find? node.slot node with
  | some number => (number, t, slots)
  | none => (t.states, t.reading node.length, slots.put node.slot node t.states)

/-- Adds the states that read the given sequences and lead to the state `finish`, and says the
number of the first. A state follows those that it leads to. -/
def addNodes (finish : Nat) :
    Nat → List (List ByteRange) → Tally → Slots ByteNode → Nat × Tally × Slots ByteNode
  | 0, _, t, slots => (finish, t, slots)
  | depth + 1, sequences, t, slots =>
    if sequences.all List.isEmpty then (finish, t, slots)
    else
      let (node, t, slots) := (byFirst sequences).foldl (fun (node, t, slots) (range, rests) =>
        let (number, t, slots) := addNodes finish depth rests t slots
        ((range, number) :: node, t, slots)) ([], t, slots)
      addNode node.reverse t slots

def addForward (sequences : List (List ByteRange)) (t : Tally) : Tally :=
  (addNodes t.states maxBytes sequences (t.plain 1) .empty).2.1

/-! ### Reading backward -/

/-- A range of bytes and the number of the state that it leads to. -/
abbrev ByteStep := ByteRange × Nat

def ByteStep.slot : ByteStep → UInt64
  | ((first, last), next) => hashNumbers [next, first, last] % 1000

/-- Adds the state that takes a step, unless one is remembered, and says its number. -/
def addStep (step : ByteStep) (t : Tally) (slots : Slots ByteStep) :
    Nat × Tally × Slots ByteStep :=
  match slots.find? step.slot step with
  | some number => (number, t, slots)
  | none => (t.states, t.plain 1, slots.put step.slot step t.states)

/-- Adds a state that branches, the state where all ways end, and the states of each way. -/
def addBackward (sequences : List (List ByteRange)) (t : Tally) : Tally :=
  let finish := t.states + 1
  (sequences.foldl (fun (t, slots) sequence =>
    let (_, t, slots) := sequence.foldl (fun (next, t, slots) range =>
      addStep (range, next) t slots) (finish, t, slots)
    (t.branch, slots)) (t.plain 2, Slots.empty)).1

end Pattern
end ImportOrder
