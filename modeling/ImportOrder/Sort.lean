import ImportOrder.Banner
import ImportOrder.Block
import ImportOrder.Statement.Names

/-!
# ImportOrder.Sort

Sorting the imports of a text by a policy. What is not an import stays, the banner untouched at the
top, the text between the imports behind them.
-/

namespace ImportOrder

/-- A text after sorting, and whether that changed it. -/
structure Sorted where
  code : List Char
  changed : Bool
  deriving Repr, DecidableEq

/-- A policy with its groups read once. -/
structure Sorter where
  policy : Policy
  grouping : Grouping
  deriving Repr, DecidableEq

namespace Sorter

open Sorting

def ofPolicy (p : Policy) : Sorter :=
  ⟨p, p.grouping⟩

structure Ranked where
  group : Nat
  entry : Entry
  deriving Repr, DecidableEq

def rank (s : Sorter) (e : Entry) : Ranked :=
  ⟨s.grouping.index e.path, e⟩

/-- Entries come by group, and within a group by path. -/
def compareRanked (s : Sorter) (a b : Ranked) : Ordering :=
  (compare a.group b.group).then (natural s.policy.ignoreCase a.entry.path b.entry.path)

/-- The names in an entry's braces sorted, if the policy asks for it. -/
def finish (s : Sorter) (e : Entry) : Entry :=
  if s.policy.sortNames then
    { e with text := Statement.sortNames s.policy.ignoreCase e.text }
  else e

def sortEntries (s : Sorter) (entries : List Entry) : List Entry :=
  (sortBy s.compareRanked (entries.map s.rank)).map fun r => s.finish r.entry

/-- Sorts the imports of a text. A text without imports stays as it is. -/
def sort (s : Sorter) (source : List Char) : Sorted :=
  let ⟨banner, rest⟩ := Banner.cut source
  match Block.ofText? rest with
  | none => ⟨source, false⟩
  | some block =>
    let sorted := { block with entries := s.sortEntries block.entries }
    let code := banner ++ sorted.render s.policy.separation fun e => s.grouping.index e.path
    ⟨code, code != source⟩

end Sorter
end ImportOrder
