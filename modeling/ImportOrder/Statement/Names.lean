import ImportOrder.Sorting.Insertion
import ImportOrder.Sorting.Natural
import ImportOrder.Text.Lines

/-!
# ImportOrder.Statement.Names

Sorting the names that a statement imports: the comma-separated entries of its first block in
braces.
-/

namespace ImportOrder
namespace Statement

open Text Sorting

/-- The words of a text, cut at blanks. -/
def words (s : List Char) : List (List Char) :=
  (splitWhere isBlank s).filter (!·.isEmpty)

/-- The imported name that an entry is sorted by: its first word, or the second behind the modifier
`type`. In `type as …` the first word is the name. -/
def nameOf (entry : List Char) : List Char :=
  match words entry with
  | [] => entry
  | [name] => name
  | first :: second :: _ =>
    if first = ['t', 'y', 'p', 'e'] ∧ second ≠ ['a', 's'] then second else first

/-- The entries of a block in braces, trimmed, without empty ones. -/
def entries (block : List Char) : List (List Char) :=
  ((splitWhere (· == ',') block).map trim).filter (!·.isEmpty)

/-- A statement cut at its first block in braces: what stands before, in and behind it. -/
def splitBraces? (s : List Char) : Option (List Char × List Char × List Char) := do
  let (before, rest) ← splitAtChar? '\x7b' s
  let (block, after) ← splitAtChar? '\x7d' rest
  return (before, block, after)

/-- A comment marker in a block; such a block is left alone. -/
def hasComment (block : List Char) : Bool :=
  occursIn ['/', '/'] block || occursIn ['/', '*'] block

/-- Sorts the entries of the first block in braces and writes them on one line. -/
def sortNames (ignoreCase : Bool) (s : List Char) : List Char :=
  match splitBraces? s with
  | none => s
  | some (before, block, after) =>
    if hasComment block then s
    else
      match entries block with
      | [] => s
      | names =>
        let sorted := sortBy (fun a b => natural ignoreCase (nameOf a) (nameOf b))
          names
        before ++ ['\x7b', ' '] ++ [',', ' '].intercalate sorted ++ [' ', '\x7d'] ++ after

end Statement
end ImportOrder
