import ImportOrder.Comment
import ImportOrder.Statement.Grammar

/-!
# ImportOrder.Banner

The banner of a text: the blank and comment lines at its top, before the first line of code or the
first import. Sorting never touches it.
-/

namespace ImportOrder

/-- A text cut behind its banner. -/
structure Bannered where
  banner : List Char
  rest : List Char
  deriving Repr, DecidableEq

namespace Banner

open Text Comment Statement

/-- A trimmed line that starts with the keyword `import` and a blank. -/
def beginsImport (trimmed : List Char) : Bool :=
  importWord.isPrefixOf trimmed && (trimmed.drop importWord.length).head?.any isBlank

/-- A line that a banner may hold. -/
def isBannerLine (line : List Char) : Bool :=
  let trimmed := trim line
  !beginsImport trimmed && (trimmed.isEmpty || looksLikeComment trimmed)

/-- Cuts a text behind its banner. A text that is all banner counts as having none. -/
def cut (text : List Char) : Bannered :=
  match (lines text).dropWhile isBannerLine with
  | [] => ⟨[], text⟩
  | line :: more => ⟨((lines text).takeWhile isBannerLine).flatten, (line :: more).flatten⟩

/-- Nothing is lost by the cut. -/
theorem banner_append_rest (text : List Char) : (cut text).banner ++ (cut text).rest = text := by
  unfold cut
  split
  · rfl
  · rename_i line more h
    rw [← h, ← List.flatten_append, List.takeWhile_append_dropWhile, flatten_lines]

end Banner
end ImportOrder
