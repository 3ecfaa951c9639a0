/-!
# ImportOrder.Text.Search

Search for a word without regard to the case of ASCII letters. The search runs on bytes as well as
on characters, so the elements and their folding are parameters.

Only places whose first element can start the word are compared in full: `find?` skips to the next
such place, and goes on just behind it when the comparison fails.
-/

namespace ImportOrder
namespace Text

/-- An ASCII capital becomes its small letter; nothing else changes. -/
def foldByte (b : UInt8) : UInt8 :=
  if 0x41 ≤ b && b ≤ 0x5A then b + 0x20 else b

/-- Equality without regard to the case of ASCII letters. -/
def sameIgnoringCase (a b : List Char) : Bool :=
  a.map Char.toLower == b.map Char.toLower

section Find

variable {α : Type} [BEq α] (fold : α → α)

/-- How many elements stand before the first one that folds like `x`, and the list from there. -/
def skipTo? (x : α) : List α → Option (Nat × List α)
  | [] => none
  | y :: ys =>
    if fold y == fold x then some (0, y :: ys)
    else (skipTo? x ys).map fun (k, rest) => (k + 1, rest)

theorem length_of_skipTo? {x : α} {s rest : List α} {k : Nat}
    (h : skipTo? fold x s = some (k, rest)) : k + rest.length = s.length := by
  induction s generalizing k rest with
  | nil => simp [skipTo?] at h
  | cons y ys ih =>
    rw [skipTo?] at h
    split at h
    · cases h; simp
    · obtain ⟨⟨j, r⟩, hr, he⟩ := Option.map_eq_some_iff.1 h
      cases he
      have := ih hr
      simp only [List.length_cons]
      omega

/-- The search in what is left of the text from index `pos` on. -/
def findFrom? (first : α) (word : List α) (rest : List α) (pos : Nat) : Option Nat :=
  if rest.length < word.length then none
  else
    match h : skipTo? fold first rest with
    | none => none
    | some (_, []) => none
    | some (k, x :: more) =>
      if (x :: more).length < word.length then none
      else if ((x :: more).take word.length).map fold == word.map fold then some (pos + k)
      else findFrom? first word more (pos + k + 1)
termination_by rest.length
decreasing_by
  have := length_of_skipTo? fold h
  simp only [List.length_cons] at this
  omega

/-- The first index from `start` on at which `word` stands, case of ASCII letters apart. The empty
word is found nowhere. -/
def find? (text word : List α) (start : Nat) : Option Nat :=
  match word with
  | [] => none
  | first :: _ => findFrom? fold first word (text.drop start) start

def offsetLimit : Nat := Nat.pow 2 64

/-- A place of a word is given by two offsets. -/
inductive SearchFault where
  /-- The word, if it stood where the search starts, would end beyond all offsets. -/
  | beyondOffsets
  deriving Repr, DecidableEq

/-- The search, refused where the first place to look at has no end. -/
def search (text word : List α) (start : Nat) : Except SearchFault (Option Nat) :=
  if !word.isEmpty && offsetLimit ≤ start + word.length then .error .beyondOffsets
  else .ok (find? fold text word start)

end Find

end Text
end ImportOrder
