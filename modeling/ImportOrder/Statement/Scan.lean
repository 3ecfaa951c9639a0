import ImportOrder.Statement.Grammar
import ImportOrder.Text.Offset

/-!
# ImportOrder.Statement.Scan

Finding the import statements of a text. A statement starts a line, spaces and tabs before it
apart; the search goes on right behind it.

`scan` cuts a text into its statements, the texts before them and the tail behind the last, so that
nothing of the text is lost: `text_scan`.
-/

namespace ImportOrder
namespace Statement

open Text

/-- A statement in its text: what stands before its line, its indentation, its own text, and what
stands behind it. -/
structure Found where
  before : List Char
  indent : List Char
  text : List Char
  rest : List Char
  deriving Repr, DecidableEq

/-- The statement that the line starting here holds. -/
def atLineStart? (s : List Char) : Option Found :=
  let body := s.dropWhile isIndent
  (statement? body).map fun rest =>
    ⟨[], s.takeWhile isIndent, body.take (body.length - rest.length), rest⟩

/-- The first statement of a text. `atStart` says whether the text starts a line. -/
def first? (atStart : Bool) : List Char → Option Found
  | [] => none
  | c :: s =>
    match if atStart then atLineStart? (c :: s) else none with
    | some found => some found
    | none => (first? (c == '\n') s).map fun found => { found with before := c :: found.before }

theorem atLineStart?_eq {s : List Char} {f : Found} (h : atLineStart? s = some f) :
    s = f.before ++ f.indent ++ f.text ++ f.rest ∧ f.rest.length < s.length := by
  simp only [atLineStart?, Option.map_eq_some_iff] at h
  obtain ⟨rest, hrest, rfl⟩ := h
  obtain ⟨⟨t, ht⟩, hlt⟩ := statement?_suffix hrest
  have hsplit : s = s.takeWhile isIndent ++ s.dropWhile isIndent :=
    List.takeWhile_append_dropWhile.symm
  have hlen := congrArg List.length hsplit
  simp only [List.length_append] at hlen
  refine ⟨?_, by simp only; omega⟩
  simp only [List.nil_append, List.append_assoc]
  have htake : (s.dropWhile isIndent).take ((s.dropWhile isIndent).length - rest.length) = t := by
    rw [← ht]
    simp
  rw [htake, ht]
  exact hsplit

theorem first?_eq {atStart : Bool} {s : List Char} {f : Found} (h : first? atStart s = some f) :
    s = f.before ++ f.indent ++ f.text ++ f.rest ∧ f.rest.length < s.length := by
  induction s generalizing atStart f with
  | nil => simp [first?] at h
  | cons c s ih =>
    rw [first?] at h
    split at h
    · rename_i found hfound
      cases h
      split at hfound
      · exact atLineStart?_eq hfound
      · cases hfound
    · obtain ⟨g, hg, rfl⟩ := Option.map_eq_some_iff.1 h
      obtain ⟨heq, hlt⟩ := ih hg
      refine ⟨by simpa using heq, ?_⟩
      simp only [List.length_cons]
      omega

/-- A statement with the text between the previous statement and its line. -/
structure Occurrence where
  gap : List Char
  indent : List Char
  text : List Char
  deriving Repr, DecidableEq

/-- The statements of a text and the tail behind the last one. -/
structure Scanned where
  occurrences : List Occurrence
  tail : List Char
  deriving Repr, DecidableEq

/-- The statements of what is left of a text. -/
def scanFrom (atStart : Bool) (s : List Char) : Scanned :=
  match _ : first? atStart s with
  | none => ⟨[], s⟩
  | some found =>
    let more := scanFrom false found.rest
    ⟨⟨found.before, found.indent, found.text⟩ :: more.occurrences, more.tail⟩
termination_by s.length
decreasing_by exact (first?_eq ‹first? atStart s = some found›).2

def scan (s : List Char) : Scanned :=
  scanFrom true s

/-- The text that was scanned. -/
def Scanned.text (s : Scanned) : List Char :=
  (s.occurrences.map fun o => o.gap ++ o.indent ++ o.text).flatten ++ s.tail

theorem text_scanFrom (atStart : Bool) (s : List Char) : (scanFrom atStart s).text = s := by
  fun_induction scanFrom atStart s with
  | case1 => simp [Scanned.text]
  | case2 atStart s found h more ih =>
    have hs := (first?_eq h).1
    simp only [Scanned.text, List.map_cons, List.flatten_cons, List.append_assoc] at ih ⊢
    simp only [List.append_assoc] at hs
    rw [hs, ← ih]

/-- Scanning loses nothing of the text. -/
theorem text_scan (s : List Char) : (scan s).text = s :=
  text_scanFrom true s

/-- The byte offsets of the start and end of each statement, from `offset` on. -/
def spansFrom (offset : Nat) : List Occurrence → List (Nat × Nat)
  | [] => []
  | o :: more =>
    let start := offset + size o.gap + size o.indent
    (start, start + size o.text) :: spansFrom (start + size o.text) more

def Scanned.spans (s : Scanned) : List (Nat × Nat) :=
  spansFrom 0 s.occurrences

/-- The part of a text from the first place at or behind a byte offset, with the offset of that
place, and whether it starts a line. -/
def seek (offset : Nat) (s : List Char) : Nat × Bool × List Char :=
  go 0 true s
where
  go (pos : Nat) (atStart : Bool) : List Char → Nat × Bool × List Char
    | [] => (pos, atStart, [])
    | c :: s =>
      if offset ≤ pos then (pos, atStart, c :: s) else go (pos + c.utf8Size) (c == '\n') s

/-- The start and end of the first statement whose line starts at or behind a byte offset. -/
def firstSpanFrom? (offset : Nat) (s : List Char) : Option (Nat × Nat) :=
  let (pos, atStart, rest) := seek offset s
  (first? atStart rest).map fun found =>
    let start := pos + size found.before + size found.indent
    (start, start + size found.text)

end Statement
end ImportOrder
