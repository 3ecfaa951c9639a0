import ImportOrder.Text.Blank

/-!
# ImportOrder.Text.Offset

Offsets into a text count the bytes of its UTF-8 form. An offset is a place of the text only if
it falls between two characters; `cut?` finds that place.
-/

namespace ImportOrder
namespace Text

/-- The number of bytes of a text in UTF-8. -/
def size : List Char → Nat
  | [] => 0
  | c :: s => c.utf8Size + size s

@[simp] theorem size_nil : size [] = 0 := rfl

@[simp] theorem size_cons (c : Char) (s : List Char) : size (c :: s) = c.utf8Size + size s := rfl

@[simp] theorem size_append (s t : List Char) : size (s ++ t) = size s + size t := by
  induction s with
  | nil => simp
  | cons c s ih => rw [List.cons_append, size_cons, size_cons, ih, Nat.add_assoc]

theorem length_le_size (s : List Char) : s.length ≤ size s := by
  induction s with
  | nil => exact Nat.le_refl 0
  | cons c s ih =>
    have := c.utf8Size_pos
    simp only [size_cons, List.length_cons]
    omega

/-- The texts before and after a byte offset, or nothing if the offset lies beyond the end or
inside a character. -/
def cut? : Nat → List Char → Option (List Char × List Char)
  | 0, s => some ([], s)
  | _ + 1, [] => none
  | n + 1, c :: s =>
    if c.utf8Size ≤ n + 1 then
      (cut? (n + 1 - c.utf8Size) s).map fun (before, after) => (c :: before, after)
    else none

theorem cut?_eq_some {n : Nat} {s before after : List Char} (h : cut? n s = some (before, after)) :
    s = before ++ after ∧ size before = n := by
  induction s generalizing n before with
  | nil =>
    cases n with
    | zero => cases h; exact ⟨rfl, rfl⟩
    | succ n => simp [cut?] at h
  | cons c s ih =>
    cases n with
    | zero => cases h; exact ⟨rfl, rfl⟩
    | succ n =>
      rw [cut?] at h
      split at h
      · obtain ⟨⟨b, a⟩, hcut, heq⟩ := Option.map_eq_some_iff.1 h
        cases heq
        obtain ⟨hs, hsize⟩ := ih hcut
        refine ⟨by rw [hs, List.cons_append], ?_⟩
        rw [size_cons]
        omega
      · cases h

/-- The place between two texts is the one behind as many bytes as the first has. -/
theorem cut?_append (before after : List Char) :
    cut? (size before) (before ++ after) = some (before, after) := by
  induction before with
  | nil => simp [cut?]
  | cons c s ih =>
    have hpos := c.utf8Size_pos
    have hn : size (c :: s) = (c.utf8Size + size s - 1) + 1 := by
      rw [size_cons]
      omega
    rw [hn, List.cons_append, cut?, if_pos (by omega)]
    have hrest : c.utf8Size + size s - 1 + 1 - c.utf8Size = size s := by omega
    rw [hrest, ih]
    rfl

/-- The text between two byte offsets. -/
def slice? (start stop : Nat) (s : List Char) : Option (List Char) :=
  match cut? stop s with
  | none => none
  | some (upto, _) => (cut? start upto).map (·.2)

/-- The text with the bytes from `start` to `stop` replaced; unchanged if these are no places. -/
def replaceSlice (start stop : Nat) (new : List Char) (s : List Char) : List Char :=
  match cut? stop s with
  | none => s
  | some (upto, after) =>
    match cut? start upto with
    | none => s
    | some (before, _) => before ++ new ++ after

/-- The offset of the start of the line that `before` ends in. -/
def startOfLine (before : List Char) : Nat :=
  size before - size (afterLastNewline before)

/-- The indentation that `before` ends in: its last line if that holds spaces and tabs only,
otherwise nothing. -/
def indentation (before : List Char) : List Char :=
  let line := afterLastNewline before
  if line.all isIndent then line else []

end Text
end ImportOrder
