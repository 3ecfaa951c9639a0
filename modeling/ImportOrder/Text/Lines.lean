/-!
# ImportOrder.Text.Lines

Cutting a text into lines and into pieces. `lines` keeps each newline at the end of its line, so
that the lines put together give the text back.
-/

namespace ImportOrder
namespace Text

/-- The lines of a text, each with its newline; only the last may lack one. -/
def lines : List Char → List (List Char)
  | [] => []
  | c :: cs =>
    if c = '\n' then [c] :: lines cs
    else
      match lines cs with
      | [] => [[c]]
      | line :: rest => (c :: line) :: rest

theorem flatten_lines (s : List Char) : (lines s).flatten = s := by
  induction s with
  | nil => rfl
  | cons c cs ih =>
    rw [lines]
    split
    · simp [ih]
    · split
      · rename_i h
        rw [h] at ih
        simpa using ih
      · rename_i line rest h
        rw [h] at ih
        simpa using ih

/-- The pieces between the characters with property `p`; one more piece than such characters. -/
def splitWhere (p : Char → Bool) : List Char → List (List Char)
  | [] => [[]]
  | c :: cs =>
    if p c then [] :: splitWhere p cs
    else
      match splitWhere p cs with
      | [] => [[c]]
      | piece :: rest => (c :: piece) :: rest

/-- Whether `word` stands somewhere in the text. -/
def occursIn (word : List Char) : List Char → Bool
  | [] => word.isEmpty
  | c :: cs => word.isPrefixOf (c :: cs) || occursIn word cs

/-- What follows a word that the text starts with. -/
def dropWord? : List Char → List Char → Option (List Char)
  | [], s => some s
  | _ :: _, [] => none
  | w :: ws, c :: s => if w = c then dropWord? ws s else none

theorem dropWord?_eq_some {w s r : List Char} (h : dropWord? w s = some r) : s = w ++ r := by
  induction w generalizing s with
  | nil => simpa [dropWord?] using h
  | cons c w ih =>
    cases s with
    | nil => simp [dropWord?] at h
    | cons d s =>
      simp only [dropWord?] at h
      split at h
      · rename_i hc
        rw [hc, ih h, List.cons_append]
      · cases h

@[simp] theorem dropWord?_append (w r : List Char) : dropWord? w (w ++ r) = some r := by
  induction w with
  | nil => rfl
  | cons c w ih => simp [dropWord?, ih]

theorem dropWord?_suffix {w s r : List Char} (h : dropWord? w s = some r) : r <:+ s :=
  ⟨w, (dropWord?_eq_some h).symm⟩

/-- What stands before and after the first occurrence of `word`. -/
def splitAtWord? (word : List Char) : List Char → Option (List Char × List Char)
  | [] => if word.isEmpty then some ([], []) else none
  | c :: cs =>
    match dropWord? word (c :: cs) with
    | some rest => some ([], rest)
    | none => (splitAtWord? word cs).map fun (before, after) => (c :: before, after)

theorem splitAtWord?_eq_some {word s before after : List Char}
    (h : splitAtWord? word s = some (before, after)) : s = before ++ word ++ after := by
  induction s generalizing before with
  | nil =>
    simp only [splitAtWord?] at h
    split at h
    · rename_i hw
      cases h
      simpa using hw
    · cases h
  | cons c s ih =>
    rw [splitAtWord?] at h
    split at h
    · rename_i rest hrest
      cases h
      simpa using dropWord?_eq_some hrest
    · obtain ⟨⟨b, a⟩, hba, heq⟩ := Option.map_eq_some_iff.1 h
      cases heq
      simpa using ih hba

/-- What stands before and after the first occurrence of the character. -/
def splitAtChar? (x : Char) : List Char → Option (List Char × List Char)
  | [] => none
  | c :: cs =>
    if c = x then some ([], cs)
    else (splitAtChar? x cs).map fun (before, after) => (c :: before, after)

theorem splitAtChar?_eq_some {x : Char} {s before after : List Char}
    (h : splitAtChar? x s = some (before, after)) : s = before ++ x :: after := by
  induction s generalizing before with
  | nil => simp [splitAtChar?] at h
  | cons c s ih =>
    rw [splitAtChar?] at h
    split at h
    · rename_i hc
      cases h
      simp [hc]
    · obtain ⟨⟨b, a⟩, hba, heq⟩ := Option.map_eq_some_iff.1 h
      cases heq
      simpa using ih hba

/-- The text up to the first newline, and the rest from that newline on. -/
def splitLine (s : List Char) : List Char × List Char :=
  (s.takeWhile (· != '\n'), s.dropWhile (· != '\n'))

end Text
end ImportOrder
