import ImportOrder.Proofs.Comment.Run

/-!
# ImportOrder.Proofs.Comment.Units

What the comment above a statement is made of. The run of comment lines splits into units: a `//`
line, a line that is one block comment, or the lines of a longer block, from the one that starts with
`/*` to the one that ends in its only `*/`. The lines above the run do not end in a unit, so the run
goes up as far as it can. A line of code or a blank line can belong to a statement only within a
longer block: `attachedRun_units`.

Units are told by the markers that the lines hold and where, not by the tests that look for them;
`isWholeComment_iff` and `closesBlock_iff` say that the tests find these.
-/

namespace ImportOrder
namespace Comment

open Text

/-! ## Units -/

/-- A text that is one block comment: what stands between its markers does not end it. -/
def IsClosed (t : List Char) : Prop :=
  ∃ inside, t = ['/', '*'] ++ (inside ++ ['*', '/']) ∧ ¬ ['*', '/'] <:+: inside

/-- A text that ends a block comment: its only `*/` stands at its end, and it holds no `/*`. -/
def IsCloser (t : List Char) : Prop :=
  (∃ front, t = front ++ ['*', '/'] ∧ ¬ ['*', '/'] <:+: front ++ ['*']) ∧ ¬ ['/', '*'] <:+: t

/-- A line that is a comment by itself. -/
def IsComment (line : List Char) : Prop :=
  ['/', '/'] <+: trim line ∨ IsClosed (trim line)

/-- The lines of a block comment that goes over several lines. -/
inductive IsBlock : List (List Char) → Prop where
  | intro {opener closer : List Char} {body : List (List Char)}
      (opens : ['/', '*'] <+: trim opener) (inside : ∀ l ∈ opener :: body, ¬ ['*', '/'] <:+: l)
      (closes : IsCloser (trim closer)) : IsBlock (opener :: (body ++ [closer]))

inductive IsUnit : List (List Char) → Prop where
  | line {l : List Char} (h : IsComment l) : IsUnit [l]
  | block {ls : List (List Char)} (h : IsBlock ls) : IsUnit ls

/-- The lines split into units. -/
def AreUnits (ls : List (List Char)) : Prop :=
  ∃ units : List (List (List Char)), (∀ u ∈ units, IsUnit u) ∧ units.flatten = ls

theorem areUnits_nil : AreUnits [] :=
  ⟨[], by simp, rfl⟩

theorem AreUnits.append {ls unit : List (List Char)} (h : AreUnits ls) (hunit : IsUnit unit) :
    AreUnits (ls ++ unit) := by
  obtain ⟨units, hunits, rfl⟩ := h
  refine ⟨units ++ [unit], fun u hu => ?_, by simp⟩
  rcases List.mem_append.1 hu with hu | hu
  · exact hunits u hu
  · rw [List.mem_singleton.1 hu]
    exact hunit

/-- The line at an index belongs to a block that goes over several lines. -/
def StandsInBlock (ls : List (List Char)) (i : Nat) : Prop :=
  ∃ front block back, ls = front ++ (block ++ back) ∧ IsBlock block ∧
    front.length ≤ i ∧ i < front.length + block.length

theorem StandsInBlock.append_left {ls : List (List Char)} {i : Nat} (h : StandsInBlock ls i)
    (more : List (List Char)) : StandsInBlock (more ++ ls) (more.length + i) := by
  obtain ⟨front, block, back, rfl, hblock, hstart, hstop⟩ := h
  refine ⟨more ++ front, block, back, by simp, hblock, ?_⟩
  rw [List.length_append]
  omega

theorem AreUnits.isComment_or_standsInBlock {ls : List (List Char)} (h : AreUnits ls) {i : Nat}
    {line : List Char} (hline : ls[i]? = some line) : IsComment line ∨ StandsInBlock ls i := by
  obtain ⟨units, hunits, rfl⟩ := h
  induction units generalizing i with
  | nil => simp at hline
  | cons unit units ih =>
    rw [List.flatten_cons] at hline ⊢
    by_cases hi : i < unit.length
    · rw [List.getElem?_append_left hi] at hline
      cases hunits unit List.mem_cons_self with
      | line hcomment =>
        rw [List.length_singleton, Nat.lt_one_iff] at hi
        subst hi
        cases hline
        exact .inl hcomment
      | block hblock =>
        exact .inr ⟨[], unit, units.flatten, rfl, hblock, by simp, by simpa using hi⟩
    · rw [List.getElem?_append_right (Nat.le_of_not_lt hi)] at hline
      rcases ih (fun u hu => hunits u (List.mem_cons_of_mem unit hu)) hline with hcomment | hblock
      · exact .inl hcomment
      · have hstands := hblock.append_left unit
        rw [Nat.add_sub_cancel' (Nat.le_of_not_lt hi)] at hstands
        exact .inr hstands

/-! ## Tests on a line -/

theorem hasCloser_eq_false_iff {s : List Char} : hasCloser s = false ↔ ¬ ['*', '/'] <:+: s := by
  rw [hasCloser, ← occursIn_iff, Bool.not_eq_true]

theorem hasOpener_eq_false_iff {s : List Char} : hasOpener s = false ↔ ¬ ['/', '*'] <:+: s := by
  rw [hasOpener, ← occursIn_iff, Bool.not_eq_true]

theorem hasCloser_trim_eq_false_iff {l : List Char} :
    hasCloser (trim l) = false ↔ ¬ ['*', '/'] <:+: l := by
  constructor
  · intro h
    exact hasCloser_eq_false_iff.1 (hasCloser_of_trim h)
  · intro h
    exact hasCloser_eq_false_iff.2 fun hin => h (hin.trans (Statement.trim_isInfix l))

theorem isClosedBlock_iff {t : List Char} : isClosedBlock t = true ↔ IsClosed t := by
  constructor
  · intro h
    obtain ⟨inside, rfl, hinside⟩ := exists_of_isClosedBlock h
    exact ⟨inside, rfl, hasCloser_eq_false_iff.1 hinside⟩
  · rintro ⟨inside, rfl, hinside⟩
    have hlen : (['/', '*'] ++ (inside ++ ['*', '/'])).length = inside.length + 4 := by simp
    have hmiddle : ((['/', '*'] ++ (inside ++ ['*', '/'])).drop 2).take inside.length = inside :=
      List.take_left
    have hsuffix : ['*', '/'] <:+ ['/', '*'] ++ (inside ++ ['*', '/']) :=
      (List.suffix_append inside _).trans (List.suffix_append _ _)
    rw [isClosedBlock, hlen, Nat.add_sub_cancel, hmiddle, hasCloser_eq_false_iff.2 hinside,
      List.isSuffixOf_iff_suffix.2 hsuffix]
    simp [opensBlock]

theorem isWholeComment_iff {l : List Char} : isWholeComment (trim l) = true ↔ IsComment l := by
  rw [isWholeComment, Bool.or_eq_true, isLineComment, List.isPrefixOf_iff_prefix, isClosedBlock_iff,
    IsComment]

theorem closesBlock_iff {t : List Char} : closesBlock t = true ↔ IsCloser t := by
  have hlast : ∀ front : List Char, (front ++ ['*', '/']).dropLast = front ++ ['*'] := fun front =>
    List.dropLast_append_of_ne_nil (by simp)
  rw [closesBlock, Bool.and_eq_true, Bool.and_eq_true, Bool.not_eq_true', Bool.not_eq_true',
    List.isSuffixOf_iff_suffix, hasOpener_eq_false_iff, hasCloser_eq_false_iff]
  constructor
  · rintro ⟨⟨⟨front, rfl⟩, hopener⟩, honly⟩
    rw [hlast] at honly
    exact ⟨⟨front, rfl, honly⟩, hopener⟩
  · rintro ⟨⟨front, rfl, honly⟩, hopener⟩
    refine ⟨⟨List.suffix_append _ _, hopener⟩, ?_⟩
    rwa [hlast]

/-! ## Runs -/

theorem Reaches.isBlock {body : List (List Char)} {opener closer : List Char}
    (h : Reaches body opener) (hcloses : closesBlock (trim closer) = true) :
    IsBlock (opener :: (body.reverse ++ [closer])) := by
  refine .intro (List.isPrefixOf_iff_prefix.1 h.opens) (fun l hl => ?_) (closesBlock_iff.1 hcloses)
  refine hasCloser_trim_eq_false_iff.1 (h.noCloser l ?_)
  simpa using hl

theorem IsRun.areUnits {ls : List (List Char)} (h : IsRun ls) : AreUnits ls.reverse := by
  induction h with
  | nil => exact areUnits_nil
  | whole hwhole _ ih =>
    rw [List.reverse_cons]
    exact ih.append (.line (isWholeComment_iff.1 hwhole))
  | block _ hcloses hreaches _ ih =>
    rw [reverse_block]
    exact ih.append (.block (hreaches.isBlock hcloses))

/-- From a line that opens a block and lines that do not close one, the way up comes to an opener,
maybe to a nearer one. -/
theorem exists_reaches {opener : List Char} (hopens : opensBlock (trim opener) = true)
    {body : List (List Char)} (h : ∀ l ∈ opener :: body, hasCloser (trim l) = false)
    (above : List (List Char)) :
    ∃ body' opener' above', body ++ opener :: above = body' ++ opener' :: above' ∧
      Reaches body' opener' := by
  induction body with
  | nil => exact ⟨[], opener, above, rfl, hopens, by simp, h⟩
  | cons l body ih =>
    simp only [List.forall_mem_cons] at h ih
    by_cases hl : opensBlock (trim l) = true
    · exact ⟨[], l, body ++ opener :: above, rfl, hl, by simp, by simpa using h.2.1⟩
    · obtain ⟨body', opener', above', heq, hreaches⟩ := ih ⟨h.1, h.2.2⟩
      refine ⟨l :: body', opener', above', by rw [List.cons_append, heq, List.cons_append], ?_⟩
      exact reaches_cons.2 ⟨h.2.1, Bool.eq_false_iff.2 hl, hreaches⟩

/-- Lines that end in a unit end in a run of comment lines. -/
theorem runAbove_ne_zero {ls unit : List (List Char)} (hunit : IsUnit unit) (h : unit <:+ ls) :
    runAbove ls.reverse ≠ 0 := by
  obtain ⟨front, rfl⟩ := h
  cases hunit with
  | line hcomment =>
    rw [List.reverse_concat, runAbove, if_pos (isWholeComment_iff.2 hcomment)]
    omega
  | block hblock =>
    cases hblock with
    | @intro opener closer body opens inside closes =>
      -- the walk may stop at a nearer opener than the one of this unit
      have hlines : (front ++ opener :: (body ++ [closer])).reverse =
          closer :: (body.reverse ++ opener :: front.reverse) := by simp
      have hinside : ∀ l ∈ opener :: body.reverse, hasCloser (trim l) = false := fun l hl =>
        hasCloser_trim_eq_false_iff.2 (inside l (by simpa using hl))
      obtain ⟨body', opener', above', heq, hreaches⟩ :=
        exists_reaches (List.isPrefixOf_iff_prefix.2 opens) hinside front.reverse
      rw [hlines, heq, runAbove, linesToOpener?_of_reaches hreaches,
        if_pos (closesBlock_iff.2 closes)]
      split
      · omega
      · simp only
        omega

theorem runAbove_linesAbove (ls : List (List Char)) : runAbove (linesAbove ls).reverse = 0 := by
  have hrest := runAbove_drop ls.reverse
  rw [← attachedLines, List.drop_reverse] at hrest
  exact hrest

/-- The lines that belong to an import are a run of comment lines. -/
theorem areUnits_leading {text : List Char} {b : Block} (hb : Block.ofText? text = some b) {e : Entry}
    (he : e ∈ b.entries) : AreUnits e.leading := by
  have hattached := ((Block.sound_of_ofText? hb).entries e he).attached
  rw [attachedLines, ← List.length_reverse] at hattached
  have hunits := (isRun_iff.2 hattached).areUnits
  rwa [List.reverse_reverse] at hunits

/-- The run of comment lines ends the lines. It splits into units, and the lines above it do not end in
one: the last of these is no comment by itself, and it does not close a block whose opener is met on
the way up before another `*/`. So a line that belongs to an import is a comment by itself or stands in
a block of several lines; a line of code or a blank line elsewhere is never moved with it. -/
theorem attachedRun_units :
    (∀ ls : List (List Char), attachedLines ls ≤ ls.length ∧ AreUnits (attachedRun ls) ∧
      ∀ unit, IsUnit unit → ¬ unit <:+ linesAbove ls) ∧
    ∀ text b, Block.ofText? text = some b → ∀ e ∈ b.entries, ∀ i line,
      e.leading[i]? = some line → IsComment line ∨ StandsInBlock e.leading i := by
  constructor
  · intro ls
    refine ⟨?_, ?_, fun unit hunit hsuffix => ?_⟩
    · have hle := runAbove_le ls.reverse
      rwa [List.length_reverse] at hle
    · have hunits := (isRun_iff.2 (runAbove_attachedRun ls)).areUnits
      rwa [List.reverse_reverse] at hunits
    · exact runAbove_ne_zero hunit hsuffix (runAbove_linesAbove ls)
  · intro text b hb e he i line hline
    exact (areUnits_leading hb he).isComment_or_standsInBlock hline

/-- A blank line belongs to a statement within a block, and only there. -/
example :
    attachedLines ["f();".toList, "/*".toList, [], " */".toList, "// a".toList] = 4 ∧
      attachedLines ["// b".toList, [], "// a".toList] = 1 := by
  decide +kernel

end Comment
end ImportOrder
