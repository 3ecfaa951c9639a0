import ImportOrder.Proofs.Text.Blank
import ImportOrder.Text.Lines

/-!
# ImportOrder.Proofs.Text.Lines

Texts line by line. A text is one open line, or a line, its newline and a text behind it
(`lineInduction`); `lines` follows that (`lines_append_newline`). A text that ends where a line ends
(`EndsLine`) can be put before another one without touching the other's lines (`lines_append`).
-/

namespace ImportOrder
namespace Text

theorem occursIn_iff {word s : List Char} : occursIn word s = true ↔ word <:+: s := by
  induction s with
  | nil => rw [occursIn, List.isEmpty_iff, List.infix_nil]
  | cons c s ih =>
    rw [occursIn, Bool.or_eq_true, ih, List.isPrefixOf_iff_prefix, List.infix_cons_iff]

theorem lines_of_not_mem {l : List Char} (hne : l ≠ []) (h : '\n' ∉ l) : lines l = [l] := by
  induction l with
  | nil => exact absurd rfl hne
  | cons c l ih =>
    rw [List.mem_cons, not_or] at h
    rw [lines, if_neg (Ne.symm h.1)]
    cases l with
    | nil => rfl
    | cons d l => rw [ih (by simp) h.2]

/-- The first line of a text is cut off with its newline. -/
theorem lines_append_newline {l : List Char} (h : '\n' ∉ l) (s : List Char) :
    lines (l ++ '\n' :: s) = (l ++ ['\n']) :: lines s := by
  induction l with
  | nil => rw [List.nil_append, lines, if_pos rfl, List.nil_append]
  | cons c l ih =>
    rw [List.mem_cons, not_or] at h
    rw [List.cons_append, lines, if_neg (Ne.symm h.1), ih h.2]
    rfl

/-- Induction on a text line by line. -/
@[elab_as_elim] theorem lineInduction {motive : List Char → Prop}
    (last : ∀ l, '\n' ∉ l → motive l)
    (line : ∀ l s, '\n' ∉ l → motive s → motive (l ++ '\n' :: s)) (s : List Char) : motive s := by
  have go : ∀ n (s : List Char), s.length ≤ n → motive s := by
    intro n
    induction n with
    | zero =>
      intro s h
      rw [List.length_eq_zero_iff.1 (Nat.le_zero.1 h)]
      exact last [] (by simp)
    | succ n ih =>
      intro s h
      have hs : s.takeWhile (· != '\n') ++ s.dropWhile (· != '\n') = s :=
        List.takeWhile_append_dropWhile
      have hl : '\n' ∉ s.takeWhile (· != '\n') := by
        intro hm
        have := List.mem_takeWhile_imp hm
        simp at this
      cases hd : s.dropWhile (· != '\n') with
      | nil =>
        rw [hd, List.append_nil] at hs
        rw [← hs]
        exact last _ hl
      | cons c rest =>
        have hc : c = '\n' := by
          have := List.head?_dropWhile_not (· != '\n') s
          rw [hd] at this
          simpa using this
        subst hc
        rw [hd] at hs
        have hlen := congrArg List.length hs
        simp only [List.length_append, List.length_cons] at hlen
        rw [← hs]
        exact line _ _ hl (ih rest (by omega))
  exact go s.length s (Nat.le_refl _)

/-- The text is empty or ends with a newline. -/
def EndsLine (s : List Char) : Prop :=
  s = [] ∨ ∃ t, s = t ++ ['\n']

theorem EndsLine.append {s t : List Char} (hs : EndsLine s) (ht : EndsLine t) :
    EndsLine (s ++ t) := by
  rcases ht with rfl | ⟨u, rfl⟩
  · rwa [List.append_nil]
  · exact .inr ⟨s ++ u, by rw [List.append_assoc]⟩

theorem endsLine_newline (s : List Char) : EndsLine (s ++ ['\n']) :=
  .inr ⟨s, rfl⟩

theorem EndsLine.of_suffix {s t : List Char} (hs : EndsLine s) (h : t <:+ s) : EndsLine t := by
  rcases hs with rfl | ⟨u, rfl⟩
  · exact .inl (List.suffix_nil.1 h)
  · rcases List.suffix_concat_iff.1 h with rfl | ⟨v, rfl, -⟩
    · exact .inl rfl
    · exact endsLine_newline v

/-- A text in front that ends a line leaves the lines behind it alone. -/
theorem lines_append {s : List Char} (hs : EndsLine s) (t : List Char) :
    lines (s ++ t) = lines s ++ lines t := by
  induction s using lineInduction with
  | last l hl =>
    rcases hs with rfl | ⟨u, rfl⟩
    · rfl
    · simp at hl
  | line l s hl ih =>
    have hs' : EndsLine s := hs.of_suffix ⟨l ++ ['\n'], by simp⟩
    rw [List.append_assoc, List.cons_append, lines_append_newline hl, lines_append_newline hl,
      ih hs', List.cons_append]

/-- A line of a text: it is not empty and has a newline at most at its end. -/
theorem mem_lines {s l : List Char} (h : l ∈ lines s) :
    l ≠ [] ∧ ('\n' ∉ l ∨ ∃ m, '\n' ∉ m ∧ l = m ++ ['\n']) := by
  induction s using lineInduction with
  | last m hm =>
    by_cases hne : m = []
    · subst hne
      cases h
    · rw [lines_of_not_mem hne hm, List.mem_singleton] at h
      subst h
      exact ⟨hne, .inl hm⟩
  | line m s hm ih =>
    rw [lines_append_newline hm, List.mem_cons] at h
    rcases h with rfl | h
    · exact ⟨by simp, .inr ⟨m, hm, rfl⟩⟩
    · exact ih h

/-- A line with its newline. -/
def FullLine (l : List Char) : Prop :=
  ∃ m, '\n' ∉ m ∧ l = m ++ ['\n']

theorem mem_lines_of_endsLine {s l : List Char} (hs : EndsLine s) (h : l ∈ lines s) :
    FullLine l := by
  induction s using lineInduction with
  | last m hm =>
    rcases hs with rfl | ⟨u, rfl⟩
    · cases h
    · simp at hm
  | line m s hm ih =>
    rw [lines_append_newline hm, List.mem_cons] at h
    rcases h with rfl | h
    · exact ⟨m, hm, rfl⟩
    · exact ih (hs.of_suffix ⟨m ++ ['\n'], by simp⟩) h

theorem lines_flatten {ls : List (List Char)} (h : ∀ l ∈ ls, FullLine l) :
    lines ls.flatten = ls := by
  induction ls with
  | nil => rfl
  | cons l ls ih =>
    obtain ⟨m, hm, rfl⟩ := h l List.mem_cons_self
    rw [List.flatten_cons, List.append_assoc, List.singleton_append, lines_append_newline hm,
      ih fun l' hl' => h l' (List.mem_cons_of_mem _ hl')]

theorem endsLine_flatten {ls : List (List Char)} (h : ∀ l ∈ ls, FullLine l) :
    EndsLine ls.flatten := by
  induction ls with
  | nil => exact .inl rfl
  | cons l ls ih =>
    obtain ⟨m, -, rfl⟩ := h l List.mem_cons_self
    exact (endsLine_newline m).append (ih fun l' hl' => h l' (List.mem_cons_of_mem _ hl'))

/-- A line that another one follows has its newline. -/
theorem fullLine_of_lines_eq {s : List Char} {ls more : List (List Char)} {next : List Char}
    (h : lines s = ls ++ next :: more) : ∀ l ∈ ls, FullLine l := by
  induction s using lineInduction generalizing ls with
  | last m hm =>
    cases m with
    | nil => simp [lines] at h
    | cons c m =>
      rw [lines_of_not_mem (by simp) hm] at h
      cases ls with
      | nil => simp
      | cons l ls => simp at h
  | line m s hm ih =>
    rw [lines_append_newline hm] at h
    cases ls with
    | nil => simp
    | cons l ls =>
      rw [List.cons_append, List.cons.injEq] at h
      intro l' hl'
      rcases List.mem_cons.1 hl' with rfl | hl'
      · exact ⟨m, hm, h.1.symm⟩
      · exact ih h.2 l' hl'

/-- The lines from one of them on are the lines of their text. -/
theorem lines_flatten_of_lines_eq {s : List Char} {ls more : List (List Char)} {next : List Char}
    (h : lines s = ls ++ next :: more) : lines (next :: more).flatten = next :: more := by
  have hfull := fullLine_of_lines_eq h
  have hsplit := lines_append (endsLine_flatten hfull) (next :: more).flatten
  rw [← List.flatten_append, ← h, flatten_lines, lines_flatten hfull] at hsplit
  exact (List.append_cancel_left (h.symm.trans hsplit)).symm

/-- The first line of a text goes on from an open line in front of it. -/
theorem lines_append_of_not_mem {l : List Char} (hl : '\n' ∉ l) {s : List Char} (hs : s ≠ []) :
    ∃ x more, lines (l ++ s) = (l ++ x) :: more ∧ x.head? = s.head? := by
  induction s using lineInduction with
  | last m hm =>
    refine ⟨m, [], ?_, rfl⟩
    rw [lines_of_not_mem (by simp [hs]) (by simp [hl, hm])]
  | line m s hm _ =>
    refine ⟨m ++ ['\n'], lines s, ?_, by cases m <;> rfl⟩
    rw [← List.append_assoc, lines_append_newline (by simp [hl, hm]), List.append_assoc]

theorem getLast?_of_suffix {s t : List Char} (h : t <:+ s) (hne : t ≠ []) :
    t.getLast? = s.getLast? := by
  obtain ⟨u, rfl⟩ := h
  rw [List.getLast?_append_of_ne_nil u hne]

/-! ## The text up to a character -/

theorem not_mem_of_splitAtChar? {x : Char} {s before after : List Char}
    (h : splitAtChar? x s = some (before, after)) : x ∉ before := by
  induction s generalizing before with
  | nil => simp [splitAtChar?] at h
  | cons c s ih =>
    rw [splitAtChar?] at h
    split at h
    · cases h
      simp
    · rename_i hc
      obtain ⟨⟨b, a⟩, hba, heq⟩ := Option.map_eq_some_iff.1 h
      cases heq
      simp [ih hba, Ne.symm hc]

theorem splitAtChar?_append {x : Char} {before : List Char} (h : x ∉ before) (after : List Char) :
    splitAtChar? x (before ++ x :: after) = some (before, after) := by
  induction before with
  | nil => simp [splitAtChar?]
  | cons c before ih =>
    rw [List.mem_cons, not_or] at h
    rw [List.cons_append, splitAtChar?, if_neg (Ne.symm h.1), ih h.2]
    rfl

/-! ## The first line, and the lines that hold something -/

theorem ne_newline_of_not_mem {l : List Char} (h : '\n' ∉ l) : ∀ c ∈ l, (c != '\n') = true := by
  intro c hc
  rw [bne_iff_ne]
  rintro rfl
  exact h hc

theorem splitLine_of_not_mem {l : List Char} (h : '\n' ∉ l) : splitLine l = (l, []) := by
  have hall := ne_newline_of_not_mem h
  rw [splitLine, List.takeWhile_eq_self_iff.2 hall, List.dropWhile_eq_nil_iff.2 hall]

theorem splitLine_append_newline {l : List Char} (h : '\n' ∉ l) (s : List Char) :
    splitLine (l ++ '\n' :: s) = (l, '\n' :: s) := by
  have hall := ne_newline_of_not_mem h
  rw [splitLine, List.takeWhile_append_of_pos hall, List.dropWhile_append_of_pos hall]
  simp

theorem splitLine_append {l : List Char} (h : '\n' ∉ l) (s : List Char) :
    splitLine (l ++ s) = (l ++ (splitLine s).1, (splitLine s).2) := by
  have hall := ne_newline_of_not_mem h
  rw [splitLine, List.takeWhile_append_of_pos hall, List.dropWhile_append_of_pos hall, splitLine]

theorem splitLine_fst_append_snd (s : List Char) : (splitLine s).1 ++ (splitLine s).2 = s :=
  List.takeWhile_append_dropWhile

theorem afterLastNewline_of_not_mem {s : List Char} (h : '\n' ∉ s) : afterLastNewline s = s := by
  have hall := ne_newline_of_not_mem (l := s.reverse) fun hm => h (List.mem_reverse.1 hm)
  rw [afterLastNewline, List.takeWhile_eq_self_iff.2 hall, List.reverse_reverse]

theorem afterLastNewline_append (a s : List Char) :
    afterLastNewline (a ++ '\n' :: s) = afterLastNewline s := by
  have hrev : (a ++ '\n' :: s).reverse = s.reverse ++ '\n' :: a.reverse := by simp
  rw [afterLastNewline, afterLastNewline, hrev, List.takeWhile_append]
  split
  · rename_i h
    have hall := (List.takeWhile_prefix (l := s.reverse) (· != '\n')).eq_of_length h
    rw [hall]
    simp
  · rfl

theorem allBlank_append {s t : List Char} :
    allBlank (s ++ t) = true ↔ allBlank s = true ∧ allBlank t = true := by
  simp [allBlank]

theorem allBlank_splitLine {s : List Char} (h : allBlank s = true) :
    allBlank (splitLine s).1 = true ∧ allBlank (splitLine s).2 = true := by
  rwa [← allBlank_append, splitLine_fst_append_snd]

theorem allBlank_of_mem_lines {s l : List Char} (h : allBlank s = true) (hl : l ∈ lines s) :
    allBlank l = true := by
  refine List.all_eq_true.2 fun c hc => List.all_eq_true.1 h c ?_
  rw [← flatten_lines s]
  exact List.mem_flatten.2 ⟨l, hl, hc⟩

theorem allBlank_newline {s : List Char} : allBlank ('\n' :: s) = allBlank s :=
  rfl

theorem trimStart_append_of_blank {b : List Char} (hb : allBlank b = true) (s : List Char) :
    trimStart (b ++ s) = trimStart s :=
  List.dropWhile_append_of_pos fun c hc => List.all_eq_true.1 hb c hc

theorem takeWhile_append_of_blank {b : List Char} (hb : allBlank b = true) (s : List Char) :
    (b ++ s).takeWhile isBlank = b ++ s.takeWhile isBlank :=
  List.takeWhile_append_of_pos fun c hc => List.all_eq_true.1 hb c hc

/-- The blanks at the start of a text end before its first content. -/
theorem takeWhile_append_of_not_blank {l : List Char} (hl : allBlank l = false) (s : List Char) :
    (l ++ s).takeWhile isBlank = l.takeWhile isBlank := by
  have hlt : (l.takeWhile isBlank).length ≠ l.length := by
    intro heq
    have hall := (List.takeWhile_prefix (l := l) isBlank).eq_of_length heq
    rw [allBlank, List.all_eq_true.2 (List.takeWhile_eq_self_iff.1 hall)] at hl
    cases hl
  rw [List.takeWhile_append, if_neg hlt]

theorem trimStart_append_of_not_blank {l : List Char} (hl : allBlank l = false) (s : List Char) :
    trimStart (l ++ s) = trimStart l ++ s := by
  have hdrop : (l.dropWhile isBlank).isEmpty = false := by
    rw [List.isEmpty_eq_false_iff]
    intro hnil
    rw [allBlank, List.all_eq_true.2 (List.dropWhile_eq_nil_iff.1 hnil)] at hl
    cases hl
  rw [trimStart, List.dropWhile_append, if_neg (by simp [hdrop]), ← trimStart]

theorem takeWhile_prefix_takeWhile {l m : List Char} (h : l <+: m) (p : Char → Bool) :
    l.takeWhile p <+: m.takeWhile p := by
  obtain ⟨r, rfl⟩ := h
  rw [List.takeWhile_append]
  split
  · exact (List.takeWhile_prefix p).trans (List.prefix_append _ _)
  · exact List.prefix_refl _

/-- Behind dropped blank lines the first content stands on the first line. -/
theorem newline_not_mem_takeWhile_dropBlankLines (s : List Char) :
    '\n' ∉ (dropBlankLines s).takeWhile isBlank := by
  obtain ⟨lead, heq, hnl, hlead⟩ := dropBlankLines_eq s
  have hblank : allBlank lead = true :=
    List.all_eq_true.2 fun c hc => List.mem_takeWhile_imp (hlead.subset hc)
  have hrest : (trimStart s).takeWhile isBlank = [] := by
    cases hs : trimStart s with
    | nil => rfl
    | cons c r =>
      have hc := List.head?_dropWhile_not isBlank s
      rw [← trimStart, hs] at hc
      rw [List.takeWhile_cons, if_neg (by simpa using hc)]
  rwa [heq, takeWhile_append_of_blank hblank, hrest, List.append_nil]

theorem trim_of_blank {s : List Char} (h : allBlank s = true) : trim s = [] := by
  rw [trim, trimStart, List.dropWhile_eq_nil_iff.2 (List.all_eq_true.1 h)]
  rfl

theorem trim_trimEnd (s : List Char) : trim (trimEnd s) = trim s := by
  obtain ⟨r, hs, hr⟩ := exists_trimEnd_append s
  have hr' : allBlank r = true := List.all_eq_true.2 hr
  cases hb : allBlank (trimEnd s) with
  | true =>
    have hall : allBlank s = true := by
      rw [hs]
      exact allBlank_append.2 ⟨hb, hr'⟩
    rw [trim_of_blank hb, trim_of_blank hall]
  | false =>
    conv_rhs => rw [trim, hs, trimStart_append_of_not_blank hb, trimEnd_append_of_blank hr]
    rfl

theorem trim_append_of_blank {r : List Char} (hr : allBlank r = true) (s : List Char) :
    trim (s ++ r) = trim s := by
  rw [← trim_trimEnd, trimEnd_append_of_blank (List.all_eq_true.1 hr), trim_trimEnd]

theorem trim_trimStart (s : List Char) : trim (trimStart s) = trim s := by
  rw [trim, trim, trimStart, trimStart, List.dropWhile_idempotent]

/-- Blanks up to a newline are dropped, and of the blanks behind them only the last line is kept. -/
theorem dropBlankLines_append {b : List Char} (hb : allBlank b = true) (s : List Char) :
    dropBlankLines (b ++ '\n' :: s) = afterLastNewline (s.takeWhile isBlank) ++ trimStart s := by
  have hnl : isBlank '\n' = true := rfl
  rw [dropBlankLines, takeWhile_append_of_blank hb, trimStart_append_of_blank hb,
    List.takeWhile_cons, if_pos hnl, if_pos (by simp), afterLastNewline_append, trimStart,
    List.dropWhile_cons, if_pos hnl, ← trimStart]

/-- The text from its first line with content on. -/
theorem dropWhile_allBlank_lines {s : List Char} (h : allBlank s = false) :
    ((lines s).dropWhile allBlank).flatten =
      afterLastNewline (s.takeWhile isBlank) ++ trimStart s := by
  induction s using lineInduction with
  | last l hl =>
    have hne : l ≠ [] := by rintro rfl; cases h
    have hlead : '\n' ∉ l.takeWhile isBlank := fun hm =>
      hl ((List.takeWhile_prefix _).subset hm)
    rw [lines_of_not_mem hne hl, afterLastNewline_of_not_mem hlead, takeWhile_append_trimStart]
    simp [h]
  | line l s hl ih =>
    rw [lines_append_newline hl, List.dropWhile_cons]
    by_cases hb : allBlank l = true
    · have hs : allBlank s = false := by
        simpa [← Bool.not_eq_true, allBlank_append, allBlank_newline, hb] using h
      rw [if_pos (by simpa [allBlank_append] using ⟨hb, rfl⟩), ih hs,
        takeWhile_append_of_blank hb, trimStart_append_of_blank hb, List.takeWhile_cons,
        if_pos (by rfl), afterLastNewline_append]
      rfl
    · -- the line itself holds the first content
      have hb' : allBlank l = false := Bool.not_eq_true _ ▸ hb
      have hlead : '\n' ∉ l.takeWhile isBlank := fun hm =>
        hl ((List.takeWhile_prefix _).subset hm)
      rw [if_neg (by simp [allBlank_append, hb]), ← lines_append_newline hl, flatten_lines,
        takeWhile_append_of_not_blank hb', trimStart_append_of_not_blank hb',
        afterLastNewline_of_not_mem hlead, ← List.append_assoc, takeWhile_append_trimStart]

/-- Dropping blank lines drops the lines without content at the start, except that on an already
open line with content the blanks go. -/
theorem dropBlankLines_eq_lines {s : List Char} (h : allBlank s = false) :
    dropBlankLines s =
      if allBlank (splitLine s).1 then ((lines s).dropWhile allBlank).flatten
      else trimStart s := by
  induction s using lineInduction with
  | last l hl =>
    have hlead : '\n' ∉ l.takeWhile isBlank := fun hm =>
      hl ((List.takeWhile_prefix _).subset hm)
    rw [splitLine_of_not_mem hl, if_neg (by simp [h]), dropBlankLines, if_neg hlead]
  | line l s hl _ =>
    rw [splitLine_append_newline hl, dropWhile_allBlank_lines h]
    by_cases hb : allBlank l = true
    · rw [if_pos hb, dropBlankLines_append hb, takeWhile_append_of_blank hb,
        trimStart_append_of_blank hb, List.takeWhile_cons, if_pos (by rfl),
        afterLastNewline_append]
      rfl
    · have hb' : allBlank l = false := Bool.not_eq_true _ ▸ hb
      have hlead : '\n' ∉ l.takeWhile isBlank := fun hm =>
        hl ((List.takeWhile_prefix _).subset hm)
      rw [if_neg hb, dropBlankLines, takeWhile_append_of_not_blank hb', if_neg hlead]

end Text
end ImportOrder
