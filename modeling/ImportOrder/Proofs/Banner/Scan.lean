import ImportOrder.Proofs.Calm

/-!
# ImportOrder.Proofs.Banner.Scan

What is behind the banner of a text. No line of a banner starts with the keyword `import`, so a banner
is calm (`calm_banner`). A calm text that ends a line can be put before another one, and a scan finds
the statements of the other one, moved by the size of the first (`spans_behind`). So a scan of the text
behind the banner finds all that a scan of the whole text finds: `cut_keeps_imports`.

The keyword is `import` with a blank or the end of the line behind it, as every statement of the
grammar has it.
-/

namespace ImportOrder

open Text

/-! ## Scans behind a calm text -/

namespace Statement

/-- A scan with a text put before all that was scanned. -/
def Scanned.behind (p : List Char) (s : Scanned) : Scanned :=
  match s.occurrences with
  | [] => ⟨[], p ++ s.tail⟩
  | o :: more => ⟨{ o with gap := p ++ o.gap } :: more, s.tail⟩

theorem first?_append_calm {p : List Char} (hp : Calm p) (hends : EndsLine p) (s : List Char) :
    first? true (p ++ s) = (first? true s).map fun f => { f with before := p ++ f.before } := by
  induction p using lineInduction with
  | last l hl =>
    have hnil : l = [] := by
      rcases hends with hnil | ⟨t, rfl⟩
      · exact hnil
      · simp at hl
    subst hnil
    simp
  | line l p hl ih =>
    -- The search passes the line `l`, and the rest of `p` still ends a line.
    rw [calm_append_newline hl] at hp
    have hrest := ih hp.2 (hends.of_suffix ⟨l ++ ['\n'], by simp⟩)
    rw [List.append_assoc, List.cons_append, first?_append_newline hl (p ++ s) hp.1, hrest,
      Option.map_map]
    refine congrArg (fun f => Option.map f (first? true s)) (funext fun f => ?_)
    simp

theorem scan_append {p : List Char} (hp : Calm p) (hends : EndsLine p) (s : List Char) :
    scan (p ++ s) = (scan s).behind p := by
  have hfirst := first?_append_calm hp hends s
  cases hfound : first? true s with
  | none =>
    rw [hfound] at hfirst
    rw [scan, scan, scanFrom_of_none hfirst, scanFrom_of_none hfound]
    rfl
  | some found =>
    rw [hfound] at hfirst
    rw [scan, scan, scanFrom_of_some hfirst, scanFrom_of_some hfound]
    rfl

theorem texts_behind (p : List Char) (s : Scanned) :
    (s.behind p).occurrences.map (·.text) = s.occurrences.map (·.text) := by
  unfold Scanned.behind
  split
  · rename_i h
    rw [h]
  · rename_i o more h
    rw [h]
    rfl

/-- Both ends of a span moved. -/
def shift (k : Nat) (span : Nat × Nat) : Nat × Nat :=
  (k + span.1, k + span.2)

theorem spansFrom_add (k offset : Nat) (occs : List Occurrence) :
    spansFrom (k + offset) occs = (spansFrom offset occs).map (shift k) := by
  induction occs generalizing offset with
  | nil => rfl
  | cons o more ih => simp only [spansFrom, List.map_cons, shift, Nat.add_assoc, ih]

theorem spans_behind (p : List Char) (s : Scanned) :
    (s.behind p).spans = s.spans.map (shift (size p)) := by
  have hmove := spansFrom_add (size p) 0 s.occurrences
  rw [Scanned.spans, Scanned.spans, ← hmove, Scanned.behind]
  split
  · rename_i h
    rw [h]
    rfl
  · rename_i o more h
    simp only [h, spansFrom, size_append, Nat.zero_add, Nat.add_zero, Nat.add_assoc]

end Statement

/-! ## The banner -/

namespace Banner

open Comment Statement

/-- A line that is blank or looks like a comment. -/
def IsRemark (line : List Char) : Prop :=
  allBlank line = true ∨ looksLikeComment (trim line) = true

theorem trim_eq_nil_iff {s : List Char} : trim s = [] ↔ allBlank s = true := by
  refine ⟨fun h => ?_, trim_of_blank⟩
  obtain ⟨a, b, ha, hb, hs⟩ := exists_trim_append s
  rw [hs, h, List.nil_append]
  exact allBlank_append.2 ⟨ha, hb⟩

theorem isBannerLine_iff {line : List Char} :
    isBannerLine line = true ↔ startsImport line = false ∧ IsRemark line := by
  constructor
  · intro h
    refine ⟨?_, ?_⟩
    · rw [← Bool.not_eq_true]
      intro hstarts
      rw [isBannerLine_of_startsImport hstarts] at h
      cases h
    · simp only [isBannerLine, Bool.and_eq_true, Bool.or_eq_true, List.isEmpty_iff] at h
      exact h.2.imp_left trim_eq_nil_iff.1
  · rintro ⟨hstarts, hremark⟩
    rw [startsImport, Bool.or_eq_false_iff] at hstarts
    simp only [isBannerLine, hstarts.2, Bool.not_false, Bool.true_and, Bool.or_eq_true,
      List.isEmpty_iff]
    exact hremark.imp_left trim_of_blank

theorem calm_banner (text : List Char) : Calm (cut text).banner :=
  fun _ hl => (isBannerLine_iff.1 (isBannerLine_of_mem_banner hl)).1

/-- The banner of a text and what is behind it are the text. The lines of the banner are blank or look
like comments, and none starts with the keyword `import`. What is behind it is the whole text, or
starts with a line that is not so. All the statements that a scan of the text finds it finds behind the
banner, each as far behind it as it stands in what is left. -/
theorem cut_keeps_imports (text : List Char) :
    (cut text).banner ++ (cut text).rest = text ∧
    (∀ line ∈ lines (cut text).banner, IsRemark line ∧ startsImport line = false) ∧
    ((cut text).rest = text ∨ ∃ line more, lines (cut text).rest = line :: more ∧
      (¬ IsRemark line ∨ startsImport line = true)) ∧
    (scan text).occurrences.map (·.text) = (scan (cut text).rest).occurrences.map (·.text) ∧
    (scan text).spans = (scan (cut text).rest).spans.map (shift (size (cut text).banner)) := by
  have htext := banner_append_rest text
  have hscan : scan text = (scan (cut text).rest).behind (cut text).banner := by
    conv_lhs => rw [← htext]
    exact scan_append (calm_banner text) (endsLine_banner text) _
  refine ⟨htext, fun line hline => ?_, ?_, ?_, ?_⟩
  · exact (isBannerLine_iff.1 (isBannerLine_of_mem_banner hline)).symm
  · refine (rest_cases text).imp And.right ?_
    rintro ⟨line, more, hlines, hnot⟩
    refine ⟨line, more, hlines, ?_⟩
    by_contra hboth
    rw [not_or, not_not, Bool.not_eq_true] at hboth
    rw [isBannerLine_iff.2 hboth.symm] at hnot
    cases hnot
  · rw [hscan, texts_behind]
  · rw [hscan, spans_behind]

end Banner
end ImportOrder
