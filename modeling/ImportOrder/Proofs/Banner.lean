import ImportOrder.Banner
import ImportOrder.Proofs.Statement.Scan

/-!
# ImportOrder.Proofs.Banner

The banner is made of whole lines (`endsLine_banner`), and a line that starts with the keyword
`import` is never one of them (`isBannerLine_of_startsImport`). So a text that is all banner has no
imports, and counting it as a text without a banner makes no difference (`scan_of_all_banner`).
`cut_append` cuts a text that is put together from a banner and other lines.
-/

namespace ImportOrder
namespace Banner

open Text Comment Statement

theorem lines_eq_of_dropWhile {text line : List Char} {more : List (List Char)}
    (h : (lines text).dropWhile isBannerLine = line :: more) :
    lines text = (lines text).takeWhile isBannerLine ++ line :: more := by
  rw [← h, List.takeWhile_append_dropWhile]

theorem endsLine_banner (text : List Char) : EndsLine (cut text).banner := by
  unfold cut
  split
  · exact .inl rfl
  · rename_i line more h
    exact endsLine_flatten (fullLine_of_lines_eq (lines_eq_of_dropWhile h))

/-- A line that starts with the keyword `import`, which ends there. -/
def startsImport (line : List Char) : Bool :=
  trim line == importWord || beginsImport (trim line)

theorem isBannerLine_of_startsImport {line : List Char} (h : startsImport line = true) :
    isBannerLine line = false := by
  simp only [startsImport, Bool.or_eq_true, beq_iff_eq] at h
  rcases h with h | h
  · rw [isBannerLine, h]
    rfl
  · simp [isBannerLine, h]

theorem startsImport_append {a x : List Char} (ha : allBlank a = true)
    (hx : ∀ c, x.head? = some c → isBlank c = true) :
    startsImport (a ++ (importWord ++ x)) = true := by
  have hword : EndsVisible importWord := ⟨['i', 'm', 'p', 'o', 'r'], 't', rfl, rfl⟩
  have htrim : trim (a ++ (importWord ++ x)) = importWord ++ trimEnd x := by
    rw [trim, trimStart_append_of_blank ha]
    exact trimEnd_append hword x
  rw [startsImport, htrim]
  cases hend : trimEnd x with
  | nil => rfl
  | cons c y =>
    have hc : isBlank c = true := by
      refine hx c ?_
      obtain ⟨z, hz⟩ := trimEnd_isPrefix x
      rw [← hz, hend]
      rfl
    simp [beginsImport, importWord, hc]

/-- The line that a statement starts. -/
theorem lines_of_sentence {indent t : List Char} (hindent : ∀ c ∈ indent, isIndent c = true)
    (ht : Sentence t) (r : List Char) :
    ∃ line more, lines (indent ++ (t ++ r)) = line :: more ∧ startsImport line = true := by
  obtain ⟨c, rest, hc, rfl⟩ := ht.starts
  have hblank := allBlank_of_isIndent hindent
  have hopen : '\n' ∉ indent ++ importWord := by
    intro hm
    rcases List.mem_append.1 hm with hm | hm
    · exact absurd (hindent _ hm) (by decide)
    · exact absurd hm (by decide)
  obtain ⟨x, more, hlines, hhead⟩ := lines_append_of_not_mem hopen (s := c :: rest ++ r) (by simp)
  refine ⟨_, more, by simpa [List.append_assoc] using hlines, ?_⟩
  refine startsImport_append hblank fun d hd => ?_
  rw [hhead] at hd
  cases hd
  exact hc

theorem scan_of_all_banner {text : List Char} (h : ∀ l ∈ lines text, isBannerLine l = true) :
    (scan text).occurrences = [] := by
  cases hscan : (scan text).occurrences with
  | nil => rfl
  | cons o more =>
    have hsound : o.Sound := sound_of_mem_scan (s := text) (by rw [hscan]; exact List.mem_cons_self)
    obtain ⟨line, others, hlines, hstarts⟩ := lines_of_sentence hsound.indent hsound.sentence
      (⟨more, (scan text).tail⟩ : Scanned).text
    have htext : text = o.gap ++ (o.indent ++ (o.text ++
        (⟨more, (scan text).tail⟩ : Scanned).text)) := by
      conv_lhs => rw [← text_scan text]
      simp [Scanned.text, hscan]
    have hnot := h line (by rw [htext, lines_append hsound.gap, hlines]; simp)
    rw [isBannerLine_of_startsImport hstarts] at hnot
    cases hnot

/-- The newline at the start of a text is in its banner, if the text has imports at all. -/
theorem cut_newline (s : List Char) :
    (∃ b, (cut ('\n' :: s)).banner = '\n' :: b) ∨
      (scan (cut ('\n' :: s)).rest).occurrences = [] := by
  have hlines : lines ('\n' :: s) = ['\n'] :: lines s := by
    rw [lines, if_pos rfl]
  have hline : isBannerLine ['\n'] = true := by decide
  unfold cut
  split
  · rename_i hall
    exact .inr (scan_of_all_banner (List.dropWhile_eq_nil_iff.1 hall))
  · refine .inl ⟨((lines s).takeWhile isBannerLine).flatten, ?_⟩
    rw [hlines, List.takeWhile_cons, if_pos hline]
    rfl

theorem isBannerLine_of_mem_banner {text l : List Char} (h : l ∈ lines (cut text).banner) :
    isBannerLine l = true := by
  unfold cut at h
  split at h
  · cases h
  · rename_i line more hdrop
    have hlines := lines_eq_of_dropWhile hdrop
    rw [lines_flatten (fullLine_of_lines_eq hlines)] at h
    exact List.mem_takeWhile_imp h

/-- Behind the cut stands a text whose first line is none of a banner's lines, or the whole text if all
its lines are. -/
theorem rest_cases (text : List Char) :
    (∀ l ∈ lines text, isBannerLine l = true) ∧ (cut text).rest = text ∨
      ∃ line more, lines (cut text).rest = line :: more ∧ isBannerLine line = false := by
  unfold cut
  split
  · rename_i hall
    exact .inl ⟨List.dropWhile_eq_nil_iff.1 hall, rfl⟩
  · rename_i line more hdrop
    have hlines := lines_eq_of_dropWhile hdrop
    have hline := List.head?_dropWhile_not isBannerLine (lines text)
    rw [hdrop] at hline
    exact .inr ⟨line, more, lines_flatten_of_lines_eq hlines, by simpa using hline⟩

/-- The first line behind the banner of a text with imports is none of a banner's lines. -/
theorem lines_rest {text : List Char} (h : (scan (cut text).rest).occurrences ≠ []) :
    ∃ line more, lines (cut text).rest = line :: more ∧ isBannerLine line = false := by
  rcases rest_cases text with ⟨hall, hrest⟩ | hline
  · rw [hrest] at h
    exact absurd (scan_of_all_banner hall) h
  · exact hline

/-- A text of banner lines, other lines and a line that is not the banner's is cut in the second
part. -/
theorem cut_append {banner gap rest line : List Char} {more : List (List Char)}
    (hbanner : EndsLine banner) (hall : ∀ l ∈ lines banner, isBannerLine l = true)
    (hgap : EndsLine gap) (hrest : lines rest = line :: more)
    (hline : isBannerLine line = false) :
    cut (banner ++ (gap ++ rest)) =
      ⟨banner ++ ((lines gap).takeWhile isBannerLine).flatten,
        ((lines gap).dropWhile isBannerLine).flatten ++ rest⟩ := by
  have hlines : lines (banner ++ (gap ++ rest)) = lines banner ++ (lines gap ++ line :: more) := by
    rw [lines_append hbanner, lines_append hgap, hrest]
  have hstop : (line :: more).takeWhile isBannerLine = [] ∧
      (line :: more).dropWhile isBannerLine = line :: more := by
    simp [hline]
  have htake : (lines gap ++ line :: more).takeWhile isBannerLine =
      (lines gap).takeWhile isBannerLine := by
    rw [List.takeWhile_append, hstop.1, List.append_nil]
    split
    · rename_i heq
      exact ((List.takeWhile_prefix _).eq_of_length heq).symm
    · rfl
  have hdrop : (lines gap ++ line :: more).dropWhile isBannerLine =
      (lines gap).dropWhile isBannerLine ++ line :: more := by
    rw [List.dropWhile_append, hstop.2]
    split
    · rename_i hnil
      rw [List.isEmpty_iff.1 hnil, List.nil_append]
    · rfl
  have hne : (lines gap).dropWhile isBannerLine ++ line :: more ≠ [] := by simp
  rw [cut, hlines, List.dropWhile_append_of_pos hall, List.takeWhile_append_of_pos hall, htake,
    hdrop]
  split
  · rename_i hnil
    exact absurd hnil hne
  · rename_i first others hcons
    rw [← hcons, List.flatten_append, List.flatten_append, flatten_lines, ← hrest, flatten_lines]

end Banner
end ImportOrder
