import ImportOrder.Proofs.Statement.Grammar
import ImportOrder.Statement.Scan

/-!
# ImportOrder.Proofs.Statement.Scan

What a scan finds: every statement starts its line, spaces and tabs apart, and is read as a statement
from its place on (`first?_spec`, `sound_of_mem_scan`). Whole lines can be taken off the text before
the first statement (`scan_of_append`).
-/

namespace ImportOrder
namespace Statement

open Text

/-- A statement found in a text starts a line there. Its text is what is read from its place. -/
theorem first?_spec {atStart : Bool} {s : List Char} {f : Found} (h : first? atStart s = some f) :
    (∀ c ∈ f.indent, isIndent c = true) ∧ statement? (f.text ++ f.rest) = some f.rest ∧
      (atStart = true ∧ f.before = [] ∨ ∃ t, f.before = t ++ ['\n']) := by
  induction s generalizing atStart f with
  | nil => simp [first?] at h
  | cons c s ih =>
    rw [first?] at h
    split at h
    · rename_i found hfound
      cases h
      split at hfound
      · rename_i hstart
        have heq := (atLineStart?_eq hfound).1
        simp only [atLineStart?, Option.map_eq_some_iff] at hfound
        obtain ⟨rest, hrest, rfl⟩ := hfound
        refine ⟨fun d hd => List.mem_takeWhile_imp hd, ?_, .inl ⟨hstart, rfl⟩⟩
        have hbody : (c :: s).dropWhile isIndent =
            ((c :: s).dropWhile isIndent).take
              (((c :: s).dropWhile isIndent).length - rest.length) ++ rest := by
          have hsplit : c :: s = (c :: s).takeWhile isIndent ++ (c :: s).dropWhile isIndent :=
            List.takeWhile_append_dropWhile.symm
          rw [List.nil_append, List.append_assoc] at heq
          exact List.append_cancel_left (hsplit.symm.trans heq)
        rw [← hbody]
        exact hrest
      · cases hfound
    · obtain ⟨g, hg, rfl⟩ := Option.map_eq_some_iff.1 h
      obtain ⟨hindent, hread, hstart⟩ := ih hg
      refine ⟨hindent, hread, .inr ?_⟩
      rcases hstart with ⟨hc, hnil⟩ | ⟨t, ht⟩
      · refine ⟨[], ?_⟩
        simp only [hnil, List.nil_append]
        rw [beq_iff_eq.1 hc]
      · exact ⟨c :: t, by simp [ht]⟩

/-- What holds of every statement that a scan finds. -/
structure Occurrence.Sound (o : Occurrence) : Prop where
  indent : ∀ c ∈ o.indent, isIndent c = true
  sentence : Sentence o.text
  gap : EndsLine o.gap

theorem sound_of_mem_scanFrom (atStart : Bool) (s : List Char) :
    ∀ o ∈ (scanFrom atStart s).occurrences, o.Sound := by
  fun_induction scanFrom atStart s with
  | case1 => simp
  | case2 atStart s found h more ih =>
    intro o ho
    rcases List.mem_cons.1 ho with rfl | ho
    · obtain ⟨hindent, hread, hstart⟩ := first?_spec h
      obtain ⟨t, ht, hsentence⟩ := sentence_of_statement? hread
      refine ⟨hindent, List.append_cancel_right ht ▸ hsentence, ?_⟩
      rcases hstart with ⟨-, hnil⟩ | hnl
      · exact .inl hnil
      · exact .inr hnl
    · exact ih o ho

theorem sound_of_mem_scan {s : List Char} {o : Occurrence} (h : o ∈ (scan s).occurrences) :
    o.Sound :=
  sound_of_mem_scanFrom true s o h

theorem visible_indent {o : Occurrence} (h : o.Sound) : visible o.indent = [] :=
  allBlank_iff.1 (allBlank_of_isIndent h.indent)

/-- Whole lines before the place of a statement do not matter for finding it. -/
theorem first?_of_append {p s g indent text rest : List Char} (hp : EndsLine p) {atStart : Bool}
    (hstart : p = [] → atStart = true)
    (h : first? atStart (p ++ s) = some ⟨p ++ g, indent, text, rest⟩) :
    first? true s = some ⟨g, indent, text, rest⟩ := by
  induction p generalizing atStart with
  | nil => rwa [hstart rfl] at h
  | cons c p ih =>
    rw [List.cons_append, first?] at h
    split at h
    · -- a statement on this line has nothing before it
      rename_i found hfound
      cases h
      split at hfound
      · obtain ⟨_, -, hnil⟩ := Option.map_eq_some_iff.1 hfound
        cases hnil
      · cases hfound
    · obtain ⟨⟨before, indent', text', rest'⟩, hf, heq⟩ := Option.map_eq_some_iff.1 h
      simp only [Found.mk.injEq, List.cons_append, List.cons.injEq, true_and] at heq
      obtain ⟨rfl, rfl, rfl, rfl⟩ := heq
      refine ih (hp.of_suffix (List.suffix_cons c p)) ?_ hf
      intro hnil
      rcases hp with hcons | ⟨t, ht⟩
      · cases hcons
      · rw [hnil] at ht
        cases t with
        | nil => cases ht; rfl
        | cons d t => simp at ht

theorem scanFrom_of_none {atStart : Bool} {s : List Char} (h : first? atStart s = none) :
    scanFrom atStart s = ⟨[], s⟩ := by
  rw [scanFrom]
  split
  · rfl
  · rename_i hfound
    rw [h] at hfound
    cases hfound

theorem scanFrom_of_some {atStart : Bool} {s : List Char} {f : Found}
    (h : first? atStart s = some f) :
    scanFrom atStart s = ⟨⟨f.before, f.indent, f.text⟩ :: (scanFrom false f.rest).occurrences,
      (scanFrom false f.rest).tail⟩ := by
  conv_lhs => rw [scanFrom]
  split
  · rename_i hnone
    rw [h] at hnone
    cases hnone
  · rename_i hfound
    rw [h] at hfound
    cases hfound
    rfl

theorem scan_of_append {p s g indent text tail : List Char} {more : List Occurrence}
    (hp : EndsLine p) (h : scan (p ++ s) = ⟨⟨p ++ g, indent, text⟩ :: more, tail⟩) :
    scan s = ⟨⟨g, indent, text⟩ :: more, tail⟩ := by
  cases hfirst : first? true (p ++ s) with
  | none =>
    rw [scan, scanFrom_of_none hfirst] at h
    cases h
  | some found =>
    rw [scan, scanFrom_of_some hfirst] at h
    cases found with
    | mk before indent' text' rest =>
      simp only [Scanned.mk.injEq, List.cons.injEq, Occurrence.mk.injEq] at h
      obtain ⟨⟨⟨rfl, rfl, rfl⟩, rfl⟩, rfl⟩ := h
      rw [scan, scanFrom_of_some (first?_of_append hp (fun _ => rfl) hfirst)]

end Statement
end ImportOrder
