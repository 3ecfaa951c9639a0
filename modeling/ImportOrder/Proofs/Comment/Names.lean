import ImportOrder.Proofs.Comment.Lexer
import ImportOrder.Proofs.Statement.Parts

/-!
# ImportOrder.Proofs.Comment.Names

Sorting the names of a statement does not change where the lexer is behind it: `read_sortNames`. A
block with comments in it stays as it is, so the names that are moved hold neither `//` nor `/*`. But
a comment can begin before the block, in the clause or in the quotes, and the block can hold the
`*/` that ends it.
-/

namespace ImportOrder

open Text Statement Comment

/-! ## Statements with their names sorted -/

namespace Statement

/-- A slash before the first brace of a statement stands in its literal, and the block then too. -/
theorem slash_or_newline_not_mem {t before block after : List Char} (ht : Sentence t)
    (h : splitBraces? t = some (before, block, after)) : '/' ∉ before ∨ '\n' ∉ block := by
  obtain ⟨module, head, origin, rfl, hparts⟩ := ht.exists_parts
  rcases hparts.splitBraces_cases h with ⟨back, -, -, hbefore, -⟩ | ⟨-, c, d, -, hblock, -⟩
  · exact .inl (hbefore.not_mem (by decide))
  · exact .inr fun hm => absurd (hblock _ hm) (by decide)

theorem isInfix_joined {names : List (List Char)} {e : List Char} (h : e ∈ names) :
    e <:+: joined names := by
  induction names with
  | nil => cases h
  | cons name names ih =>
    cases names with
    | nil =>
      rw [List.mem_singleton.1 h, joined_singleton]
      exact ⟨[' '], [' '], rfl⟩
    | cons next names =>
      rw [joined_cons_cons]
      rcases List.mem_cons.1 h with rfl | h
      · exact ⟨[' '], ',' :: joined (next :: names), rfl⟩
      · exact (ih h).trans ⟨' ' :: name ++ [','], [], by simp⟩

theorem free_of_pieces {word s : List Char} (hcomma : Apart id word ',')
    (h : ∀ piece ∈ splitWhere (· == ',') s, Free id word piece) : Free id word s := by
  induction s using splitInduction (· == ',') with
  | last a ha => exact h a (by rw [splitWhere_of_not ha]; exact List.mem_singleton_self _)
  | cut a x s ha hx ih =>
    rw [splitWhere_append ha hx] at h
    have hback := ih fun piece hp => h piece (List.mem_cons_of_mem _ hp)
    have hjoin := (h a List.mem_cons_self).join (m := [x])
      (by intro c hc; rw [List.mem_singleton.1 hc, beq_iff_eq.1 hx]; exact hcomma) (by simp) hback
    simpa using hjoin

/-- The block written anew holds the end of a comment just if the block does. -/
theorem free_closer_joined {ignoreCase : Bool} {block : List Char} (hne : entries block ≠ []) :
    Free id ['*', '/'] (joined (sortedEntries ignoreCase block)) ↔ Free id ['*', '/'] block := by
  constructor
  · intro h
    refine free_of_pieces (by simp [Apart]) ?_
    intro piece hpiece
    refine free_closer (hasCloser_of_trim ?_)
    by_cases hempty : trim piece = []
    · rw [hempty]
      rfl
    · have hmem : trim piece ∈ sortedEntries ignoreCase block := by
        refine (Sorting.sortBy_perm _ _).mem_iff.2 ?_
        rw [entries, List.mem_filter]
        exact ⟨List.mem_map_of_mem hpiece, by simpa using hempty⟩
      exact occursIn_eq_false_iff.2 (h.of_isInfix (isInfix_joined hmem))
  · intro h
    exact free_joined (by simp [Apart]) (by simp [Apart])
      (fun e he => h.of_isInfix (mem_sortedEntries he).1) (sortedEntries_ne_nil hne)

end Statement

namespace Comment

theorem step_brace_of_outside {m : Mode} (h : m.isOutside = true) : step m '\x7d' = .code := by
  cases m with
  | code => rfl
  | slash => rfl
  | line => cases h
  | block => cases h
  | star => cases h

theorem step_brace_of_inBlock {m : Mode} (h : m.inBlock = true) : step m '\x7d' = .block := by
  cases m with
  | block => rfl
  | star => rfl
  | code => cases h
  | slash => cases h
  | line => cases h

theorem isOutside_of_holds {s : List Char} (h : Holds id ['*', '/'] s)
    (hline : Free id ['/', '/'] s) (hblock : Free id ['/', '*'] s) :
    (read .block s).isOutside = true := by
  obtain ⟨front, back, rfl, hfree⟩ := h.exists_first (by simp)
  have hback : back <:+: front ++ (['*', '/'] ++ back) := by
    rw [← List.append_assoc]
    exact (List.suffix_append _ _).isInfix
  rw [← List.append_assoc, read_append, read_closed hfree]
  exact isOutside_read rfl (fun heq => by cases heq) (hline.of_isInfix hback)
    (hblock.of_isInfix hback)

/-- A block without markers and its names written anew leave the lexer in the same state behind the
closing brace. In a line comment they must not end the line. -/
theorem read_joined {m : Mode} {block : List Char} (hm : m = .code ∨ m = .block ∨ m = .line)
    (hnewline : m = .line → '\n' ∉ block) (hcomment : hasComment block = false)
    (hne : entries block ≠ []) (ignoreCase : Bool) :
    step (read m (joined (sortedEntries ignoreCase block))) '\x7d' = step (read m block) '\x7d' := by
  obtain ⟨hline, hblock⟩ := hasComment_eq_false_iff.1 hcomment
  have hfree : ∀ {word : List Char}, Apart id word ' ' → Apart id word ',' →
      Free id word block → Free id word (joined (sortedEntries ignoreCase block)) := by
    intro word hspace hcomma h
    exact free_joined hspace hcomma (fun e he => h.of_isInfix (mem_sortedEntries he).1)
      (sortedEntries_ne_nil hne)
  have hline' := hfree (by simp [Apart]) (by simp [Apart]) hline
  have hblock' := hfree (by simp [Apart]) (by simp [Apart]) hblock
  have hcloser : Free id ['*', '/'] (joined (sortedEntries ignoreCase block)) ↔
      Free id ['*', '/'] block := free_closer_joined hne
  rcases hm with rfl | rfl | rfl
  · rw [step_brace_of_outside (isOutside_read rfl (fun heq => by cases heq) hline' hblock'),
      step_brace_of_outside (isOutside_read rfl (fun heq => by cases heq) hline hblock)]
  · by_cases hend : Free id ['*', '/'] block
    · rw [step_brace_of_inBlock (inBlock_read rfl (fun heq => by cases heq) (hcloser.2 hend)),
        step_brace_of_inBlock (inBlock_read rfl (fun heq => by cases heq) hend)]
    · have hheld : Holds id ['*', '/'] block := not_not.1 hend
      have hheld' : Holds id ['*', '/'] (joined (sortedEntries ignoreCase block)) :=
        not_not.1 fun h => hend (hcloser.1 h)
      rw [step_brace_of_outside (isOutside_of_holds hheld' hline' hblock'),
        step_brace_of_outside (isOutside_of_holds hheld hline hblock)]
  · have hnewline' : '\n' ∉ joined (sortedEntries ignoreCase block) := by
      intro hin
      rcases mem_joined_sortedEntries hin with h | h | h
      · exact absurd h (by decide)
      · exact absurd h (by decide)
      · exact hnewline rfl h
    rw [read_line_of_not_mem (hnewline rfl), read_line_of_not_mem hnewline']

theorem step_brace_cases (m : Mode) :
    step m '\x7b' = .code ∨ step m '\x7b' = .block ∨ step m '\x7b' = .line := by
  cases m <;> decide

/-- Sorting the names of a statement does not change where the lexer is behind it. -/
theorem read_sortNames {t : List Char} (ht : Sentence t) (ignoreCase : Bool) :
    read .code (sortNames ignoreCase t) = read .code t := by
  rcases sortNames_eq ignoreCase t with heq | ⟨before, block, after, hsplit, hcomment, hne, heq⟩
  · rw [heq]
  · obtain ⟨htext, -, -⟩ := splitBraces?_eq_some hsplit
    have hnewline : step (read .code before) '\x7b' = .line → '\n' ∉ block := by
      -- a line comment before the brace begins in the literal, which is on one line
      intro hmode
      refine (slash_or_newline_not_mem ht hsplit).resolve_left fun hslash => ?_
      rw [read_code_of_not_mem hslash] at hmode
      cases hmode
    have hsame := read_joined (step_brace_cases _) hnewline hcomment hne ignoreCase
    rw [heq, htext, read_append, read_append, read_cons, read_cons, read_append, read_append,
      read_cons, read_cons, hsame]

end Comment
end ImportOrder
