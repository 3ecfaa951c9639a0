import ImportOrder.Proofs.Statement.Mention
import ImportOrder.Proofs.Statement.Parts
import ImportOrder.Proofs.Statement.Scan

/-!
# ImportOrder.Proofs.Statement.Module

The path of a statement against the module that it imports from, which is the literal at its end. The
path is the first mention of the whole statement, and sorting names looks for the first braces of the
whole statement; neither knows where the clause ends.

* `path_eq_module_iff`: the path is the module unless the braces of the clause mention another value
  first.
* `path_sortNames_eq_iff`: sorting the names keeps what follows the clause unless it rewrites braces in
  the literal, and keeps the path unless it does that or brings another mention to the front.
-/

namespace ImportOrder
namespace Statement

open Text

/-! ## The module of a statement -/

theorem unquoted_of_plain {t : List Char} (h : Plain t) : ∀ c ∈ t, isQuote c = false := by
  intro c hc
  cases hquote : isQuote c with
  | false => rfl
  | true =>
    have := h c hc
    simp only [isPlain, isBlank_of_isQuote hquote, isDefaultChar_of_isQuote hquote, Bool.or_self,
      Bool.false_or, beq_iff_eq] at this
    rw [this] at hquote
    exact absurd hquote (by decide)

theorem Plain.not_opens {t : List Char} (h : Plain t) : ¬ Opens t :=
  not_opens_of_unquoted (unquoted_of_plain h)

theorem Origin.mention {word module t : List Char} (hword : word = fromWord ∨ word = importWord)
    (h : Origin word module t) : Mention module t := by
  obtain ⟨ha, hq, hvalue, hq', -⟩ := h
  rename_i a q q' stop
  have hrun : RunOf (!isQuote ·) module := by
    refine ⟨hvalue.nonempty, fun c hc => ?_⟩
    have := hvalue.all c hc
    rw [isLiteralChar, Bool.and_eq_true] at this
    exact this.1
  have hmention : Mention module ((word ++ (a ++ [q])) ++ (module ++ q' :: stop)) :=
    .quoted (.quote hword ha hq) hrun hq'
  simpa using hmention

section Parts

variable {module head origin : List Char}

theorem Parts.mention (h : Parts module head origin) : Mention module origin := by
  cases h with
  | bound hkeyword hclause ha horigin => exact horigin.mention (.inl rfl)
  | bare horigin => exact horigin.mention (.inr rfl)

theorem Parts.module_ne_nil (h : Parts module head origin) : module ≠ [] := by
  obtain ⟨-, hvalue, -⟩ := h.mention
  exact hvalue.nonempty

theorem opens_head_iff {front back : List Char} (hfront : Plain front) (hback : Plain back)
    (block : List Char) :
    Opens (front ++ '\x7b' :: (block ++ '\x7d' :: back)) ↔ Opens block := by
  rw [opens_append_cons (by decide), opens_append_cons (by decide)]
  simp [hfront.not_opens, hback.not_opens]

/-- The path of a statement is its first mention: one in the head, or the origin. -/
theorem Parts.path_cases (h : Parts module head origin) :
    (∃ value, FirstMention origin value head ∧ path (head ++ origin) = value ∧ Opens head) ∨
      (∀ value, ¬ FirstMention origin value head) ∧ path (head ++ origin) = module ∧
        ¬ Opens head := by
  by_cases hopens : Opens head
  · obtain ⟨value, hvalue⟩ := (exists_firstMention_iff h.mention).2 hopens
    exact .inl ⟨value, hvalue, path_append_of_first hvalue, hopens⟩
  · have hnot : ∀ value, ¬ FirstMention origin value head :=
      fun value hvalue => hopens ((exists_firstMention_iff h.mention).1 ⟨value, hvalue⟩)
    exact .inr ⟨hnot, by rw [path_append_of_not hnot, path_of_mention h.mention], hopens⟩

theorem Parts.path_of_plain (h : Parts module head origin) (hplain : Plain head) :
    (∀ value, ¬ FirstMention origin value head) ∧ path (head ++ origin) = module := by
  rcases h.path_cases with ⟨-, -, -, hopens⟩ | ⟨hnot, hpath, -⟩
  · exact absurd hopens hplain.not_opens
  · exact ⟨hnot, hpath⟩

theorem FirstMention.value_ne_nil {rest value s : List Char} (h : FirstMention rest value s) :
    value ≠ [] := by
  induction h with
  | here hne h =>
    generalize _ ++ rest = text at h
    obtain ⟨-, hvalue, -⟩ := h
    exact hvalue.nonempty
  | later hnot h ih => exact ih

theorem Sentence.path_ne_nil {t : List Char} (ht : Sentence t) : path t ≠ [] := by
  obtain ⟨module, head, origin, rfl, hparts⟩ := ht.exists_parts
  rcases hparts.path_cases with ⟨value, hfirst, hpath, -⟩ | ⟨-, hpath, -⟩
  · exact hpath ▸ hfirst.value_ne_nil
  · exact hpath ▸ hparts.module_ne_nil

/-- The path of a statement is never empty. It is the module of the literal that ends the statement,
unless the clause has braces and the first mention in them is another. -/
theorem path_eq_module_iff (text : List Char) :
    ∀ o ∈ (scan text).occurrences, ∃ module head origin,
      o.text = head ++ origin ∧ Parts module head origin ∧ path o.text ≠ [] ∧
        (path o.text = module ↔ ∀ value, FirstMention origin value head → value = module) ∧
        ('\x7b' ∈ head ∨ path o.text = module) := by
  intro o ho
  obtain ⟨module, head, origin, htext, hparts⟩ := (sound_of_mem_scan ho).sentence.exists_parts
  refine ⟨module, head, origin, htext, hparts, ?_⟩
  rw [htext]
  rcases hparts.path_cases with ⟨value, hfirst, hpath, hopens⟩ | ⟨hnot, hpath, -⟩
  · refine ⟨hpath ▸ hfirst.value_ne_nil, ⟨fun heq other hother => ?_, fun h => ?_⟩, .inl ?_⟩
    · rw [← path_append_of_first hother, heq]
    · rw [hpath, h value hfirst]
    · rcases hparts.plain_cases with hplain | ⟨front, block, back, rfl, -⟩
      · exact absurd hopens hplain.not_opens
      · simp
  · exact ⟨hpath ▸ hparts.module_ne_nil, iff_of_true hpath fun value h => absurd h (hnot value),
      .inr hpath⟩

/-- A comment between the braces may mention the module itself. -/
theorem path_eq_module_iff_comment :
    ∃ o ∈ (scan "import \x7b a /* from 'c' */ \x7d from 'c';\n".toList).occurrences,
      ∃ module head origin, o.text = head ++ origin ∧ Parts module head origin ∧ path o.text ≠ [] ∧
        (path o.text = module ↔ ∀ value, FirstMention origin value head → value = module) ∧
        ('\x7b' ∈ head ∨ path o.text = module) := by
  have ho : (⟨[], [], "import \x7b a /* from 'c' */ \x7d from 'c';".toList⟩ : Occurrence) ∈
      (scan "import \x7b a /* from 'c' */ \x7d from 'c';\n".toList).occurrences := by decide +kernel
  exact ⟨_, ho, path_eq_module_iff _ _ ho⟩

/-- The path is looked for in the whole statement, so a comment between the braces can give another
path than the literal at the end. -/
theorem path_not_module :
    ∃ o ∈ (scan "import \x7b a /* from 'x' */ \x7d from 'c';\n".toList).occurrences,
      (Quoting ['c'] "'c';".toList ∧ "'c';".toList <:+ o.text) ∧ path o.text = ['x'] := by
  have hliteral : Quoting ['c'] ('\'' :: (['c'] ++ '\'' :: [';'])) :=
    .quoted rfl ⟨by simp, List.forall_mem_singleton.2 rfl⟩ rfl (.inr rfl)
  exact ⟨⟨[], [], "import \x7b a /* from 'x' */ \x7d from 'c';".toList⟩, by decide +kernel,
    ⟨hliteral, by decide⟩, by decide +kernel⟩

/-! ## Sorted names -/

theorem Quoting.value_eq {value value' t t' a b : List Char} (ht : Quoting value t)
    (ht' : Quoting value' t') (h : a ++ t = b ++ t') : value = value' := by
  obtain ⟨hq, hvalue, hq', hstop⟩ := ht
  rename_i q q' stop
  obtain ⟨hp, hvalue', hp', hstop'⟩ := ht'
  rename_i p p' stop'
  have unquoted : ∀ {v : List Char}, RunOf isLiteralChar v → ∀ c ∈ v.reverse, isQuote c = false := by
    intro v hv c hc
    have := hv.all c (List.mem_reverse.1 hc)
    rw [isLiteralChar, Bool.and_eq_true] at this
    simpa using this.1
  have semicolon : ∀ {x y : List Char} {r : Char}, isQuote r = true → x ++ [r] ≠ y ++ [';'] := by
    intro x y r hr heq
    cases (List.append_inj' heq rfl).2
    exact absurd hr (by decide)
  -- without the semicolon both texts end in a quote, and the value is what stands before it
  have hends : a ++ q :: (value ++ [q']) = b ++ p :: (value' ++ [p']) := by
    rcases hstop with rfl | rfl <;> rcases hstop' with rfl | rfl
    · exact h
    · exact absurd (by simpa using h)
        (semicolon (x := a ++ q :: value) (y := b ++ p :: (value' ++ [p'])) hq')
    · exact absurd (by simpa using h.symm)
        (semicolon (x := b ++ p :: value') (y := a ++ q :: (value ++ [q'])) hp')
    · have hsemi : (a ++ q :: (value ++ [q'])) ++ [';'] = (b ++ p :: (value' ++ [p'])) ++ [';'] := by
        simpa using h
      exact List.append_cancel_right hsemi
  have hreverse := congrArg List.reverse hends
  simp only [List.reverse_append, List.reverse_cons, List.reverse_nil, List.nil_append,
    List.append_assoc, List.cons_append, List.cons.injEq] at hreverse
  exact List.reverse_injective
    (eq_of_append_quote (unquoted hvalue) (unquoted hvalue') hq hp hreverse.2)

/-- If statements with the same head end in the same origin, they are the same. -/
theorem Parts.module_eq {other origin' x y : List Char} (h : Parts module head origin)
    (hother : Parts other head origin') (heq : x ++ origin = y ++ origin') : module = other := by
  obtain ⟨front, literal, rfl, -, hliteral, -⟩ := h.origin_eq
  obtain ⟨front', literal', rfl, -, hliteral', -⟩ := hother.origin_eq
  rw [← List.append_assoc, ← List.append_assoc] at heq
  exact hliteral.value_eq hliteral' heq

theorem Plain.not_opening {t : List Char} (h : Plain t) : '\x7b' ∉ t :=
  h.not_mem (by decide)

/-- Sorting the names keeps the origin, unless it changes braces in the literal. -/
theorem Parts.suffix_sortNames_iff (h : Parts module head origin) (ignoreCase : Bool) :
    origin <:+ sortNames ignoreCase (head ++ origin) ↔
      '\x7b' ∈ head ∨ sortNames ignoreCase (head ++ origin) = head ++ origin := by
  rcases h.sortNames_cases ignoreCase with heq | ⟨front, block, back, rfl, -, -, -, heq, -⟩ |
    ⟨hplain, other, origin', heq, hagain, hsame⟩
  · rw [heq]
    exact iff_of_true (List.suffix_append _ _) (.inr rfl)
  · rw [heq]
    exact iff_of_true (List.suffix_append _ _) (.inl (by simp))
  · rw [heq, or_iff_right hplain.not_opening]
    constructor
    · rintro ⟨x, hx⟩
      rw [hsame (h.module_eq hagain hx).symm]
    · intro hself
      rw [hself]
      exact List.suffix_append _ _

/-- Sorting the names keeps the path, unless it changes braces in the literal or the value that is
mentioned first. -/
theorem Parts.path_sortNames_iff (h : Parts module head origin) (ignoreCase : Bool) :
    path (sortNames ignoreCase (head ++ origin)) = path (head ++ origin) ↔
      ('\x7b' ∈ head ∨ sortNames ignoreCase (head ++ origin) = head ++ origin) ∧
      ∀ head' value value', sortNames ignoreCase (head ++ origin) = head' ++ origin →
        FirstMention origin value head → FirstMention origin value' head' → value' = value := by
  rcases h.sortNames_cases ignoreCase with heq |
    ⟨front, block, back, rfl, hfront, hback, hne, heq, hagain⟩ |
    ⟨hplain, other, origin', heq, hagain, hsame⟩
  · rw [heq]
    refine iff_of_true rfl ⟨.inr rfl, fun head' value value' hhead hvalue hvalue' => ?_⟩
    rw [← path_append_of_first hvalue', ← hhead, path_append_of_first hvalue]
  · rw [heq, and_iff_right (.inl (by simp))]
    have hopens := (opens_head_iff hfront hback (joined (sortedEntries ignoreCase block))).trans
      ((opens_joined hne ignoreCase).trans (opens_head_iff hfront hback block).symm)
    rcases h.path_cases with ⟨value, hvalue, hpath, hhas⟩ | ⟨hnot, hpath, hfree⟩
    · rcases hagain.path_cases with ⟨value', hvalue', hpath', -⟩ | ⟨-, -, hfree'⟩
      · rw [hpath, hpath']
        constructor
        · rintro rfl head' first first' hhead hfirst hfirst'
          rw [← path_append_of_first hfirst', ← hhead, hpath', ← hpath, path_append_of_first hfirst]
        · intro hall
          exact hall _ value value' rfl hvalue hvalue'
      · exact absurd (hopens.2 hhas) hfree'
    · rcases hagain.path_cases with ⟨-, -, -, hhas'⟩ | ⟨-, hpath', -⟩
      · exact absurd (hopens.1 hhas') hfree
      · rw [hpath, hpath']
        exact iff_of_true rfl fun head' value value' _ hvalue => absurd hvalue (hnot value)
  · obtain ⟨hnot, hpath⟩ := h.path_of_plain hplain
    obtain ⟨-, hpath'⟩ := hagain.path_of_plain hplain
    rw [heq, or_iff_right hplain.not_opening, hpath, hpath']
    constructor
    · intro hmodule
      exact ⟨by rw [hsame hmodule], fun head' value value' _ hvalue => absurd hvalue (hnot value)⟩
    · rintro ⟨hself, -⟩
      exact (h.module_eq hagain hself.symm).symm

end Parts

/-- Sorting the names of a statement keeps what follows its clause, and the path, exactly unless it
changes braces in the literal, or, for the path, another value is mentioned first in the braces of the
clause. -/
theorem path_sortNames_eq_iff (text : List Char) (ignoreCase : Bool) :
    ∀ o ∈ (scan text).occurrences, ∃ module head origin,
      o.text = head ++ origin ∧ Parts module head origin ∧
        (origin <:+ sortNames ignoreCase o.text ↔
          '\x7b' ∈ head ∨ sortNames ignoreCase o.text = o.text) ∧
        (path (sortNames ignoreCase o.text) = path o.text ↔
          ('\x7b' ∈ head ∨ sortNames ignoreCase o.text = o.text) ∧
          ∀ head' value value', sortNames ignoreCase o.text = head' ++ origin →
            FirstMention origin value head → FirstMention origin value' head' → value' = value) := by
  intro o ho
  obtain ⟨module, head, origin, htext, hparts⟩ := (sound_of_mem_scan ho).sentence.exists_parts
  refine ⟨module, head, origin, htext, hparts, ?_⟩
  rw [htext]
  exact ⟨hparts.suffix_sortNames_iff ignoreCase, hparts.path_sortNames_iff ignoreCase⟩

/-- Braces that are written as sorting writes them stay, also in a literal. -/
theorem path_sortNames_eq_iff_quoted :
    ∃ o ∈ (scan "import a from '\x7b b, c \x7d';\n".toList).occurrences, ∃ module head origin,
      o.text = head ++ origin ∧ Parts module head origin ∧
        (origin <:+ sortNames false o.text ↔ '\x7b' ∈ head ∨ sortNames false o.text = o.text) ∧
        (path (sortNames false o.text) = path o.text ↔
          ('\x7b' ∈ head ∨ sortNames false o.text = o.text) ∧
          ∀ head' value value', sortNames false o.text = head' ++ origin →
            FirstMention origin value head → FirstMention origin value' head' → value' = value) := by
  have ho : (⟨[], [], "import a from '\x7b b, c \x7d';".toList⟩ : Occurrence) ∈
      (scan "import a from '\x7b b, c \x7d';\n".toList).occurrences := by decide +kernel
  exact ⟨_, ho, path_sortNames_eq_iff _ false _ ho⟩

/-- Names are looked for between any braces, so a path with braces is rewritten, and what follows the
clause with it. Quoted names that mention paths change places. -/
theorem module_not_kept :
    (∃ o ∈ (scan "import '\x7bc,b\x7d';\n".toList).occurrences,
      path (sortNames false o.text) ≠ path o.text) ∧
    (∃ o ∈ (scan "import a from '\x7bc,b\x7d';\n".toList).occurrences,
      "from '\x7bc,b\x7d';".toList <:+ o.text ∧
        ¬ "from '\x7bc,b\x7d';".toList <:+ sortNames false o.text) ∧
    (∃ o ∈ (scan
        "import \x7b \"z from 'x'\" as b, \"a from 'y'\" as a \x7d from 'c';\n".toList).occurrences,
      path (sortNames false o.text) ≠ path o.text) := by
  decide +kernel

end Statement
end ImportOrder
