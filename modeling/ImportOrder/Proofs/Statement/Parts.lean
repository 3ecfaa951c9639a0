import ImportOrder.Proofs.Statement.Names

/-!
# ImportOrder.Proofs.Statement.Parts

A statement cut in front of the words that name its module: `Parts head module origin`. The head ends
behind the clause, the origin is the `from` with its literal; without a clause the head is empty and
the origin starts with the keyword.

* `Parts.splitBraces_cases`: the first block in braces is that of the clause, or stands in the literal.
  Either way a new block can be written in its place.
* `sentence_sortNames`: a statement whose names are sorted stays a statement.
-/

namespace ImportOrder
namespace Statement

open Text

/-! ## Plain characters -/

/-- A character that a statement can hold outside braces and quotes. -/
def isPlain (c : Char) : Bool :=
  isBlank c || isDefaultChar c || c == ','

def Plain (t : List Char) : Prop :=
  ∀ c ∈ t, isPlain c = true

@[simp] theorem plain_nil : Plain [] := by
  simp [Plain]

@[simp] theorem plain_cons {c : Char} {t : List Char} :
    Plain (c :: t) ↔ isPlain c = true ∧ Plain t := by
  simp [Plain]

@[simp] theorem plain_append {s t : List Char} : Plain (s ++ t) ↔ Plain s ∧ Plain t := by
  simp [Plain, or_imp, forall_and]

theorem Plain.not_mem {t : List Char} (ht : Plain t) {c : Char} (hc : isPlain c = false) :
    c ∉ t := by
  intro hm
  rw [ht c hm] at hc
  cases hc

theorem plain_of_blank {t : List Char} (h : allBlank t = true) : Plain t := by
  intro c hc
  simp [isPlain, List.all_eq_true.1 h c hc]

theorem RunOf.plain_blanks {t : List Char} (h : RunOf isBlank t) : Plain t :=
  plain_of_blank h.allBlank

theorem RunOf.plain_default {t : List Char} (h : RunOf isDefaultChar t) : Plain t := by
  intro c hc
  simp [isPlain, h.all c hc]

theorem RunOf.plain_name {t : List Char} (h : RunOf isNameChar t) : Plain t := by
  intro c hc
  simp [isPlain, isDefaultChar_of_isNameChar (h.all c hc)]

theorem plain_words : Plain importWord ∧ Plain typeWord ∧ Plain fromWord ∧ Plain asWord := by
  simp only [Plain, ← List.all_eq_true]
  decide

theorem Keyword.plain {t : List Char} (ht : Keyword t) : Plain t := by
  obtain ⟨himport, htype, -, -⟩ := plain_words
  cases ht with
  | «import» ha => simp [himport, ha.plain_blanks]
  | importType ha hb => simp [himport, htype, ha.plain_blanks, hb.plain_blanks]

theorem Comma.plain {t : List Char} (ht : Comma t) : Plain t := by
  obtain ⟨ha, hb⟩ := ht
  simp [plain_of_blank ha, plain_of_blank hb, isPlain]

theorem Namespace.plain {t : List Char} (ht : Namespace t) : Plain t := by
  obtain ⟨ha, hb, hname⟩ := ht
  have hstar : isPlain '*' = true := by decide
  simp [hstar, plain_words.2.2.2, ha.plain_blanks, hb.plain_blanks, hname.plain_name]

/-- A clause is plain, or ends in a block whose content is free. -/
theorem Clause.plain_cases {t : List Char} (ht : Clause t) :
    Plain t ∨ ∃ front block, t = front ++ braced block ∧ Plain front ∧ '\x7d' ∉ block ∧
      ∀ new, '\x7d' ∉ new → Clause (front ++ braced new) := by
  cases ht with
  | names hblock => exact .inr ⟨[], _, rfl, by simp, hblock, fun new hnew => .names hnew⟩
  | nameAndNamespace hname hcomma hrest =>
    exact .inl (by simp [hname.plain_name, hcomma.plain, hrest.plain])
  | default hname => exact .inl hname.plain_default
  | defaultAndNames hname hcomma hblock =>
    rename_i name comma block
    refine .inr ⟨name ++ comma, block, by rw [List.append_assoc], ?_, hblock, fun new hnew => ?_⟩
    · simp [hname.plain_default, hcomma.plain]
    · rw [List.append_assoc]
      exact .defaultAndNames hname hcomma hnew
  | «namespace» h => exact .inl h.plain

/-! ## Parts of a statement -/

/-- A literal with the text between its quotes. -/
inductive Quoting (value : List Char) : List Char → Prop
  | quoted {q q' : Char} {stop : List Char} (hq : isQuote q = true)
      (hvalue : RunOf isLiteralChar value) (hq' : isQuote q' = true)
      (hstop : stop = [] ∨ stop = [';']) : Quoting value (q :: (value ++ q' :: stop))

theorem Quoting.literal {value t : List Char} (h : Quoting value t) : Literal t := by
  obtain ⟨hq, hvalue, hq', hstop⟩ := h
  exact .quoted hq hvalue hq' hstop

theorem Literal.exists_quoting {t : List Char} (h : Literal t) : ∃ value, Quoting value t := by
  obtain ⟨hq, hvalue, hq', hstop⟩ := h
  exact ⟨_, .quoted hq hvalue hq' hstop⟩

/-- A keyword, blanks and a literal. -/
inductive Origin (word module : List Char) : List Char → Prop
  | named {a literal : List Char} (ha : RunOf isBlank a) (hliteral : Quoting module literal) :
      Origin word module (word ++ (a ++ literal))

/-- The head of a statement, the module that it imports from, and the words that name the
module. -/
inductive Parts (module : List Char) : List Char → List Char → Prop
  | bound {keyword clause a origin : List Char} (hkeyword : Keyword keyword)
      (hclause : Clause clause) (ha : RunOf isBlank a) (horigin : Origin fromWord module origin) :
      Parts module (keyword ++ (clause ++ a)) origin
  | bare {origin : List Char} (horigin : Origin importWord module origin) : Parts module [] origin

theorem Parts.sentence {module head origin : List Char} (h : Parts module head origin) :
    Sentence (head ++ origin) := by
  cases h with
  | bound hkeyword hclause ha horigin =>
    obtain ⟨hb, hliteral⟩ := horigin
    have := Sentence.bound hkeyword hclause (.from ha hb hliteral.literal)
    simpa using this
  | bare horigin =>
    obtain ⟨hb, hliteral⟩ := horigin
    exact .bare hb hliteral.literal

theorem Sentence.exists_parts {t : List Char} (ht : Sentence t) :
    ∃ module head origin, t = head ++ origin ∧ Parts module head origin := by
  cases ht with
  | bound hkeyword hclause hsource =>
    obtain ⟨ha, hb, hliteral⟩ := hsource
    obtain ⟨module, hquoting⟩ := hliteral.exists_quoting
    exact ⟨module, _, _, by simp, .bound hkeyword hclause ha (.named hb hquoting)⟩
  | bare ha hliteral =>
    obtain ⟨module, hquoting⟩ := hliteral.exists_quoting
    exact ⟨module, [], _, rfl, .bare (.named ha hquoting)⟩

/-- The head of a statement is plain but for a block, whose content is free. -/
theorem Parts.plain_cases {module head origin : List Char} (h : Parts module head origin) :
    Plain head ∨ ∃ front block back, head = front ++ '\x7b' :: (block ++ '\x7d' :: back) ∧
      Plain front ∧ Plain back ∧ '\x7d' ∉ block ∧
      ∀ new, '\x7d' ∉ new → Parts module (front ++ '\x7b' :: (new ++ '\x7d' :: back)) origin := by
  cases h with
  | bound hkeyword hclause ha horigin =>
    rename_i keyword clause a
    rcases hclause.plain_cases with hplain | ⟨front, block, rfl, hfront, hblock, hagain⟩
    · exact .inl (by simp [hkeyword.plain, hplain, ha.plain_blanks])
    · refine .inr ⟨keyword ++ front, block, a, by simp [braced], ?_, ha.plain_blanks, hblock,
        fun new hnew => ?_⟩
      · simp [hkeyword.plain, hfront]
      · have := Parts.bound hkeyword (hagain new hnew) ha horigin
        simpa [braced] using this
  | bare horigin => exact .inl plain_nil

theorem Parts.origin_eq {module head origin : List Char} (h : Parts module head origin) :
    ∃ front literal, origin = front ++ literal ∧ Plain front ∧ Quoting module literal ∧
      ∀ other literal', Quoting other literal' → Parts other head (front ++ literal') := by
  obtain ⟨himport, -, hfrom, -⟩ := plain_words
  cases h with
  | bound hkeyword hclause ha horigin =>
    obtain ⟨hb, hliteral⟩ := horigin
    rename_i keyword clause a b literal
    refine ⟨fromWord ++ b, literal, by simp, by simp [hfrom, hb.plain_blanks], hliteral,
      fun other literal' h => ?_⟩
    rw [List.append_assoc]
    exact .bound hkeyword hclause ha (.named hb h)
  | bare horigin =>
    obtain ⟨hb, hliteral⟩ := horigin
    rename_i b literal
    refine ⟨importWord ++ b, literal, by simp, by simp [himport, hb.plain_blanks], hliteral,
      fun other literal' h => ?_⟩
    rw [List.append_assoc]
    exact .bare (.named hb h)

/-! ## The first braces of a statement -/

/-- Braces in a literal stand between its quotes, and the block in them can be written anew. -/
theorem Quoting.splitBraces {front literal value before block after : List Char}
    (hfront : Plain front) (h : Quoting value literal)
    (hsplit : splitBraces? (front ++ literal) = some (before, block, after)) :
    ∃ c d, value = c ++ '\x7b' :: (block ++ '\x7d' :: d) ∧
      ∀ new, (∀ x ∈ new, isLiteralChar x = true) → ∃ literal',
        before ++ '\x7b' :: (new ++ '\x7d' :: after) = front ++ literal' ∧
          Quoting (c ++ '\x7b' :: (new ++ '\x7d' :: d)) literal' := by
  obtain ⟨htext, -, -⟩ := splitBraces?_eq_some hsplit
  obtain ⟨hq, hvalue, hq', hstop⟩ := h
  rename_i q q' stop
  have hopen : '\x7b' ∉ front ++ [q] := by
    intro hm
    rcases List.mem_append.1 hm with hm | hm
    · exact hfront.not_mem (by decide) hm
    · rw [← List.mem_singleton.1 hm] at hq
      exact absurd hq (by decide)
  have hclose : '\x7d' ∉ q' :: stop := by
    intro hm
    rcases List.mem_cons.1 hm with heq | hm
    · rw [← heq] at hq'
      exact absurd hq' (by decide)
    · rcases hstop with rfl | rfl
      · cases hm
      · exact absurd hm (by decide)
  obtain ⟨c, rfl, hc⟩ := append_cons_eq_append hopen
    (t := value ++ q' :: stop) (by rw [← htext]; simp)
  obtain ⟨d, rfl, rfl⟩ := append_cons_eq_append' (a := c ++ '\x7b' :: block) (s := after)
    (b := value) hclose (by rw [hc]; simp)
  refine ⟨c, d, by simp, fun new hnew => ⟨_, by simp, .quoted hq ⟨by simp, ?_⟩ hq' hstop⟩⟩
  have hold := hvalue.all
  simp only [List.forall_mem_append, List.forall_mem_cons] at hold ⊢
  exact ⟨hold.1.1, hold.1.2.1, hnew, hold.2.1, hold.2.2⟩

section Braces

variable {module head origin before block after : List Char}

/-- The first braces of a statement are those of its clause, or stand in its literal. -/
theorem Parts.splitBraces_cases (h : Parts module head origin)
    (hsplit : splitBraces? (head ++ origin) = some (before, block, after)) :
    (∃ back, head = before ++ '\x7b' :: (block ++ '\x7d' :: back) ∧ after = back ++ origin ∧
      Plain before ∧ Plain back ∧ ∀ new, '\x7d' ∉ new →
        Parts module (before ++ '\x7b' :: (new ++ '\x7d' :: back)) origin) ∨
    Plain head ∧ ∃ c d, module = c ++ '\x7b' :: (block ++ '\x7d' :: d) ∧
      (∀ x ∈ block, isLiteralChar x = true) ∧
      ∀ new, (∀ x ∈ new, isLiteralChar x = true) → ∃ origin',
        before ++ '\x7b' :: (new ++ '\x7d' :: after) = head ++ origin' ∧
          Parts (c ++ '\x7b' :: (new ++ '\x7d' :: d)) head origin' := by
  rcases h.plain_cases with hplain | ⟨front, old, back, rfl, hfront, hback, hold, hagain⟩
  · obtain ⟨lead, literal, rfl, hlead, hliteral, hparts⟩ := h.origin_eq
    rw [← List.append_assoc] at hsplit
    obtain ⟨c, d, hmodule, hagain⟩ := hliteral.splitBraces (by simp [hplain, hlead]) hsplit
    refine .inr ⟨hplain, c, d, hmodule, fun x hx => ?_, fun new hnew => ?_⟩
    · cases hliteral with
      | quoted hq hvalue hq' hstop => exact hvalue.all x (by rw [hmodule]; simp [hx])
    · obtain ⟨literal', htext, hliteral'⟩ := hagain new hnew
      exact ⟨lead ++ literal', by rw [htext, List.append_assoc], hparts _ _ hliteral'⟩
  · have hown := splitBraces?_append (hfront.not_mem (by decide)) hold (back ++ origin)
    rw [List.append_assoc, List.cons_append, List.append_assoc, List.cons_append, hown] at hsplit
    cases hsplit
    exact .inl ⟨back, rfl, rfl, hfront, hback, hagain⟩

/-- Sorting the names of a statement leaves it alone, writes the block of its clause anew, or a block
in its literal. -/
theorem Parts.sortNames_cases (h : Parts module head origin) (ignoreCase : Bool) :
    sortNames ignoreCase (head ++ origin) = head ++ origin ∨
    (∃ front block back, head = front ++ '\x7b' :: (block ++ '\x7d' :: back) ∧ Plain front ∧
      Plain back ∧ entries block ≠ [] ∧ sortNames ignoreCase (head ++ origin) =
        front ++ '\x7b' :: (joined (sortedEntries ignoreCase block) ++ '\x7d' :: back) ++ origin ∧
      Parts module
        (front ++ '\x7b' :: (joined (sortedEntries ignoreCase block) ++ '\x7d' :: back)) origin) ∨
    Plain head ∧ ∃ other origin', sortNames ignoreCase (head ++ origin) = head ++ origin' ∧
      Parts other head origin' ∧ (other = module → origin' = origin) := by
  rcases sortNames_eq ignoreCase (head ++ origin) with
    heq | ⟨before, block, after, hsplit, -, hne, heq⟩
  · exact .inl heq
  · have hchar : ∀ x ∈ joined (sortedEntries ignoreCase block), x = ' ' ∨ x = ',' ∨ x ∈ block :=
      fun x hx => mem_joined_sortedEntries hx
    rcases h.splitBraces_cases hsplit with ⟨back, rfl, rfl, hfront, hback, hagain⟩ |
      ⟨hplain, c, d, hmodule, hblock, hagain⟩
    · have hclose : '\x7d' ∉ joined (sortedEntries ignoreCase block) := by
        intro hm
        rcases hchar _ hm with h | h | h
        · exact absurd h (by decide)
        · exact absurd h (by decide)
        · exact (splitBraces?_eq_some hsplit).2.2 h
      exact .inr (.inl ⟨before, block, back, rfl, hfront, hback, hne, by rw [heq]; simp,
        hagain _ hclose⟩)
    · obtain ⟨origin', htext, hparts⟩ := hagain _ fun x hx => by
        rcases hchar x hx with rfl | rfl | hx
        · rfl
        · rfl
        · exact hblock x hx
      refine .inr (.inr ⟨hplain, _, origin', by rw [heq, htext], hparts, fun hsame => ?_⟩)
      -- the literal is the same only if the block in it is
      rw [hmodule] at hsame
      have hnew := List.append_cancel_right (List.cons.inj (List.append_cancel_left hsame)).2
      rw [hnew, ← (splitBraces?_eq_some hsplit).1] at htext
      exact (List.append_cancel_left htext).symm

end Braces

theorem sentence_sortNames {t : List Char} (ht : Sentence t) (ignoreCase : Bool) :
    Sentence (sortNames ignoreCase t) := by
  obtain ⟨module, head, origin, rfl, hparts⟩ := ht.exists_parts
  rcases hparts.sortNames_cases ignoreCase with heq | ⟨front, block, back, -, -, -, -, heq, hagain⟩ |
    ⟨-, other, origin', heq, hagain, -⟩
  · rwa [heq]
  · rw [heq]
    exact hagain.sentence
  · rw [heq]
    exact hagain.sentence

end Statement
end ImportOrder
