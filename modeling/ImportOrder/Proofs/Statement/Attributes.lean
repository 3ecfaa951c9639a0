import ImportOrder.Proofs.Statement.Mention
import ImportOrder.Proofs.Statement.Scan
import ImportOrder.Proofs.Text.Utf8

/-!
# ImportOrder.Proofs.Statement.Attributes

What the text of a statement is said to be, against how the grammar derives it. Whether a statement
binds nothing is read off right (`Sentence.bindsNothing_iff`). Whether it imports types is looked up
in the words behind the keyword and not in the clause, so two kinds of names mislead it
(`Sentence.importsTypes_iff`).

* Without the modifier, a default binding `type` with blanks and a comma behind it passes for the
  modifier (`NamesType`).
* Behind the modifier, a binding `from` with a blank behind it passes for the `from` of a default
  binding `type` (`NamesFrom`).

In all other statements both agree with the grammar (`attributes_agree_iff`).
-/

namespace ImportOrder
namespace Statement

open Text

/-! ## Words in either case -/

/-- The text is the word of small letters, in either case. -/
def SameWord (word t : List Char) : Prop :=
  t.map Char.toLower = word

theorem wordIgnoringCase?_eq_some_iff {word s r : List Char} :
    wordIgnoringCase? word s = some r ↔ ∃ t, s = t ++ r ∧ SameWord word t := by
  induction word generalizing s with
  | nil =>
    simp only [wordIgnoringCase?, SameWord, List.map_eq_nil_iff, Option.some.injEq]
    exact ⟨fun h => ⟨[], h, rfl⟩, fun ⟨t, hs, ht⟩ => by rw [hs, ht]; rfl⟩
  | cons w word ih =>
    cases s with
    | nil =>
      simp only [wordIgnoringCase?, SameWord, reduceCtorEq, false_iff]
      rintro ⟨t, hs, ht⟩
      rw [(List.append_eq_nil_iff.1 hs.symm).1] at ht
      cases ht
    | cons c s =>
      rw [wordIgnoringCase?]
      constructor
      · intro h
        split at h
        · rename_i hc
          obtain ⟨t, rfl, ht⟩ := ih.1 h
          exact ⟨c :: t, rfl, by rw [SameWord, List.map_cons, ht, hc]⟩
        · cases h
      · rintro ⟨t, hs, ht⟩
        cases t with
        | nil => cases ht
        | cons d t =>
          obtain ⟨hd, ht⟩ := List.cons.inj ht
          obtain ⟨hcd, hs⟩ := List.cons.inj hs
          rw [if_pos (by rw [hcd, hd])]
          exact ih.2 ⟨t, hs, ht⟩

theorem isNameChar_of_toLower {c : Char} (h : 97 ≤ c.toLower.toNat ∧ c.toLower.toNat ≤ 122) :
    isNameChar c = true := by
  have hletter : ∀ n < 128, 65 ≤ n ∧ n ≤ 90 ∨ 97 ≤ n ∧ n ≤ 122 →
      isNameChar (Char.ofNat n) = true := by decide +kernel
  have hlower := toLower_toNat c
  have := hletter c.toNat (by split at hlower <;> omega) (by split at hlower <;> omega)
  rwa [Char.ofNat_toNat] at this

theorem SameWord.isNameChar {word t : List Char} (h : SameWord word t)
    (hword : word = typeWord ∨ word = fromWord) : RunOf isNameChar t := by
  have hletters : word ≠ [] ∧ word.all (fun c => 97 ≤ c.toNat && c.toNat ≤ 122) = true := by
    rcases hword with rfl | rfl
    · exact ⟨by simp [typeWord], rfl⟩
    · exact ⟨by simp [fromWord], rfl⟩
  obtain ⟨hne, hall⟩ := hletters
  refine ⟨?_, fun c hc => isNameChar_of_toLower ?_⟩
  · rintro rfl
    exact hne h.symm
  · have hlower : c.toLower ∈ word := h ▸ List.mem_map_of_mem hc
    simpa using List.all_eq_true.1 hall _ hlower

theorem blanks1?_eq_some_iff {s r : List Char} :
    blanks1? s = some r ↔ ∃ a, s = a ++ r ∧ RunOf isBlank a ∧ Stops isBlank r :=
  ⟨many1?_eq_some, fun ⟨_, hs, ha, hr⟩ => hs ▸ many1?_append ha hr⟩

theorem startsWithFrom_iff {s : List Char} :
    startsWithFrom s = true ↔
      ∃ word c rest, s = word ++ c :: rest ∧ SameWord fromWord word ∧ isBlank c = true := by
  simp only [startsWithFrom, Option.bind_eq_bind, Option.isSome_iff_exists,
    Option.bind_eq_some_iff, wordIgnoringCase?_eq_some_iff]
  constructor
  · rintro ⟨r, u, ⟨word, rfl, hword⟩, hu⟩
    obtain ⟨a, rfl, ha, -⟩ := blanks1?_eq_some_iff.1 hu
    obtain ⟨c, a, rfl⟩ := List.exists_cons_of_ne_nil ha.nonempty
    exact ⟨word, c, a ++ r, rfl, hword, ha.all c List.mem_cons_self⟩
  · rintro ⟨word, c, rest, rfl, hword, hc⟩
    exact ⟨rest.dropWhile isBlank, c :: rest, ⟨word, rfl, hword⟩, by simp [blanks1?, many1?, hc]⟩

theorem startsWithFrom_append {b x : List Char} (hb : RunOf isBlank b) :
    startsWithFrom (fromWord ++ (b ++ x)) = true := by
  obtain ⟨c, b, rfl⟩ := List.exists_cons_of_ne_nil hb.nonempty
  exact startsWithFrom_iff.2 ⟨fromWord, c, b ++ x, rfl, rfl, hb.all c List.mem_cons_self⟩

/-! ## Behind the keyword -/

theorem keyword?_append {a x : List Char} (ha : RunOf isBlank a) (hx : Stops isBlank x) :
    keyword? (importWord ++ (a ++ x)) = some x := by
  have hstart : (importWord ++ (a ++ x)).dropWhile isBlank = importWord ++ (a ++ x) :=
    dropWhile_append_of_stops (t := []) (by simp)
      (stops_cons.2 rfl)
  have hword : wordIgnoringCase? importWord (importWord ++ (a ++ x)) = some (a ++ x) :=
    wordIgnoringCase?_eq_some_iff.2 ⟨importWord, rfl, rfl⟩
  rw [keyword?, hstart, hword]
  exact blanks1?_eq_some_iff.2 ⟨a, rfl, ha, hx⟩

/-- The text behind the keyword is read off only one way. -/
theorem behind_keyword_unique {a b x y : List Char} (ha : RunOf isBlank a) (hx : Stops isBlank x)
    (hb : RunOf isBlank b) (hy : Stops isBlank y)
    (h : importWord ++ (a ++ x) = importWord ++ (b ++ y)) : x = y :=
  (ha.unique hx hb hy (List.append_cancel_left h)).2

/-- A statement imports types if a word `type` with blanks follows the keyword, and no `from` with a
blank follows that. -/
theorem importsTypes_append_iff {a x : List Char} (ha : RunOf isBlank a) (hx : Stops isBlank x) :
    importsTypes (importWord ++ (a ++ x)) = true ↔
      ∃ word b rest, x = word ++ (b ++ rest) ∧ SameWord typeWord word ∧ RunOf isBlank b ∧
        Stops isBlank rest ∧ startsWithFrom rest = false := by
  have htype : ∀ rest, typeKeyword? (importWord ++ (a ++ x)) = some rest ↔
      ∃ word b, x = word ++ (b ++ rest) ∧ SameWord typeWord word ∧ RunOf isBlank b ∧
        Stops isBlank rest := by
    intro rest
    simp only [typeKeyword?, keyword?_append ha hx, Option.bind_eq_bind, Option.bind_some,
      Option.bind_eq_some_iff, wordIgnoringCase?_eq_some_iff, blanks1?_eq_some_iff]
    constructor
    · rintro ⟨u, ⟨word, rfl, hword⟩, b, rfl, hb, hrest⟩
      exact ⟨word, b, rfl, hword, hb, hrest⟩
    · rintro ⟨word, b, rfl, hword, hb, hrest⟩
      exact ⟨_, ⟨word, rfl, hword⟩, b, rfl, hb, hrest⟩
  rw [importsTypes]
  split
  · rename_i rest hrest
    obtain ⟨word, b, hread, hword, hb, hstop⟩ := (htype rest).1 hrest
    rw [Bool.not_eq_true']
    constructor
    · exact fun h => ⟨word, b, rest, hread, hword, hb, hstop, h⟩
    · rintro ⟨word', b', rest', hread', hword', hb', hstop', h⟩
      have := (htype rest').2 ⟨word', b', hread', hword', hb', hstop'⟩
      rw [hrest, Option.some.injEq] at this
      rwa [this]
  · rename_i hnone
    simp only [Bool.false_eq_true, false_iff]
    rintro ⟨word, b, rest, hread, hword, hb, hstop, -⟩
    have := (htype rest).2 ⟨word, b, hread, hword, hb, hstop⟩
    rw [hnone] at this
    cases this

/-! ## Derivations -/

/-- The keyword with a literal right behind it. -/
inductive Bare : List Char → Prop
  | literal {a literal : List Char} (ha : RunOf isBlank a) (hliteral : Literal literal) :
      Bare (importWord ++ (a ++ literal))

/-- A derivation that uses the modifier `type`. -/
inductive Modified : List Char → Prop
  | bound {a b clause source : List Char} (ha : RunOf isBlank a) (hb : RunOf isBlank b)
      (hclause : Clause clause) (hsource : Source source) :
      Modified (importWord ++ (a ++ (typeWord ++ b)) ++ (clause ++ source))

/-- Behind the keyword a name `type`, in either case, with blanks and a comma behind it. -/
inductive NamesType : List Char → Prop
  | comma {a word b rest : List Char} (ha : RunOf isBlank a) (hword : SameWord typeWord word)
      (hb : RunOf isBlank b) : NamesType (importWord ++ (a ++ (word ++ (b ++ ',' :: rest))))

/-- Behind the keyword and `type` a name `from`, in either case, with a blank behind it. -/
inductive NamesFrom : List Char → Prop
  | blank {a b word rest : List Char} {c : Char} (ha : RunOf isBlank a) (hb : RunOf isBlank b)
      (hword : SameWord fromWord word) (hc : isBlank c = true) :
      NamesFrom (importWord ++ (a ++ (typeWord ++ (b ++ (word ++ c :: rest)))))

theorem sentence_iff {t : List Char} :
    Sentence t ↔ Bare t ∨ Modified t ∨ ∃ a clause source, RunOf isBlank a ∧ Clause clause ∧
      Source source ∧ t = importWord ++ (a ++ (clause ++ source)) := by
  constructor
  · intro ht
    cases ht with
    | bound hkeyword hclause hsource =>
      cases hkeyword with
      | «import» ha => exact .inr (.inr ⟨_, _, _, ha, hclause, hsource, List.append_assoc _ _ _⟩)
      | importType ha hb => exact .inr (.inl (.bound ha hb hclause hsource))
    | bare ha hliteral => exact .inl (.literal ha hliteral)
  · rintro (⟨ha, hliteral⟩ | ⟨ha, hb, hclause, hsource⟩ |
      ⟨a, clause, source, ha, hclause, hsource, rfl⟩)
    · exact .bare ha hliteral
    · exact .bound (.importType ha hb) hclause hsource
    · rw [← List.append_assoc]
      exact .bound (.import ha) hclause hsource

theorem Literal.starts {t : List Char} (ht : Literal t) :
    ∃ q rest, t = q :: rest ∧ isQuote q = true := by
  obtain ⟨hq, -, -, -⟩ := ht
  exact ⟨_, _, rfl, hq⟩

theorem Literal.stops_blank {t : List Char} (ht : Literal t) : Stops isBlank t := by
  obtain ⟨q, rest, rfl, hq⟩ := ht.starts
  exact stops_cons.2 (isBlank_of_isQuote hq)

theorem Clause.stops_quote {t : List Char} (ht : Clause t) (r : List Char) :
    Stops isQuote (t ++ r) := by
  obtain ⟨c, rest, rfl, rfl | hc⟩ := ht.starts
  · exact stops_cons.2 rfl
  · refine stops_cons.2 (Bool.eq_false_iff.2 fun hq => ?_)
    rw [isDefaultChar_of_isQuote hq] at hc
    cases hc

theorem RunOf.stops_blank {t : List Char} (ht : RunOf isNameChar t) (r : List Char) :
    Stops isBlank (t ++ r) :=
  (stops_append ht.nonempty).2
    (ht.stops fun _ hc => isBlank_of_isDefaultChar (isDefaultChar_of_isNameChar hc))

/-- A name with blanks behind it is read off only one way. -/
theorem name_unique {n m a b x y : List Char} (hn : RunOf isNameChar n) (ha : RunOf isBlank a)
    (hx : Stops isBlank x) (hm : RunOf isNameChar m) (hb : RunOf isBlank b) (hy : Stops isBlank y)
    (h : n ++ (a ++ x) = m ++ (b ++ y)) : n = m ∧ x = y := by
  obtain ⟨hnm, hbehind⟩ := hn.unique (ha.stops_name x).name hm (hb.stops_name y).name h
  exact ⟨hnm, (ha.unique hx hb hy hbehind).2⟩

theorem Bare.not_name {t word a y : List Char} (ht : Bare t) (ha : RunOf isBlank a)
    (hword : RunOf isNameChar word) : t ≠ importWord ++ (a ++ (word ++ y)) := by
  obtain ⟨ha', hliteral⟩ := ht
  intro h
  have hread := behind_keyword_unique ha' hliteral.stops_blank ha (hword.stops_blank y) h
  obtain ⟨q, rest, rfl, hq⟩ := hliteral.starts
  obtain ⟨c, word, rfl⟩ := List.exists_cons_of_ne_nil hword.nonempty
  have hc := isDefaultChar_of_isNameChar (hword.all c List.mem_cons_self)
  rw [← (List.cons.inj hread).1, isDefaultChar_of_isQuote hq] at hc
  cases hc

/-! ## What binds nothing -/

theorem bindsNothing_of_bare {t : List Char} (ht : Bare t) : bindsNothing t = true := by
  obtain ⟨ha, hliteral⟩ := ht
  have hread := keyword?_append ha hliteral.stops_blank
  obtain ⟨hq, hbody, hq', hstop⟩ := hliteral
  rename_i a q q' body stop
  have hvalue : RunOf (!isQuote ·) body :=
    ⟨hbody.nonempty, fun c hc => (Bool.and_eq_true_iff.1 (hbody.all c hc)).1⟩
  have hquoted : quoted? (q :: (body ++ q' :: stop)) = some (body, stop) :=
    quoted?_eq_some_iff.2 ⟨q, q', hq, hq', hvalue, rfl⟩
  simp only [bindsNothing, hread, Option.bind_eq_bind, Option.bind_some, hquoted]
  rcases hstop with rfl | rfl <;> rfl

theorem bindsNothing_append_eq_false {a x : List Char} (ha : RunOf isBlank a)
    (hx : Stops isBlank x) (hquote : Stops isQuote x) :
    bindsNothing (importWord ++ (a ++ x)) = false := by
  have hnone : quoted? x = none := by
    cases hread : quoted? x with
    | none => rfl
    | some read =>
      obtain ⟨q, q', hq, -, -, rfl⟩ := quoted?_eq_some_iff.1 hread
      rw [stops_cons.1 hquote] at hq
      cases hq
  simp only [bindsNothing, keyword?_append ha hx, Option.bind_eq_bind, Option.bind_some, hnone]

theorem not_bare_append {a x : List Char} (ha : RunOf isBlank a) (hx : Stops isBlank x)
    (hquote : Stops isQuote x) : ¬Bare (importWord ++ (a ++ x)) := by
  generalize ht : importWord ++ (a ++ x) = t
  rintro ⟨ha', hliteral⟩
  have hread := behind_keyword_unique ha hx ha' hliteral.stops_blank ht
  obtain ⟨q, rest, rfl, hq⟩ := hliteral.starts
  rw [hread, stops_cons, hq] at hquote
  cases hquote

/-- The statements with nothing between keyword and literal are those that are said to bind
nothing. -/
theorem Sentence.bindsNothing_iff {t : List Char} (ht : Sentence t) :
    bindsNothing t = true ↔ Bare t := by
  rcases sentence_iff.1 ht with hbare | ⟨ha, hb, hclause, hsource⟩ |
    ⟨a, clause, source, ha, hclause, hsource, rfl⟩
  · exact iff_of_true (bindsNothing_of_bare hbare) hbare
  · rename_i a b clause source
    have hblank := runOf_typeWord.stops_blank (b ++ (clause ++ source))
    have hquote : Stops isQuote (typeWord ++ (b ++ (clause ++ source))) := stops_cons.2 rfl
    simp only [List.append_assoc]
    exact iff_of_false (by simp [bindsNothing_append_eq_false ha hblank hquote])
      (not_bare_append ha hblank hquote)
  · have hblank := hclause.stops_blank source
    have hquote := hclause.stops_quote source
    exact iff_of_false (by simp [bindsNothing_append_eq_false ha hblank hquote])
      (not_bare_append ha hblank hquote)

/-! ## What imports types -/

theorem Bare.importsTypes_eq_false {t : List Char} (ht : Bare t) : importsTypes t = false := by
  obtain ⟨ha, hliteral⟩ := ht
  refine Bool.eq_false_iff.2 fun h => ?_
  obtain ⟨word, b, rest, rfl, hword, -⟩ := (importsTypes_append_iff ha hliteral.stops_blank).1 h
  exact (Bare.literal ha hliteral).not_name ha (hword.isNameChar (.inl rfl)) rfl

theorem Bare.not_namesType {t : List Char} (ht : Bare t) : ¬NamesType t := by
  rintro ⟨ha, hword, hb⟩
  exact ht.not_name ha (hword.isNameChar (.inl rfl)) rfl

theorem Bare.not_modified {t : List Char} (ht : Bare t) : ¬Modified t := by
  rintro ⟨ha, hb, hclause, hsource⟩
  rename_i a b clause source
  exact ht.not_name ha runOf_typeWord (y := b ++ (clause ++ source))
    (by simp only [List.append_assoc])

/-- Behind the modifier stands no comma. -/
theorem Modified.not_namesType {t : List Char} (ht : Modified t) : ¬NamesType t := by
  obtain ⟨ha, hb, hclause, hsource⟩ := ht
  rename_i a b clause source
  generalize ht : importWord ++ (a ++ (typeWord ++ b)) ++ (clause ++ source) = t
  rintro ⟨ha', hword, hb'⟩
  have hname := hword.isNameChar (.inl rfl)
  simp only [List.append_assoc] at ht
  have hread := behind_keyword_unique ha (runOf_typeWord.stops_blank _) ha' (hname.stops_blank _) ht
  obtain ⟨-, hcomma⟩ := name_unique runOf_typeWord hb (hclause.stops_blank source) hname hb'
    (stops_cons.2 rfl) hread
  obtain ⟨c, rest, rfl, hc⟩ := hclause.starts
  rw [(List.cons.inj hcomma).1] at hc
  exact absurd hc (by decide)

/-- With the modifier a statement is said to import types unless the binding is a `from` with a
blank behind it. -/
theorem Modified.importsTypes_iff {t : List Char} (ht : Modified t) :
    importsTypes t = true ↔ ¬NamesFrom t := by
  obtain ⟨ha, hb, hclause, hsource⟩ := ht
  rename_i a b clause source
  have hstart := hclause.stops_blank source
  have htypes : importsTypes (importWord ++ (a ++ (typeWord ++ (b ++ (clause ++ source))))) = true ↔
      startsWithFrom (clause ++ source) = false := by
    rw [importsTypes_append_iff ha (runOf_typeWord.stops_blank _)]
    constructor
    · rintro ⟨word, b', rest, hread, hword, hb', hrest, hfrom⟩
      obtain ⟨-, rfl⟩ := name_unique runOf_typeWord hb hstart (hword.isNameChar (.inl rfl)) hb' hrest
        hread
      exact hfrom
    · exact fun hfrom => ⟨typeWord, b, _, rfl, rfl, hb, hstart, hfrom⟩
  have hnames : NamesFrom (importWord ++ (a ++ (typeWord ++ (b ++ (clause ++ source))))) ↔
      startsWithFrom (clause ++ source) = true := by
    rw [startsWithFrom_iff]
    constructor
    · generalize ht : importWord ++ (a ++ (typeWord ++ (b ++ (clause ++ source)))) = t
      rintro ⟨ha', hb', hword, hc⟩
      rename_i a' b' word rest c
      have hread := behind_keyword_unique ha (runOf_typeWord.stops_blank _) ha'
        (runOf_typeWord.stops_blank _) ht
      obtain ⟨-, hbehind⟩ := name_unique runOf_typeWord hb hstart runOf_typeWord hb'
        ((hword.isNameChar (.inr rfl)).stops_blank _) hread
      exact ⟨word, c, rest, hbehind, hword, hc⟩
    · rintro ⟨word, c, rest, hbehind, hword, hc⟩
      rw [hbehind]
      exact .blank ha hb hword hc
  simp only [List.append_assoc]
  rw [htypes, hnames, Bool.not_eq_true]

/-- A statement has no second derivation in which its `type` is the modifier. -/
theorem not_modified_append {a clause source : List Char} (ha : RunOf isBlank a)
    (hclause : Clause clause) (hsource : Source source) :
    ¬Modified (importWord ++ (a ++ (clause ++ source))) := by
  generalize ht : importWord ++ (a ++ (clause ++ source)) = t
  rintro ⟨ha', hb, hclause', hsource'⟩
  rename_i a' b clause' source'
  simp only [List.append_assoc] at ht
  have hread := behind_keyword_unique ha (hclause.stops_blank source) ha'
    (runOf_typeWord.stops_blank _) ht
  have hnone := type_bound?_eq_none (r := []) hclause hsource
  have hblanks := many1?_append hb (hclause'.stops_blank source')
  have hbound := bound?_append (r := []) hclause' hsource' (.inr (stops_nil _))
  rw [List.append_nil] at hnone hbound
  simp [hread, blanks1?, hblanks, hbound] at hnone

/-- Without the modifier a statement is said to import types if its name is a `type` with blanks and
a comma behind it. -/
theorem importsTypes_unmodified_iff {a clause source : List Char} (ha : RunOf isBlank a)
    (hclause : Clause clause) (hsource : Source source) :
    importsTypes (importWord ++ (a ++ (clause ++ source))) = true ↔
      NamesType (importWord ++ (a ++ (clause ++ source))) := by
  have hstart := hclause.stops_blank source
  rw [importsTypes_append_iff ha hstart]
  constructor
  · rintro ⟨word, b, rest, hread, hword, hb, hrest, hfrom⟩
    rcases hclause.behind_name hsource (hword.isNameChar (.inl rfl)) hb hrest
      (r := []) (by rw [List.append_nil, hread]) with ⟨more, rfl⟩ | ⟨b', literal, hb', -, rfl⟩
    · rw [hread]
      exact .comma ha hword hb
    · -- a `from` behind the name is seen
      rw [startsWithFrom_append hb'] at hfrom
      cases hfrom
  · generalize ht : importWord ++ (a ++ (clause ++ source)) = t
    rintro ⟨ha', hword, hb⟩
    rename_i a' word b rest
    have hread := behind_keyword_unique ha hstart ha'
      ((hword.isNameChar (.inl rfl)).stops_blank _) ht
    exact ⟨word, b, ',' :: rest, hread, hword, hb, stops_cons.2 rfl, rfl⟩

theorem Sentence.importsTypes_iff {t : List Char} (ht : Sentence t) :
    importsTypes t = true ↔ NamesType t ∨ Modified t ∧ ¬NamesFrom t := by
  rcases sentence_iff.1 ht with hbare | hmodified | ⟨a, clause, source, ha, hclause, hsource, rfl⟩
  · simp [hbare.importsTypes_eq_false, hbare.not_namesType, hbare.not_modified]
  · simp [hmodified.importsTypes_iff, hmodified.not_namesType, hmodified]
  · simp [importsTypes_unmodified_iff ha hclause hsource, not_modified_append ha hclause hsource]

/-- A statement of a text is said to bind nothing exactly if it is a keyword with a literal. Whether
it is said to import types agrees with the modifier in its derivation, unless it names a `type`
before a comma, or with the modifier a `from`. -/
theorem attributes_agree_iff (text : List Char) :
    ∀ o ∈ (scan text).occurrences, (bindsNothing o.text = true ↔ Bare o.text) ∧
      ((importsTypes o.text = true ↔ Modified o.text) ↔
        ¬(NamesType o.text ∨ Modified o.text ∧ NamesFrom o.text)) := by
  intro o ho
  have hsentence := (sound_of_mem_scan ho).sentence
  have hapart : Modified o.text → ¬NamesType o.text := Modified.not_namesType
  refine ⟨hsentence.bindsNothing_iff, ?_⟩
  rw [hsentence.importsTypes_iff]
  tauto

/-- A default binding `type` is told from the modifier if its `from` follows. -/
theorem attributes_agree_iff_default :
    ∃ o ∈ (scan "import type from 'x';\n".toList).occurrences,
      (bindsNothing o.text = true ↔ Bare o.text) ∧
        ((importsTypes o.text = true ↔ Modified o.text) ↔
          ¬(NamesType o.text ∨ Modified o.text ∧ NamesFrom o.text)) := by
  have ho : (⟨[], [], "import type from 'x';".toList⟩ : Occurrence) ∈
      (scan "import type from 'x';\n".toList).occurrences := by decide +kernel
  exact ⟨_, ho, attributes_agree_iff _ _ ho⟩

/-- A default binding `type` in front of a comma passes for the modifier, and a type import of a
`from` for a default binding `type`. -/
theorem attributes_disagree :
    (∃ o ∈ (scan "import type , \x7b a \x7d from 'x';\n".toList).occurrences,
      importsTypes o.text = true ∧ ¬Modified o.text) ∧
    (∃ o ∈ (scan "import type from from 'x';\n".toList).occurrences,
      importsTypes o.text = false ∧ Modified o.text) := by
  have hblank : RunOf isBlank [' '] := ⟨by simp, List.all_eq_true.1 rfl⟩
  have htype : RunOf isDefaultChar typeWord := ⟨by simp [typeWord], List.all_eq_true.1 rfl⟩
  have hfrom : RunOf isDefaultChar fromWord := ⟨by simp [fromWord], List.all_eq_true.1 rfl⟩
  have hliteral : Literal ('\'' :: (['x'] ++ '\'' :: [';'])) :=
    .quoted rfl ⟨by simp, List.all_eq_true.1 rfl⟩ rfl (.inr rfl)
  have hsource : Source " from 'x';".toList := .from hblank hblank hliteral
  refine ⟨⟨⟨[], [], "import type , \x7b a \x7d from 'x';".toList⟩, by decide +kernel,
    by decide +kernel, ?_⟩, ⟨⟨[], [], "import type from from 'x';".toList⟩, by decide +kernel,
    by decide +kernel, ?_⟩⟩
  · have hcomma : Comma ([' '] ++ ',' :: [' ']) := .blanks rfl rfl
    have hclause : Clause (typeWord ++ (([' '] ++ ',' :: [' ']) ++ braced [' ', 'a', ' '])) :=
      .defaultAndNames htype hcomma (by decide)
    exact not_modified_append hblank hclause hsource
  · exact .bound (a := [' ']) (b := [' ']) hblank hblank (.default hfrom) hsource

end Statement
end ImportOrder
