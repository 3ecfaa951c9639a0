import ImportOrder.Proofs.Text.Lines
import ImportOrder.Statement.Grammar

/-!
# ImportOrder.Proofs.Statement.Grammar

The language of the statement reader. `Sentence` holds of the texts that the grammar derives, one
predicate for each construct (`Literal`, `Clause`, `Source`).

* `sentence_of_statement?`: what the reader takes off a text is a sentence.
* `statement?_append`: a sentence in front of a text is what the reader takes off, as long as the
  sentence has its semicolon or none follows (`Closes`).

The readers try one construct after the other and never come back to a choice. Completeness is
therefore about first characters: of the kinds of clause only one fits, and where a longer reading
is tried first it fails on the character behind the shorter one.
-/

namespace ImportOrder
namespace Statement

open Text

/-! ## Runs of characters -/

/-- A non-empty text of characters with property `p`. -/
structure RunOf (p : Char → Bool) (t : List Char) : Prop where
  nonempty : t ≠ []
  all : ∀ c ∈ t, p c = true

/-- The text does not go on with a character that has property `p`. -/
def Stops (p : Char → Bool) (r : List Char) : Prop :=
  ∀ c, r.head? = some c → p c = false

@[simp] theorem stops_nil (p : Char → Bool) : Stops p [] := by
  simp [Stops]

@[simp] theorem stops_cons {p : Char → Bool} {c : Char} {r : List Char} :
    Stops p (c :: r) ↔ p c = false := by
  simp [Stops]

theorem stops_append {p : Char → Bool} {t : List Char} (hne : t ≠ []) {r : List Char} :
    Stops p (t ++ r) ↔ Stops p t := by
  cases t with
  | nil => exact absurd rfl hne
  | cons c t => simp

theorem RunOf.stops {p q : Char → Bool} {t : List Char} (ht : RunOf q t)
    (hpq : ∀ c, q c = true → p c = false) : Stops p t := by
  intro c hc
  exact hpq c (ht.all c (List.mem_of_head? hc))

theorem many1?_eq_some {p : Char → Bool} {s r : List Char} (h : many1? p s = some r) :
    ∃ t, s = t ++ r ∧ RunOf p t ∧ Stops p r := by
  cases s with
  | nil => simp [many1?] at h
  | cons c s =>
    simp only [many1?] at h
    split at h
    · rename_i hc
      cases h
      refine ⟨c :: s.takeWhile p, ?_, ⟨by simp, ?_⟩, ?_⟩
      · rw [List.cons_append, List.takeWhile_append_dropWhile]
      · intro d hd
        rcases List.mem_cons.1 hd with rfl | hd
        · exact hc
        · exact List.mem_takeWhile_imp hd
      · intro d hd
        have := List.head?_dropWhile_not p s
        rw [hd] at this
        simpa using this
    · cases h

theorem dropWhile_append_of_stops {p : Char → Bool} {t r : List Char} (ht : ∀ c ∈ t, p c = true)
    (hr : Stops p r) : (t ++ r).dropWhile p = r := by
  rw [List.dropWhile_append_of_pos ht]
  cases r with
  | nil => rfl
  | cons c r => rw [List.dropWhile_cons, if_neg (by simp [stops_cons.1 hr])]

theorem many1?_append {p : Char → Bool} {t r : List Char} (ht : RunOf p t) (hr : Stops p r) :
    many1? p (t ++ r) = some r := by
  cases t with
  | nil => exact absurd rfl ht.nonempty
  | cons c t =>
    rw [List.cons_append, many1?, if_pos (ht.all c List.mem_cons_self),
      dropWhile_append_of_stops (fun d hd => ht.all d (List.mem_cons_of_mem c hd)) hr]

theorem many1?_eq_none {p : Char → Bool} {s : List Char} (h : Stops p s) : many1? p s = none := by
  cases s with
  | nil => rfl
  | cons c s => rw [many1?, if_neg (by simp [stops_cons.1 h])]

/-! ## Classes of characters -/

theorem isDefaultChar_of_isBlank {c : Char} (h : isBlank c = true) : isDefaultChar c = false :=
  forall_blank (P := fun c => isDefaultChar c = false) (by decide +kernel) h

theorem isDefaultChar_of_isNameChar {c : Char} (h : isNameChar c = true) :
    isDefaultChar c = true := by
  rw [isDefaultChar, h, Bool.true_or]

theorem isNameChar_of_isDefaultChar {c : Char} (h : isDefaultChar c = false) :
    isNameChar c = false := by
  rw [isDefaultChar, Bool.or_eq_false_iff] at h
  exact h.1

theorem isBlank_of_isDefaultChar {c : Char} (h : isDefaultChar c = true) : isBlank c = false := by
  cases hb : isBlank c with
  | false => rfl
  | true => rw [isDefaultChar_of_isBlank hb] at h; cases h

theorem isBlank_of_isQuote {c : Char} (h : isQuote c = true) : isBlank c = false := by
  simp only [isQuote, Bool.or_eq_true, beq_iff_eq] at h
  rcases h with rfl | rfl <;> rfl

theorem isDefaultChar_of_isQuote {c : Char} (h : isQuote c = true) : isDefaultChar c = false := by
  simp only [isQuote, Bool.or_eq_true, beq_iff_eq] at h
  rcases h with rfl | rfl <;> decide

/-- A character of a name is none of those that the grammar itself writes. -/
theorem ne_of_isDefaultChar {c d : Char} (h : isDefaultChar c = true)
    (hd : isDefaultChar d = false) : c ≠ d := by
  rintro rfl
  rw [h] at hd
  cases hd

def isLiteralChar (c : Char) : Bool :=
  !isQuote c && c != '\n'

/-! ## The language -/

/-- A string literal with the semicolon behind it, if there is one. -/
inductive Literal : List Char → Prop
  | quoted {q q' : Char} {body stop : List Char} (hq : isQuote q = true)
      (hbody : RunOf isLiteralChar body) (hq' : isQuote q' = true)
      (hstop : stop = [] ∨ stop = [';']) : Literal (q :: (body ++ q' :: stop))

def braced (block : List Char) : List Char :=
  '\x7b' :: (block ++ ['\x7d'])

/-- A comma with blanks around it. -/
inductive Comma : List Char → Prop
  | blanks {a b : List Char} (ha : allBlank a = true) (hb : allBlank b = true) :
      Comma (a ++ ',' :: b)

/-- The clause `* as name`. -/
inductive Namespace : List Char → Prop
  | named {a b name : List Char} (ha : RunOf isBlank a) (hb : RunOf isBlank b)
      (hname : RunOf isNameChar name) : Namespace ('*' :: (a ++ (asWord ++ (b ++ name))))

inductive Clause : List Char → Prop
  | names {block : List Char} (hblock : '\x7d' ∉ block) : Clause (braced block)
  | nameAndNamespace {name comma rest : List Char} (hname : RunOf isNameChar name)
      (hcomma : Comma comma) (hrest : Namespace rest) : Clause (name ++ (comma ++ rest))
  | default {name : List Char} (hname : RunOf isDefaultChar name) : Clause name
  | defaultAndNames {name comma block : List Char} (hname : RunOf isDefaultChar name)
      (hcomma : Comma comma) (hblock : '\x7d' ∉ block) : Clause (name ++ (comma ++ braced block))
  | namespace {t : List Char} (h : Namespace t) : Clause t

/-- A `from` with its literal and the blanks around it. -/
inductive Source : List Char → Prop
  | from {a b literal : List Char} (ha : RunOf isBlank a) (hb : RunOf isBlank b)
      (hliteral : Literal literal) : Source (a ++ (fromWord ++ (b ++ literal)))

/-- The keyword with its blanks, and the modifier `type` with its blanks if it stands there. -/
inductive Keyword : List Char → Prop
  | import {a : List Char} (ha : RunOf isBlank a) : Keyword (importWord ++ a)
  | importType {a b : List Char} (ha : RunOf isBlank a) (hb : RunOf isBlank b) :
      Keyword (importWord ++ (a ++ (typeWord ++ b)))

/-- The import statements. -/
inductive Sentence : List Char → Prop
  | bound {keyword clause source : List Char} (hkeyword : Keyword keyword)
      (hclause : Clause clause) (hsource : Source source) : Sentence (keyword ++ (clause ++ source))
  | bare {a literal : List Char} (ha : RunOf isBlank a) (hliteral : Literal literal) :
      Sentence (importWord ++ (a ++ literal))

theorem Sentence.starts {t : List Char} (ht : Sentence t) :
    ∃ c rest, isBlank c = true ∧ t = importWord ++ c :: rest := by
  have blank_first : ∀ {a : List Char} (x : List Char), RunOf isBlank a →
      ∃ c rest, isBlank c = true ∧ a ++ x = c :: rest := by
    intro a x ha
    cases a with
    | nil => exact absurd rfl ha.nonempty
    | cons c a => exact ⟨c, a ++ x, ha.all c List.mem_cons_self, rfl⟩
  cases ht with
  | bound hkeyword hclause hsource =>
    rename_i keyword clause source
    cases hkeyword with
    | «import» ha =>
      obtain ⟨c, rest, hc, h⟩ := blank_first (clause ++ source) ha
      exact ⟨c, rest, hc, by rw [List.append_assoc, h]⟩
    | importType ha hb =>
      rename_i a b
      obtain ⟨c, rest, hc, h⟩ := blank_first (typeWord ++ b ++ (clause ++ source)) ha
      exact ⟨c, rest, hc, by rw [← h]; simp⟩
  | bare ha hliteral =>
    rename_i a literal
    obtain ⟨c, rest, hc, h⟩ := blank_first literal ha
    exact ⟨c, rest, hc, by rw [h]⟩

theorem Literal.endsVisible {t : List Char} (ht : Literal t) : EndsVisible t := by
  obtain ⟨hq, hbody, hq', hstop⟩ := ht
  rename_i q q' body stop
  rcases hstop with rfl | rfl
  · exact ⟨q :: body, q', rfl, isBlank_of_isQuote hq'⟩
  · exact ⟨q :: (body ++ [q']), ';', by simp, rfl⟩

/-- A sentence ends with a quote or a semicolon. -/
theorem Sentence.endsVisible {t : List Char} (ht : Sentence t) : EndsVisible t := by
  cases ht with
  | bound hkeyword hclause hsource =>
    cases hsource with
    | «from» ha hb hliteral =>
      exact ((((hliteral.endsVisible.prepend _).prepend _).prepend _).prepend _).prepend _
  | bare ha hliteral => exact (hliteral.endsVisible.prepend _).prepend _

/-! ## What the readers take -/

theorem quote?_eq_some {s r : List Char} (h : quote? s = some r) :
    ∃ q, isQuote q = true ∧ s = q :: r := by
  cases s with
  | nil => simp [quote?] at h
  | cons c s =>
    simp only [quote?] at h
    split at h
    · rename_i hc
      cases h
      exact ⟨c, hc, rfl⟩
    · cases h

theorem dropSemicolon_eq (s : List Char) :
    ∃ stop, s = stop ++ dropSemicolon s ∧ (stop = [] ∨ stop = [';']) := by
  unfold dropSemicolon
  split
  · exact ⟨[';'], rfl, .inr rfl⟩
  · exact ⟨[], rfl, .inl rfl⟩

theorem literal_of_literal? {s r : List Char} (h : literal? s = some r) :
    ∃ t, s = t ++ r ∧ Literal t := by
  simp only [literal?, Option.bind_eq_bind, Option.bind_eq_some_iff, Option.pure_def,
    Option.some.injEq] at h
  obtain ⟨u, hu, v, hv, w, hw, rfl⟩ := h
  obtain ⟨q, hq, rfl⟩ := quote?_eq_some hu
  obtain ⟨body, rfl, hbody, -⟩ := many1?_eq_some hv
  obtain ⟨q', hq', rfl⟩ := quote?_eq_some hw
  obtain ⟨stop, hstop, hor⟩ := dropSemicolon_eq w
  refine ⟨q :: (body ++ q' :: stop), ?_, .quoted hq hbody hq' hor⟩
  simp only [List.cons_append, List.append_assoc]
  rw [← hstop]

theorem braced_of_braces? {s r : List Char} (h : braces? s = some r) :
    ∃ block, s = braced block ++ r ∧ '\x7d' ∉ block := by
  simp only [braces?, Option.bind_eq_bind, Option.bind_eq_some_iff] at h
  obtain ⟨u, hu, hr⟩ := h
  have hs := dropWord?_eq_some hu
  have hclose := dropWord?_eq_some hr
  refine ⟨u.takeWhile (· != '\x7d'), ?_, ?_⟩
  · have hsplit : u.takeWhile (· != '\x7d') ++ u.dropWhile (· != '\x7d') = u :=
      List.takeWhile_append_dropWhile
    rw [hclose] at hsplit
    rw [hs]
    conv_lhs => rw [← hsplit]
    simp [braced]
  · intro hm
    have := List.mem_takeWhile_imp hm
    simp at this

theorem allBlank_takeWhile (s : List Char) : allBlank (s.takeWhile isBlank) = true :=
  List.all_eq_true.2 fun _ hc => List.mem_takeWhile_imp hc

theorem comma_of_comma? {s r : List Char} (h : comma? s = some r) :
    ∃ t, s = t ++ r ∧ Comma t := by
  simp only [comma?, Option.bind_eq_bind, Option.bind_eq_some_iff, Option.pure_def,
    Option.some.injEq] at h
  obtain ⟨u, hu, rfl⟩ := h
  refine ⟨s.takeWhile isBlank ++ ',' :: u.takeWhile isBlank, ?_,
    .blanks (allBlank_takeWhile s) (allBlank_takeWhile u)⟩
  have hs : s.takeWhile isBlank ++ s.dropWhile isBlank = s := List.takeWhile_append_dropWhile
  rw [dropWord?_eq_some hu] at hs
  rw [List.append_assoc, List.cons_append, List.takeWhile_append_dropWhile]
  exact hs.symm

theorem namespace_of_namespaceClause? {s r : List Char} (h : namespaceClause? s = some r) :
    ∃ t, s = t ++ r ∧ Namespace t := by
  simp only [namespaceClause?, Option.bind_eq_bind, Option.bind_eq_some_iff] at h
  obtain ⟨u, hu, v, hv, w, hw, x, hx, hr⟩ := h
  obtain ⟨a, rfl, ha, -⟩ := many1?_eq_some hv
  obtain ⟨b, rfl, hb, -⟩ := many1?_eq_some hx
  obtain ⟨name, rfl, hname, -⟩ := many1?_eq_some hr
  refine ⟨_, ?_, .named ha hb hname⟩
  rw [dropWord?_eq_some hu, dropWord?_eq_some hw]
  simp

theorem clause_of_nameAndNamespaceClause? {s r : List Char}
    (h : nameAndNamespaceClause? s = some r) : ∃ t, s = t ++ r ∧ Clause t := by
  simp only [nameAndNamespaceClause?, Option.bind_eq_bind, Option.bind_eq_some_iff] at h
  obtain ⟨u, hu, v, hv, hr⟩ := h
  obtain ⟨name, rfl, hname, -⟩ := many1?_eq_some hu
  obtain ⟨comma, rfl, hcomma⟩ := comma_of_comma? hv
  obtain ⟨rest, rfl, hrest⟩ := namespace_of_namespaceClause? hr
  exact ⟨_, by simp, .nameAndNamespace hname hcomma hrest⟩

theorem clause_of_defaultClause? {s r : List Char} (h : defaultClause? s = some r) :
    ∃ t, s = t ++ r ∧ Clause t := by
  simp only [defaultClause?, Option.bind_eq_bind, Option.bind_eq_some_iff] at h
  obtain ⟨u, hu, hr⟩ := h
  obtain ⟨name, rfl, hname, -⟩ := many1?_eq_some hu
  split at hr
  · rename_i rest hrest
    obtain ⟨v, hv, hw⟩ := Option.bind_eq_some_iff.1 hrest
    obtain ⟨comma, rfl, hcomma⟩ := comma_of_comma? hv
    obtain ⟨block, rfl, hblock⟩ := braced_of_braces? hw
    cases hr
    exact ⟨_, by simp, .defaultAndNames hname hcomma hblock⟩
  · cases hr
    exact ⟨name, rfl, .default hname⟩

theorem source_of_source? {s r : List Char} (h : source? s = some r) :
    ∃ t, s = t ++ r ∧ Source t := by
  simp only [source?, Option.bind_eq_bind, Option.bind_eq_some_iff] at h
  obtain ⟨u, hu, v, hv, w, hw, hr⟩ := h
  obtain ⟨a, rfl, ha, -⟩ := many1?_eq_some hu
  obtain ⟨b, rfl, hb, -⟩ := many1?_eq_some hw
  obtain ⟨literal, rfl, hliteral⟩ := literal_of_literal? hr
  refine ⟨_, ?_, .from ha hb hliteral⟩
  rw [dropWord?_eq_some hv]
  simp

theorem clause_and_source_of_bound? {s r : List Char} (h : bound? s = some r) :
    ∃ clause source, s = clause ++ (source ++ r) ∧ Clause clause ∧ Source source := by
  have join : ∀ {u : List Char}, (∃ t, s = t ++ u ∧ Clause t) → source? u = some r →
      ∃ clause source, s = clause ++ (source ++ r) ∧ Clause clause ∧ Source source := by
    rintro u ⟨clause, rfl, hclause⟩ hu
    obtain ⟨source, rfl, hsource⟩ := source_of_source? hu
    exact ⟨clause, source, rfl, hclause, hsource⟩
  simp only [bound?, Option.orElse_eq_orElse, Option.orElse_eq_or, Option.or_eq_some_iff,
    Option.bind_eq_bind, Option.bind_eq_some_iff] at h
  rcases h with ⟨u, hu, hr⟩ | ⟨-, ⟨u, hu, hr⟩ | ⟨-, ⟨u, hu, hr⟩ | ⟨-, u, hu, hr⟩⟩⟩
  · obtain ⟨block, hs, hblock⟩ := braced_of_braces? hu
    exact join ⟨_, hs, .names hblock⟩ hr
  · exact join (clause_of_nameAndNamespaceClause? hu) hr
  · exact join (clause_of_defaultClause? hu) hr
  · obtain ⟨t, hs, ht⟩ := namespace_of_namespaceClause? hu
    exact join ⟨t, hs, .namespace ht⟩ hr

theorem sentence_of_statement? {s r : List Char} (h : statement? s = some r) :
    ∃ t, s = t ++ r ∧ Sentence t := by
  simp only [statement?, Option.orElse_eq_orElse, Option.orElse_eq_or, Option.bind_eq_bind,
    Option.bind_eq_some_iff, Option.or_eq_some_iff] at h
  obtain ⟨u, hu, v, hv, hr⟩ := h
  have hs := dropWord?_eq_some hu
  obtain ⟨a, rfl, ha, -⟩ := many1?_eq_some hv
  rcases hr with ⟨x, ⟨w, hw, hx⟩, hr⟩ | ⟨-, hr | ⟨-, hr⟩⟩
  · obtain ⟨b, rfl, hb, -⟩ := many1?_eq_some hx
    obtain ⟨clause, source, rfl, hclause, hsource⟩ := clause_and_source_of_bound? hr
    refine ⟨_, ?_, .bound (.importType ha hb) hclause hsource⟩
    rw [hs, dropWord?_eq_some hw]
    simp
  · obtain ⟨clause, source, rfl, hclause, hsource⟩ := clause_and_source_of_bound? hr
    exact ⟨_, by rw [hs]; simp, .bound (.import ha) hclause hsource⟩
  · obtain ⟨literal, rfl, hliteral⟩ := literal_of_literal? hr
    exact ⟨_, by rw [hs]; simp, .bare ha hliteral⟩

/-! ## What the readers must take -/

/-- The first text ends in a semicolon, or the second does not start with one. -/
def Closes (t r : List Char) : Prop :=
  t.getLast? = some ';' ∨ Stops (· == ';') r

theorem Closes.of_append {a t r : List Char} (h : Closes (a ++ t) r) (ht : t ≠ []) :
    Closes t r := by
  rcases h with h | h
  · exact .inl (by rwa [List.getLast?_append_of_ne_nil a ht] at h)
  · exact .inr h

theorem Literal.ne_nil {t : List Char} (ht : Literal t) : t ≠ [] := by
  cases ht with
  | quoted => simp

theorem Source.ne_nil {t : List Char} (ht : Source t) : t ≠ [] := by
  cases ht with
  | «from» => simp [fromWord]

theorem literal?_append {t r : List Char} (ht : Literal t) (hr : Closes t r) :
    literal? (t ++ r) = some r := by
  obtain ⟨hq, hbody, hq', hstop⟩ := ht
  rename_i q q' body stop
  have hrun : many1? (fun c => !isQuote c && c != '\n') (body ++ q' :: (stop ++ r)) =
      some (q' :: (stop ++ r)) := many1?_append hbody (by simp [hq'])
  have hdrop : dropSemicolon (stop ++ r) = r := by
    rcases hstop with rfl | rfl
    · have hr' : Stops (· == ';') r := by
        rcases hr with hr | hr
        · rw [← List.cons_append, List.getLast?_concat, Option.some.injEq] at hr
          exact absurd (hr ▸ hq') (by decide)
        · exact hr
      rw [List.nil_append]
      unfold dropSemicolon
      split
      · simp at hr'
      · rfl
    · rfl
  simp [literal?, quote?, hq, hq', hrun, hdrop]

theorem braces?_append {block r : List Char} (h : '\x7d' ∉ block) :
    braces? (braced block ++ r) = some r := by
  have hall : ∀ c ∈ block, (c != '\x7d') = true := by
    intro c hc
    rw [bne_iff_ne]
    rintro rfl
    exact h hc
  have hdrop : (block ++ '\x7d' :: r).dropWhile (· != '\x7d') = '\x7d' :: r :=
    dropWhile_append_of_stops hall (by simp)
  simp [braces?, braced, dropWord?, hdrop]

theorem braces?_eq_none {c : Char} (h : c ≠ '\x7b') (s : List Char) : braces? (c :: s) = none := by
  simp [braces?, dropWord?, Ne.symm h]

theorem dropWhile_isBlank_append {b r : List Char} (hb : allBlank b = true)
    (hr : Stops isBlank r) : (b ++ r).dropWhile isBlank = r :=
  dropWhile_append_of_stops (List.all_eq_true.1 hb) hr

theorem RunOf.allBlank {b : List Char} (hb : RunOf isBlank b) : allBlank b = true :=
  List.all_eq_true.2 hb.all

theorem comma?_append {t r : List Char} (ht : Comma t) (hr : Stops isBlank r) :
    comma? (t ++ r) = some r := by
  obtain ⟨ha, hb⟩ := ht
  rename_i a b
  have hcomma : isBlank ',' = false := rfl
  rw [comma?, List.append_assoc, List.cons_append, dropWhile_isBlank_append ha (by simp [hcomma])]
  simp [dropWord?, dropWhile_isBlank_append hb hr]

theorem comma?_eq_none {b : List Char} (hb : allBlank b = true) {c : Char}
    (hc : isBlank c = false) (hne : c ≠ ',') (s : List Char) : comma? (b ++ c :: s) = none := by
  rw [comma?, dropWhile_isBlank_append hb (by simp [hc])]
  simp [dropWord?, Ne.symm hne]

theorem Comma.stops {t : List Char} (ht : Comma t) (r : List Char) :
    Stops isDefaultChar (t ++ r) := by
  obtain ⟨ha, -⟩ := ht
  rename_i a b
  cases a with
  | nil =>
    have hcomma : isDefaultChar ',' = false := by decide
    simp [hcomma]
  | cons c a =>
    simp only [List.cons_append, stops_cons]
    exact isDefaultChar_of_isBlank (List.all_eq_true.1 ha c List.mem_cons_self)

theorem RunOf.stops_name {b : List Char} (hb : RunOf isBlank b) (r : List Char) :
    Stops isDefaultChar (b ++ r) :=
  (stops_append hb.nonempty).2 (hb.stops fun _ h => isDefaultChar_of_isBlank h)

theorem Stops.name {r : List Char} (h : Stops isDefaultChar r) : Stops isNameChar r :=
  fun c hc => isNameChar_of_isDefaultChar (h c hc)

theorem namespaceClause?_append {t r : List Char} (ht : Namespace t) (hr : Stops isNameChar r) :
    namespaceClause? (t ++ r) = some r := by
  obtain ⟨ha, hb, hname⟩ := ht
  rename_i a b name
  have has : Stops isBlank (asWord ++ (b ++ (name ++ r))) := by
    simp [asWord, show isBlank 'a' = false from rfl]
  have hstart : Stops isBlank (name ++ r) := (stops_append hname.nonempty).2
    (hname.stops fun c hc => isBlank_of_isDefaultChar (isDefaultChar_of_isNameChar hc))
  simp only [namespaceClause?, List.cons_append, List.append_assoc, Option.bind_eq_bind, blanks1?,
    dropWord?, if_pos, Option.bind_some, many1?_append ha has, dropWord?_append,
    many1?_append hb hstart, many1?_append hname hr]

theorem namespaceClause?_eq_none {c : Char} (h : c ≠ '*') (s : List Char) :
    namespaceClause? (c :: s) = none := by
  simp [namespaceClause?, dropWord?, Ne.symm h]

theorem source?_append {t r : List Char} (ht : Source t) (hr : Closes t r) :
    source? (t ++ r) = some r := by
  obtain ⟨ha, hb, hliteral⟩ := ht
  rename_i a b literal
  have hr' : Closes literal r := by
    simp only [← List.append_assoc] at hr
    exact hr.of_append hliteral.ne_nil
  have hfrom : Stops isBlank (fromWord ++ (b ++ (literal ++ r))) := by
    simp [fromWord, show isBlank 'f' = false from rfl]
  have hquote : Stops isBlank (literal ++ r) := by
    cases hliteral with
    | quoted hq _ _ _ => simp [isBlank_of_isQuote hq]
  simp only [source?, List.append_assoc, Option.bind_eq_bind, blanks1?, many1?_append ha hfrom,
    Option.bind_some, dropWord?_append, many1?_append hb hquote, literal?_append hliteral hr']

theorem source?_eq_none {a : List Char} (ha : RunOf isBlank a) {c : Char} (hc : isBlank c = false)
    (hne : c ≠ 'f') (s : List Char) : source? (a ++ c :: s) = none := by
  rw [source?, blanks1?, many1?_append ha (by simp [hc])]
  simp [fromWord, dropWord?, Ne.symm hne]

/-- The reader of `name, * as name` fails where it fails behind the name. -/
theorem nameAndNamespaceClause?_eq_none {name x : List Char}
    (hname : ∀ c ∈ name, isDefaultChar c = true) (hx : Stops isNameChar x)
    (hfail : (comma? x >>= namespaceClause?) = none) :
    nameAndNamespaceClause? (name ++ x) = none := by
  rw [nameAndNamespaceClause?]
  cases hmany : many1? isNameChar (name ++ x) with
  | none => rfl
  | some y =>
    obtain ⟨t, ht, hrun, -⟩ := many1?_eq_some hmany
    rcases List.append_eq_append_iff.1 ht with ⟨w, rfl, hxy⟩ | ⟨w, rfl, rfl⟩
    · cases w with
      | nil =>
        rw [List.nil_append] at hxy
        subst hxy
        exact hfail
      | cons c w =>
        -- the name would go on behind its own end
        rw [hxy] at hx
        have hc := hrun.all c (by simp)
        rw [List.cons_append, stops_cons, hc] at hx
        cases hx
    · cases w with
      | nil => exact hfail
      | cons c w =>
        have hc := hname c (by simp)
        have hnone : comma? (c :: w ++ x) = none :=
          comma?_eq_none (b := []) rfl (isBlank_of_isDefaultChar hc)
            (ne_of_isDefaultChar hc (by decide)) (w ++ x)
        simp only [Option.bind_eq_bind, Option.bind_some, hnone, Option.bind_none]

theorem defaultClause?_append {name x : List Char} (hname : RunOf isDefaultChar name)
    (hx : Stops isDefaultChar x) :
    defaultClause? (name ++ x) = some ((comma? x >>= braces?).getD x) := by
  rw [defaultClause?, many1?_append hname hx]
  simp only [Option.bind_eq_bind, Option.bind_some]
  cases (comma? x).bind braces? with
  | none => rfl
  | some rest => rfl

theorem bound?_append {clause source r : List Char} (hclause : Clause clause)
    (hsource : Source source) (hr : Closes source r) :
    bound? (clause ++ (source ++ r)) = some r := by
  have hread := source?_append hsource hr
  obtain ⟨a, hrun, more, hfrom⟩ : ∃ a, RunOf isBlank a ∧ ∃ more, source ++ r = a ++ 'f' :: more := by
    cases hsource with
    | «from» ha _ _ => exact ⟨_, ha, _, by simp [fromWord]; rfl⟩
  have hf : isBlank 'f' = false := rfl
  have hstop : Stops isDefaultChar (source ++ r) := hfrom ▸ hrun.stops_name _
  have hnocomma : comma? (source ++ r) = none :=
    hfrom ▸ comma?_eq_none hrun.allBlank hf (by decide) more
  have brace_of_name : ∀ {name : List Char} (x : List Char), RunOf isDefaultChar name →
      braces? (name ++ x) = none := by
    intro name x hname
    cases name with
    | nil => exact absurd rfl hname.nonempty
    | cons c name =>
      exact braces?_eq_none (ne_of_isDefaultChar (hname.all c List.mem_cons_self) (by decide)) _
  cases hclause with
  | names hblock =>
    simp [bound?, braces?_append hblock, hread]
  | nameAndNamespace hname hcomma hrest =>
    rename_i name comma rest
    have hbrace := brace_of_name (comma ++ (rest ++ (source ++ r)))
      ⟨hname.nonempty, fun c hc => isDefaultChar_of_isNameChar (hname.all c hc)⟩
    have hstar : Stops isBlank (rest ++ (source ++ r)) := by
      cases hrest with
      | named => simp [show isBlank '*' = false from rfl]
    have hclause : nameAndNamespaceClause? (name ++ (comma ++ (rest ++ (source ++ r)))) =
        some (source ++ r) := by
      simp [nameAndNamespaceClause?, many1?_append hname (hcomma.stops _).name,
        comma?_append hcomma hstar, namespaceClause?_append hrest hstop.name]
    simp [bound?, hbrace, hclause, hread]
  | default hname =>
    have hbrace := brace_of_name (source ++ r) hname
    have hnot := nameAndNamespaceClause?_eq_none hname.all hstop.name (by simp [hnocomma])
    have hclause := defaultClause?_append hname hstop
    simp [bound?, hbrace, hnot, hclause, hnocomma, hread]
  | defaultAndNames hname hcomma hblock =>
    rename_i name comma block
    have hopen : Stops isBlank (braced block ++ (source ++ r)) := by
      simp [braced, show isBlank '\x7b' = false from rfl]
    have hread' := comma?_append hcomma hopen
    have hbrace := brace_of_name (comma ++ (braced block ++ (source ++ r))) hname
    have hnot := nameAndNamespaceClause?_eq_none hname.all (hcomma.stops _).name
      (x := comma ++ (braced block ++ (source ++ r))) (by
        rw [hread']
        exact namespaceClause?_eq_none (c := '\x7b') (by decide)
          (block ++ ['\x7d'] ++ (source ++ r)))
    have hclause := defaultClause?_append hname (hcomma.stops (braced block ++ (source ++ r)))
    simp [bound?, hbrace, hnot, hclause, hread', braces?_append hblock, hread]
  | «namespace» h =>
    have hclause := namespaceClause?_append h hstop.name
    cases h with
    | named ha hb hname =>
      rename_i a b name
      have hstar : RunOf isDefaultChar ['*'] := ⟨by simp, List.all_eq_true.1 rfl⟩
      have has : isBlank 'a' = false := rfl
      have hnot := @nameAndNamespaceClause?_eq_none []
        ('*' :: (a ++ (asWord ++ (b ++ (name ++ (source ++ r)))))) (by simp)
        (by simpa using (by decide : isNameChar '*' = false))
        (by rw [← List.nil_append (_ :: _), comma?_eq_none rfl rfl (by decide)]; rfl)
      have hdefault := defaultClause?_append hstar
        (ha.stops_name (asWord ++ (b ++ (name ++ (source ++ r)))))
      have hcomma : comma? (a ++ (asWord ++ (b ++ (name ++ (source ++ r))))) = none :=
        comma?_eq_none ha.allBlank has (by decide) _
      have hfail : source? (a ++ (asWord ++ (b ++ (name ++ (source ++ r))))) = none :=
        source?_eq_none ha has (by decide) _
      simp only [List.nil_append, List.cons_append, List.append_assoc] at hnot hdefault hclause ⊢
      simp [bound?, braces?_eq_none, hnot, hdefault, hcomma, hfail, hclause, hread]

theorem RunOf.unique {p : Char → Bool} {n m x y : List Char} (hn : RunOf p n) (hx : Stops p x)
    (hm : RunOf p m) (hy : Stops p y) (h : n ++ x = m ++ y) : n = m ∧ x = y := by
  have hxy : x = y := by
    have := many1?_append hn hx
    rw [h, many1?_append hm hy] at this
    exact (Option.some.inj this).symm
  subst hxy
  exact ⟨List.append_cancel_right h, rfl⟩

theorem bound?_eq_none {c : Char} (hc : isDefaultChar c = false) (hne : c ≠ '\x7b')
    (s : List Char) : bound? (c :: s) = none := by
  have hstar : c ≠ '*' := by
    rintro rfl
    exact absurd hc (by decide)
  have hname : many1? isNameChar (c :: s) = none :=
    many1?_eq_none (by simp [isNameChar_of_isDefaultChar hc])
  have hdefault : many1? isDefaultChar (c :: s) = none := many1?_eq_none (by simp [hc])
  simp [bound?, braces?_eq_none hne, nameAndNamespaceClause?, hname, defaultClause?, hdefault,
    namespaceClause?_eq_none hstar]

/-- A `from` with its literal is not itself bound to another `from`. -/
theorem bound?_from_eq_none {b literal : List Char} (hb : RunOf isBlank b)
    (hliteral : Literal literal) (r : List Char) :
    bound? (fromWord ++ (b ++ (literal ++ r))) = none := by
  obtain ⟨hq, -, -, -⟩ := hliteral
  rename_i q q' body stop
  have hblank := isBlank_of_isQuote hq
  have hname := isDefaultChar_of_isQuote hq
  have hcomma := comma?_eq_none hb.allBlank hblank
    (fun h => absurd (h ▸ hq) (by decide)) (body ++ q' :: stop ++ r)
  have hsource := source?_eq_none hb hblank
    (fun h => absurd (h ▸ hq) (by decide)) (body ++ q' :: stop ++ r)
  have hfrom : RunOf isDefaultChar fromWord := ⟨by simp [fromWord], List.all_eq_true.1 rfl⟩
  have hstop := hb.stops_name (q :: (body ++ q' :: stop ++ r))
  have hnot := nameAndNamespaceClause?_eq_none hfrom.all hstop.name (by rw [hcomma]; rfl)
  have hdefault := defaultClause?_append hfrom hstop
  have hbrace : ∀ x, braces? (fromWord ++ x) = none := fun x => braces?_eq_none (by decide) _
  have hstar : ∀ x, namespaceClause? (fromWord ++ x) = none :=
    fun x => namespaceClause?_eq_none (by decide) _
  simp only [List.append_assoc, List.cons_append] at hcomma hsource hnot hdefault ⊢
  simp [bound?, hbrace, hnot, hdefault, hcomma, hsource, hstar]

/-- A clause starts with a brace or a name; the star counts as one. -/
theorem Clause.starts {t : List Char} (ht : Clause t) :
    ∃ c rest, t = c :: rest ∧ (c = '\x7b' ∨ isDefaultChar c = true) := by
  have name_first : ∀ {name : List Char} (x : List Char), RunOf isDefaultChar name →
      ∃ c rest, name ++ x = c :: rest ∧ (c = '\x7b' ∨ isDefaultChar c = true) := by
    intro name x hname
    obtain ⟨c, name, rfl⟩ := List.exists_cons_of_ne_nil hname.nonempty
    exact ⟨c, name ++ x, rfl, .inr (hname.all c List.mem_cons_self)⟩
  cases ht with
  | names hblock => exact ⟨_, _, rfl, .inl rfl⟩
  | nameAndNamespace hname hcomma hrest =>
    exact name_first _
      ⟨hname.nonempty, fun c hc => isDefaultChar_of_isNameChar (hname.all c hc)⟩
  | default hname =>
    obtain ⟨c, rest, h, hc⟩ := name_first [] hname
    exact ⟨c, rest, by rw [← h, List.append_nil], hc⟩
  | defaultAndNames hname hcomma hblock => exact name_first _ hname
  | «namespace» h =>
    cases h with
    | named => exact ⟨_, _, rfl, .inr (by decide)⟩

theorem Clause.stops_blank {t : List Char} (ht : Clause t) (r : List Char) :
    Stops isBlank (t ++ r) := by
  obtain ⟨c, rest, rfl, rfl | hc⟩ := ht.starts
  · simp [show isBlank '\x7b' = false from rfl]
  · simp [isBlank_of_isDefaultChar hc]

/-- Behind a name that a clause begins with and the blanks there stands a comma, or the `from` of
the clause with its literal. -/
theorem Clause.behind_name {clause source r name a rest : List Char} (hclause : Clause clause)
    (hsource : Source source) (hname : RunOf isNameChar name) (ha : RunOf isBlank a)
    (hrest : Stops isBlank rest) (h : clause ++ (source ++ r) = name ++ (a ++ rest)) :
    (∃ more, rest = ',' :: more) ∨ ∃ b literal, RunOf isBlank b ∧ Literal literal ∧
      rest = fromWord ++ (b ++ (literal ++ r)) := by
  have hdefault : ∀ {n : List Char}, RunOf isNameChar n → RunOf isDefaultChar n := fun hn =>
    ⟨hn.nonempty, fun c hc => isDefaultChar_of_isNameChar (hn.all c hc)⟩
  -- a character that no name holds does not start the clause
  have starts_ne : ∀ {c : Char} {x : List Char}, isNameChar c = false →
      c :: x ≠ name ++ (a ++ rest) := by
    intro c x hc heq
    obtain ⟨d, name, rfl⟩ := List.exists_cons_of_ne_nil hname.nonempty
    rw [(List.cons.inj heq).1, hname.all d List.mem_cons_self] at hc
    cases hc
  have behind : ∀ {n x : List Char}, RunOf isDefaultChar n → Stops isDefaultChar x →
      n ++ x = clause ++ (source ++ r) → x = a ++ rest := fun hn hx heq =>
    (hn.unique hx (hdefault hname) (ha.stops_name rest) (heq.trans h)).2
  have behind_comma : ∀ {n comma x : List Char}, RunOf isDefaultChar n → Comma comma →
      n ++ (comma ++ x) = clause ++ (source ++ r) → ∃ more, rest = ',' :: more := by
    intro n comma x hn hcomma heq
    have hx := behind hn (hcomma.stops x) heq
    obtain ⟨hb, -⟩ := hcomma
    have hdrop := congrArg (List.dropWhile isBlank) hx
    rw [List.append_assoc, List.cons_append,
      dropWhile_isBlank_append hb (by simp [show isBlank ',' = false from rfl]),
      dropWhile_isBlank_append ha.allBlank hrest] at hdrop
    exact ⟨_, hdrop.symm⟩
  cases hclause with
  | names hblock => exact absurd h (starts_ne (by decide))
  | nameAndNamespace hn hcomma hmore =>
    exact .inl (behind_comma (hdefault hn) hcomma (by rw [List.append_assoc, List.append_assoc]))
  | default hn =>
    obtain ⟨ha', hb, hliteral⟩ := hsource
    refine .inr ⟨_, _, hb, hliteral, ?_⟩
    have hx := behind hn (by rw [List.append_assoc]; exact ha'.stops_name _) rfl
    have hdrop := congrArg (List.dropWhile isBlank) hx
    rw [List.append_assoc, List.append_assoc, List.append_assoc,
      dropWhile_isBlank_append ha'.allBlank
        (by simp [fromWord, show isBlank 'f' = false from rfl]),
      dropWhile_isBlank_append ha.allBlank hrest] at hdrop
    exact hdrop.symm
  | defaultAndNames hn hcomma hblock =>
    exact .inl (behind_comma hn hcomma (by rw [List.append_assoc, List.append_assoc]))
  | «namespace» hn =>
    cases hn with
    | named => exact absurd h (starts_ne (by decide))

theorem runOf_typeWord : RunOf isNameChar typeWord :=
  ⟨by simp [typeWord], List.all_eq_true.1 rfl⟩

/-- Where `type` can be read as a modifier, a clause that begins with it is not read on. -/
theorem type_bound?_eq_none {clause source r : List Char} (hclause : Clause clause)
    (hsource : Source source) :
    (dropWord? typeWord (clause ++ (source ++ r)) >>= blanks1? >>= bound?) = none := by
  cases htype : dropWord? typeWord (clause ++ (source ++ r)) with
  | none => rfl
  | some u =>
    cases hblanks : blanks1? u with
    | none => simp [hblanks]
    | some v =>
      obtain ⟨a, rfl, ha, hv⟩ := many1?_eq_some hblanks
      have hnone : bound? v = none := by
        rcases hclause.behind_name hsource runOf_typeWord ha hv (dropWord?_eq_some htype) with
          ⟨more, rfl⟩ | ⟨b, literal, hb, hliteral, rfl⟩
        · exact bound?_eq_none (by decide) (by decide) _
        · exact bound?_from_eq_none hb hliteral r
      simp [hblanks, hnone]

/-- A sentence in front of a text is what the reader takes off it, unless a semicolon follows that
could be its own. -/
theorem statement?_append {t r : List Char} (ht : Sentence t) (hr : Closes t r) :
    statement? (t ++ r) = some r := by
  cases ht with
  | bound hkeyword hclause hsource =>
    rename_i keyword clause source
    have hbound := bound?_append (r := r) hclause hsource (by
      rw [← List.append_assoc] at hr
      exact hr.of_append hsource.ne_nil)
    have hstart := hclause.stops_blank (source ++ r)
    cases hkeyword with
    | «import» ha =>
      have htype := type_bound?_eq_none (r := r) hclause hsource
      rw [statement?, List.append_assoc, List.append_assoc, List.append_assoc, dropWord?_append]
      simp only [Option.bind_eq_bind, Option.bind_some, blanks1?, many1?_append ha hstart, hbound]
      simp only [Option.bind_eq_bind, blanks1?] at htype
      rw [htype]
      rfl
    | importType ha hb =>
      rename_i a b
      have htype : Stops isBlank (typeWord ++ (b ++ (clause ++ (source ++ r)))) := by
        simp [typeWord, show isBlank 't' = false from rfl]
      simp [statement?, blanks1?, many1?_append ha htype, many1?_append hb hstart, hbound]
  | bare ha hliteral =>
    have hread := literal?_append (r := r) hliteral (by
      rw [← List.append_assoc] at hr
      exact hr.of_append hliteral.ne_nil)
    cases hliteral with
    | quoted hq hbody hq' hstop =>
      rename_i q q' body stop
      have hstart : Stops isBlank (q :: (body ++ (q' :: stop ++ r))) := by
        simp [isBlank_of_isQuote hq]
      have htype : q ≠ 't' := fun h => absurd (h ▸ hq) (by decide)
      have hbound := bound?_eq_none (isDefaultChar_of_isQuote hq)
        (fun h => absurd (h ▸ hq) (by decide)) (body ++ (q' :: stop ++ r))
      simp only [List.cons_append, List.append_assoc] at hread hstart hbound ⊢
      simp [statement?, blanks1?, many1?_append ha hstart, hbound, hread, typeWord, dropWord?,
        Ne.symm htype]

end Statement
end ImportOrder
