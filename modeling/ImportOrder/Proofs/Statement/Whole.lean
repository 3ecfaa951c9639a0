import ImportOrder.Comment
import ImportOrder.Proofs.Statement.Recognition

/-!
# ImportOrder.Proofs.Statement.Whole

What follows a statement on its line. A statement is whole if it ends in a semicolon, or if the rest of
its line is blank or goes on with a semicolon or a comment. The search does not look at the rest: a
sentence of the grammar that starts a line is found whatever goes on behind it, so a longer form that
begins like a sentence is cut behind that beginning (`statement_torn`). The statements of a text are
whole exactly if its sentences at line starts are, those inside other statements apart:
`scan_whole_iff`.
-/

namespace ImportOrder
namespace Statement

open Text

/-- The rest of the line is blank, or its first content is a semicolon or opens a comment. -/
def endsHere (rest : List Char) : Bool :=
  let content := trimStart (splitLine rest).1
  content.isEmpty || content.head? == some ';' || Comment.isLineComment content ||
    Comment.opensBlock content

/-- A text up to the end of a statement, and what follows there. -/
def EndsWhole (upto rest : List Char) : Prop :=
  upto.getLast? = some ';' ∨ endsHere rest = true

instance (upto rest : List Char) : Decidable (EndsWhole upto rest) :=
  inferInstanceAs (Decidable (_ ∨ _))

/-- The statement at a span of a text is whole. -/
def IsWhole (text : List Char) (span : Nat × Nat) : Prop :=
  ∃ upto rest, cut? span.2 text = some (upto, rest) ∧ EndsWhole upto rest

theorem endsHere_of_semicolon {rest : List Char} (h : rest.head? = some ';') :
    endsHere rest = true := by
  cases rest with
  | nil => cases h
  | cons c rest =>
    cases h
    rfl

/-- An offset is inside a span. -/
def Inside (offset : Nat) (span : Nat × Nat) : Prop :=
  span.1 < offset ∧ offset < span.2

namespace Derivation

variable {text : List Char}

/-- The sentence of a derivation is whole where it stands. -/
def IsWhole (d : Derivation text) : Prop :=
  EndsWhole d.sentence d.rest

/-- The sentence takes the semicolon that follows it, if it has none. -/
def IsClosed (d : Derivation text) : Prop :=
  d.closedStop = d.stop

theorem cut?_stop (d : Derivation text) :
    cut? d.stop text = some (d.before ++ (d.indent ++ d.sentence), d.rest) := by
  have hsize : size (d.before ++ (d.indent ++ d.sentence)) = d.stop := by
    rw [size_append, size_append, stop, start, Nat.add_assoc]
  have htext : d.before ++ (d.indent ++ d.sentence) ++ d.rest = text := by
    rw [List.append_assoc, List.append_assoc]
    exact d.text_eq.symm
  have hcut := cut?_append (d.before ++ (d.indent ++ d.sentence)) d.rest
  rwa [hsize, htext] at hcut

theorem getLast?_upto (d : Derivation text) :
    (d.before ++ (d.indent ++ d.sentence)).getLast? = d.sentence.getLast? := by
  rw [← List.append_assoc, List.getLast?_append_of_ne_nil _ d.isSentence.endsVisible.ne_nil]

theorem isWhole_span_iff (d : Derivation text) :
    Statement.IsWhole text (d.start, d.stop) ↔ d.IsWhole := by
  simp only [Statement.IsWhole, d.cut?_stop, Option.some.injEq, Prod.mk.injEq]
  constructor
  · rintro ⟨upto, rest, ⟨rfl, rfl⟩, hwhole⟩
    rwa [EndsWhole, d.getLast?_upto] at hwhole
  · intro hwhole
    refine ⟨_, _, ⟨rfl, rfl⟩, ?_⟩
    rwa [EndsWhole, d.getLast?_upto]

/-- A sentence without a semicolon in front of one is whole in any case. -/
theorem isWhole_of_not_isClosed {d : Derivation text} (h : ¬ d.IsClosed) : d.IsWhole := by
  rw [IsClosed, closedStop] at h
  split at h
  · rename_i hopen
    exact .inr (endsHere_of_semicolon hopen.2)
  · exact absurd rfl h

theorem lineStart_eq_of_start_eq {d d' : Derivation text} (h : d.start = d'.start) :
    d.lineStart = d'.lineStart := by
  rcases Nat.lt_trichotomy d.lineStart d'.lineStart with hlt | heq | hgt
  · have := start_lt_lineStart hlt
    have := d'.lineStart_le_start
    omega
  · exact heq
  · have := start_lt_lineStart hgt
    have := d.lineStart_le_start
    omega

end Derivation

section Chain

variable {text : List Char} {offset : Nat} {spans : List (Nat × Nat)}

/-- A span found by a scan is the closed derivation of a line that starts in no span. -/
theorem Chained.outside (h : Chained text offset spans) :
    ∀ span ∈ spans, ∃ d : Derivation text, d.IsClosed ∧ offset ≤ d.lineStart ∧
      span = (d.start, d.stop) ∧ ∀ other ∈ spans, ¬ Inside d.lineStart other := by
  induction h with
  | done => simp
  | step hspan hmore ih =>
    obtain ⟨d, hd, rfl⟩ := isFirst_of_firstSpanFrom? hspan
    have hle := d.lineStart_le_start
    have hlt := d.start_lt_stop
    have hoffset := hd.offset_le
    -- The other spans are behind the end of the first one, and so are the lines that they start.
    intro span hmem
    rcases List.mem_cons.1 hmem with rfl | hmem
    · refine ⟨d, (hd.agree d rfl).2, hoffset, rfl, fun other hother hinside => ?_⟩
      rcases List.mem_cons.1 hother with rfl | hother
      · exact absurd hinside.1 (by simpa using hle)
      · obtain ⟨d', hd', rfl⟩ := hmore.derivation other hother
        have := d'.lineStart_le_start
        have := hinside.1
        simp only at this hd'
        omega
    · obtain ⟨d', hclosed, hfrom, rfl, hothers⟩ := ih span hmem
      simp only at hfrom
      refine ⟨d', hclosed, by omega, rfl, fun other hother hinside => ?_⟩
      rcases List.mem_cons.1 hother with rfl | hother
      · have := hinside.2
        simp only at this
        omega
      · exact hothers other hother hinside

end Chain

/-- What follows a sentence plays no part: the search takes it, and the semicolon right behind it if it
has none. -/
theorem mem_spans_of_derivation {text : List Char} (d : Derivation text)
    (hd : ∀ span ∈ (scan text).spans, ¬ Inside d.lineStart span) :
    (d.start, d.closedStop) ∈ (scan text).spans := by
  have hchain := chained_scan text
  rcases hchain.covers d (Nat.zero_le _) with ⟨span, hspan, d', rfl, hline⟩ | ⟨span, hspan, hinside⟩
  · obtain ⟨e, hclosed, -, he, -⟩ := hchain.outside _ hspan
    have hstart : e.start = d'.start := (Prod.mk.inj he).1.symm
    have hline' : e.lineStart = d.lineStart :=
      (Derivation.lineStart_eq_of_start_eq hstart).trans hline
    obtain ⟨hstart', hstop⟩ := Derivation.eq_of_lineStart_eq hline'
    rw [he] at hspan
    rwa [← hstart', ← hstop, show e.closedStop = e.stop from hclosed]
  · exact absurd hinside (hd span hspan)

/-- Whatever follows a sentence that starts a line outside of the statements of a text, the sentence is
one of these statements. So they are whole exactly if all such sentences are. -/
theorem scan_whole_iff (text : List Char) :
    (∀ d : Derivation text, (∀ span ∈ (scan text).spans, ¬ Inside d.lineStart span) →
      (d.start, d.closedStop) ∈ (scan text).spans) ∧
    ((∀ span ∈ (scan text).spans, IsWhole text span) ↔
      ∀ d : Derivation text, (∀ span ∈ (scan text).spans, ¬ Inside d.lineStart span) →
        d.IsWhole) := by
  refine ⟨mem_spans_of_derivation, fun hall d hd => ?_, fun hall span hspan => ?_⟩
  · by_cases hclosed : d.IsClosed
    · have hmem := mem_spans_of_derivation d hd
      rw [show d.closedStop = d.stop from hclosed] at hmem
      exact d.isWhole_span_iff.1 (hall _ hmem)
    · exact Derivation.isWhole_of_not_isClosed hclosed
  · obtain ⟨d, -, -, rfl, hd⟩ := (chained_scan text).outside span hspan
    exact d.isWhole_span_iff.2 (hall d hd)

/-- An import with attributes is none of the forms of the grammar, and yet its beginning is found as a
statement. -/
theorem statement_torn :
    ∃ span ∈ (scan "import a from 'a' with \x7b type: 'json' \x7d;\n".toList).spans,
      ¬ IsWhole "import a from 'a' with \x7b type: 'json' \x7d;\n".toList span := by
  have hcut : cut? 17 "import a from 'a' with \x7b type: 'json' \x7d;\n".toList =
      some ("import a from 'a'".toList, " with \x7b type: 'json' \x7d;\n".toList) := by
    decide +kernel
  refine ⟨(0, 17), by decide +kernel, ?_⟩
  rintro ⟨upto, rest, hspan, hwhole⟩
  rw [hcut] at hspan
  cases hspan
  exact absurd hwhole (by decide +kernel)

end Statement
end ImportOrder
