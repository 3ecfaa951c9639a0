import ImportOrder.Proofs.Statement.Scan

/-!
# ImportOrder.Proofs.Statement.Recognition

The search for statements finds exactly what the grammar derives. A `Derivation` is a sentence that
starts a line of a text, spaces and tabs before it apart.

* `firstSpanFrom?_eq_none_iff` and `firstSpanFrom?_eq_some_iff`: the search from an offset finds the
  first line at or behind it that has a derivation. The derivations of one line differ at most by a
  semicolon at the end, which the search takes (`Derivation.IsFirst`).
* `chained_scan`: a scan goes from each statement to the first one behind it. What holds of its
  spans follows by induction along that chain.
* `scan_recognizes` puts the parts together.
-/

namespace ImportOrder
namespace Statement

open Text

/-! ## Places of a text -/

theorem isPrefix_of_size_le {a b s : List Char} (ha : a <+: s) (hb : b <+: s)
    (h : size a ≤ size b) : a <+: b := by
  rcases List.prefix_or_prefix_of_prefix ha hb with hab | ⟨c, rfl⟩
  · exact hab
  · have hc := length_le_size c
    rw [size_append] at h
    have hnil : c = [] := List.length_eq_zero_iff.1 (by omega)
    simp [hnil]

theorem eq_of_size_eq {a b s : List Char} (ha : a <+: s) (hb : b <+: s) (h : size a = size b) :
    a = b :=
  (isPrefix_of_size_le ha hb (Nat.le_of_eq h)).eq_of_length_le
    (isPrefix_of_size_le hb ha (Nat.le_of_eq h.symm)).length_le

theorem not_endsLine_append {t : List Char} (ht : EndsVisible t) (a : List Char) :
    ¬ EndsLine (a ++ t) := by
  obtain ⟨u, c, rfl, hc⟩ := ht
  rintro (hnil | ⟨v, hv⟩)
  · simp at hnil
  · rw [← List.append_assoc] at hv
    obtain ⟨-, hlast⟩ := List.append_inj' hv rfl
    cases hlast
    exact absurd hc (by decide)

/-- A line starts behind `b`. `atStart` says whether one starts before `b`. -/
def StartsLine (atStart : Bool) (b : List Char) : Prop :=
  b = [] ∧ atStart = true ∨ ∃ t, b = t ++ ['\n']

theorem startsLine_true {b : List Char} : StartsLine true b ↔ EndsLine b := by
  simp [StartsLine, EndsLine]

theorem startsLine_cons {atStart : Bool} {c : Char} {b : List Char} :
    StartsLine atStart (c :: b) ↔ StartsLine (c == '\n') b := by
  cases b with
  | nil =>
    have hsymm : '\n' = c ↔ c = '\n' := eq_comm
    simp [StartsLine, List.cons_eq_append_iff, hsymm]
  | cons d b => simp [StartsLine, List.cons_eq_append_iff]

theorem startsLine_append {atStart here : Bool} {a b : List Char}
    (h : here = true ↔ StartsLine atStart a) :
    StartsLine atStart (a ++ b) ↔ StartsLine here b := by
  induction a generalizing atStart with
  | nil =>
    have heq : here = atStart := by
      rw [Bool.eq_iff_iff, h]
      simp [StartsLine]
    rw [heq, List.nil_append]
  | cons c a ih =>
    rw [List.cons_append, startsLine_cons]
    exact ih (h.trans startsLine_cons)

/-- What `seek` skips: the shortest start of the text that reaches the offset. -/
theorem seek_go_spec (offset pos : Nat) (atStart : Bool) (s : List Char) :
    ∃ skipped, s = skipped ++ (seek.go offset pos atStart s).2.2 ∧
      (seek.go offset pos atStart s).1 = pos + size skipped ∧
      ((seek.go offset pos atStart s).2.1 = true ↔ StartsLine atStart skipped) ∧
      (offset ≤ pos + size skipped ∨ (seek.go offset pos atStart s).2.2 = []) ∧
      ∀ b, b <+: s → offset ≤ pos + size b → skipped <+: b := by
  induction s generalizing pos atStart with
  | nil => exact ⟨[], by simp [seek.go, StartsLine]⟩
  | cons c s ih =>
    rw [seek.go]
    split
    · rename_i hle
      exact ⟨[], by simp [StartsLine, hle]⟩
    · rename_i hlt
      obtain ⟨skipped, hs, hpos, hstart, hreach, hleast⟩ := ih (pos + c.utf8Size) (c == '\n')
      refine ⟨c :: skipped, congrArg (c :: ·) hs, by rw [hpos, size_cons]; omega,
        hstart.trans startsLine_cons.symm, ?_, fun b hb hoffset => ?_⟩
      · rwa [size_cons, ← Nat.add_assoc]
      · -- a start that reaches the offset holds the first character
        cases b with
        | nil => rw [size_nil] at hoffset; omega
        | cons d b =>
          obtain ⟨rfl, hb'⟩ := List.cons_prefix_cons.1 hb
          rw [size_cons] at hoffset
          exact List.cons_prefix_cons.2 ⟨rfl, hleast b hb' (by omega)⟩

theorem seek_spec (offset : Nat) (s : List Char) :
    ∃ skipped, s = skipped ++ (seek offset s).2.2 ∧ (seek offset s).1 = size skipped ∧
      ((seek offset s).2.1 = true ↔ EndsLine skipped) ∧
      (offset ≤ size skipped ∨ (seek offset s).2.2 = []) ∧
      ∀ b, b <+: s → offset ≤ size b → skipped <+: b := by
  simpa only [seek, Nat.zero_add, startsLine_true] using seek_go_spec offset 0 true s

/-! ## Sentences in front of a text -/

/-- What is left behind a sentence once the semicolon that follows it is taken. -/
def closedRest (t r : List Char) : List Char :=
  if t.getLast? = some ';' then r else dropSemicolon r

theorem dropSemicolon_of_stops {r : List Char} (h : Stops (· == ';') r) : dropSemicolon r = r := by
  unfold dropSemicolon
  split
  · simp at h
  · rfl

theorem Literal.close {t : List Char} (ht : Literal t) (h : t.getLast? ≠ some ';') :
    Literal (t ++ [';']) := by
  obtain ⟨hq, hbody, hq', hstop⟩ := ht
  rename_i q q' body stop
  rcases hstop with rfl | rfl
  · simpa using Literal.quoted hq hbody hq' (.inr rfl)
  · rw [← List.cons_append, List.getLast?_append_of_ne_nil _ (by simp)] at h
    exact absurd rfl h

theorem Sentence.close {t : List Char} (ht : Sentence t) (h : t.getLast? ≠ some ';') :
    Sentence (t ++ [';']) := by
  cases ht with
  | bound hkeyword hclause hsource =>
    cases hsource with
    | «from» ha hb hliteral =>
      simp only [← List.append_assoc, List.getLast?_append_of_ne_nil _ hliteral.ne_nil] at h
      simpa using Sentence.bound hkeyword hclause (.from ha hb (hliteral.close h))
  | bare ha hliteral =>
    simp only [← List.append_assoc, List.getLast?_append_of_ne_nil _ hliteral.ne_nil] at h
    simpa using Sentence.bare ha (hliteral.close h)

/-- Of a text that starts with a sentence the reader takes the sentence, and the semicolon that
follows if the sentence has none. -/
theorem statement?_of_sentence {t : List Char} (ht : Sentence t) (r : List Char) :
    statement? (t ++ r) = some (closedRest t r) := by
  unfold closedRest
  split
  · rename_i hlast
    exact statement?_append ht (.inl hlast)
  · rename_i hlast
    cases r with
    | nil => exact statement?_append ht (.inr (stops_nil _))
    | cons c r =>
      by_cases hc : c = ';'
      · subst hc
        have hclosed := statement?_append (ht.close hlast) (r := r) (.inl (by simp))
        rwa [List.append_assoc] at hclosed
      · have hstops : Stops (· == ';') (c :: r) := by simpa using hc
        rw [dropSemicolon_of_stops hstops]
        exact statement?_append ht (.inr hstops)

theorem Sentence.stops_indent {t : List Char} (ht : Sentence t) (r : List Char) :
    Stops isIndent (t ++ r) := by
  obtain ⟨c, rest, -, rfl⟩ := ht.starts
  simp [importWord, show isIndent 'i' = false from rfl]

theorem atLineStart?_of_sentence {indent t : List Char} (hindent : ∀ c ∈ indent, isIndent c = true)
    (ht : Sentence t) (r : List Char) :
    ∃ f, atLineStart? (indent ++ (t ++ r)) = some f ∧ f.before = [] := by
  rw [atLineStart?, dropWhile_append_of_stops hindent (ht.stops_indent r),
    statement?_of_sentence ht r]
  exact ⟨_, rfl, rfl⟩

theorem first?_of_sentence {atStart : Bool} {b indent t : List Char} (hb : StartsLine atStart b)
    (hindent : ∀ c ∈ indent, isIndent c = true) (ht : Sentence t) (r : List Char) :
    ∃ f, first? atStart (b ++ (indent ++ (t ++ r))) = some f ∧ f.before <+: b := by
  induction b generalizing atStart with
  | nil =>
    obtain ⟨f, hf, hbefore⟩ := atLineStart?_of_sentence hindent ht r
    have hstart : atStart = true := by simpa [StartsLine] using hb
    refine ⟨f, ?_, hbefore ▸ List.nil_prefix⟩
    rw [List.nil_append]
    cases hs : indent ++ (t ++ r) with
    | nil =>
      obtain ⟨c, rest, -, rfl⟩ := ht.starts
      simp [importWord] at hs
    | cons c s =>
      rw [hs] at hf
      rw [first?, hstart, if_pos rfl, hf]
  | cons c b ih =>
    obtain ⟨f, hf, hbefore⟩ := ih (startsLine_cons.1 hb)
    rw [List.cons_append, first?]
    split
    · -- a statement on the first line has nothing before it
      rename_i found hfound
      refine ⟨found, rfl, ?_⟩
      split at hfound
      · simp only [atLineStart?, Option.map_eq_some_iff] at hfound
        obtain ⟨rest, -, rfl⟩ := hfound
        exact List.nil_prefix
      · cases hfound
    · rw [hf]
      exact ⟨_, rfl, List.cons_prefix_cons.2 ⟨rfl, hbefore⟩⟩

/-! ## Derivations -/

/-- A sentence of the grammar at the start of a line of a text, behind spaces and tabs. -/
structure Derivation (text : List Char) where
  before : List Char
  indent : List Char
  sentence : List Char
  rest : List Char
  text_eq : text = before ++ (indent ++ (sentence ++ rest))
  endsLine : EndsLine before
  isIndent : ∀ c ∈ indent, isIndent c = true
  isSentence : Sentence sentence

namespace Derivation

variable {text : List Char}

/-- The offset of the line that the sentence starts. -/
def lineStart (d : Derivation text) : Nat :=
  size d.before

/-- The offset of the keyword. -/
def start (d : Derivation text) : Nat :=
  size d.before + size d.indent

/-- The offset behind the sentence. -/
def stop (d : Derivation text) : Nat :=
  d.start + size d.sentence

/-- The offset behind the sentence and the semicolon that follows it, if the sentence has none. -/
def closedStop (d : Derivation text) : Nat :=
  if d.sentence.getLast? ≠ some ';' ∧ d.rest.head? = some ';' then d.stop + 1 else d.stop

theorem before_isPrefix (d : Derivation text) : d.before <+: text :=
  ⟨_, d.text_eq.symm⟩

theorem start_isPrefix (d : Derivation text) : d.before ++ d.indent <+: text :=
  ⟨d.sentence ++ d.rest, by rw [List.append_assoc]; exact d.text_eq.symm⟩

theorem stop_isPrefix (d : Derivation text) : d.before ++ (d.indent ++ d.sentence) <+: text :=
  ⟨d.rest, by rw [List.append_assoc, List.append_assoc]; exact d.text_eq.symm⟩

theorem size_text (d : Derivation text) : size text = d.stop + size d.rest := by
  conv_lhs => rw [d.text_eq]
  simp only [size_append, stop, start]
  omega

theorem lineStart_le_start (d : Derivation text) : d.lineStart ≤ d.start :=
  Nat.le_add_right _ _

theorem start_lt_stop (d : Derivation text) : d.start < d.stop := by
  have hlength := length_le_size d.sentence
  have hpos : 0 < d.sentence.length := List.length_pos_iff.2 d.isSentence.endsVisible.ne_nil
  rw [stop]
  omega

theorem closedStop_eq (d : Derivation text) :
    d.closedStop + size (closedRest d.sentence d.rest) = size text := by
  rw [d.size_text, closedStop, closedRest]
  by_cases hlast : d.sentence.getLast? = some ';'
  · simp [hlast]
  · cases hrest : d.rest with
    | nil => simp [hlast, dropSemicolon]
    | cons c r =>
      by_cases hc : c = ';'
      · subst hc
        simp only [hlast, ne_eq, not_false_eq_true, List.head?_cons, and_self, if_true, if_false,
          dropSemicolon, size_cons, show Char.utf8Size ';' = 1 from rfl]
        omega
      · have hstops : Stops (· == ';') (c :: r) := by simpa using hc
        simp [hlast, hc, dropSemicolon_of_stops hstops]

theorem stop_ne_lineStart (d d' : Derivation text) : d.stop ≠ d'.lineStart := by
  intro h
  have heq : d.before ++ (d.indent ++ d.sentence) = d'.before := by
    refine eq_of_size_eq d.stop_isPrefix d'.before_isPrefix ?_
    rw [size_append, size_append, ← Nat.add_assoc]
    exact h
  have hends := d'.endsLine
  rw [← heq, ← List.append_assoc] at hends
  exact not_endsLine_append d.isSentence.endsVisible _ hends

theorem start_lt_lineStart {d d' : Derivation text} (h : d.lineStart < d'.lineStart) :
    d.start < d'.lineStart := by
  by_contra hle
  obtain ⟨x, hx⟩ := isPrefix_of_size_le d.before_isPrefix d'.before_isPrefix (Nat.le_of_lt h)
  have hpre : d'.before <+: d.before ++ d.indent := by
    refine isPrefix_of_size_le d'.before_isPrefix d.start_isPrefix ?_
    rw [size_append]
    exact Nat.not_lt.1 hle
  rw [← hx, List.prefix_append_right_inj] at hpre
  have hnl : '\n' ∈ x := by
    rcases d'.endsLine with hnil | ⟨t, ht⟩
    · rw [lineStart, lineStart, hnil, size_nil] at h
      omega
    · rcases List.eq_nil_or_concat x with rfl | ⟨y, c, rfl⟩
      · rw [List.append_nil] at hx
        rw [lineStart, lineStart, hx] at h
        omega
      · rw [← hx, List.concat_eq_append, ← List.append_assoc] at ht
        obtain ⟨-, hlast⟩ := List.append_inj' ht rfl
        cases hlast
        simp
  exact absurd (d.isIndent _ (hpre.subset hnl)) (by decide)

/-- Derivations of one line have the same keyword, and the same end but for a semicolon. -/
theorem eq_of_lineStart_eq {d d' : Derivation text} (h : d.lineStart = d'.lineStart) :
    d.start = d'.start ∧ d.closedStop = d'.closedStop := by
  have hbefore : d.before = d'.before := eq_of_size_eq d.before_isPrefix d'.before_isPrefix h
  have hline : d.indent ++ (d.sentence ++ d.rest) = d'.indent ++ (d'.sentence ++ d'.rest) := by
    have htext := d.text_eq.symm.trans d'.text_eq
    rw [hbefore] at htext
    exact List.append_cancel_left htext
  have hbody : d.sentence ++ d.rest = d'.sentence ++ d'.rest := by
    have hdrop := congrArg (List.dropWhile Text.isIndent) hline
    rwa [dropWhile_append_of_stops d.isIndent (d.isSentence.stops_indent _),
      dropWhile_append_of_stops d'.isIndent (d'.isSentence.stops_indent _)] at hdrop
  have hindent : d.indent = d'.indent := by
    rw [hbody] at hline
    exact List.append_cancel_right hline
  refine ⟨by rw [start, start, hbefore, hindent], ?_⟩
  have hrest : closedRest d.sentence d.rest = closedRest d'.sentence d'.rest := by
    have hread := statement?_of_sentence d.isSentence d.rest
    rw [hbody, statement?_of_sentence d'.isSentence d'.rest] at hread
    exact (Option.some.inj hread).symm
  have hsize := d.closedStop_eq.trans d'.closedStop_eq.symm
  rw [hrest] at hsize
  omega

/-- The derivation of the first line at or behind an offset that has one, up to the semicolon. -/
structure IsFirst (d : Derivation text) (offset : Nat) : Prop where
  offset_le : offset ≤ d.lineStart
  least : ∀ d' : Derivation text, offset ≤ d'.lineStart → d.lineStart ≤ d'.lineStart
  agree : ∀ d' : Derivation text, d'.lineStart = d.lineStart →
    d'.start = d.start ∧ d'.closedStop = d.stop

end Derivation

/-! ## The search from an offset -/

section Search

variable {text skipped s : List Char} {atStart : Bool}

theorem derivation_of_first? (htext : text = skipped ++ s)
    (hstart : atStart = true ↔ EndsLine skipped) {f : Found} (h : first? atStart s = some f) :
    ∃ d : Derivation text, d.before = skipped ++ f.before ∧ d.indent = f.indent ∧
      d.sentence = f.text ∧ d.closedStop = d.stop := by
  obtain ⟨hindent, hread, hline⟩ := first?_spec h
  obtain ⟨t, ht, hsentence⟩ := sentence_of_statement? hread
  rw [← List.append_cancel_right ht] at hsentence
  have hends : EndsLine (skipped ++ f.before) := by
    rw [← startsLine_true, startsLine_append (hstart.trans startsLine_true.symm)]
    exact hline.imp_left And.symm
  let d : Derivation text :=
    { before := skipped ++ f.before
      indent := f.indent
      sentence := f.text
      rest := f.rest
      text_eq := by rw [htext, (first?_eq h).1]; simp
      endsLine := hends
      isIndent := hindent
      isSentence := hsentence }
  refine ⟨d, rfl, rfl, rfl, ?_⟩
  have hclosed : closedRest d.sentence d.rest = d.rest := by
    rw [statement?_of_sentence hsentence] at hread
    exact Option.some.inj hread
  have hsize := d.closedStop_eq
  rw [d.size_text, hclosed] at hsize
  omega

/-- The search does not pass a derivation. -/
theorem first?_of_derivation (htext : text = skipped ++ s)
    (hstart : atStart = true ↔ EndsLine skipped) (d : Derivation text)
    (hskipped : skipped <+: d.before) :
    ∃ f, first? atStart s = some f ∧ skipped ++ f.before <+: d.before := by
  obtain ⟨b, hb⟩ := hskipped
  have hline : StartsLine atStart b := by
    rw [← startsLine_append (hstart.trans startsLine_true.symm), hb, startsLine_true]
    exact d.endsLine
  have hs : s = b ++ (d.indent ++ (d.sentence ++ d.rest)) := by
    have h := htext.symm.trans d.text_eq
    rw [← hb, List.append_assoc] at h
    exact List.append_cancel_left h
  obtain ⟨f, hf, hbefore⟩ := first?_of_sentence hline d.isIndent d.isSentence d.rest
  refine ⟨f, hs ▸ hf, ?_⟩
  rwa [← hb, List.prefix_append_right_inj]

end Search

section From

variable {text : List Char} {offset : Nat}

theorem firstSpanFrom?_eq_none_iff :
    firstSpanFrom? offset text = none ↔ ∀ d : Derivation text, d.lineStart < offset := by
  obtain ⟨skipped, htext, -, hstart, hreach, hleast⟩ := seek_spec offset text
  rw [firstSpanFrom?, Option.map_eq_none_iff]
  constructor
  · intro h d
    by_contra hle
    obtain ⟨f, hf, -⟩ := first?_of_derivation htext hstart d
      (hleast d.before d.before_isPrefix (Nat.not_lt.1 hle))
    rw [h] at hf
    cases hf
  · intro h
    cases hf : first? (seek offset text).2.1 (seek offset text).2.2 with
    | none => rfl
    | some f =>
      obtain ⟨d, hbefore, -⟩ := derivation_of_first? htext hstart hf
      have hlt := h d
      rcases hreach with hreach | hnil
      · rw [Derivation.lineStart, hbefore, size_append] at hlt
        omega
      · rw [hnil] at hf
        cases hf

theorem isFirst_of_firstSpanFrom? {span : Nat × Nat} (h : firstSpanFrom? offset text = some span) :
    ∃ d : Derivation text, d.IsFirst offset ∧ span = (d.start, d.stop) := by
  obtain ⟨skipped, htext, hpos, hstart, hreach, hleast⟩ := seek_spec offset text
  rw [firstSpanFrom?, Option.map_eq_some_iff] at h
  obtain ⟨f, hf, rfl⟩ := h
  obtain ⟨d, hbefore, hindent, hsentence, hclosed⟩ := derivation_of_first? htext hstart hf
  have hfrom : offset ≤ d.lineStart := by
    rcases hreach with hreach | hnil
    · rw [Derivation.lineStart, hbefore, size_append]
      omega
    · rw [hnil] at hf
      cases hf
  refine ⟨d, ⟨hfrom, fun d' hd' => ?_, fun d' hd' => ?_⟩, ?_⟩
  · obtain ⟨f', hf', hpre⟩ := first?_of_derivation htext hstart d'
      (hleast d'.before d'.before_isPrefix hd')
    rw [hf] at hf'
    cases hf'
    rw [← hbefore] at hpre
    obtain ⟨x, hx⟩ := hpre
    rw [Derivation.lineStart, Derivation.lineStart, ← hx, size_append]
    omega
  · obtain ⟨hstart', hstop⟩ := Derivation.eq_of_lineStart_eq hd'
    exact ⟨hstart', hstop.trans hclosed⟩
  · simp only [Derivation.start, Derivation.stop, hbefore, hindent, hsentence, hpos, size_append]

theorem firstSpanFrom?_eq_some_iff {span : Nat × Nat} :
    firstSpanFrom? offset text = some span ↔
      ∃ d : Derivation text, d.IsFirst offset ∧ span = (d.start, d.stop) := by
  refine ⟨isFirst_of_firstSpanFrom?, ?_⟩
  rintro ⟨d, hd, rfl⟩
  cases hfound : firstSpanFrom? offset text with
  | none => exact absurd (firstSpanFrom?_eq_none_iff.1 hfound d) (Nat.not_lt.2 hd.offset_le)
  | some span =>
    obtain ⟨d', hd', rfl⟩ := isFirst_of_firstSpanFrom? hfound
    have hline : d'.lineStart = d.lineStart :=
      Nat.le_antisymm (hd'.least d hd.offset_le) (hd.least d' hd'.offset_le)
    obtain ⟨hstart, hstop⟩ := hd.agree d' hline
    rw [hstart, ← hstop, (hd'.agree d' rfl).2]

end From

/-! ## The scan -/

/-- Spans found one after the other, each by a search from the end of the one before. -/
inductive Chained (text : List Char) : Nat → List (Nat × Nat) → Prop
  | done {offset : Nat} (h : firstSpanFrom? offset text = none) : Chained text offset []
  | step {offset : Nat} {span : Nat × Nat} {more : List (Nat × Nat)}
      (h : firstSpanFrom? offset text = some span) (hmore : Chained text span.2 more) :
      Chained text offset (span :: more)

theorem firstSpanFrom?_append {skipped s : List Char} {atStart : Bool}
    (hstart : atStart = true ↔ EndsLine skipped) :
    firstSpanFrom? (size skipped) (skipped ++ s) = (first? atStart s).map fun found =>
      (size skipped + size found.before + size found.indent,
        size skipped + size found.before + size found.indent + size found.text) := by
  obtain ⟨skipped', htext, hpos, hstart', hreach, hleast⟩ :=
    seek_spec (size skipped) (skipped ++ s)
  have hpre : skipped' <+: skipped := hleast skipped (List.prefix_append _ _) (Nat.le_refl _)
  have heq : skipped' = skipped := by
    obtain ⟨x, rfl⟩ := hpre
    rcases hreach with hreach | hnil
    · rw [size_append] at hreach
      have hx := length_le_size x
      rw [List.length_eq_zero_iff.1 (show x.length = 0 by omega), List.append_nil]
    · rw [hnil, List.append_nil, List.append_assoc] at htext
      rw [(List.append_eq_nil_iff.1 (List.append_right_eq_self.1 htext)).1, List.append_nil]
  subst heq
  have hs : (seek (size skipped') (skipped' ++ s)).2.2 = s := (List.append_cancel_left htext).symm
  have hat : (seek (size skipped') (skipped' ++ s)).2.1 = atStart := by
    rw [Bool.eq_iff_iff, hstart', hstart]
  simp only [firstSpanFrom?, hs, hat, hpos]

theorem chained_scanFrom (atStart : Bool) (s : List Char) :
    ∀ skipped : List Char, (atStart = true ↔ EndsLine skipped) →
      Chained (skipped ++ s) (size skipped)
        (spansFrom (size skipped) (scanFrom atStart s).occurrences) := by
  fun_induction scanFrom atStart s with
  | case1 atStart s h =>
    intro skipped hstart
    refine .done ?_
    rw [firstSpanFrom?_append hstart, h]
    rfl
  | case2 atStart s found h more ih =>
    intro skipped hstart
    have hend : size (skipped ++ (found.before ++ (found.indent ++ found.text))) =
        size skipped + size found.before + size found.indent + size found.text := by
      simp only [size_append]
      omega
    have hopen : false = true ↔
        EndsLine (skipped ++ (found.before ++ (found.indent ++ found.text))) := by
      obtain ⟨d, -, -, hsentence, -⟩ := derivation_of_first? rfl hstart h
      have hvisible : EndsVisible found.text := hsentence ▸ d.isSentence.endsVisible
      simp only [← List.append_assoc, Bool.false_eq_true, false_iff]
      exact not_endsLine_append hvisible _
    have htext : skipped ++ (found.before ++ (found.indent ++ found.text)) ++ found.rest =
        skipped ++ s := by
      rw [(first?_eq h).1]
      simp
    have hrest := ih _ hopen
    rw [htext, hend] at hrest
    refine .step ?_ hrest
    rw [firstSpanFrom?_append hstart, h]
    rfl

theorem chained_scan (text : List Char) : Chained text 0 (scan text).spans :=
  chained_scanFrom true text [] (by simp [EndsLine])

section Chain

variable {text : List Char} {offset : Nat} {spans : List (Nat × Nat)}

theorem Chained.derivation (h : Chained text offset spans) :
    ∀ span ∈ spans, ∃ d : Derivation text, offset ≤ d.lineStart ∧ span = (d.start, d.stop) := by
  induction h with
  | done => simp
  | step hspan hmore ih =>
    intro span' hspan'
    obtain ⟨d, hd, rfl⟩ := isFirst_of_firstSpanFrom? hspan
    rcases List.mem_cons.1 hspan' with rfl | hmem
    · exact ⟨d, hd.offset_le, rfl⟩
    · obtain ⟨d', hd', heq⟩ := ih span' hmem
      have := d.lineStart_le_start
      have := d.start_lt_stop
      have := hd.offset_le
      exact ⟨d', by simp only at hd'; omega, heq⟩

theorem Chained.pairwise (h : Chained text offset spans) :
    spans.Pairwise fun a b => a.2 < b.1 := by
  induction h with
  | done => exact List.Pairwise.nil
  | step hspan hmore ih =>
    obtain ⟨d, -, rfl⟩ := isFirst_of_firstSpanFrom? hspan
    refine List.pairwise_cons.2 ⟨fun span' hspan' => ?_, ih⟩
    obtain ⟨d', hle, rfl⟩ := hmore.derivation span' hspan'
    have hne := d.stop_ne_lineStart d'
    have hstart := d'.lineStart_le_start
    simp only at hle ⊢
    omega

/-- A line with a derivation is the line of a span, or starts inside one. -/
theorem Chained.covers (h : Chained text offset spans) :
    ∀ d : Derivation text, offset ≤ d.lineStart →
      (∃ span ∈ spans, ∃ d' : Derivation text,
        span = (d'.start, d'.stop) ∧ d'.lineStart = d.lineStart) ∨
      ∃ span ∈ spans, span.1 < d.lineStart ∧ d.lineStart < span.2 := by
  induction h with
  | done hnone =>
    intro d hd
    exact absurd (firstSpanFrom?_eq_none_iff.1 hnone d) (Nat.not_lt.2 hd)
  | step hspan hmore ih =>
    intro d hd
    obtain ⟨d', hd', rfl⟩ := isFirst_of_firstSpanFrom? hspan
    rcases Nat.eq_or_lt_of_le (hd'.least d hd) with heq | hlt
    · exact .inl ⟨_, List.mem_cons_self, d', rfl, heq⟩
    · by_cases hstop : d'.stop ≤ d.lineStart
      · rcases ih d hstop with ⟨span, hmem, hline⟩ | ⟨span, hmem, hinside⟩
        · exact .inl ⟨span, List.mem_cons_of_mem _ hmem, hline⟩
        · exact .inr ⟨span, List.mem_cons_of_mem _ hmem, hinside⟩
      · -- the line starts behind that of the span, but not behind the span itself
        exact .inr ⟨_, List.mem_cons_self, Derivation.start_lt_lineStart hlt, by simpa using hstop⟩

end Chain

/-- The search accepts exactly the grammar. From every offset it finds the first line that has a
derivation, and nothing if there is none. A scan is such searches one behind the other: its spans
are derivations, in order and apart from each other, and no line with a derivation is missed unless
it starts inside a span. -/
theorem scan_recognizes (text : List Char) :
    (∀ offset, firstSpanFrom? offset text = none ↔
      ¬ ∃ d : Derivation text, offset ≤ d.lineStart) ∧
    (∀ offset span, firstSpanFrom? offset text = some span ↔
      ∃ d : Derivation text, d.IsFirst offset ∧ span = (d.start, d.stop)) ∧
    Chained text 0 (scan text).spans ∧
    (∀ span ∈ (scan text).spans, span.1 < span.2 ∧
      ∃ d : Derivation text, span = (d.start, d.stop)) ∧
    (scan text).spans.Pairwise (fun a b => a.2 < b.1) ∧
    ∀ d : Derivation text,
      (∃ span ∈ (scan text).spans, ∃ d' : Derivation text,
        span = (d'.start, d'.stop) ∧ d'.lineStart = d.lineStart) ∨
      ∃ span ∈ (scan text).spans, span.1 < d.lineStart ∧ d.lineStart < span.2 := by
  have hchain := chained_scan text
  refine ⟨fun offset => ?_, fun offset span => firstSpanFrom?_eq_some_iff, hchain,
    fun span hspan => ?_, hchain.pairwise, fun d => hchain.covers d (Nat.zero_le _)⟩
  · rw [firstSpanFrom?_eq_none_iff, not_exists]
    exact forall_congr' fun d => Nat.not_le.symm
  · obtain ⟨d, -, rfl⟩ := hchain.derivation span hspan
    exact ⟨d.start_lt_stop, d, rfl⟩

end Statement
end ImportOrder
