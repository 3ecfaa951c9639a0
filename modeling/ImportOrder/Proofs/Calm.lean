import ImportOrder.Proofs.Banner
import ImportOrder.Proofs.Layout

/-!
# ImportOrder.Proofs.Calm

Texts without strays. A line that starts with the keyword `import` and yet is not part of a statement
may become part of one when the text around it is moved. A text is calm when none of its lines is
such a line. All that the cuts of a block leave of a calm text is calm (`allCalm_of_ofText?`), and in
a rendering whose other texts are calm a scan finds the statements of the block and nothing else
(`scan_layout`).
-/

namespace ImportOrder

open Text Statement Banner

/-- No line of the text starts with the keyword `import`. -/
def Calm (s : List Char) : Prop :=
  ∀ l ∈ lines s, startsImport l = false

instance (s : List Char) : Decidable (Calm s) :=
  inferInstanceAs (Decidable (∀ l ∈ lines s, startsImport l = false))

/-! ## Calm texts cut and put together -/

theorem startsImport_congr {l m : List Char} (h : trim l = trim m) :
    startsImport l = startsImport m := by
  rw [startsImport, startsImport, h]

theorem startsImport_of_blank {l : List Char} (h : allBlank l = true) : startsImport l = false := by
  rw [startsImport, trim_of_blank h]
  rfl

theorem calm_of_blank {s : List Char} (h : allBlank s = true) : Calm s := by
  intro l hl
  exact startsImport_of_blank (allBlank_of_mem_lines h hl)

theorem calm_open {l : List Char} (hl : '\n' ∉ l) (h : startsImport l = false) : Calm l := by
  intro m hm
  by_cases hne : l = []
  · rw [hne] at hm
    cases hm
  · rw [lines_of_not_mem hne hl, List.mem_singleton] at hm
    rwa [hm]

theorem Calm.startsImport_open {l : List Char} (h : Calm l) (hl : '\n' ∉ l) :
    startsImport l = false := by
  by_cases hne : l = []
  · rw [hne]
    rfl
  · exact h l (by rw [lines_of_not_mem hne hl]; exact List.mem_cons_self)

theorem calm_append_newline {l : List Char} (hl : '\n' ∉ l) {s : List Char} :
    Calm (l ++ '\n' :: s) ↔ startsImport l = false ∧ Calm s := by
  have hfirst : startsImport (l ++ ['\n']) = startsImport l :=
    startsImport_congr (trim_append_of_blank rfl l)
  rw [Calm, lines_append_newline hl]
  simp only [List.forall_mem_cons, hfirst]
  rfl

theorem Calm.append {s t : List Char} (hs : Calm s) (hends : EndsLine s) (ht : Calm t) :
    Calm (s ++ t) := by
  intro l hl
  rw [lines_append hends, List.mem_append] at hl
  rcases hl with hl | hl
  · exact hs l hl
  · exact ht l hl

/-- The line that a text ends with may go on with blanks. -/
theorem Calm.append_of_blank_line {s r : List Char} (hs : Calm s) (hr : Calm r)
    (hline : allBlank (splitLine r).1 = true) : Calm (s ++ r) := by
  induction s using lineInduction with
  | last l hl =>
    have hstart := hs.startsImport_open hl
    induction r using lineInduction with
    | last m hm =>
      rw [splitLine_of_not_mem hm] at hline
      refine calm_open (by simp [hl, hm]) ?_
      rwa [startsImport_congr (trim_append_of_blank hline l)]
    | line m r hm _ =>
      rw [splitLine_append_newline hm] at hline
      rw [← List.append_assoc, calm_append_newline (by simp [hl, hm])]
      refine ⟨?_, ((calm_append_newline hm).1 hr).2⟩
      rwa [startsImport_congr (trim_append_of_blank hline l)]
  | line l s hl ih =>
    rw [calm_append_newline hl] at hs
    rw [List.append_assoc, List.cons_append, calm_append_newline hl]
    exact ⟨hs.1, ih hs.2⟩

/-- Blanks at the end do not matter. -/
theorem Calm.of_append_blank {s r : List Char} (h : Calm (s ++ r)) (hr : allBlank r = true) :
    Calm s := by
  induction s using lineInduction with
  | last l hl =>
    refine calm_open hl ?_
    induction r using lineInduction with
    | last m hm =>
      have hstart := h.startsImport_open (by simp [hl, hm])
      rwa [startsImport_congr (trim_append_of_blank hr l)] at hstart
    | line m r hm _ =>
      rw [← List.append_assoc, calm_append_newline (by simp [hl, hm])] at h
      rw [allBlank_append] at hr
      rw [← startsImport_congr (trim_append_of_blank hr.1 l)]
      exact h.1
  | line l s hl ih =>
    rw [List.append_assoc, List.cons_append, calm_append_newline hl] at h
    rw [calm_append_newline hl]
    exact ⟨h.1, ih h.2⟩

theorem Calm.trimEnd {s : List Char} (h : Calm s) : Calm (trimEnd s) := by
  obtain ⟨r, hs, hr⟩ := exists_trimEnd_append s
  rw [hs] at h
  exact h.of_append_blank (List.all_eq_true.2 hr)

theorem Calm.trimStart_of_not_blank {s : List Char} (h : Calm s)
    (hline : allBlank (splitLine s).1 = false) : Calm (trimStart s) := by
  have hopen : ∀ {l : List Char}, '\n' ∉ l → '\n' ∉ trimStart l := fun hl hm =>
    hl ((List.dropWhile_suffix _).subset hm)
  induction s using lineInduction with
  | last l hl =>
    refine calm_open (hopen hl) ?_
    rw [startsImport_congr (trim_trimStart l)]
    exact h.startsImport_open hl
  | line l s hl _ =>
    simp only [splitLine_append_newline hl] at hline
    rw [calm_append_newline hl] at h
    rw [trimStart_append_of_not_blank hline, calm_append_newline (hopen hl),
      startsImport_congr (trim_trimStart l)]
    exact h

theorem Calm.dropBlankLines {s : List Char} (h : Calm s) : Calm (dropBlankLines s) := by
  cases hblank : allBlank s with
  | true =>
    refine calm_of_blank ?_
    rw [allBlank_iff, visible_dropBlankLines, ← allBlank_iff, hblank]
  | false =>
    rw [dropBlankLines_eq_lines hblank]
    split
    · intro l hl
      cases hdrop : (lines s).dropWhile allBlank with
      | nil =>
        rw [hdrop] at hl
        cases hl
      | cons line more =>
        have hlines : lines s = (lines s).takeWhile allBlank ++ line :: more := by
          rw [← hdrop, List.takeWhile_append_dropWhile]
        rw [hdrop, lines_flatten_of_lines_eq hlines] at hl
        exact h l (by rw [hlines]; exact List.mem_append_right _ hl)
    · rename_i hline
      exact h.trimStart_of_not_blank (by simpa using hline)

/-- Outside the statements that a scan found, no line starts with the keyword `import`. -/
def Statement.Scanned.AllCalm (s : Scanned) : Prop :=
  (∀ o ∈ s.occurrences, Calm o.gap) ∧ Calm s.tail

instance (s : Scanned) : Decidable s.AllCalm :=
  inferInstanceAs (Decidable ((∀ o ∈ s.occurrences, Calm o.gap) ∧ Calm s.tail))

/-! ## The parts of a block -/

namespace Block

theorem calm_residue {gap : List Char} (h : Calm gap) : Calm (residue gap) :=
  h.dropBlankLines.trimEnd

theorem calm_cutComment {gap : List Char} (h : Calm gap) : Calm (cutComment gap).2 := by
  simp only [cutComment]
  split
  · induction gap using lineInduction with
    | last l hl =>
      rw [splitLine_of_not_mem hl]
      intro m hm
      cases hm
    | line l s hl _ =>
      rw [splitLine_append_newline hl]
      exact (calm_append_newline (l := []) (by simp)).2 ⟨rfl, ((calm_append_newline hl).1 h).2⟩
  · exact h

theorem calm_cutAttached {gap : List Char} (h : Calm gap) (hends : EndsLine gap)
    (indent : List Char) : Calm (cutAttached gap indent).1 := by
  intro l hl
  rw [cutAttached, lines_flatten fun m hm => mem_lines_of_endsLine hends (List.mem_of_mem_take hm)]
    at hl
  exact h l (List.mem_of_mem_take hl)

theorem trim_bareLine (line : List Char) : trim (bareLine line) = trim line := by
  obtain ⟨r, hline, hr⟩ :=
    exists_dropEndWhile_append (fun c => c == '\n' || c == '\r') line
  have hblank : allBlank r = true := by
    rw [allBlank, List.all_eq_true]
    intro c hc
    have := hr c hc
    simp only [Bool.or_eq_true, beq_iff_eq] at this
    rcases this with rfl | rfl <;> rfl
  conv_rhs => rw [hline, trim_append_of_blank hblank]
  rfl

theorem calm_leading {gap : List Char} (h : Calm gap) {indent : List Char}
    (hi : ∀ c ∈ indent, isIndent c = true) :
    ∀ c ∈ (cutAttached gap indent).2, startsImport c = false := by
  intro c hc
  obtain ⟨line, hline, rfl⟩ := List.mem_map.1 hc
  have htrim : trim (dropIndent indent (bareLine line)) = trim line := by
    rw [trim_dropIndent hi, trim_bareLine]
  rw [startsImport_congr htrim]
  exact h line (List.mem_of_mem_drop hline)

/-- All the texts of a block around its statements and their comments are calm. -/
structure AllCalm (b : Block) : Prop where
  before : Calm b.before
  leading : ∀ e ∈ b.entries, ∀ c ∈ e.leading, startsImport c = false
  displaced : ∀ segment ∈ b.displaced, Calm segment
  after : Calm b.after

theorem collect_calm {indent : List Char} (hi : ∀ c ∈ indent, isIndent c = true)
    (occs : List Occurrence) {tail : List Char} (htail : Calm tail) :
    (∀ o ∈ occs, EndsLine o.gap ∧ Calm o.gap) → ∀ current : Entry,
      (∀ c ∈ current.leading, startsImport c = false) →
      (∀ e ∈ (collect indent current occs tail).1, ∀ c ∈ e.leading, startsImport c = false) ∧
      (∀ segment ∈ (collect indent current occs tail).2.1, Calm segment) ∧
      Calm (collect indent current occs tail).2.2 := by
  induction occs with
  | nil =>
    intro _ current hcurrent
    simp only [collect]
    refine ⟨?_, by simp, calm_cutComment htail⟩
    intro e he
    rw [List.mem_singleton] at he
    subst he
    exact hcurrent
  | cons o more ih =>
    intro hoccs current hcurrent
    obtain ⟨hends, hcalm⟩ := hoccs o List.mem_cons_self
    have hgap := calm_cutComment hcalm
    obtain ⟨hleading, hset, hafter⟩ := ih (fun o' ho' => hoccs o' (List.mem_cons_of_mem _ ho'))
      ⟨Statement.path o.text, (cutAttached (cutComment o.gap).2 indent).2, o.text, []⟩
      (calm_leading hgap hi)
    simp only [collect]
    refine ⟨?_, ?_, hafter⟩
    · intro e he
      rcases List.mem_cons.1 he with rfl | he
      · exact hcurrent
      · exact hleading e he
    · intro segment hsegment
      split at hsegment
      · exact hset segment hsegment
      · rcases List.mem_cons.1 hsegment with rfl | hsegment
        · exact calm_residue
            (calm_cutAttached hgap (hends.of_suffix (cutComment_suffix o.gap)) indent)
        · exact hset segment hsegment

theorem allCalm_of_ofText? {text : List Char} {b : Block} (h : ofText? text = some b)
    (hcalm : (scan text).AllCalm) : b.AllCalm := by
  unfold ofText? at h
  split at h
  · cases h
  · rename_i first more tail hscan
    cases h
    have hsound : ∀ o ∈ first :: more, o.Sound := by
      intro o ho
      exact sound_of_mem_scan (s := text) (by rw [hscan]; exact ho)
    rw [hscan] at hcalm
    obtain ⟨hgaps, htail⟩ := hcalm
    have hfirst := hsound first List.mem_cons_self
    have hgap := hgaps first List.mem_cons_self
    obtain ⟨hleading, hset, hafter⟩ := collect_calm hfirst.indent more htail
      (fun o ho => ⟨(hsound o (List.mem_cons_of_mem _ ho)).gap, hgaps o (List.mem_cons_of_mem _ ho)⟩)
      ⟨Statement.path first.text, (cutAttached first.gap first.indent).2, first.text, []⟩
      (calm_leading hgap hfirst.indent)
    exact ⟨calm_cutAttached hgap hfirst.gap first.indent, hleading, hset, hafter⟩

/-! ## The parts of a rendering -/

section Rendering

variable {b : Block}

theorem calm_newline (hn : IsNewline b.newline) {x : List Char} (hx : Calm x) :
    Calm (b.newline ++ x) :=
  (calm_of_blank hn.blank).append hn.endsLine hx

theorem trailing_head {t : List Char} (ht : TrailingComment t) (hne : t ≠ []) :
    ∃ blank rest, t = blank ++ '/' :: rest ∧ allBlank blank = true := by
  rcases ht with hnil | ⟨hwhole, -, -⟩
  · exact absurd hnil hne
  · have hslash : ∃ rest, trim t = '/' :: rest := by
      simp only [Comment.isWholeComment, Comment.isLineComment, Comment.isClosedBlock,
        Comment.opensBlock, Bool.or_eq_true, Bool.and_eq_true] at hwhole
      rcases hwhole with h | ⟨⟨⟨h, -⟩, -⟩, -⟩
      all_goals
        obtain ⟨rest, hrest⟩ := List.isPrefixOf_iff_prefix.1 h
        exact ⟨_, hrest.symm⟩
    obtain ⟨rest, hrest⟩ := hslash
    obtain ⟨more, hmore⟩ := trimEnd_isPrefix (trimStart t)
    refine ⟨t.takeWhile isBlank, rest ++ more, ?_,
      List.all_eq_true.2 fun c hc => List.mem_takeWhile_imp hc⟩
    rw [← trim, hrest, List.cons_append] at hmore
    rw [hmore, takeWhile_append_trimStart]

theorem calm_trailing {t : List Char} (ht : TrailingComment t) : Calm t := by
  by_cases hne : t = []
  · rw [hne]
    intro l hl
    cases hl
  · obtain ⟨blank, rest, heq, hblank⟩ := trailing_head ht hne
    rcases ht with hnil | ⟨-, -, hnl⟩
    · exact absurd hnil hne
    · refine calm_open hnl ?_
      have hslash : EndsVisible ['/'] := ⟨[], '/', rfl, rfl⟩
      have htrim : trim t = '/' :: Text.trimEnd rest := by
        rw [heq, trim, trimStart_append_of_blank hblank]
        exact trimEnd_append hslash rest
      rw [startsImport, htrim]
      rfl

theorem calm_rear (hb : b.Regular) (hcalm : b.AllCalm) : Calm b.rear := by
  have hafter : Calm b.renderAfter ∧ allBlank (splitLine b.renderAfter).1 = true := by
    unfold renderAfter
    split
    · rename_i hblank
      exact ⟨hcalm.after, (allBlank_splitLine hblank).1⟩
    · rw [List.append_assoc]
      exact ⟨calm_newline hb.newline (calm_newline hb.newline hcalm.after.dropBlankLines),
        splitLine_newline hb.newline _⟩
  have go : ∀ segments : List (List Char), (∀ segment ∈ segments, Calm segment) →
      Calm ((segments.map fun segment => b.newline ++ b.newline ++ segment).flatten ++
        b.renderAfter) ∧ allBlank (splitLine
          ((segments.map fun segment => b.newline ++ b.newline ++ segment).flatten ++
            b.renderAfter)).1 = true := by
    intro segments hsegments
    induction segments with
    | nil => exact hafter
    | cons segment segments ih =>
      obtain ⟨hrest, hline⟩ := ih fun segment' h => hsegments segment' (List.mem_cons_of_mem _ h)
      simp only [List.map_cons, List.flatten_cons, List.append_assoc]
      simp only [List.append_assoc] at hrest hline
      refine ⟨calm_newline hb.newline (calm_newline hb.newline ?_), splitLine_newline hb.newline _⟩
      exact (hsegments segment List.mem_cons_self).append_of_blank_line hrest hline
  exact (go b.displaced hcalm.displaced).1

theorem calm_leadingLines (hb : b.Regular) {comments : List (List Char)}
    (hbare : ∀ c ∈ comments, BareLine c) (hcalm : ∀ c ∈ comments, startsImport c = false) :
    Calm (b.leadingLines comments) := by
  intro l hl
  rw [lines_leadingLines hb.indent hb.newline hbare] at hl
  obtain ⟨c, hc, rfl⟩ := List.mem_map.1 hl
  have hblank := allBlank_of_isIndent hb.indent
  have htrim : trim (b.indent ++ c ++ b.newline) = trim c := by
    rw [trim_append_of_blank hb.newline.blank, trim, trimStart_append_of_blank hblank, trim]
  rw [startsImport_congr htrim]
  exact hcalm c hc

/-- No semicolon stands behind a statement of a rendering. -/
theorem stops_layoutMore (hb : b.Regular) (separation : Bool) (groupOf : Entry → Nat) {e : Entry}
    (he : e ∈ b.entries) (more : List Entry) :
    Stops (· == ';') (b.layoutMore separation groupOf e more).text := by
  have hnewline : ∀ x : List Char, Stops (· == ';') (b.newline ++ x) := by
    intro x
    rcases hb.newline with hn | hn <;> rw [hn] <;> simp
  have hblank : ∀ {x y : List Char}, allBlank x = true → Stops (· == ';') y →
      Stops (· == ';') (x ++ y) := by
    intro x y hx hy
    cases x with
    | nil => exact hy
    | cons c x =>
      rw [allBlank, List.all_cons, Bool.and_eq_true] at hx
      rw [List.cons_append, stops_cons, beq_eq_false_iff_ne]
      rintro rfl
      exact absurd hx.1 (by decide)
  rw [text_layoutMore]
  by_cases hne : e.trailing = []
  · rw [hne, List.nil_append]
    cases more with
    | cons next more =>
      simp only [renderMore, List.append_assoc]
      exact hnewline _
    | nil =>
      rcases rear_cases hb with ⟨hrear, -, hafter⟩ | ⟨y, hrear, -, -⟩
      · have := hblank hafter (stops_nil _)
        rw [List.append_nil] at this
        rwa [hrear]
      · rw [hrear]
        exact hnewline _
  · obtain ⟨blank, rest, heq, hall⟩ := trailing_head (hb.trailing e he) hne
    rw [heq, List.append_assoc]
    refine hblank hall ?_
    simp

end Rendering

end Block

/-! ## Scans of calm texts -/

namespace Statement

theorem atLineStart?_of_calm {s line : List Char} {more : List (List Char)}
    (h : lines s = line :: more) (hline : startsImport line = false) : atLineStart? s = none := by
  cases hfound : atLineStart? s with
  | none => rfl
  | some found =>
    have heq := (atLineStart?_eq hfound).1
    simp only [atLineStart?, Option.map_eq_some_iff] at hfound
    obtain ⟨rest, hrest, rfl⟩ := hfound
    obtain ⟨t, ht, hsentence⟩ := sentence_of_statement? hrest
    have hindent : ∀ c ∈ s.takeWhile isIndent, isIndent c = true := fun c hc =>
      List.mem_takeWhile_imp hc
    obtain ⟨first, others, hlines, hstarts⟩ := lines_of_sentence hindent hsentence rest
    rw [← ht, List.takeWhile_append_dropWhile, h] at hlines
    cases hlines
    rw [hline] at hstarts
    cases hstarts

/-- A line that starts no statement may as well have begun before. -/
theorem first?_eq_false {s : List Char} {atStart : Bool}
    (h : atStart = true → atLineStart? s = none) : first? atStart s = first? false s := by
  cases s with
  | nil => rfl
  | cons c s =>
    cases atStart with
    | false => rfl
    | true =>
      rw [first?, first?, if_pos rfl, h rfl]
      rfl

theorem first?_append_open {l : List Char} (hl : '\n' ∉ l) (s : List Char) :
    first? false (l ++ s) = (first? false s).map fun f => { f with before := l ++ f.before } := by
  induction l with
  | nil => simp
  | cons c l ih =>
    rw [List.mem_cons, not_or] at hl
    have hc : (c == '\n') = false := by simpa using Ne.symm hl.1
    simp only [List.cons_append, first?, Bool.false_eq_true, if_false, hc, ih hl.2, Option.map_map]
    rfl

/-- The first statement of a text stands behind a line that starts none. -/
theorem first?_append_newline {l : List Char} (hl : '\n' ∉ l) (s : List Char) {atStart : Bool}
    (h : startsImport l = false) :
    first? atStart (l ++ '\n' :: s) =
      (first? true s).map fun f => { f with before := l ++ '\n' :: f.before } := by
  have hstart : startsImport (l ++ ['\n']) = false := by
    rwa [startsImport_congr (trim_append_of_blank rfl l)]
  have hnone := atLineStart?_of_calm (lines_append_newline hl s) hstart
  rw [first?_eq_false fun _ => hnone, first?_append_open hl]
  simp only [first?, Bool.false_eq_true, if_false, beq_self_eq_true, Option.map_map]
  rfl

theorem first?_of_calm {s : List Char} (h : Calm s) (atStart : Bool) : first? atStart s = none := by
  induction s using lineInduction generalizing atStart with
  | last l hl =>
    have hnone : atLineStart? l = none := by
      by_cases hne : l = []
      · rw [hne]
        rfl
      · exact atLineStart?_of_calm (lines_of_not_mem hne hl) (h.startsImport_open hl)
    have hopen := first?_append_open hl []
    rw [List.append_nil] at hopen
    rw [first?_eq_false fun _ => hnone, hopen]
    rfl
  | line l s hl ih =>
    rw [calm_append_newline hl] at h
    rw [first?_append_newline hl s h.1, ih h.2]
    rfl

theorem atLineStart?_append {indent t r : List Char} (hindent : ∀ c ∈ indent, isIndent c = true)
    (ht : Sentence t) (hr : Stops (· == ';') r) :
    atLineStart? (indent ++ (t ++ r)) = some ⟨[], indent, t, r⟩ := by
  obtain ⟨c, rest, -, heq⟩ := ht.starts
  have hstop : Stops isIndent (t ++ r) := by
    rw [heq]
    simp [importWord, show isIndent 'i' = false from rfl]
  have hdrop : (indent ++ (t ++ r)).dropWhile isIndent = t ++ r :=
    dropWhile_append_of_stops hindent hstop
  have htake : (indent ++ (t ++ r)).takeWhile isIndent = indent := by
    have hsplit := List.takeWhile_append_dropWhile (p := isIndent) (l := indent ++ (t ++ r))
    rw [hdrop] at hsplit
    exact List.append_cancel_right hsplit
  rw [atLineStart?, htake, hdrop, statement?_append ht (.inr hr)]
  simp

/-- The statement behind a calm text is found. -/
theorem first?_append_sentence {gap indent t r : List Char} (hgap : Calm gap)
    (hends : EndsLine gap) (hindent : ∀ c ∈ indent, isIndent c = true) (ht : Sentence t)
    (hr : Stops (· == ';') r) (atStart : Bool) (hstart : gap = [] → atStart = true) :
    first? atStart (gap ++ (indent ++ (t ++ r))) = some ⟨gap, indent, t, r⟩ := by
  induction gap using lineInduction generalizing atStart with
  | last l hl =>
    have hnil : l = [] := by
      rcases hends with hnil | ⟨u, rfl⟩
      · exact hnil
      · simp at hl
    have hread := atLineStart?_append hindent ht hr
    rw [hnil, List.nil_append, hstart hnil]
    cases htext : indent ++ (t ++ r) with
    | nil =>
      rw [htext] at hread
      cases hread
    | cons c s =>
      rw [htext] at hread
      rw [first?, if_pos rfl, hread]
  | line l gap hl ih =>
    rw [calm_append_newline hl] at hgap
    have hrest := ih hgap.2 (hends.of_suffix ⟨l ++ ['\n'], by simp⟩) true fun _ => rfl
    rw [List.append_assoc, List.cons_append, first?_append_newline hl _ hgap.1, hrest]
    rfl

end Statement
/-! ## Renderings -/

namespace Block

variable {b : Block}

theorem scanFrom_layoutMore (hb : b.Regular) (hcalm : b.AllCalm) (separation : Bool)
    (groupOf : Entry → Nat) (more : List Entry) :
    ∀ e ∈ b.entries, (∀ next ∈ more, next ∈ b.entries) →
      scanFrom false (b.layoutMore separation groupOf e more).text =
        b.layoutMore separation groupOf e more := by
  induction more with
  | nil =>
    intro e he _
    have htail : Calm (e.trailing ++ b.rear) :=
      (calm_trailing (hb.trailing e he)).append_of_blank_line (calm_rear hb hcalm)
        (splitLine_rear hb)
    exact scanFrom_of_none (first?_of_calm htail false)
  | cons next more ih =>
    intro e he hmore
    have hnext := hmore next List.mem_cons_self
    have hrest := ih next hnext fun e' he' => hmore e' (List.mem_cons_of_mem _ he')
    have hlines := calm_leadingLines hb (hb.leading next hnext) (hcalm.leading next hnext)
    have hgap : Calm (e.trailing ++ (b.newline ++ b.separator separation groupOf e next ++
        b.leadingLines next.leading)) := by
      rw [List.append_assoc]
      refine (calm_trailing (hb.trailing e he)).append_of_blank_line
        (calm_newline hb.newline ?_) (splitLine_newline hb.newline _)
      exact (calm_of_blank (allBlank_separator hb.newline ..)).append
        (endsLine_separator hb.newline ..) hlines
    have hends : EndsLine (e.trailing ++ (b.newline ++ b.separator separation groupOf e next ++
        b.leadingLines next.leading)) := by
      rw [← List.append_assoc, ← List.append_assoc]
      exact ((hb.newline.endsLine_append e.trailing).append (endsLine_separator hb.newline ..)).append
        (endsLine_leadingLines hb.newline next.leading)
    have htext : (b.layoutMore separation groupOf e (next :: more)).text =
        e.trailing ++ (b.newline ++ b.separator separation groupOf e next ++
          b.leadingLines next.leading) ++ (b.indent ++ (next.text ++
            (b.layoutMore separation groupOf next more).text)) := by
      simp [layoutMore, Scanned.text]
    have hfirst := first?_append_sentence hgap hends hb.indent (hb.sentence next hnext)
      (stops_layoutMore hb separation groupOf hnext more) false
      fun hnil => absurd hnil (by simp [hb.newline.ne_nil])
    rw [htext, scanFrom_of_some hfirst, hrest]
    rfl

/-- A scan of a rendering whose texts are calm finds the statements where they were put. -/
theorem scan_layout (hb : b.Regular) (hcalm : b.AllCalm) (hne : b.entries ≠ [])
    (separation : Bool) (groupOf : Entry → Nat) :
    scan (b.render separation groupOf) = b.layout separation groupOf := by
  rw [← text_layout hne]
  cases hentries : b.entries with
  | nil => exact absurd hentries hne
  | cons e more =>
    have he : e ∈ b.entries := by
      rw [hentries]
      exact List.mem_cons_self
    have hrest := scanFrom_layoutMore hb hcalm separation groupOf more e he fun next hnext => by
      rw [hentries]
      exact List.mem_cons_of_mem _ hnext
    have htext : (b.layout separation groupOf).text = b.before ++ b.leadingLines e.leading ++
        (b.indent ++ (e.text ++ (b.layoutMore separation groupOf e more).text)) := by
      simp [layout, hentries, Scanned.text]
    have hgap : Calm (b.before ++ b.leadingLines e.leading) := hcalm.before.append hb.endsLine
      (calm_leadingLines hb (hb.leading e he) (hcalm.leading e he))
    have hfirst := first?_append_sentence hgap
      (hb.endsLine.append (endsLine_leadingLines hb.newline e.leading)) hb.indent
      (hb.sentence e he) (stops_layoutMore hb separation groupOf he more) true
      fun _ => rfl
    rw [htext, scan, scanFrom_of_some hfirst, hrest, layout, hentries]

end Block
end ImportOrder
