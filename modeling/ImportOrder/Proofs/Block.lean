import ImportOrder.Block
import ImportOrder.Proofs.Comment
import ImportOrder.Proofs.Statement.Scan

/-!
# ImportOrder.Proofs.Block

What the block of a text is made of. Its entries are statements with the comments that belong to
them, and all its parts are parts of the text (`Block.Sound`, `sound_of_ofText?`).
-/

namespace ImportOrder

open Text Statement

/-! ## Comments -/

/-- A comment behind a statement: nothing, or a whole comment on one line up to its last visible
character. -/
def TrailingComment (t : List Char) : Prop :=
  t = [] ∨ (Comment.isWholeComment (trim t) = true ∧ EndsVisible t ∧ '\n' ∉ t)

/-- A comment line without the newline at its end. -/
structure BareLine (c : List Char) : Prop where
  newline : '\n' ∉ c
  last : c.getLast? ≠ some '\r'

theorem BareLine.of_suffix {c d : List Char} (hc : BareLine c) (h : d <:+ c) : BareLine d := by
  refine ⟨fun hm => hc.newline (h.subset hm), fun hr => hc.last ?_⟩
  obtain ⟨e, rfl⟩ := h
  rw [List.getLast?_append, hr]
  rfl

namespace Block

theorem trim_dropIndent {indent : List Char} (hi : ∀ c ∈ indent, isIndent c = true)
    (line : List Char) : trim (dropIndent indent line) = trim line := by
  unfold dropIndent
  split
  · rename_i rest hrest
    have hline := List.isPrefixOf?_eq_some_iff_append_eq.1 hrest
    have hblank := allBlank_of_isIndent hi
    rw [← hline, trim, trim, trimStart_append_of_blank hblank]
  · exact trim_trimStart line

theorem dropIndent_suffix (indent line : List Char) : dropIndent indent line <:+ line := by
  unfold dropIndent
  split
  · rename_i rest hrest
    exact ⟨indent, List.isPrefixOf?_eq_some_iff_append_eq.1 hrest⟩
  · exact List.dropWhile_suffix _

theorem bareLine_isPrefix (line : List Char) : bareLine line <+: line := by
  have h := List.reverse_prefix.2
    (List.dropWhile_suffix (l := line.reverse) fun c => c == '\n' || c == '\r')
  rwa [List.reverse_reverse] at h

theorem bareLine_of_mem_lines {s line : List Char} (h : line ∈ lines s) :
    BareLine (bareLine line) := by
  have hlast : ∀ c, (bareLine line).getLast? = some c → ¬(c = '\n' ∨ c = '\r') := by
    intro c hc
    have := List.head?_dropWhile_not (fun c => c == '\n' || c == '\r') line.reverse
    rw [bareLine, dropEndWhile, List.getLast?_reverse] at hc
    rw [hc] at this
    simpa using this
  refine ⟨fun hm => ?_, fun hr => hlast _ hr (.inr rfl)⟩
  obtain ⟨-, hnl | ⟨m, hm', rfl⟩⟩ := mem_lines h
  · exact hnl ((bareLine_isPrefix line).subset hm)
  · -- the newline at the end of the line is cut off, and there is no other
    rcases List.prefix_concat_iff.1 (bareLine_isPrefix (m ++ ['\n'])) with heq | hpre
    · exact hlast '\n' (by rw [heq]; simp) (.inl rfl)
    · exact hm' (hpre.subset hm)

/-! ## Cuts of a gap -/

theorem cutComment_trailing (gap : List Char) : TrailingComment (cutComment gap).1 := by
  simp only [cutComment, Comment.trailing?]
  split
  · rename_i comment hcomment
    split at hcomment
    · rename_i hwhole
      cases hcomment
      have hnl : '\n' ∉ trimEnd (splitLine gap).1 := by
        intro hm
        have := List.mem_takeWhile_imp ((trimEnd_isPrefix _).subset hm)
        simp at this
      rcases trimEnd_eq_nil_or_endsVisible (splitLine gap).1 with hnil | hend
      · exact .inl hnil
      · refine .inr ⟨?_, hend, hnl⟩
        rwa [trim_trimEnd]
    · cases hcomment
  · exact .inl rfl

theorem cutComment_isPrefix (gap : List Char) : (cutComment gap).1 <+: gap := by
  simp only [cutComment, Comment.trailing?]
  split
  · rename_i comment hcomment
    split at hcomment
    · cases hcomment
      exact (trimEnd_isPrefix _).trans (List.takeWhile_prefix _)
    · cases hcomment
  · exact List.nil_prefix

theorem cutComment_suffix (gap : List Char) : (cutComment gap).2 <:+ gap := by
  simp only [cutComment]
  split
  · exact List.dropWhile_suffix _
  · exact List.suffix_refl _

/-- The comment behind a statement does not hold the newline at the end of its line. -/
theorem cutComment_getLast? {gap : List Char} (h : gap.getLast? = some '\n') :
    (cutComment gap).2.getLast? = some '\n' := by
  obtain ⟨front, hfront⟩ := cutComment_suffix gap
  cases hrest : (cutComment gap).2 with
  | nil =>
    simp only [cutComment] at hrest
    split at hrest
    · have hall := List.dropWhile_eq_nil_iff.1 hrest '\n' (List.mem_of_getLast? h)
      simp at hall
    · rw [show gap = [] from hrest] at h
      cases h
  | cons c rest =>
    rw [← hfront, hrest, List.getLast?_append] at h
    cases hlast : (c :: rest).getLast? with
    | none => simp at hlast
    | some d =>
      rw [hlast] at h
      exact h

theorem cutAttached_isPrefix (gap indent : List Char) : (cutAttached gap indent).1 <+: gap := by
  refine ⟨((lines gap).drop ((lines gap).length -
    Comment.attachedLines ((lines gap).map bareLine))).flatten, ?_⟩
  rw [cutAttached, ← List.flatten_append, List.take_append_drop, flatten_lines]

theorem cutAttached_endsLine {gap : List Char} (h : EndsLine gap) (indent : List Char) :
    EndsLine (cutAttached gap indent).1 :=
  endsLine_flatten fun _ hl => mem_lines_of_endsLine h (List.mem_of_mem_take hl)

theorem cutAttached_leading (gap indent : List Char) :
    ∀ c ∈ (cutAttached gap indent).2, c <:+: gap ∧ BareLine c := by
  intro c hc
  obtain ⟨line, hline, rfl⟩ := List.mem_map.1 hc
  have hmem := List.mem_of_mem_drop hline
  refine ⟨?_, (bareLine_of_mem_lines hmem).of_suffix (dropIndent_suffix _ _)⟩
  have hgap : line <:+: gap := by
    have := List.infix_of_mem_flatten hmem
    rwa [flatten_lines] at this
  exact (dropIndent_suffix _ _).isInfix.trans ((bareLine_isPrefix line).isInfix.trans hgap)

theorem cutAttached_attached {indent : List Char} (hi : ∀ c ∈ indent, isIndent c = true)
    (gap : List Char) :
    Comment.attachedLines (cutAttached gap indent).2 = (cutAttached gap indent).2.length := by
  have hrun := Comment.runAbove_take ((lines gap).map bareLine).reverse
  have hle := Comment.runAbove_le ((lines gap).map bareLine).reverse
  rw [← Comment.attachedLines, ← List.map_reverse, ← List.map_take, List.take_reverse] at hrun
  rw [← Comment.attachedLines, List.length_reverse, List.length_map] at hle
  simp only [cutAttached]
  rw [Comment.attachedLines, ← List.map_reverse, ← Function.comp_def (dropIndent indent) bareLine,
    ← List.map_map, Comment.runAbove_map (trim_dropIndent hi), hrun, List.length_map,
    List.length_drop, Nat.sub_sub_self hle]

/-- What stands before the comment lines cut off a gap does not end in one. -/
theorem cutAttached_rest {gap : List Char} (h : EndsLine gap) (indent : List Char) :
    Comment.attachedLines ((lines (cutAttached gap indent).1).map bareLine) = 0 := by
  have hrun := Comment.runAbove_drop ((lines gap).map bareLine).reverse
  rw [← Comment.attachedLines, ← List.map_reverse, ← List.map_drop, List.drop_reverse] at hrun
  rw [cutAttached, lines_flatten fun l hl => mem_lines_of_endsLine h (List.mem_of_mem_take hl),
    Comment.attachedLines, ← List.map_reverse, hrun]

/-- What is kept of the text between two statements starts and ends with lines that hold
something. -/
theorem residue_spec {gap : List Char} (h : residue gap ≠ []) :
    residue gap <:+: gap ∧ EndsVisible (residue gap) ∧ '\n' ∉ (residue gap).takeWhile isBlank := by
  have hpre : residue gap <+: dropBlankLines gap := trimEnd_isPrefix _
  have hend : EndsVisible (residue gap) :=
    (trimEnd_eq_nil_or_endsVisible (dropBlankLines gap)).resolve_left h
  refine ⟨hpre.isInfix.trans (dropBlankLines_suffix gap).isInfix, hend, fun hm => ?_⟩
  exact newline_not_mem_takeWhile_dropBlankLines gap
    ((takeWhile_prefix_takeWhile hpre isBlank).subset hm)

end Block

/-! ## Entries and blocks -/

/-- What holds of every entry of the block of `text`. -/
structure Entry.Sound (text : List Char) (e : Entry) : Prop where
  path : e.path = Statement.path e.text
  sentence : Sentence e.text
  line : e.text ++ e.trailing <:+: text
  trailing : TrailingComment e.trailing
  leading : ∀ c ∈ e.leading, c <:+: text ∧ BareLine c
  attached : Comment.attachedLines e.leading = e.leading.length

/-- What holds of the block of `text`. -/
structure Block.Sound (text : List Char) (b : Block) : Prop where
  before : b.before <+: text
  endsLine : EndsLine b.before
  settled : Comment.attachedLines ((lines b.before).map bareLine) = 0
  indent : ∀ c ∈ b.indent, isIndent c = true
  newline : b.newline = newlineOf text
  nonempty : b.entries ≠ []
  entries : ∀ e ∈ b.entries, e.Sound text
  displaced : ∀ segment ∈ b.displaced,
    segment <:+: text ∧ EndsVisible segment ∧ '\n' ∉ segment.takeWhile isBlank
  after : b.after <:+ text
  last : text.getLast? = some '\n' → b.after.getLast? = some '\n'

namespace Block

/-- The entry of a statement with the comment lines above it. -/
theorem entry_sound {text indent gap : List Char} (hi : ∀ c ∈ indent, isIndent c = true)
    {o : Occurrence} (ho : o.Sound) (hgap : gap <:+: text) (htext : o.text <:+: text) :
    Entry.Sound text ⟨Statement.path o.text, (cutAttached gap indent).2, o.text, []⟩ where
  path := rfl
  sentence := ho.sentence
  line := by simpa using htext
  trailing := .inl rfl
  leading := fun c hc =>
    ⟨(cutAttached_leading gap indent c hc).1.trans hgap, (cutAttached_leading gap indent c hc).2⟩
  attached := cutAttached_attached hi gap

/-- The comment on the statement's line added to its entry. -/
theorem entry_withTrailing {text : List Char} {e : Entry} (he : e.Sound text) {gap : List Char}
    (hline : e.text ++ gap <:+: text) :
    Entry.Sound text { e with trailing := (cutComment gap).1 } where
  path := he.path
  sentence := he.sentence
  line := by
    obtain ⟨rest, hrest⟩ := cutComment_isPrefix gap
    refine List.IsInfix.trans ?_ hline
    exact ⟨[], rest, by rw [List.nil_append, List.append_assoc, hrest]⟩
  trailing := cutComment_trailing gap
  leading := he.leading
  attached := he.attached

theorem collect_sound {text indent : List Char} (hi : ∀ c ∈ indent, isIndent c = true)
    (occs : List Occurrence) (tail : List Char) (hoccs : ∀ o ∈ occs, o.Sound) :
    ∀ current : Entry, current.Sound text →
      current.text ++ (⟨occs, tail⟩ : Scanned).text <:+ text →
      (∀ e ∈ (collect indent current occs tail).1, e.Sound text) ∧
      (∀ segment ∈ (collect indent current occs tail).2.1,
        segment <:+: text ∧ EndsVisible segment ∧ '\n' ∉ segment.takeWhile isBlank) ∧
      (collect indent current occs tail).2.2 <:+ text ∧
      (text.getLast? = some '\n' → (collect indent current occs tail).2.2.getLast? = some '\n') := by
  induction occs with
  | nil =>
    intro current hcurrent hsuffix
    simp only [Scanned.text, List.map_nil, List.flatten_nil, List.nil_append] at hsuffix
    simp only [collect]
    refine ⟨?_, by simp, ?_, ?_⟩
    · intro e he
      rw [List.mem_singleton] at he
      subst he
      exact entry_withTrailing hcurrent hsuffix.isInfix
    · exact (cutComment_suffix tail).trans ((List.suffix_append _ _).trans hsuffix)
    · intro hlast
      apply cutComment_getLast?
      obtain ⟨front, rfl⟩ := hsuffix
      obtain ⟨u, c, hu, hc⟩ := hcurrent.sentence.endsVisible
      cases htail : tail.getLast? with
      | none =>
        -- the text would end with the statement
        rw [List.getLast?_eq_none_iff.1 htail, hu] at hlast
        simp only [List.append_nil, ← List.append_assoc, List.getLast?_concat,
          Option.some.injEq] at hlast
        subst hlast
        exact absurd hc (by decide)
      | some d =>
        rw [← List.append_assoc, List.getLast?_append, htail] at hlast
        exact hlast
  | cons o more ih =>
    intro current hcurrent hsuffix
    have htext : (⟨o :: more, tail⟩ : Scanned).text =
        o.gap ++ (o.indent ++ (o.text ++ (⟨more, tail⟩ : Scanned).text)) := by
      simp [Scanned.text]
    rw [htext] at hsuffix
    have ho := hoccs o List.mem_cons_self
    have hgap : current.text ++ o.gap <:+: text :=
      List.IsInfix.trans ⟨[], _, by rw [List.nil_append, List.append_assoc]⟩ hsuffix.isInfix
    have hrest : o.text ++ (⟨more, tail⟩ : Scanned).text <:+ text :=
      List.IsSuffix.trans ⟨current.text ++ o.gap ++ o.indent, by simp⟩ hsuffix
    have hcut : (cutComment o.gap).2 <:+: text := (cutComment_suffix o.gap).isInfix.trans
      ((List.suffix_append _ _).isInfix.trans hgap)
    have hnext := entry_sound hi ho hcut ((List.prefix_append _ _).isInfix.trans hrest.isInfix)
    obtain ⟨hentries, hset, hafter, hlast⟩ :=
      ih (fun o' h => hoccs o' (List.mem_cons_of_mem o h)) _ hnext hrest
    simp only [collect]
    refine ⟨?_, ?_, hafter, hlast⟩
    · intro e he
      rcases List.mem_cons.1 he with rfl | he
      · exact entry_withTrailing hcurrent hgap
      · exact hentries e he
    · intro segment hsegment
      split at hsegment
      · exact hset segment hsegment
      · rename_i hne
        rcases List.mem_cons.1 hsegment with rfl | hsegment
        · obtain ⟨hin, hend, hstart⟩ := residue_spec (by simpa using hne)
          exact ⟨hin.trans ((cutAttached_isPrefix _ _).isInfix.trans hcut), hend, hstart⟩
        · exact hset segment hsegment

theorem collect_ne_nil (indent : List Char) (current : Entry) (occs : List Occurrence)
    (tail : List Char) : (collect indent current occs tail).1 ≠ [] := by
  cases occs with
  | nil => simp [collect]
  | cons o more => simp [collect]

theorem sound_of_ofText? {text : List Char} {b : Block} (h : ofText? text = some b) :
    b.Sound text := by
  unfold ofText? at h
  split at h
  · cases h
  · rename_i first more tail hscan
    cases h
    have hsound : ∀ o ∈ first :: more, o.Sound := by
      intro o ho
      exact sound_of_mem_scan (s := text) (by rw [hscan]; exact ho)
    have hfirst := hsound first List.mem_cons_self
    have htext : first.gap ++ (first.indent ++ (first.text ++ (⟨more, tail⟩ : Scanned).text)) =
        text := by
      have := text_scan text
      rw [hscan] at this
      simpa [Scanned.text] using this
    have hrest : first.text ++ (⟨more, tail⟩ : Scanned).text <:+ text :=
      ⟨first.gap ++ first.indent, by rw [← htext, List.append_assoc]⟩
    have hgap : first.gap <+: text := ⟨_, htext⟩
    have hentry := entry_sound hfirst.indent hfirst hgap.isInfix
      ((List.prefix_append _ _).isInfix.trans hrest.isInfix)
    obtain ⟨hentries, hset, hafter, hlast⟩ := collect_sound hfirst.indent more tail
      (fun o ho => hsound o (List.mem_cons_of_mem _ ho)) _ hentry hrest
    exact {
      before := (cutAttached_isPrefix first.gap first.indent).trans hgap
      endsLine := cutAttached_endsLine hfirst.gap first.indent
      settled := cutAttached_rest hfirst.gap first.indent
      indent := hfirst.indent
      newline := rfl
      nonempty := collect_ne_nil _ _ _ _
      entries := hentries
      displaced := hset
      after := hafter
      last := hlast }

end Block
end ImportOrder
