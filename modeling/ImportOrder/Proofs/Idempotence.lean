import ImportOrder.Proofs.Calm
import ImportOrder.Proofs.Statement.Reading
import ImportOrder.Proofs.Words

/-!
# ImportOrder.Proofs.Idempotence

Sorting a sorted text. The text that a sorting makes is cut again into its banner and its block, and
the block that is read is the one that was rendered (`ofText?_render`), as long as

* a scan finds the statements where the rendering put them (`Sorter.FindsAgain`), and
* each statement is read with the path that it was sorted by (`Sorter.KeepsPaths`).

Then the text stays as it is, unless blanks between the last comment and the end of its line are
lost (`Sorter.LosesBlanks`). The two conditions hold when no line outside the statements starts with
the keyword `import`, and when names are not sorted or have no quotes before their end.
-/

namespace ImportOrder

open Text Statement

namespace Block

variable {b : Block} {e : Entry} {more : List Entry}

/-- The sorted text is cut behind its banner before the first statement's line. Comment lines above
that statement may go to the banner or stay, and are read as they stand. -/
theorem cut_layout (hb : b.Regular) (he : e ∈ b.entries) {banner : List Char}
    (hbanner : EndsLine banner) (hall : ∀ l ∈ lines banner, Banner.isBannerLine l = true)
    (hbefore : b.before ≠ [] →
      ∃ line more, lines b.before = line :: more ∧ Banner.isBannerLine line = false)
    {x line : List Char} {others : List (List Char)} (hx : lines x = line :: others)
    (hline : Banner.isBannerLine line = false) :
    ∃ front before leading,
      Banner.cut (banner ++ (b.before ++ b.leadingLines e.leading ++ x)) =
        ⟨banner ++ front, before ++ b.leadingLines leading ++ x⟩ ∧
      EndsLine front ∧
      front ++ (before ++ b.leadingLines leading) = b.before ++ b.leadingLines e.leading ∧
      cutAttached (before ++ b.leadingLines leading) b.indent = (before, leading) := by
  have hbare := hb.leading e he
  have hlines := lines_leadingLines hb.indent hb.newline hbare
  have hends := endsLine_leadingLines hb.newline e.leading
  have hcut := Banner.cut_append hbanner hall (hb.endsLine.append hends) hx hline
  by_cases hnil : b.before = []
  · -- only comment lines stand before the statement, and any number of them may be the banner's
    let inBanner := fun c => Banner.isBannerLine (b.indent ++ c ++ b.newline)
    have hbare' : ∀ c ∈ e.leading.dropWhile inBanner, BareLine c := fun c hc =>
      hbare c ((List.dropWhile_suffix _).subset hc)
    obtain ⟨k, hk⟩ := cutAttached_leadingLines hb.indent hb.newline hbare'
    have hkept : b.leadingLines ((e.leading.dropWhile inBanner).take k) ++
        b.leadingLines ((e.leading.dropWhile inBanner).drop k) =
          b.leadingLines (e.leading.dropWhile inBanner) := by
      rw [← leadingLines_append, List.take_append_drop]
    refine ⟨b.leadingLines (e.leading.takeWhile inBanner),
      b.leadingLines ((e.leading.dropWhile inBanner).take k),
      (e.leading.dropWhile inBanner).drop k, ?_, endsLine_leadingLines hb.newline _, ?_, ?_⟩
    · rw [hcut, hkept, hnil, List.nil_append, hlines, List.takeWhile_map, List.dropWhile_map]
      rfl
    · rw [hkept, ← leadingLines_append, List.takeWhile_append_dropWhile, hnil, List.nil_append]
    · rw [hkept]
      exact hk
  · obtain ⟨first, rest, hfirst, hnot⟩ := hbefore hnil
    refine ⟨[], b.before, e.leading, ?_, .inl rfl, rfl, ?_⟩
    · rw [hcut, lines_append hb.endsLine, hfirst, List.cons_append, List.takeWhile_cons,
        List.dropWhile_cons, if_neg (by simp [hnot]), if_neg (by simp [hnot]), ← List.cons_append,
        ← hfirst, List.flatten_append, flatten_lines, flatten_lines]
      rfl
    · exact cutAttached_append hb.indent hb.newline hb.endsLine hb.settled hbare
        (hb.attached e he)

/-- The newline of a block stands somewhere in its rendering, unless the block has one entry without
comment lines and only blanks behind it. -/
theorem newline_infix_or (hb : b.Regular) (separation : Bool) (groupOf : Entry → Nat)
    (previous : Nat) (more : List Entry) (front rest : List Char) (leading : List (List Char)) :
    b.newline <:+: front ++ (b.leadingLines leading ++ (rest ++
        (b.renderMore separation groupOf previous more ++ b.rear))) ∨
      more = [] ∧ leading = [] ∧ allBlank b.rear = true := by
  have hfound : ∀ front x : List Char, b.newline <:+: front ++ (b.newline ++ x) := fun front x =>
    ⟨front, x, by simp⟩
  cases leading with
  | cons c leading =>
    refine .inl ?_
    have := hfound (front ++ (b.indent ++ c)) (b.leadingLines leading ++ (rest ++
      (b.renderMore separation groupOf previous more ++ b.rear)))
    simpa [leadingLines] using this
  | nil =>
    cases more with
    | cons next more =>
      refine .inl ?_
      have := hfound (front ++ rest)
        ((if separation && previous != groupOf next then b.newline else []) ++ b.indent ++
          b.renderEntry next ++ b.renderMore separation groupOf (groupOf next) more ++ b.rear)
      simpa [leadingLines, renderMore] using this
    | nil =>
      rcases rear_cases hb with ⟨hrear, -, hblank⟩ | ⟨y, hrear, -, -⟩
      · exact .inr ⟨rfl, rfl, by rwa [hrear]⟩
      · refine .inl ?_
        have := hfound (front ++ rest) (b.newline ++ y)
        simpa [leadingLines, renderMore, hrear] using this

/-- The block of a rendering behind a banner, when a scan finds the statements where they were
put. -/
theorem ofText?_render (hb : b.Regular) (hentries : b.entries = e :: more) {separation : Bool}
    {groupOf : Entry → Nat}
    (hfinds : scan (b.render separation groupOf) = b.layout separation groupOf)
    (hpaths : ∀ e ∈ b.entries, Statement.path e.text = e.path) {banner : List Char}
    (hbanner : EndsLine banner) (hall : ∀ l ∈ lines banner, Banner.isBannerLine l = true)
    (hbefore : b.before ≠ [] →
      ∃ line more, lines b.before = line :: more ∧ Banner.isBannerLine line = false) :
    ∃ front before leading text,
      Banner.cut (banner ++ b.render separation groupOf) = ⟨banner ++ front, text⟩ ∧
      ofText? text = some { b.reread before ({ e with leading := leading } :: more) with
        newline := newlineOf text } ∧
      text = before ++ (b.leadingLines leading ++ (b.indent ++ (e.text ++ (e.trailing ++
        (b.renderMore separation groupOf (groupOf e) more ++ b.rear))))) ∧
      front ++ text = b.render separation groupOf := by
  have he : e ∈ b.entries := by
    rw [hentries]
    exact List.mem_cons_self
  obtain ⟨line, others, hlines, hstarts⟩ := Banner.lines_of_sentence hb.indent (hb.sentence e he)
    (b.layoutMore separation groupOf e more).text
  have hline := Banner.isBannerLine_of_startsImport hstarts
  obtain ⟨front, before, leading, hcut, hfront, hgap, hattached⟩ :=
    cut_layout hb he hbanner hall hbefore hlines hline
  have hrender : b.render separation groupOf = front ++ (before ++ b.leadingLines leading ++
      (b.indent ++ (e.text ++ (b.layoutMore separation groupOf e more).text))) := by
    rw [← List.append_assoc, hgap, ← text_layout (by simp [hentries])]
    simp [layout, hentries, Scanned.text]
  have hscan : scan (before ++ b.leadingLines leading ++
      (b.indent ++ (e.text ++ (b.layoutMore separation groupOf e more).text))) =
      ⟨⟨before ++ b.leadingLines leading, b.indent, e.text⟩ ::
        (b.layoutMore separation groupOf e more).occurrences,
        (b.layoutMore separation groupOf e more).tail⟩ := by
    refine scan_of_append hfront ?_
    rw [← hrender, hfinds, layout, hgap]
    simp only [hentries]
  refine ⟨front, before, leading, _, ?_, ofText?_of_scan hb hentries hpaths hattached hscan, ?_,
    hrender.symm⟩
  · rw [← hcut, ← hgap, hrender, List.append_assoc front]
  · rw [text_layoutMore]
    simp

end Block

namespace Sorter

open Block

variable {s : Sorter} {source : List Char} {b : Block}

theorem regular_sortBlock (s : Sorter) {text : List Char} (hb : b.Sound text) :
    (s.sortBlock b).Regular where
  endsLine := hb.endsLine
  settled := hb.settled
  indent := hb.indent
  newline := by
    rw [sortBlock_newline, hb.newline]
    exact newlineOf_eq text
  sentence := by
    intro e he
    obtain ⟨e', he', rfl⟩ := mem_sortEntries he
    exact s.sentence_finish e' (hb.entries e' he').sentence
  trailing := by
    intro e he
    obtain ⟨e', he', rfl⟩ := mem_sortEntries he
    simpa using (hb.entries e' he').trailing
  leading := by
    intro e he
    obtain ⟨e', he', rfl⟩ := mem_sortEntries he
    intro c hc
    rw [finish_leading] at hc
    exact ((hb.entries e' he').leading c hc).2
  attached := by
    intro e he
    obtain ⟨e', he', rfl⟩ := mem_sortEntries he
    simpa using (hb.entries e' he').attached
  displaced := fun segment h => (hb.displaced segment h).2

/-- The newline of a block is read off every end of its rendering that holds it. -/
theorem newlineOf_rendered (hb : b.Sound source) {text : List Char}
    (htext : text <:+ (s.sortBlock b).render s.policy.separation s.groupOf)
    (hwithin : b.newline <:+: text) : newlineOf text = b.newline := by
  have hnewline := hb.newline
  rcases newlineOf_eq source with heq | heq
  · have hfree := free_render_crlf s hb (hnewline.trans heq) (newlineOf_eq_newline_iff.1 heq)
      s.policy.separation s.groupOf
    rw [hnewline, heq]
    exact newlineOf_eq_newline_iff.2 (hfree.of_isInfix htext.isInfix)
  · rw [hnewline, heq] at hwithin ⊢
    rcases newlineOf_eq text with hnl | hcrlf
    · have hfree := (newlineOf_eq_newline_iff.1 hnl).of_isInfix hwithin
      rw [← newlineOf_eq_newline_iff] at hfree
      exact absurd hfree (by decide)
    · exact hcrlf

theorem lines_before (hof : ofText? (Banner.cut source).rest = some b) (hne : b.before ≠ []) :
    ∃ line more, lines b.before = line :: more ∧ Banner.isBannerLine line = false := by
  have hsound := sound_of_ofText? hof
  have hocc : (scan (Banner.cut source).rest).occurrences ≠ [] := by
    intro hnil
    unfold ofText? at hof
    split at hof
    · cases hof
    · rename_i hscan
      rw [hscan] at hnil
      cases hnil
  obtain ⟨line, others, hlines, hline⟩ := Banner.lines_rest hocc
  obtain ⟨rest, hrest⟩ := hsound.before
  rw [← hrest, lines_append hsound.endsLine] at hlines
  cases hbefore : lines b.before with
  | nil =>
    have hflat := flatten_lines b.before
    rw [hbefore] at hflat
    exact absurd hflat.symm hne
  | cons first more =>
    rw [hbefore] at hlines
    cases hlines
    exact ⟨line, more, rfl, hline⟩

/-- Sorting the sorted text leaves it as it is. -/
def Settles (s : Sorter) (source : List Char) : Prop :=
  s.sort (s.sort source).code = ⟨(s.sort source).code, false⟩

theorem settles_iff_not_losesBlanks (hof : ofText? (Banner.cut source).rest = some b)
    (hfinds : scan ((s.sortBlock b).render s.policy.separation s.groupOf) =
      (s.sortBlock b).layout s.policy.separation s.groupOf)
    (hpaths : ∀ e ∈ s.sortEntries b.entries, Statement.path e.text = e.path) :
    s.Settles source ↔ ¬ (s.sortBlock b).LosesBlanks := by
  have hsound := sound_of_ofText? hof
  have hreg := s.regular_sortBlock hsound
  cases hentries : s.sortEntries b.entries with
  | nil => exact absurd hentries (sortEntries_ne_nil hsound.nonempty)
  | cons e more =>
    obtain ⟨front, before, leading, text, hcut, hread, htext, hwhole⟩ :=
      ofText?_render hreg hentries hfinds hpaths (Banner.endsLine_banner source)
        (fun _ hl => Banner.isBannerLine_of_mem_banner hl) (lines_before (b := b) hof)
    rw [← code_of_block hof] at hcut
    have hnewline : { (s.sortBlock b).reread before ({ e with leading := leading } :: more) with
          newline := newlineOf text }.render s.policy.separation s.groupOf =
        ((s.sortBlock b).reread before ({ e with leading := leading } :: more)).render
          s.policy.separation s.groupOf := by
      rcases newline_infix_or hreg s.policy.separation s.groupOf (s.groupOf e) more
        before (b.indent ++ (e.text ++ e.trailing)) leading with hwithin | ⟨rfl, rfl, hblank⟩
      · have hsame : newlineOf text = b.newline := by
          refine newlineOf_rendered hsound ⟨front, hwhole⟩ ?_
          rw [htext]
          simpa using hwithin
        rw [hsame]
        rfl
      · exact render_newline rfl rfl rfl (allBlank_behindComment hblank _) _
    have hread' : ofText? (Banner.cut (s.sort source).code).rest = some
        { (s.sortBlock b).reread before ({ e with leading := leading } :: more) with
          newline := newlineOf text } := by
      rw [hcut]
      exact hread
    have hsorted : s.sortBlock { (s.sortBlock b).reread before
          ({ e with leading := leading } :: more) with newline := newlineOf text } =
        { (s.sortBlock b).reread before ({ e with leading := leading } :: more) with
          newline := newlineOf text } := by
      simp only [sortBlock, reread, sortEntries_withLeading hentries]
    rw [Settles, sort_eq_self_iff, code_of_block hread', hsorted, hnewline, hcut, render_reread rfl,
      code_of_block hof, ← hwhole, htext]
    simp only [List.append_assoc, List.append_cancel_left_eq, sortBlock_indent]
    exact renderAfter_reread hreg _ _

/-! ## Sorting twice -/

/-- A scan of the sorted block finds its statements where they were put. -/
def FindsAgain (s : Sorter) (source : List Char) : Prop :=
  ∀ b ∈ ofText? (Banner.cut source).rest,
    scan ((s.sortBlock b).render s.policy.separation s.groupOf) =
      (s.sortBlock b).layout s.policy.separation s.groupOf

/-- The statements of the sorted block are read with the paths that they were sorted by. -/
def KeepsPaths (s : Sorter) (source : List Char) : Prop :=
  ∀ b ∈ ofText? (Banner.cut source).rest, ∀ e ∈ s.sortEntries b.entries,
    Statement.path e.text = e.path

/-- In the sorted block blanks stand between the last comment and the end of its line. -/
def LosesBlanks (s : Sorter) (source : List Char) : Prop :=
  ∃ b ∈ ofText? (Banner.cut source).rest, (s.sortBlock b).LosesBlanks

/-- The names of no statement have a quote before their end. -/
def NamesUnquoted (source : List Char) : Prop :=
  ∀ b ∈ ofText? (Banner.cut source).rest, ∀ e ∈ b.entries, Statement.NamesUnquoted e.text

section Decidable

variable (s : Sorter) (source : List Char)

instance : Decidable (s.Settles source) :=
  inferInstanceAs (Decidable (_ = _))

instance : Decidable (s.FindsAgain source) :=
  inferInstanceAs (Decidable (∀ b ∈ ofText? (Banner.cut source).rest, _))

instance : Decidable (s.KeepsPaths source) :=
  inferInstanceAs (Decidable (∀ b ∈ ofText? (Banner.cut source).rest,
    ∀ e ∈ s.sortEntries b.entries, Statement.path e.text = e.path))

instance : Decidable (s.LosesBlanks source) :=
  inferInstanceAs (Decidable (∃ b ∈ ofText? (Banner.cut source).rest, (s.sortBlock b).LosesBlanks))

instance : Decidable (NamesUnquoted source) :=
  inferInstanceAs (Decidable (∀ b ∈ ofText? (Banner.cut source).rest,
    ∀ e ∈ b.entries, Statement.NamesUnquoted e.text))

end Decidable

theorem allCalm_sortBlock {s : Sorter} {b : Block} (h : b.AllCalm) : (s.sortBlock b).AllCalm where
  before := h.before
  leading := by
    intro e he
    obtain ⟨e', he', rfl⟩ := mem_sortEntries he
    rw [finish_leading]
    exact h.leading e' he'
  displaced := h.displaced
  after := h.after

theorem findsAgain_of_calm {s : Sorter} {source : List Char}
    (h : (scan (Banner.cut source).rest).AllCalm) : s.FindsAgain source := by
  intro b hof
  have hsound := sound_of_ofText? hof
  exact scan_layout (s.regular_sortBlock hsound) (allCalm_sortBlock (allCalm_of_ofText? hof h))
    (sortEntries_ne_nil hsound.nonempty) s.policy.separation s.groupOf

theorem keepsPaths_of_names {s : Sorter} {source : List Char}
    (h : s.policy.sortNames = false ∨ NamesUnquoted source) : s.KeepsPaths source := by
  intro b hof e he
  obtain ⟨e', he', rfl⟩ := mem_sortEntries he
  have hpath := ((sound_of_ofText? hof).entries e' he').path
  rcases h with hoff | hnames
  · rw [finish_eq_self hoff, hpath]
  · unfold finish
    split
    · rw [path_sortNames (hnames b hof e' he'), hpath]
    · exact hpath.symm

/-- When the statements of the sorted text are found again and read with their paths, it settles
exactly if no blanks behind its last comment are lost. The statements are found again if no line
outside them starts with the keyword `import`, and their paths are kept if names are not sorted or
have no quotes before their end.

The comparison of paths need not be transitive. Sorting leaves a list alone in which no element comes
before the one in front of it, and insertion makes such a list by every comparison (`inOrder_sortBy`);
of a sort that leaves the order open this is known for total orders only. -/
theorem settles_iff (s : Sorter) (source : List Char) :
    (s.FindsAgain source → s.KeepsPaths source → (s.Settles source ↔ ¬ s.LosesBlanks source)) ∧
    ((scan (Banner.cut source).rest).AllCalm → s.FindsAgain source) ∧
    (s.policy.sortNames = false ∨ NamesUnquoted source → s.KeepsPaths source) := by
  refine ⟨?_, findsAgain_of_calm, keepsPaths_of_names⟩
  intro hfinds hpaths
  cases hof : ofText? (Banner.cut source).rest with
  | none =>
    have hloses : ¬ s.LosesBlanks source := by
      rintro ⟨b, hb, -⟩
      rw [hof] at hb
      cases hb
    rw [Settles, sort_of_none hof]
    exact iff_of_true (sort_of_none hof) hloses
  | some b =>
    have hloses : s.LosesBlanks source ↔ (s.sortBlock b).LosesBlanks := by
      simp [LosesBlanks, hof]
    rw [hloses]
    exact settles_iff_not_losesBlanks hof (hfinds b hof) (hpaths b hof)

/-- One text that settles, and one that does not for the blanks behind its comment. -/
theorem settles_iff_comment :
    (ofPolicy .twoGroups).Settles "import b from 'b';\nimport a from 'a'; // c\n\n".toList ∧
    ¬ (ofPolicy .twoGroups).Settles "import b from 'b'; // c\nimport a from 'a'; \n".toList := by
  obtain ⟨hfirst, hfinds, hpaths⟩ := settles_iff (ofPolicy .twoGroups)
    "import b from 'b';\nimport a from 'a'; // c\n\n".toList
  obtain ⟨hsecond, hfinds', hpaths'⟩ := settles_iff (ofPolicy .twoGroups)
    "import b from 'b'; // c\nimport a from 'a'; \n".toList
  constructor
  · rw [hfirst (hfinds (by decide +kernel)) (hpaths (.inl rfl))]
    decide +kernel
  · rw [hsecond (hfinds' (by decide +kernel)) (hpaths' (.inl rfl)), not_not]
    decide +kernel

/-- Each of the three conditions can fail, and then the text need not settle: blanks are lost at the
end of a two-character newline, a second statement on a line is found only when it was moved, and
sorting what stands in the braces of a path changes the path. -/
theorem not_settles :
    ((ofPolicy .twoGroups).LosesBlanks "import b from 'b'; // c\r\nimport a from 'a';\r\n".toList ∧
      ¬ (ofPolicy .twoGroups).Settles
        "import b from 'b'; // c\r\nimport a from 'a';\r\n".toList) ∧
    (¬ (ofPolicy .twoGroups).FindsAgain "import a from 'a'; import b from 'b';\n".toList ∧
      ¬ (ofPolicy .twoGroups).Settles "import a from 'a'; import b from 'b';\n".toList) ∧
    (¬ (ofPolicy { Policy.twoGroups with sortNames := true }).KeepsPaths
        "import '\x7bc,b\x7d';\nimport '\x7bb,z\x7d';\n".toList ∧
      ¬ (ofPolicy { Policy.twoGroups with sortNames := true }).Settles
        "import '\x7bc,b\x7d';\nimport '\x7bb,z\x7d';\n".toList) := by
  decide +kernel

end Sorter
end ImportOrder
