import ImportOrder.Proofs.Comment.Names
import ImportOrder.Proofs.Ordering

/-!
# ImportOrder.Proofs.CommentedOut

What is commented out before and after sorting. Statements are found by their lines, and whether a
line stands in a block comment is not looked at; so a statement in a comment is a statement like any
other, and is moved like one.

What decides is where the lexer is at the place that the statements are put at. A statement with the
comments that belong to it leaves the lexer where it was (`Block.Steady`), unless it opens or closes a
block comment itself. So either all statements that are emitted are outside every comment, or none
is, and sorting keeps what is commented out just if that held of the source already:
`sort_keepsComments_iff`.
-/

namespace ImportOrder

open Text Sorting Statement Comment

namespace Statement

/-- The texts up to the keywords of the statements, each from the start on. -/
def fronts (front : List Char) : List Occurrence → List (List Char)
  | [] => []
  | o :: more =>
    (front ++ o.gap ++ o.indent) :: fronts (front ++ o.gap ++ o.indent ++ o.text) more

theorem length_fronts (occs : List Occurrence) :
    ∀ front, (fronts front occs).length = occs.length := by
  induction occs with
  | nil => intro front; rfl
  | cons o more ih =>
    intro front
    rw [fronts, List.length_cons, List.length_cons, ih]

theorem isPrefix_of_mem_fronts (tail : List Char) {occs : List Occurrence}
    (hsound : ∀ o ∈ occs, o.Sound) :
    ∀ front, ∀ f ∈ fronts front occs,
      f ++ importWord <+: front ++ (⟨occs, tail⟩ : Scanned).text := by
  induction occs with
  | nil =>
    intro front f hf
    cases hf
  | cons o more ih =>
    intro front f hf
    have htext : front ++ (⟨o :: more, tail⟩ : Scanned).text =
        front ++ o.gap ++ o.indent ++ o.text ++ (⟨more, tail⟩ : Scanned).text := by
      simp [Scanned.text]
    rw [htext]
    rcases List.mem_cons.1 hf with rfl | hf
    · obtain ⟨c, rest, -, hstarts⟩ := (hsound o List.mem_cons_self).sentence.starts
      refine ⟨c :: rest ++ (⟨more, tail⟩ : Scanned).text, ?_⟩
      rw [hstarts]
      simp
    · exact ih (fun o' ho' => hsound o' (List.mem_cons_of_mem o ho')) _ f hf

end Statement

/-! ## Statements that leave the lexer where it is -/

namespace Comment

/-- Behind the text the lexer is outside every comment. -/
def Outside (front : List Char) : Prop :=
  (read .code front).isOutside = true

instance (front : List Char) : Decidable (Outside front) :=
  inferInstanceAs (Decidable (_ = _))

end Comment

namespace Block

variable {b : Block} {m : Mode}

/-- The parts of a block that stand before, between and around its statements leave the lexer in
one state. -/
structure Steady (b : Block) (m : Mode) : Prop where
  newline : read m b.newline = m
  indent : read m b.indent = m
  leading : ∀ e ∈ b.entries, read m (b.leadingLines e.leading) = m
  line : ∀ e ∈ b.entries, read m (e.text ++ e.trailing ++ b.newline) = m

theorem Steady.separator (hb : b.Steady m) (separation : Bool) (groupOf : Entry → Nat)
    (e next : Entry) : read m (b.separator separation groupOf e next) = m := by
  unfold Block.separator
  split
  · exact hb.newline
  · rfl

theorem Steady.fronts_layoutMore (hb : b.Steady m) (separation : Bool) (groupOf : Entry → Nat)
    (more : List Entry) :
    ∀ e front, e ∈ b.entries → (∀ next ∈ more, next ∈ b.entries) → read .code front = m →
      ∀ f ∈ fronts (front ++ e.text) (b.layoutMore separation groupOf e more).occurrences,
        read .code f = m := by
  induction more with
  | nil =>
    intro e front _ _ _ f hf
    cases hf
  | cons next more ih =>
    intro e front he hmore hfront f hf
    have hnext := hmore next List.mem_cons_self
    have hplace : read .code (front ++ e.text ++ (e.trailing ++ (b.newline ++
        b.separator separation groupOf e next ++ b.leadingLines next.leading)) ++ b.indent) = m := by
      have hparts : front ++ e.text ++ (e.trailing ++ (b.newline ++
          b.separator separation groupOf e next ++ b.leadingLines next.leading)) ++ b.indent =
          front ++ (e.text ++ e.trailing ++ b.newline) ++
            b.separator separation groupOf e next ++ b.leadingLines next.leading ++ b.indent := by
        simp
      rw [hparts, read_append, read_append, read_append, read_append, hfront, hb.line e he,
        hb.separator, hb.leading next hnext, hb.indent]
    rcases List.mem_cons.1 hf with rfl | hf
    · exact hplace
    · exact ih next _ hnext (fun e' he' => hmore e' (List.mem_cons_of_mem next he')) hplace f hf

/-- Every statement of a steady block stands where the lexer is in that state. -/
theorem Steady.fronts_layout (hb : b.Steady m) (separation : Bool) (groupOf : Entry → Nat)
    {front : List Char} (hfront : read .code (front ++ b.before) = m) :
    ∀ f ∈ fronts front (b.layout separation groupOf).occurrences, read .code f = m := by
  intro f hf
  cases hentries : b.entries with
  | nil => simp [layout, hentries, fronts] at hf
  | cons e more =>
    have he : e ∈ b.entries := by simp [hentries]
    have hmore : ∀ next ∈ more, next ∈ b.entries := by
      intro next hnext
      rw [hentries]
      exact List.mem_cons_of_mem e hnext
    have hplace : read .code (front ++ (b.before ++ b.leadingLines e.leading) ++ b.indent) = m := by
      rw [read_append, ← List.append_assoc, read_append, hfront, hb.leading e he, hb.indent]
    simp only [layout, hentries, fronts] at hf
    rcases List.mem_cons.1 hf with rfl | hf
    · exact hplace
    · exact hb.fronts_layoutMore separation groupOf more e _ he hmore hplace f hf

end Block

namespace Sorter

variable {s : Sorter} {source : List Char} {b : Block}

theorem read_finishText (s : Sorter) {t : List Char} (ht : Sentence t) :
    read .code (s.finishText t) = read .code t := by
  unfold finishText
  split
  · exact read_sortNames ht _
  · rfl

theorem free_finishText (s : Sorter) {t r : List Char} (h : hasCloser (t ++ r) = false) :
    Free id ['*', '/'] (s.finishText t ++ r) := by
  unfold finishText
  split
  · exact free_sortNames (by simp [Apart]) (by simp [Apart]) (by simp [Apart]) (by simp [Apart])
      (free_closer h) _
  · exact free_closer h

/-- Outside every comment, a statement moves the lexer only by opening a block comment. -/
theorem steady_code (s : Sorter) {text : List Char} (hb : b.Sound text)
    (hopens : ∀ e ∈ b.entries, (read .code (e.text ++ e.trailing)).inBlock = false) :
    (s.sortBlock b).Steady .code where
  newline := read_newline (s.regular_sortBlock hb).newline _
  indent := read_code_blank (allBlank_of_isIndent hb.indent)
  leading := by
    intro e he
    have hregular := s.regular_sortBlock hb
    exact read_attached hregular.indent hregular.newline
      (fun c hc => (hregular.leading e he c hc).newline) (hregular.attached e he)
  line := by
    intro e he
    obtain ⟨e', he', rfl⟩ := mem_sortEntries he
    have hsame : read .code ((s.finish e').text ++ (s.finish e').trailing) =
        read .code (e'.text ++ e'.trailing) := by
      rw [finish_text, finish_trailing, read_append,
        s.read_finishText (hb.entries e' he').sentence, ← read_append]
    rw [read_append, read_newline (s.regular_sortBlock hb).newline, hsame, hopens e' he']
    rfl

/-- Inside a block comment, a statement moves the lexer only by closing it. -/
theorem steady_block (s : Sorter) {text : List Char} (hb : b.Sound text)
    (hcloses : ∀ e ∈ b.entries,
      hasCloser (e.text ++ e.trailing) = false ∧ ∀ c ∈ e.leading, hasCloser c = false) :
    (s.sortBlock b).Steady .block where
  newline := read_newline (s.regular_sortBlock hb).newline _
  indent := read_block_blank (allBlank_of_isIndent hb.indent)
  leading := by
    intro e he
    obtain ⟨e', he', rfl⟩ := mem_sortEntries he
    rw [finish_leading]
    exact read_inside_lines hb.indent (s.regular_sortBlock hb).newline (hcloses e' he').2
  line := by
    intro e he
    obtain ⟨e', he', rfl⟩ := mem_sortEntries he
    have hin : (read .block (s.finishText e'.text ++ e'.trailing)).inBlock = true :=
      inBlock_read rfl (fun heq => by cases heq) (s.free_finishText (hcloses e' he').1)
    rw [finish_text, finish_trailing, read_append,
      read_newline (s.regular_sortBlock hb).newline, hin]
    rfl

/-! ## Statements and their copies -/

/-- The texts of a source up to the keywords of its statements. -/
def sourceFronts (source : List Char) : List (List Char) :=
  fronts (Banner.cut source).banner (scan (Banner.cut source).rest).occurrences

/-- The texts of the sorted source up to the keywords of the statements there. -/
def emittedFronts (s : Sorter) (source : List Char) : List (List Char) :=
  fronts (Banner.cut source).banner (s.emitted source).occurrences

/-- The statements of a source in the order in which they are emitted, each with the text of the
source up to its keyword. -/
def placed (s : Sorter) (source : List Char) : List (Occurrence × List Char) :=
  sortBy (fun x y => s.comparePaths x.1.path y.1.path)
    ((scan (Banner.cut source).rest).occurrences.zip (sourceFronts source))

/-- For each statement the text of the source up to its keyword, and the text of the sorted source up
to the keyword of its copy. -/
def copies (s : Sorter) (source : List Char) : List (List Char × List Char) :=
  ((s.placed source).map (·.2)).zip (s.emittedFronts source)

/-- What is commented out of the statements stays so, and nothing else is. -/
def KeepsComments (s : Sorter) (source : List Char) : Prop :=
  ∀ p ∈ s.copies source, Outside p.1 ↔ Outside p.2

instance (s : Sorter) (source : List Char) : Decidable (s.KeepsComments source) :=
  inferInstanceAs (Decidable (∀ p ∈ s.copies source, Outside p.1 ↔ Outside p.2))

theorem map_fst_placed (s : Sorter) (source : List Char) :
    (s.placed source).map (·.1) =
      sortBy (fun x y => s.comparePaths x.path y.path)
        (scan (Banner.cut source).rest).occurrences := by
  have hzip : ((scan (Banner.cut source).rest).occurrences.zip (sourceFronts source)).map (·.1) =
      (scan (Banner.cut source).rest).occurrences := by
    refine List.map_fst_zip ?_
    rw [sourceFronts, length_fronts]
  have hmap := sortBy_map (fun x y : Occurrence => s.comparePaths x.path y.path)
    (fun x : Occurrence × List Char => x.1)
    ((scan (Banner.cut source).rest).occurrences.zip (sourceFronts source))
  rw [hzip] at hmap
  exact hmap.symm

theorem map_snd_placed_perm (s : Sorter) (source : List Char) :
    ((s.placed source).map (·.2)).Perm (sourceFronts source) := by
  have hzip : ((scan (Banner.cut source).rest).occurrences.zip (sourceFronts source)).map (·.2) =
      sourceFronts source := by
    refine List.map_snd_zip ?_
    rw [sourceFronts, length_fronts]
  rw [← hzip]
  exact (sortBy_perm _ _).map _

/-- Each copy is the statement of its place in the order, with its names sorted. -/
theorem texts_copies (s : Sorter) (source : List Char) :
    (s.emitted source).occurrences.map (·.text) =
      (s.placed source).map fun x => s.finishText x.1.text := by
  rw [texts_emitted, ← map_fst_placed, List.map_map]
  rfl

theorem map_fst_copies (s : Sorter) (source : List Char) :
    (s.copies source).map (·.1) = (s.placed source).map (·.2) := by
  refine List.map_fst_zip ?_
  have hlength := congrArg List.length (s.texts_copies source)
  rw [List.length_map, List.length_map] at hlength
  rw [List.length_map, emittedFronts, length_fronts, hlength]

/-- If all statements are emitted on one side, sorting keeps what is commented out just if they were
all on that side before. -/
theorem keepsComments_iff {side : Prop}
    (hside : ∀ f ∈ s.emittedFronts source, Outside f ↔ side) :
    s.KeepsComments source ↔ ∀ f ∈ sourceFronts source, Outside f ↔ side := by
  constructor
  · intro hkeeps f hf
    rw [← (s.map_snd_placed_perm source).mem_iff, ← map_fst_copies] at hf
    obtain ⟨p, hp, rfl⟩ := List.mem_map.1 hf
    exact (hkeeps p hp).trans (hside p.2 (List.of_mem_zip hp).2)
  · intro hsource p hp
    have hmem : p.1 ∈ sourceFronts source :=
      (s.map_snd_placed_perm source).mem_iff.1 (List.of_mem_zip hp).1
    exact (hsource p.1 hmem).trans (hside p.2 (List.of_mem_zip hp).2).symm

/-- What stands before the statements and the comments that belong to them. -/
def lead (source : List Char) : List Char :=
  match Block.ofText? (Banner.cut source).rest with
  | none => (Banner.cut source).banner
  | some b => (Banner.cut source).banner ++ b.before

/-- The statements of a source with the comments that belong to them. -/
def entriesOf (source : List Char) : List Entry :=
  match Block.ofText? (Banner.cut source).rest with
  | none => []
  | some b => b.entries

/-- No statement, with the comment on its line, leaves a block comment open. -/
def OpensNone (source : List Char) : Prop :=
  ∀ e ∈ entriesOf source, (read .code (e.text ++ e.trailing)).inBlock = false

/-- No statement and no comment that belongs to one holds the end of a block comment. -/
def ClosesNone (source : List Char) : Prop :=
  ∀ e ∈ entriesOf source,
    hasCloser (e.text ++ e.trailing) = false ∧ ∀ c ∈ e.leading, hasCloser c = false

instance (source : List Char) : Decidable (OpensNone source) :=
  inferInstanceAs (Decidable (∀ e ∈ entriesOf source, _ = _))

instance (source : List Char) : Decidable (ClosesNone source) :=
  inferInstanceAs (Decidable (∀ e ∈ entriesOf source, _ ∧ _))

/-- The lead ends with a line, so the lexer is in code behind it or in a block comment. -/
theorem read_lead (source : List Char) :
    Outside (lead source) ∧ read .code (lead source) = .code ∨
      ¬ Outside (lead source) ∧ read .code (lead source) = .block := by
  have hends : EndsLine (lead source) := by
    unfold lead
    split
    · exact Banner.endsLine_banner source
    · rename_i b hof
      exact (Banner.endsLine_banner source).append (Block.sound_of_ofText? hof).endsLine
  have hread := read_endsLine hends
  split at hread
  · refine .inr ⟨?_, hread⟩
    rw [Outside, hread]
    decide
  · refine .inl ⟨?_, hread⟩
    rw [Outside, hread]
    rfl

theorem read_emittedFronts {m : Mode} (hlead : read .code (lead source) = m)
    (hsteady : ∀ b, Block.ofText? (Banner.cut source).rest = some b → (s.sortBlock b).Steady m) :
    ∀ f ∈ s.emittedFronts source, read .code f = m := by
  intro f hf
  unfold emittedFronts emitted at hf
  unfold lead at hlead
  cases hof : Block.ofText? (Banner.cut source).rest with
  | none =>
    simp only [hof] at hf
    cases hf
  | some b =>
    simp only [hof] at hf hlead
    exact (hsteady b hof).fronts_layout _ _ hlead f hf

theorem outside_emittedFronts (hlead : Outside (lead source)) (hopens : OpensNone source) :
    ∀ f ∈ s.emittedFronts source, Outside f := by
  obtain ⟨-, hcode⟩ := (read_lead source).resolve_right fun h => h.1 hlead
  have hsteady : ∀ b, Block.ofText? (Banner.cut source).rest = some b →
      (s.sortBlock b).Steady .code := by
    intro b hof
    refine s.steady_code (Block.sound_of_ofText? hof) ?_
    simpa only [OpensNone, entriesOf, hof] using hopens
  intro f hf
  rw [Outside, read_emittedFronts hcode hsteady f hf]
  rfl

theorem not_outside_emittedFronts (hlead : ¬ Outside (lead source)) (hcloses : ClosesNone source) :
    ∀ f ∈ s.emittedFronts source, ¬ Outside f := by
  obtain ⟨-, hblock⟩ := (read_lead source).resolve_left fun h => hlead h.1
  have hsteady : ∀ b, Block.ofText? (Banner.cut source).rest = some b →
      (s.sortBlock b).Steady .block := by
    intro b hof
    refine s.steady_block (Block.sound_of_ofText? hof) ?_
    simpa only [ClosesNone, entriesOf, hof] using hcloses
  intro f hf
  rw [Outside, read_emittedFronts hblock hsteady f hf]
  decide

/-- Each statement has one copy, and each keyword stands where it is looked for. If what stands before
the statements leaves no block comment open and no statement does, all copies are outside every
comment, and sorting keeps what is commented out just if all statements were outside before. If a block
comment is open there and no statement closes it, no copy is outside, and sorting keeps what is
commented out just if no statement was outside before. -/
theorem sort_keepsComments_iff (s : Sorter) (source : List Char) :
    (s.emitted source).occurrences.map (·.text) =
      (s.placed source).map (fun x => s.finishText x.1.text) ∧
    (∀ f ∈ sourceFronts source, f ++ importWord <+: source) ∧
    (∀ f ∈ s.emittedFronts source, f ++ importWord <+: (s.sort source).code) ∧
    (Outside (lead source) → OpensNone source →
      (∀ f ∈ s.emittedFronts source, Outside f) ∧
      (s.KeepsComments source ↔ ∀ f ∈ sourceFronts source, Outside f)) ∧
    (¬ Outside (lead source) → ClosesNone source →
      (∀ f ∈ s.emittedFronts source, ¬ Outside f) ∧
      (s.KeepsComments source ↔ ∀ f ∈ sourceFronts source, ¬ Outside f)) := by
  refine ⟨s.texts_copies source, ?_, ?_, ?_, ?_⟩
  · intro f hf
    have hstands := isPrefix_of_mem_fronts (scan (Banner.cut source).rest).tail
      (fun o ho => sound_of_mem_scan ho) _ f hf
    rwa [text_scan, Banner.banner_append_rest] at hstands
  · intro f hf
    rw [code_eq_emitted]
    exact isPrefix_of_mem_fronts (s.emitted source).tail (s.sound_emitted source) _ f hf
  · intro hlead hopens
    have hout := outside_emittedFronts (s := s) hlead hopens
    have hkeeps : s.KeepsComments source ↔ ∀ f ∈ sourceFronts source, Outside f ↔ True :=
      keepsComments_iff fun f hf => iff_of_true (hout f hf) trivial
    refine ⟨hout, ?_⟩
    simpa only [iff_true] using hkeeps
  · intro hlead hcloses
    have hin := not_outside_emittedFronts (s := s) hlead hcloses
    have hkeeps : s.KeepsComments source ↔ ∀ f ∈ sourceFronts source, Outside f ↔ False :=
      keepsComments_iff fun f hf => iff_of_false (hin f hf) id
    refine ⟨hin, ?_⟩
    simpa only [iff_false] using hkeeps

/-- Two statements below a line comment are outside before and after; below a line that opens a block
comment they are inside before and after. -/
theorem sort_keepsComments_open :
    (Outside (lead "// c\nimport b from 'b';\nimport a from 'a';\n".toList) ∧
      OpensNone "// c\nimport b from 'b';\nimport a from 'a';\n".toList ∧
      (ofPolicy .twoGroups).KeepsComments "// c\nimport b from 'b';\nimport a from 'a';\n".toList) ∧
    (¬ Outside (lead "x; /* c\nimport b from 'b';\nimport a from 'a';\n".toList) ∧
      ClosesNone "x; /* c\nimport b from 'b';\nimport a from 'a';\n".toList ∧
      (ofPolicy .twoGroups).KeepsComments
        "x; /* c\nimport b from 'b';\nimport a from 'a';\n".toList) := by
  have hlead : Outside (lead "// c\nimport b from 'b';\nimport a from 'a';\n".toList) := by
    decide +kernel
  have hopens : OpensNone "// c\nimport b from 'b';\nimport a from 'a';\n".toList := by
    decide +kernel
  have hlead' : ¬ Outside (lead "x; /* c\nimport b from 'b';\nimport a from 'a';\n".toList) := by
    decide +kernel
  have hcloses : ClosesNone "x; /* c\nimport b from 'b';\nimport a from 'a';\n".toList := by
    decide +kernel
  refine ⟨⟨hlead, hopens, ?_⟩, ⟨hlead', hcloses, ?_⟩⟩
  · refine ((sort_keepsComments_iff _ _).2.2.2.1 hlead hopens).2.2 ?_
    decide +kernel
  · refine ((sort_keepsComments_iff _ _).2.2.2.2 hlead' hcloses).2.2 ?_
    decide +kernel

/-- The texts between the first quote and the second, the third and the fourth, and so on. -/
def quotedStrings (source : List Char) : List (List Char) :=
  ((splitWhere isQuote source).zipIdx.filter fun piece => piece.2 % 2 == 1).map (·.1)

/-- No quoted string of the source holds a marker of a comment. -/
def MarkersUnquoted (source : List Char) : Prop :=
  ∀ quoted ∈ quotedStrings source, hasComment quoted = false ∧ hasCloser quoted = false

instance (source : List Char) : Decidable (MarkersUnquoted source) :=
  inferInstanceAs (Decidable (∀ quoted ∈ quotedStrings source, _ ∧ _))

/-- Sorting brings an import out of a block comment that the imports around it leave behind; imports
into a block comment that was closed above the first one of them; and imports into a block comment
that one of them opens in its braces. -/
theorem comments_not_kept :
    (MarkersUnquoted "import b from 'b';\n/*\nimport x from 'x';\n*/\nimport a from 'a';\n".toList ∧
      ¬ (ofPolicy .twoGroups).KeepsComments
        "import b from 'b';\n/*\nimport x from 'x';\n*/\nimport a from 'a';\n".toList) ∧
    (MarkersUnquoted "x; /* a\n// b */\nimport z from 'z';\nimport c from 'c';\n".toList ∧
      ¬ (ofPolicy .twoGroups).KeepsComments
        "x; /* a\n// b */\nimport z from 'z';\nimport c from 'c';\n".toList) ∧
    (MarkersUnquoted "import \x7b b /* \x7d from 'b';\n*/ x\nimport c from 'c';\n".toList ∧
      ¬ (ofPolicy .twoGroups).KeepsComments
        "import \x7b b /* \x7d from 'b';\n*/ x\nimport c from 'c';\n".toList) := by
  decide +kernel

end Sorter
end ImportOrder
