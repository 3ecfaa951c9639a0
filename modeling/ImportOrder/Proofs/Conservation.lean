import ImportOrder.Proofs.Sort
import ImportOrder.Proofs.Statement.Scan

/-!
# ImportOrder.Proofs.Conservation

Sorting loses nothing and adds nothing that can be seen.

A source with imports is cut into a lead, its statements with the comments that belong to them, the
residues between those, and a tail (`Cutting`). The cut is by place only: put together again, the
parts are the source. The sorted text shows the same lead, the same statements in their new order,
then the residues in their old order, then the tail.

The main statement is `sort_conserves_visible`. It follows the block that the sorter builds
(`Block.collect`) beside the cut of the source (`Cutting.follow`): `shown_collect` says that, blanks
apart, they hold the same.
-/

namespace ImportOrder

open Text Sorting

/-- A statement of a source with what belongs to it, as it stands there. -/
structure Piece where
  /-- The comment lines right above the statement. -/
  leading : List Char
  indent : List Char
  text : List Char
  /-- The rest of the statement's line if that is a comment, otherwise nothing. -/
  trailing : List Char
  deriving Repr, DecidableEq

namespace Piece

def all (p : Piece) : List Char :=
  p.leading ++ p.indent ++ p.text ++ p.trailing

def path (p : Piece) : List Char :=
  Statement.path p.text

end Piece

/-- A source with imports, cut around them. -/
structure Cutting where
  /-- What stands before the first statement's line and the comment lines that belong to it. -/
  lead : List Char
  first : Piece
  /-- The other statements, each with the residue between the one before and itself. -/
  others : List (List Char × Piece)
  /-- What stands behind the last statement and the comment on its line. -/
  tail : List Char
  deriving Repr, DecidableEq

namespace Cutting

def pieces (c : Cutting) : List Piece :=
  c.first :: c.others.map (·.2)

def residues (c : Cutting) : List (List Char) :=
  c.others.map (·.1)

def source (c : Cutting) : List Char :=
  c.lead ++ c.first.all ++ (c.others.map fun (residue, piece) => residue ++ piece.all).flatten ++
    c.tail

/-- The rest of a statement's line if that is a comment, and what follows. -/
def cutLine (gap : List Char) : List Char × List Char :=
  if (Comment.trailing? (splitLine gap).1).isSome then splitLine gap else ([], gap)

/-- What stands before the comment lines at the end of a gap, and these lines. -/
def cutAbove (gap : List Char) : List Char × List Char :=
  let keep := (lines gap).length - Comment.attachedLines ((lines gap).map Block.bareLine)
  (((lines gap).take keep).flatten, ((lines gap).drop keep).flatten)

/-- The piece `current` with the rest of its line, the other pieces, and the tail. -/
def follow (current : Piece) :
    List Statement.Occurrence → List Char → Piece × List (List Char × Piece) × List Char
  | [], tail => ({ current with trailing := (cutLine tail).1 }, [], (cutLine tail).2)
  | o :: more, tail =>
    let above := cutAbove (cutLine o.gap).2
    let (next, others, rest) := follow ⟨above.2, o.indent, o.text, []⟩ more tail
    ({ current with trailing := (cutLine o.gap).1 }, (above.1, next) :: others, rest)

/-- Cuts a source around the imports that are found behind its banner; nothing if there are none. -/
def ofSource? (source : List Char) : Option Cutting :=
  match Statement.scan (Banner.cut source).rest with
  | ⟨[], _⟩ => none
  | ⟨o :: more, tail⟩ =>
    let (first, others, rest) := follow ⟨(cutAbove o.gap).2, o.indent, o.text, []⟩ more tail
    some ⟨(Banner.cut source).banner ++ (cutAbove o.gap).1, first, others, rest⟩

/-- The tail as sorting keeps it: whole if it is blank, otherwise from its first line with content
on. Content on the last statement's own line is kept without the blanks before it. -/
def keptTail (c : Cutting) : List Char :=
  if allBlank c.tail then c.tail
  else if allBlank (splitLine c.tail).1 then ((lines c.tail).dropWhile allBlank).flatten
  else trimStart c.tail

end Cutting

namespace Sorter

/-- The order of the statements: by the group of the path, then by the path. -/
def comparePieces (s : Sorter) (a b : Piece) : Ordering :=
  s.comparePaths a.path b.path

/-- The pieces in the order of their statements. -/
def inOrder (s : Sorter) (pieces : List Piece) : List Piece :=
  sortBy s.comparePieces pieces

end Sorter

/-! ## The cut is by place only -/

namespace Cutting

theorem cutLine_append (gap : List Char) : (cutLine gap).1 ++ (cutLine gap).2 = gap := by
  rw [cutLine]
  split
  · exact List.takeWhile_append_dropWhile
  · rfl

theorem cutAbove_append (gap : List Char) : (cutAbove gap).1 ++ (cutAbove gap).2 = gap := by
  rw [cutAbove, ← List.flatten_append, List.take_append_drop, flatten_lines]

/-- Following the statements loses nothing of the text behind the current one. -/
theorem follow_append (occs : List Statement.Occurrence) (tail : List Char) :
    ∀ current : Piece, current.trailing = [] →
      (follow current occs tail).1.all ++
          ((follow current occs tail).2.1.map fun (residue, piece) => residue ++ piece.all).flatten ++
          (follow current occs tail).2.2 =
        current.all ++ (⟨occs, tail⟩ : Statement.Scanned).text := by
  induction occs with
  | nil =>
    intro current h
    simp [follow, Piece.all, Statement.Scanned.text, h, cutLine_append]
  | cons o more ih =>
    intro current h
    have hnext := ih ⟨(cutAbove (cutLine o.gap).2).2, o.indent, o.text, []⟩ rfl
    have hgap := cutLine_append o.gap
    have habove := cutAbove_append (cutLine o.gap).2
    simp only [Piece.all, List.append_assoc, Statement.Scanned.text, List.append_nil] at hnext
    simp only [follow, Piece.all, h, List.map_cons, List.flatten_cons, List.append_assoc,
      Statement.Scanned.text, List.append_nil]
    rw [hnext]
    congr 3
    rw [← List.append_assoc (cutAbove _).1, habove, ← List.append_assoc, hgap]

theorem source_ofSource? {source : List Char} {c : Cutting} (h : ofSource? source = some c) :
    c.source = source := by
  unfold ofSource? at h
  split at h
  · cases h
  · rename_i o more tail hscan
    cases h
    have htext := Statement.text_scan (Banner.cut source).rest
    rw [hscan] at htext
    have hfollow := follow_append more tail ⟨(cutAbove o.gap).2, o.indent, o.text, []⟩ rfl
    have habove := cutAbove_append o.gap
    simp only [Cutting.source, List.append_assoc] at hfollow ⊢
    rw [hfollow]
    simp only [Piece.all, List.append_assoc, List.append_nil]
    rw [← List.append_assoc (cutAbove o.gap).1, habove]
    have hrest : o.gap ++ (o.indent ++ (o.text ++ (⟨more, tail⟩ : Statement.Scanned).text)) =
        (Banner.cut source).rest := by
      rw [← htext]
      simp [Statement.Scanned.text]
    rw [hrest, Banner.banner_append_rest]

end Cutting

/-! ## What a block shows -/

namespace Block

@[simp] theorem visible_newlineOf (text : List Char) : visible (newlineOf text) = [] := by
  unfold newlineOf
  split <;> rfl

@[simp] theorem visible_bareLine (line : List Char) : visible (bareLine line) = visible line := by
  refine visible_dropEndWhile (fun c hc => ?_) line
  simp only [Bool.or_eq_true, beq_iff_eq] at hc
  rcases hc with rfl | rfl <;> rfl

theorem visible_dropIndent {indent : List Char} (h : visible indent = []) (line : List Char) :
    visible (dropIndent indent line) = visible line := by
  unfold dropIndent
  split
  · rename_i rest hrest
    have hline := List.isPrefixOf?_eq_some_iff_append_eq.1 hrest
    rw [← hline, visible_append, h, List.nil_append]
  · exact visible_trimStart line

/-- What an entry shows. -/
def shown (e : Entry) : List Char :=
  visible e.leading.flatten ++ visible e.text ++ visible e.trailing

theorem visible_renderEntry {b : Block} (hn : visible b.newline = []) (hi : visible b.indent = [])
    (e : Entry) : visible (b.renderEntry e) = shown e := by
  have hlead : visible (e.leading.map fun c => c ++ b.newline ++ b.indent).flatten =
      visible e.leading.flatten := by
    rw [visible_flatten, visible_flatten, List.map_map]
    simp [Function.comp_def, hn, hi]
  rw [renderEntry, visible_append, visible_append, hlead, shown]

theorem visible_renderMore {b : Block} (hn : visible b.newline = []) (hi : visible b.indent = [])
    (separation : Bool) (groupOf : Entry → Nat) (entries : List Entry) :
    ∀ previous, visible (b.renderMore separation groupOf previous entries) =
      (entries.map shown).flatten := by
  induction entries with
  | nil => intro previous; rfl
  | cons e more ih =>
    intro previous
    have hgap : visible (if separation && previous != groupOf e then b.newline else []) = [] := by
      split
      · exact hn
      · rfl
    simp only [renderMore, visible_append, hn, hi, hgap, ih, visible_renderEntry hn hi,
      List.nil_append, List.map_cons, List.flatten_cons]

/-- A block shows what stands before its entries, the entries, what was set aside, and the rest. -/
theorem visible_render {b : Block} (hn : visible b.newline = []) (hi : visible b.indent = [])
    (separation : Bool) (groupOf : Entry → Nat) :
    visible (b.render separation groupOf) =
      visible b.before ++ (b.entries.map shown).flatten ++ visible b.displaced.flatten ++
        visible b.after := by
  have hentries : visible (b.renderEntries separation groupOf) = (b.entries.map shown).flatten := by
    unfold renderEntries
    cases b.entries with
    | nil => rfl
    | cons e more =>
      simp only [visible_append, visible_renderEntry hn hi, visible_renderMore hn hi,
        List.map_cons, List.flatten_cons]
  have hdisplaced : visible (b.displaced.map fun seg => b.newline ++ b.newline ++ seg).flatten =
      visible b.displaced.flatten := by
    rw [visible_flatten, visible_flatten, List.map_map]
    simp [Function.comp_def, hn]
  have hafter : visible b.renderAfter = visible b.after := by
    unfold renderAfter
    split
    · rfl
    · simp [hn]
  simp only [render, visible_append, hi, hentries, hdisplaced, hafter, List.append_nil]

end Block

/-! ## The block beside the cut -/

namespace Cutting

theorem cutComment_eq (gap : List Char) :
    visible (Block.cutComment gap).1 = visible (cutLine gap).1 ∧
      (Block.cutComment gap).2 = (cutLine gap).2 := by
  simp only [Block.cutComment, cutLine]
  cases h : Comment.trailing? (splitLine gap).1 with
  | none => exact ⟨rfl, rfl⟩
  | some comment =>
    simp only [Comment.trailing?] at h
    split at h
    · cases h
      exact ⟨visible_trimEnd _, rfl⟩
    · cases h

theorem cutAttached_eq {indent : List Char} (hi : visible indent = []) (gap : List Char) :
    (Block.cutAttached gap indent).1 = (cutAbove gap).1 ∧
      visible (Block.cutAttached gap indent).2.flatten = visible (cutAbove gap).2 := by
  refine ⟨rfl, ?_⟩
  simp only [Block.cutAttached, cutAbove]
  rw [visible_flatten, visible_flatten, List.map_map]
  congr 2
  funext line
  simp [Block.visible_dropIndent hi]

theorem visible_keep (kept : List Char) (displaced : List (List Char)) :
    visible (if kept.isEmpty then displaced else kept :: displaced).flatten =
      visible kept ++ visible displaced.flatten := by
  cases kept with
  | nil => rfl
  | cons c kept => rw [List.isEmpty_cons, if_neg (by decide), List.flatten_cons, visible_append]

/-- The entries of a block hold what the pieces of the cut hold, blanks apart, in the same order. -/
theorem shown_collect {indent : List Char} (hi : visible indent = [])
    (occs : List Statement.Occurrence) (tail : List Char) :
    (∀ o ∈ occs, visible o.indent = []) → ∀ (e : Entry) (p : Piece),
      e.path = p.path → Block.shown e = visible p.all → e.trailing = [] → p.trailing = [] →
      ((Block.collect indent e occs tail).1.map fun e => (e.path, Block.shown e)) =
          (((follow p occs tail).1 :: (follow p occs tail).2.1.map (·.2)).map fun p =>
            (p.path, visible p.all)) ∧
        visible (Block.collect indent e occs tail).2.1.flatten =
          visible ((follow p occs tail).2.1.map (·.1)).flatten ∧
        (Block.collect indent e occs tail).2.2 = (follow p occs tail).2.2 := by
  induction occs with
  | nil =>
    intro _ e p hpath hshown he hp
    obtain ⟨hline, hrest⟩ := cutComment_eq tail
    simp only [Block.shown, Piece.all, visible_append, he, hp, visible_nil, List.append_nil]
      at hshown
    simp only [Block.collect, follow, List.map_cons, List.map_nil, Block.shown, Piece.all,
      visible_append, hline, hrest, hshown, and_true]
    exact congrArg₂ List.cons (Prod.ext hpath rfl) rfl
  | cons o more ih =>
    intro ho e p hpath hshown he hp
    obtain ⟨hline, hrest⟩ := cutComment_eq o.gap
    obtain ⟨hbetween, hlead⟩ := cutAttached_eq hi (Block.cutComment o.gap).2
    rw [hrest] at hbetween hlead
    have hnext := ih (fun o' h => ho o' (List.mem_cons_of_mem o h))
      ⟨Statement.path o.text, (Block.cutAttached (cutLine o.gap).2 indent).2, o.text, []⟩
      ⟨(cutAbove (cutLine o.gap).2).2, o.indent, o.text, []⟩ rfl
      (by simp [Block.shown, Piece.all, hlead, ho o List.mem_cons_self]) rfl rfl
    obtain ⟨hkeys, hset, hafter⟩ := hnext
    simp only [Block.shown, Piece.all, visible_append, he, hp, visible_nil, List.append_nil]
      at hshown
    simp only [Block.collect, follow, hrest]
    refine ⟨?_, ?_, hafter⟩
    · refine congrArg₂ List.cons (Prod.ext hpath ?_) hkeys
      simp only [Block.shown, Piece.all, visible_append, hline, hshown]
    · rw [visible_keep, hset, Block.residue, visible_trimEnd, visible_dropBlankLines, hbetween,
        List.map_cons, List.flatten_cons, visible_append]

theorem keptTail_eq (c : Cutting) :
    c.keptTail = if allBlank c.tail then c.tail else dropBlankLines c.tail := by
  rw [keptTail]
  cases h : allBlank c.tail with
  | true => rfl
  | false => rw [dropBlankLines_eq_lines h]

theorem keptTail_suffix (c : Cutting) : c.keptTail <:+ c.tail := by
  rw [keptTail_eq]
  split
  · exact List.suffix_refl _
  · exact dropBlankLines_suffix _

theorem texts_follow (occs : List Statement.Occurrence) (tail : List Char) :
    ∀ p : Piece, ((follow p occs tail).1 :: (follow p occs tail).2.1.map (·.2)).map (·.text) =
      p.text :: occs.map (·.text) := by
  induction occs with
  | nil => intro p; rfl
  | cons o more ih =>
    intro p
    have hnext := ih ⟨(cutAbove (cutLine o.gap).2).2, o.indent, o.text, []⟩
    exact congrArg (p.text :: ·) hnext

theorem block_of_ofSource? {source : List Char} {c : Cutting} (h : ofSource? source = some c) :
    ∃ b, Block.ofText? (Banner.cut source).rest = some b ∧
      visible b.newline = [] ∧ visible b.indent = [] ∧
      c.lead = (Banner.cut source).banner ++ b.before ∧
      (b.entries.map fun e => (e.path, Block.shown e)) =
        (c.pieces.map fun p => (p.path, visible p.all)) ∧
      visible b.displaced.flatten = visible c.residues.flatten ∧ b.after = c.tail := by
  unfold ofSource? at h
  split at h
  · cases h
  · rename_i o more tail hscan
    cases h
    have hocc : ∀ o' ∈ o :: more, visible o'.indent = [] := by
      intro o' ho'
      have hmem : o' ∈ (Statement.scan (Banner.cut source).rest).occurrences := by rwa [hscan]
      exact Statement.visible_indent (Statement.sound_of_mem_scan hmem)
    have hi : visible o.indent = [] := hocc o List.mem_cons_self
    obtain ⟨hbefore, hlead⟩ := cutAttached_eq hi o.gap
    obtain ⟨hkeys, hset, hafter⟩ := shown_collect hi more tail
      (fun o' h => hocc o' (List.mem_cons_of_mem o h))
      ⟨Statement.path o.text, (Block.cutAttached o.gap o.indent).2, o.text, []⟩
      ⟨(cutAbove o.gap).2, o.indent, o.text, []⟩ rfl
      (by simp [Block.shown, Piece.all, hlead, hi]) rfl rfl
    refine ⟨_, by rw [Block.ofText?, hscan], Block.visible_newlineOf _, hi, ?_, hkeys, hset, hafter⟩
    rw [hbefore]

end Cutting

/-! ## Sorting -/

namespace Sorter

/-- Entries and pieces that hold the same are sorted alike. -/
theorem shown_sortEntries {s : Sorter} (hnames : s.policy.sortNames = false)
    {entries : List Entry} {pieces : List Piece}
    (h : (entries.map fun e => (e.path, Block.shown e)) =
      (pieces.map fun p => (p.path, visible p.all))) :
    (s.sortEntries entries).map Block.shown = (s.inOrder pieces).map fun p => visible p.all := by
  let byPath (a b : List Char × List Char) : Ordering := s.comparePaths a.1 b.1
  have hentries : (s.sortEntries entries).map (fun e => (e.path, Block.shown e)) =
      sortBy byPath (entries.map fun e => (e.path, Block.shown e)) := by
    rw [sortBy_map, sortEntries_eq, List.map_congr_left (g := id) fun e _ => finish_eq_self hnames e,
      List.map_id]
    rfl
  have hpieces : (s.inOrder pieces).map (fun p => (p.path, visible p.all)) =
      sortBy byPath (pieces.map fun p => (p.path, visible p.all)) := by
    rw [sortBy_map]
    rfl
  have hboth := congrArg (List.map Prod.snd) (hentries.trans (h ▸ hpieces.symm))
  simpa [List.map_map, Function.comp_def] using hboth

/-- Sorting keeps all that can be seen, each part once: the lead in front, the statements in their
order, the residues behind them, and the tail at the end. The lead and the kept part of the tail
stay as they are to the last blank. -/
theorem sort_conserves_visible (s : Sorter) (hnames : s.policy.sortNames = false)
    (source : List Char) :
    (Cutting.ofSource? source = none → s.sort source = ⟨source, false⟩) ∧
    ∀ c, Cutting.ofSource? source = some c →
      c.pieces.map (·.text) =
        (Statement.scan (Banner.cut source).rest).occurrences.map (·.text) ∧
      c.source = source ∧
      visible source = visible c.lead ++ visible c.first.all ++
        (c.others.map fun (residue, piece) => visible residue ++ visible piece.all).flatten ++
        visible c.tail ∧
      (s.inOrder c.pieces).Perm c.pieces ∧
      visible (s.sort source).code = visible c.lead ++
        ((s.inOrder c.pieces).map fun p => visible p.all).flatten ++
        (c.residues.map visible).flatten ++ visible c.tail ∧
      c.lead <+: source ∧ c.lead <+: (s.sort source).code ∧
      c.keptTail <:+ source ∧ c.keptTail <:+ (s.sort source).code := by
  refine ⟨fun hnone => ?_, fun c hc => ?_⟩
  · have hblock : Block.ofText? (Banner.cut source).rest = none := by
      cases hscan : Statement.scan (Banner.cut source).rest with
      | mk occurrences tail =>
        cases occurrences with
        | nil => rw [Block.ofText?, hscan]
        | cons first more =>
          rw [Cutting.ofSource?, hscan] at hnone
          cases hnone
    exact sort_of_none hblock
  · obtain ⟨b, hb, hn, hi, hlead, hkeys, hset, hafter⟩ := Cutting.block_of_ofSource? hc
    have hsource := Cutting.source_ofSource? hc
    have hcode := code_of_block (s := s) hb
    have htexts : c.pieces.map (·.text) =
        (Statement.scan (Banner.cut source).rest).occurrences.map (·.text) := by
      unfold Cutting.ofSource? at hc
      split at hc
      · cases hc
      · rename_i o more tail hscan
        cases hc
        rw [hscan]
        exact Cutting.texts_follow more tail _
    have hvisible : visible (s.sort source).code = visible c.lead ++
        ((s.inOrder c.pieces).map fun p => visible p.all).flatten ++
        (c.residues.map visible).flatten ++ visible c.tail := by
      rw [hcode, visible_append, Block.visible_render (b := s.sortBlock b) hn hi]
      simp only [sortBlock_before, sortBlock_entries, sortBlock_displaced, sortBlock_after,
        shown_sortEntries hnames hkeys, hset, hafter, hlead, visible_append, List.append_assoc,
        visible_flatten c.residues]
    have htail : c.keptTail <:+ (s.sort source).code := by
      have hrender : c.keptTail <:+ (s.sortBlock b).renderAfter := by
        rw [Cutting.keptTail_eq, Block.renderAfter, sortBlock_after, hafter]
        split
        · exact List.suffix_refl _
        · exact List.suffix_append _ _
      rw [hcode, Block.render, ← List.append_assoc]
      exact hrender.trans (List.suffix_append _ _)
    refine ⟨htexts, hsource, ?_, sortBy_perm _ _, hvisible, ?_, ?_, ?_, htail⟩
    · conv_lhs => rw [← hsource, Cutting.source]
      rw [visible_append, visible_append, visible_append, visible_flatten, List.map_map]
      simp only [Function.comp_def, visible_append]
    · exact ⟨_, by rw [← hsource, Cutting.source, List.append_assoc, List.append_assoc]⟩
    · rw [hcode, hlead, Block.render, sortBlock_before]
      simp only [List.append_assoc, List.prefix_append_right_inj]
      exact List.prefix_append _ _
    · have hwhole : c.tail <:+ source := by
        rw [← hsource, Cutting.source]
        exact List.suffix_append _ _
      exact c.keptTail_suffix.trans hwhole

/-- The parts of a source with a comment, with code between its imports and with code on the line
of the last one. -/
theorem sort_conserves_visible_mixed :
    (Sorter.ofPolicy .twoGroups).policy.sortNames = false ∧
    ∃ c, Cutting.ofSource? "import b from './b'; // l\nx;\n// m\nimport a from 'a'; f;\n".toList =
        some c ∧
      visible ((Sorter.ofPolicy .twoGroups).sort
          "import b from './b'; // l\nx;\n// m\nimport a from 'a'; f;\n".toList).code =
        visible c.lead ++
          (((Sorter.ofPolicy .twoGroups).inOrder c.pieces).map fun p => visible p.all).flatten ++
          (c.residues.map visible).flatten ++ visible c.tail := by
  have hcut : Cutting.ofSource?
      "import b from './b'; // l\nx;\n// m\nimport a from 'a'; f;\n".toList =
      some ⟨[], ⟨[], [], "import b from './b';".toList, " // l".toList⟩,
        [("\nx;\n".toList, ⟨"// m\n".toList, [], "import a from 'a';".toList, []⟩)],
        " f;\n".toList⟩ := by
    decide +kernel
  obtain ⟨-, -, -, -, hcode, -⟩ :=
    (sort_conserves_visible (.ofPolicy .twoGroups) rfl _).2 _ hcut
  exact ⟨rfl, _, hcut, hcode⟩

/-- Code behind the last import on its line moves to a line of its own, without the blanks before
it: a tail with content and without a blank line at its start need not end the sorted text. -/
theorem tail_on_import_line_not_kept :
    ∃ c, Cutting.ofSource? "import a from 'a'; f;\n".toList = some c ∧
      allBlank c.tail = false ∧ ((lines c.tail).dropWhile allBlank).flatten = c.tail ∧
      ¬ c.tail <:+
        ((Sorter.ofPolicy .twoGroups).sort "import a from 'a'; f;\n".toList).code := by
  refine ⟨⟨[], ⟨[], [], "import a from 'a';".toList, []⟩, [], " f;\n".toList⟩, ?_⟩
  decide +kernel

end Sorter

end ImportOrder
