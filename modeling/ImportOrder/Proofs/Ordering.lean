import ImportOrder.Proofs.Idempotence
import ImportOrder.Proofs.Sorting.Laws
import ImportOrder.Proofs.Sorting.Stable

/-!
# ImportOrder.Proofs.Ordering

The order in which sorting puts the statements of a source. They are the statements that a scan
finds behind the banner, each once. Every two of them stand in the order of their groups, within a
group in the natural order of their paths, and if these are equal as they stood in the source:
`sort_emits_in_order`. The natural order must be transitive on the paths, as it always is without
regard to case. The order by groups is transitive exactly unless three paths of one group are in a
circle (`Policy.HasCircle`).
-/

namespace ImportOrder

open Text Sorting Statement

/-! ## Groups -/

namespace Policy

/-- Whether some pattern of the policy takes a path. -/
def Takes (p : Policy) (path : List Char) : Prop :=
  ∃ pattern ∈ p.patterns, (PathGroup.ofPattern pattern).takes path = true

/-- The group of a path: the place of the first pattern that takes it, or else the place behind all
patterns. -/
structure InGroup (p : Policy) (path : List Char) (i : Nat) : Prop where
  first : ∀ j < i, ∀ pattern, p.patterns[j]? = some pattern →
    (PathGroup.ofPattern pattern).takes path = false
  taken : ∀ pattern, p.patterns[i]? = some pattern →
    (PathGroup.ofPattern pattern).takes path = true
  last : i ≤ p.patterns.length

theorem index_eq (p : Policy) (path : List Char) :
    p.grouping.index path =
      p.patterns.findIdx fun pattern => (PathGroup.ofPattern pattern).takes path := by
  simp only [grouping, Grouping.ofPatterns, Grouping.index, List.findIdx_map, Function.comp_def]

theorem inGroup_index (p : Policy) (path : List Char) :
    p.InGroup path (p.grouping.index path) := by
  rw [index_eq]
  refine ⟨fun j hj pattern hpattern => ?_, fun pattern hpattern => ?_, List.findIdx_le_length⟩
  · obtain ⟨hlt, rfl⟩ := List.getElem?_eq_some_iff.1 hpattern
    exact List.not_of_lt_findIdx hj
  · obtain ⟨hlt, rfl⟩ := List.getElem?_eq_some_iff.1 hpattern
    exact List.findIdx_getElem (w := hlt)

theorem takes_iff (p : Policy) (path : List Char) :
    p.Takes path ↔ p.grouping.index path < p.patterns.length := by
  rw [index_eq, List.findIdx_lt_length]
  rfl

end Policy

/-! ## The statements of a block -/

def Statement.Occurrence.path (o : Occurrence) : List Char :=
  Statement.path o.text

namespace Block

theorem statements_collect (indent : List Char) (occs : List Occurrence) (tail : List Char) :
    ∀ current : Entry, ((collect indent current occs tail).1.map fun e => (e.path, e.text)) =
      (current.path, current.text) :: occs.map fun o => (o.path, o.text) := by
  induction occs with
  | nil => intro current; rfl
  | cons o more ih =>
    intro current
    simp only [collect, List.map_cons, ih, Occurrence.path]

theorem statements_ofText? {text : List Char} {b : Block} (h : ofText? text = some b) :
    (b.entries.map fun e => (e.path, e.text)) =
      (scan text).occurrences.map fun o => (o.path, o.text) := by
  unfold ofText? at h
  split at h
  · cases h
  · rename_i first more tail hscan
    cases h
    rw [hscan]
    exact statements_collect first.indent more tail _

theorem scan_of_ofText?_none {text : List Char} (h : ofText? text = none) :
    (scan text).occurrences = [] := by
  unfold ofText? at h
  split at h
  · rename_i tail hscan
    rw [hscan]
  · cases h

theorem texts_layoutMore (b : Block) (separation : Bool) (groupOf : Entry → Nat)
    (more : List Entry) :
    ∀ e, (b.layoutMore separation groupOf e more).occurrences.map (·.text) =
      more.map (·.text) := by
  induction more with
  | nil => intro e; rfl
  | cons next more ih =>
    intro e
    simp only [layoutMore, List.map_cons, ih]

theorem texts_layout (b : Block) (separation : Bool) (groupOf : Entry → Nat) :
    (b.layout separation groupOf).occurrences.map (·.text) = b.entries.map (·.text) := by
  unfold layout
  cases b.entries with
  | nil => rfl
  | cons e more => simp only [List.map_cons, texts_layoutMore]

theorem sound_layoutMore {b : Block} (hb : b.Regular) (separation : Bool) (groupOf : Entry → Nat)
    (more : List Entry) :
    ∀ e, (∀ next ∈ more, next ∈ b.entries) →
      ∀ o ∈ (b.layoutMore separation groupOf e more).occurrences, o.Sound := by
  induction more with
  | nil => simp [layoutMore]
  | cons next more ih =>
    intro e hmore o ho
    rcases List.mem_cons.1 ho with rfl | ho
    · refine ⟨hb.indent, hb.sentence next (hmore next List.mem_cons_self), ?_⟩
      rw [← List.append_assoc, ← List.append_assoc]
      exact ((hb.newline.endsLine_append _).append (endsLine_separator hb.newline ..)).append
        (endsLine_leadingLines hb.newline _)
    · exact ih next (fun e' he' => hmore e' (List.mem_cons_of_mem _ he')) o ho

theorem sound_layout {b : Block} (hb : b.Regular) (separation : Bool) (groupOf : Entry → Nat) :
    ∀ o ∈ (b.layout separation groupOf).occurrences, o.Sound := by
  unfold layout
  cases hentries : b.entries with
  | nil => simp
  | cons e more =>
    intro o ho
    rcases List.mem_cons.1 ho with rfl | ho
    · exact ⟨hb.indent, hb.sentence e (by simp [hentries]),
        hb.endsLine.append (endsLine_leadingLines hb.newline _)⟩
    · exact sound_layoutMore hb separation groupOf more e (by simp +contextual [hentries]) o ho

end Block

/-! ## The order of the statements -/

namespace Sorter

/-- A statement as it is put into the text: with the names in its braces sorted, if the policy asks
for it. -/
def finishText (s : Sorter) (text : List Char) : List Char :=
  if s.policy.sortNames then Statement.sortNames s.policy.ignoreCase text else text

@[simp] theorem finish_text (s : Sorter) (e : Entry) :
    (s.finish e).text = s.finishText e.text := by
  unfold finish finishText
  split <;> rfl

theorem texts_sortEntries (s : Sorter) {entries : List Entry} {occs : List Occurrence}
    (h : (entries.map fun e => (e.path, e.text)) =
      occs.map fun o => (o.path, o.text)) :
    (s.sortEntries entries).map (·.text) =
      (sortBy (fun a b => s.comparePaths a.path b.path)
        occs).map fun o => s.finishText o.text := by
  -- both are sorted as the list of paths and texts that they have in common
  let byPath (a b : List Char × List Char) : Ordering := s.comparePaths a.1 b.1
  have hentries := sortBy_map byPath (fun e : Entry => (e.path, e.text)) entries
  have hoccs := sortBy_map byPath (fun o : Occurrence => (o.path, o.text)) occs
  rw [h, hoccs] at hentries
  have htexts := congrArg (List.map fun x => s.finishText x.2) hentries
  simp only [List.map_map, Function.comp_def] at htexts
  rw [sortEntries_eq, List.map_map]
  refine Eq.trans ?_ htexts.symm
  exact List.map_congr_left fun e _ => s.finish_text e

section Compare

variable {s : Sorter} {a b : List Char}

theorem comparePaths_eq_lt : s.comparePaths a b = .lt ↔
    s.grouping.index a < s.grouping.index b ∨
      s.grouping.index a = s.grouping.index b ∧ natural s.policy.ignoreCase a b = .lt := by
  rw [comparePaths, Ordering.then_eq_lt, Nat.compare_eq_lt, Nat.compare_eq_eq]

theorem comparePaths_eq_eq : s.comparePaths a b = .eq ↔
    s.grouping.index a = s.grouping.index b ∧ natural s.policy.ignoreCase a b = .eq := by
  rw [comparePaths, Ordering.then_eq_eq, Nat.compare_eq_eq]

theorem isLE_comparePaths : (s.comparePaths a b).isLE = true ↔
    s.grouping.index a < s.grouping.index b ∨
      s.grouping.index a = s.grouping.index b ∧
        (natural s.policy.ignoreCase a b).isLE = true := by
  rw [Ordering.isLE_iff_eq_lt_or_eq_eq, Ordering.isLE_iff_eq_lt_or_eq_eq, comparePaths_eq_lt,
    comparePaths_eq_eq]
  tauto

/-- The comparison by groups is transitive where that of the paths of a group is. -/
theorem isLE_comparePaths_trans {c : List Char}
    (h : s.grouping.index a = s.grouping.index b → s.grouping.index b = s.grouping.index c →
      (natural s.policy.ignoreCase a b).isLE = true →
      (natural s.policy.ignoreCase b c).isLE = true →
      (natural s.policy.ignoreCase a c).isLE = true)
    (hab : (s.comparePaths a b).isLE = true) (hbc : (s.comparePaths b c).isLE = true) :
    (s.comparePaths a c).isLE = true := by
  rw [isLE_comparePaths] at hab hbc ⊢
  rcases hab with hab | ⟨hab, hle⟩
  · rcases hbc with hbc | ⟨hbc, -⟩ <;> exact .inl (by omega)
  · rcases hbc with hbc | ⟨hbc, hle'⟩
    · exact .inl (by omega)
    · exact .inr ⟨by omega, h hab hbc hle hle'⟩

end Compare

theorem transOn_comparePaths {s : Sorter} {paths : List (List Char)}
    (h : TransOn (natural s.policy.ignoreCase) paths) : TransOn s.comparePaths paths :=
  fun a ha b hb c hc => isLE_comparePaths_trans fun _ _ => h a ha b hb c hc

end Sorter

/-- The paths of the imports behind the banner of a source. -/
def importPaths (source : List Char) : List (List Char) :=
  (scan (Banner.cut source).rest).occurrences.map (·.path)

namespace Policy

def groupOf (p : Policy) (o : Occurrence) : Nat :=
  p.grouping.index o.path

/-- Case counts, and three paths of one group are in a circle. -/
def HasCircle (p : Policy) (paths : List (List Char)) : Prop :=
  p.ignoreCase = false ∧ ∃ a ∈ paths, ∃ b ∈ paths, ∃ c ∈ paths,
    p.grouping.index a = p.grouping.index b ∧ p.grouping.index b = p.grouping.index c ∧
      InCircle a b c

/-- One statement, given with its place in the source, comes before another in the order of a
policy. -/
def Before (p : Policy) (x y : Occurrence × Nat) : Prop :=
  p.groupOf x.1 < p.groupOf y.1 ∨
    p.groupOf x.1 = p.groupOf y.1 ∧ natural p.ignoreCase x.1.path y.1.path = .lt ∨
    p.groupOf x.1 = p.groupOf y.1 ∧ natural p.ignoreCase x.1.path y.1.path = .eq ∧ x.2 < y.2

theorem takes_of_before {p : Policy} {x y : Occurrence × Nat} (h : p.Before x y)
    (hy : p.Takes y.1.path) : p.Takes x.1.path := by
  rw [takes_iff] at hy ⊢
  simp only [Before, groupOf] at h
  omega

end Policy

namespace Sorter

theorem transOn_of_not_hasCircle {p : Policy} {paths : List (List Char)} (h : ¬ p.HasCircle paths) :
    TransOn (ofPolicy p).comparePaths paths := by
  intro a ha b hb c hc
  refine isLE_comparePaths_trans fun hgroup hgroup' => natural_trans ?_
  by_cases hcase : p.ignoreCase = true
  · exact .inl hcase
  · refine .inr fun hcircle => h ?_
    exact ⟨by simpa using hcase, a, ha, b, hb, c, hc, hgroup, hgroup', hcircle⟩

theorem comparePaths_of_inCircle {p : Policy} (hcase : p.ignoreCase = false) {a b c : List Char}
    (hab : p.grouping.index a = p.grouping.index b) (hbc : p.grouping.index b = p.grouping.index c)
    (h : InCircle a b c) :
    (ofPolicy p).comparePaths a b = .lt ∧ (ofPolicy p).comparePaths b c = .lt ∧
      (ofPolicy p).comparePaths c a = .lt := by
  obtain ⟨hlt, hlt', hgt⟩ := h.not_trans
  have hlt'' : natural false c a = .lt := by
    rw [natural_swap false a c, hgt]
    rfl
  rw [← hcase] at hlt hlt' hlt''
  exact ⟨comparePaths_eq_lt.2 (.inr ⟨hab, hlt⟩), comparePaths_eq_lt.2 (.inr ⟨hbc, hlt'⟩),
    comparePaths_eq_lt.2 (.inr ⟨(hab.trans hbc).symm, hlt''⟩)⟩

theorem before_of_precedes {p : Policy} {x y : Occurrence × Nat}
    (h : Precedes (fun a b => (ofPolicy p).comparePaths a.path b.path) x y) : p.Before x y := by
  rcases h with h | ⟨h, hplace⟩
  · rcases comparePaths_eq_lt.1 h with h | h
    · exact .inl h
    · exact .inr (.inl h)
  · obtain ⟨hgroup, horder⟩ := comparePaths_eq_eq.1 h
    exact .inr (.inr ⟨hgroup, horder, hplace⟩)

/-- The sorted text behind the banner, cut around the statements where sorting puts them. -/
def emitted (s : Sorter) (source : List Char) : Scanned :=
  match Block.ofText? (Banner.cut source).rest with
  | none => ⟨[], (Banner.cut source).rest⟩
  | some b => (s.sortBlock b).layout s.policy.separation s.groupOf

theorem code_eq_emitted (s : Sorter) (source : List Char) :
    (s.sort source).code = (Banner.cut source).banner ++ (s.emitted source).text := by
  unfold emitted
  split
  · rename_i hof
    rw [sort_of_none hof]
    exact (Banner.banner_append_rest source).symm
  · rename_i b hof
    rw [code_of_block hof, Block.text_layout]
    exact sortEntries_ne_nil (Block.sound_of_ofText? hof).nonempty

theorem sound_emitted (s : Sorter) (source : List Char) :
    ∀ o ∈ (s.emitted source).occurrences, o.Sound := by
  unfold emitted
  split
  · simp
  · rename_i b hof
    exact Block.sound_layout (s.regular_sortBlock (Block.sound_of_ofText? hof)) _ _

theorem texts_emitted (s : Sorter) (source : List Char) :
    (s.emitted source).occurrences.map (·.text) =
      (sortBy (fun a b => s.comparePaths a.path b.path)
        (scan (Banner.cut source).rest).occurrences).map fun o => s.finishText o.text := by
  unfold emitted
  split
  · rename_i hof
    rw [Block.scan_of_ofText?_none hof]
    rfl
  · rename_i b hof
    rw [Block.texts_layout, sortBlock_entries, texts_sortEntries s (Block.statements_ofText? hof)]

/-- The statements that sorting emits, each at the start of a line, are those of the source behind
its banner, each once, ordered by group, then by path, then by their place in the source. The group
of a path is that of the first pattern to take it; statements that no pattern takes come last. -/
theorem sort_emits_in_order (p : Policy) (source : List Char)
    (htrans : p.ignoreCase = false → TransOn (natural false) (importPaths source)) :
    (∀ path, p.InGroup path (p.grouping.index path)) ∧
    ((ofPolicy p).sort source).code =
      (Banner.cut source).banner ++ ((ofPolicy p).emitted source).text ∧
    (∀ o ∈ ((ofPolicy p).emitted source).occurrences, o.Sound) ∧
    ∃ order : List (Occurrence × Nat),
      order.Perm (scan (Banner.cut source).rest).occurrences.zipIdx ∧
      ((ofPolicy p).emitted source).occurrences.map (·.text) =
        order.map (fun x => (ofPolicy p).finishText x.1.text) ∧
      order.Pairwise p.Before ∧
      order.Pairwise fun x y => p.Takes y.1.path → p.Takes x.1.path := by
  refine ⟨p.inGroup_index, code_eq_emitted _ source, sound_emitted _ source, ?_⟩
  have hnatural : TransOn (natural (ofPolicy p).policy.ignoreCase) (importPaths source) :=
    transOn_of_case htrans
  have hpaths : TransOn (fun a b => (ofPolicy p).comparePaths a.path b.path)
      (scan (Banner.cut source).rest).occurrences :=
    (transOn_comparePaths hnatural).of_map
  obtain ⟨order, hperm, horder, hsorted⟩ :=
    stablySorted_sortBy (fun a b => (ofPolicy p).comparePaths_swap _ _) hpaths
  have hbefore : order.Pairwise p.Before := hsorted.imp before_of_precedes
  refine ⟨order, hperm, ?_, hbefore, hbefore.imp Policy.takes_of_before⟩
  rw [texts_emitted, ← horder, List.map_map]
  rfl

/-- Two imports of one module keep their order, behind one of another module and before one that no
pattern takes. -/
theorem sort_emits_in_order_equal_paths :
    TransOn (natural false) (importPaths
      "import d from './d';\nimport c from 'c';\nimport 'c';\nimport 'a';\n".toList) ∧
    ∃ order : List (Occurrence × Nat), order.length = 4 ∧
      ((ofPolicy .standard).emitted
        "import d from './d';\nimport c from 'c';\nimport 'c';\nimport 'a';\n".toList
        ).occurrences.map (·.text) = order.map (fun x => x.1.text) ∧
      order.Pairwise Policy.standard.Before := by
  have htrans : TransOn (natural false) (importPaths
      "import d from './d';\nimport c from 'c';\nimport 'c';\nimport 'a';\n".toList) := by
    decide +kernel
  obtain ⟨-, -, -, order, hperm, htexts, horder, -⟩ :=
    sort_emits_in_order .standard _ fun _ => htrans
  refine ⟨htrans, order, ?_, htexts, horder⟩
  rw [hperm.length_eq]
  decide +kernel

end Sorter
end ImportOrder
