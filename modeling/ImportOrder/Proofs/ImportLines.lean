import ImportOrder.Proofs.Ordering
import ImportOrder.Proofs.Statement.Recognition

/-!
# ImportOrder.Proofs.ImportLines

Sources of the plainest kind: a banner of blank lines and `//` comments, then imports, each on
lines of its own and all with one indentation (`ImportLines`). The block that is read from such a
source has nothing but its statements (`ofText?_text`), so the sorted text can be said in full:
the banner, and the statements in order on their lines, with an empty line between two groups if
the policy separates them (`sort_importLines`). The order is the one stable order of the statements,
which there is unless three paths of one group are in a circle (`stablySorted_statements_iff`).
-/

namespace ImportOrder

open Text Sorting Statement

/-- A source of banner lines and import lines. -/
structure ImportLines where
  banner : List (List Char)
  indent : List Char
  statements : List (List Char)
  fullLine : ∀ l ∈ banner, FullLine l
  blank_or_comment : ∀ l ∈ banner, allBlank l = true ∨ ['/', '/'] <+: trim l
  isIndent : ∀ c ∈ indent, isIndent c = true
  nonempty : statements ≠ []
  /-- Every statement is found whole in its own text. -/
  whole : ∀ t ∈ statements, firstSpanFrom? 0 t = some (0, size t)
  newline : ∀ t ∈ statements, occursIn ['\r', '\n'] t = false

namespace ImportLines

variable (x : ImportLines)

def text : List Char :=
  (x.statements.map fun t => x.indent ++ t ++ ['\n']).flatten

def source : List Char :=
  x.banner.flatten ++ x.text

/-- Statements on lines of their own, shown by `shown`, with an empty line between two that are
`apart`. -/
def linesOf (indent : List Char) (apart : List Char → List Char → Bool)
    (shown : List Char → List Char) : List (List Char) → List Char
  | [] => []
  | [t] => indent ++ shown t ++ ['\n']
  | t :: u :: more =>
    indent ++ shown t ++ ['\n'] ++ (if apart t u then ['\n'] else []) ++
      linesOf indent apart shown (u :: more)

/-- The order of the statements by the groups of their paths, then by the paths. -/
def compareStatements (p : Policy) (t u : List Char) : Ordering :=
  (compare (p.grouping.index (Statement.path t)) (p.grouping.index (Statement.path u))).then
    (natural p.ignoreCase (Statement.path t) (Statement.path u))

/-- The statements belong to different groups, and the policy separates these. -/
def apart (p : Policy) (t u : List Char) : Bool :=
  p.separation && p.grouping.index (Statement.path t) != p.grouping.index (Statement.path u)

/-- The source with other statements on its lines, written as the policy has them. -/
def withStatements (p : Policy) (us : List (List Char)) : List Char :=
  x.banner.flatten ++ linesOf x.indent (apart p) (Sorter.ofPolicy p).finishText us

/-! ## The statements -/

theorem sentence_of_whole {t : List Char} (h : firstSpanFrom? 0 t = some (0, size t)) :
    Sentence t := by
  obtain ⟨d, -, hspan⟩ := isFirst_of_firstSpanFrom? h
  obtain ⟨hstart, hstop⟩ := Prod.mk.inj hspan
  have hsize := d.size_text
  have nil_of_size : ∀ {s : List Char}, size s = 0 → s = [] := by
    intro s hs
    have := length_le_size s
    exact List.length_eq_zero_iff.1 (by omega)
  rw [Derivation.start] at hstart
  have hbefore : d.before = [] := nil_of_size (by omega)
  have hindent : d.indent = [] := nil_of_size (by omega)
  have hrest : d.rest = [] := nil_of_size (by omega)
  have htext := d.text_eq
  rw [hbefore, hindent, hrest, List.append_nil] at htext
  exact htext ▸ d.isSentence

theorem sentence {t : List Char} (ht : t ∈ x.statements) : Sentence t :=
  sentence_of_whole (x.whole t ht)

/-! ## The block of the source -/

def entryOf (t : List Char) : Entry :=
  ⟨Statement.path t, [], t, []⟩

def block : Block where
  before := []
  indent := x.indent
  newline := ['\n']
  entries := x.statements.map entryOf
  displaced := []
  after := ['\n']

theorem render_lines {b : Block} (hnewline : b.newline = ['\n']) (separation : Bool)
    (groupOf : Entry → Nat) {f : List Char → Entry} (hleading : ∀ t, (f t).leading = [])
    (htrailing : ∀ t, (f t).trailing = []) (more : List (List Char)) :
    ∀ t, b.indent ++ (b.renderEntry (f t) ++
        (b.renderMore separation groupOf (groupOf (f t)) (more.map f) ++ ['\n'])) =
      linesOf b.indent (fun t u => separation && groupOf (f t) != groupOf (f u))
        (fun t => (f t).text) (t :: more) := by
  have hentry : ∀ t, b.renderEntry (f t) = (f t).text := by
    intro t
    simp [Block.renderEntry, hleading, htrailing]
  induction more with
  | nil => intro t; simp [Block.renderMore, linesOf, hentry]
  | cons u more ih =>
    intro t
    have hrest := ih u
    simp only [List.map_cons, Block.renderMore, linesOf, hentry, hnewline, List.append_assoc]
      at hrest ⊢
    rw [hrest]

theorem render_eq_lines {b : Block} (hbefore : b.before = []) (hnewline : b.newline = ['\n'])
    (hdisplaced : b.displaced = []) (hafter : b.after = ['\n']) (separation : Bool)
    (groupOf : Entry → Nat) {f : List Char → Entry} (hleading : ∀ t, (f t).leading = [])
    (htrailing : ∀ t, (f t).trailing = []) {ts : List (List Char)} (hne : ts ≠ [])
    (hentries : b.entries = ts.map f) :
    b.render separation groupOf =
      linesOf b.indent (fun t u => separation && groupOf (f t) != groupOf (f u))
        (fun t => (f t).text) ts := by
  have hblank : b.renderAfter = ['\n'] := by
    rw [Block.renderAfter, hafter]
    rfl
  cases ts with
  | nil => exact absurd rfl hne
  | cons t more =>
    rw [← render_lines hnewline separation groupOf hleading htrailing more t]
    simp [Block.render, Block.renderEntries, hbefore, hdisplaced, hentries, hblank]

theorem linesOf_together (indent : List Char) (ts : List (List Char)) :
    linesOf indent (fun _ _ => false) id ts =
      (ts.map fun t => indent ++ t ++ ['\n']).flatten := by
  induction ts with
  | nil => rfl
  | cons t ts ih =>
    cases ts with
    | nil => simp [linesOf]
    | cons u more =>
      rw [linesOf, ih]
      simp

theorem render_block (groupOf : Entry → Nat) : x.block.render false groupOf = x.text := by
  rw [text, ← linesOf_together]
  exact render_eq_lines (b := x.block) rfl rfl rfl rfl false groupOf (f := entryOf)
    (fun _ => rfl) (fun _ => rfl) x.nonempty rfl

theorem mem_entries {e : Entry} (he : e ∈ x.block.entries) : ∃ t ∈ x.statements, e = entryOf t := by
  obtain ⟨t, ht, rfl⟩ := List.mem_map.1 he
  exact ⟨t, ht, rfl⟩

theorem attachedLines_nil : Comment.attachedLines [] = 0 := by
  rw [Comment.attachedLines, List.reverse_nil, Comment.runAbove]

theorem regular_block : x.block.Regular where
  endsLine := .inl rfl
  settled := attachedLines_nil
  indent := x.isIndent
  newline := .inl rfl
  sentence := by
    intro e he
    obtain ⟨t, ht, rfl⟩ := x.mem_entries he
    exact x.sentence ht
  trailing := by
    intro e he
    obtain ⟨t, -, rfl⟩ := x.mem_entries he
    exact .inl rfl
  leading := by
    intro e he
    obtain ⟨t, -, rfl⟩ := x.mem_entries he
    simp [entryOf]
  attached := by
    intro e he
    obtain ⟨t, -, rfl⟩ := x.mem_entries he
    exact attachedLines_nil
  displaced := by simp [block]

theorem allCalm_block : x.block.AllCalm where
  before := calm_of_blank rfl
  leading := by
    intro e he
    obtain ⟨t, -, rfl⟩ := x.mem_entries he
    simp [entryOf]
  displaced := by simp [block]
  after := calm_of_blank rfl

theorem newlineOf_text : Block.newlineOf x.text = ['\n'] := by
  have hindent : ∀ c ∈ x.indent, c ≠ '\r' := by
    rintro c hc rfl
    exact absurd (x.isIndent _ hc) (by decide)
  -- a statement ends with a quote or a semicolon, so none arises where a line ends
  have hline : ∀ e ∈ x.block.entries, Free id ['\r', '\n'] (e.text ++ e.trailing) ∧
      (e.text ++ e.trailing).getLast? ≠ some '\r' := by
    intro e he
    obtain ⟨t, ht, rfl⟩ := x.mem_entries he
    rw [entryOf, List.append_nil]
    exact ⟨occursIn_eq_false_iff.1 (x.newline t ht),
      (x.sentence ht).endsVisible.getLast?_ne rfl⟩
  have hholding : x.block.Holding id ['\r', '\n'] :=
    { before := ⟨free_of_not_mem (by simp [block]), joins_of_pair (by simp [block])⟩
      indent := ⟨free_of_not_mem fun hm => hindent _ hm rfl,
        joins_of_pair fun hlast => hindent _ (List.mem_of_getLast? hlast) rfl⟩
      newline := ⟨free_of_not_mem (by simp [block]), joins_of_pair (by simp [block])⟩
      leading := by
        intro e he
        obtain ⟨t, -, rfl⟩ := x.mem_entries he
        simp [entryOf]
      line := fun e he => ⟨(hline e he).1, fun y => joins_of_pair (hline e he).2 _,
        fun _ => joins_of_pair (hline e he).2 _⟩
      displaced := by simp [block]
      after := free_of_not_mem (by simp [block]) }
  rw [Block.newlineOf_eq_newline_iff, ← x.render_block fun _ => 0]
  exact Block.free_render hholding false _

theorem ofText?_text : Block.ofText? x.text = some x.block := by
  obtain ⟨t, more, hts⟩ := List.exists_cons_of_ne_nil x.nonempty
  have hentries : x.block.entries = entryOf t :: more.map entryOf := by
    rw [block, hts, List.map_cons]
  -- without separation the grouping does not show, so any will do
  have hscan : scan x.text = x.block.layout false fun _ => 0 := by
    rw [← x.render_block fun _ => 0]
    exact Block.scan_layout x.regular_block x.allCalm_block (by simp [hentries]) false _
  rw [Block.layout, hentries] at hscan
  have hcut : Block.cutAttached ([] ++ x.block.leadingLines []) x.block.indent = ([], []) :=
    Block.cutAttached_append x.isIndent (.inl rfl) (.inl rfl) x.regular_block.settled (by simp)
      attachedLines_nil
  have hpath : ∀ e ∈ x.block.entries, Statement.path e.text = e.path := by
    intro e he
    obtain ⟨u, -, rfl⟩ := x.mem_entries he
    rfl
  have hlast : Block.lastTrailing x.block.entries = [] := by
    unfold Block.lastTrailing
    cases hget : x.block.entries.getLast? with
    | none => rfl
    | some e =>
      obtain ⟨u, -, rfl⟩ := x.mem_entries (List.mem_of_getLast? hget)
      rfl
  have hafter : Block.behindComment (Block.lastTrailing x.block.entries) x.block.rear = ['\n'] := by
    rw [hlast]
    rfl
  rw [Block.ofText?_of_scan x.regular_block hentries hpath hcut hscan, newlineOf_text, Block.reread,
    hafter]
  exact congrArg (fun entries => some { x.block with entries := entries }) hentries.symm

/-! ## The banner -/

theorem isBannerLine_of_mem {l : List Char} (hl : l ∈ x.banner) : Banner.isBannerLine l = true := by
  rcases x.blank_or_comment l hl with hblank | ⟨rest, hrest⟩
  · rw [Banner.isBannerLine, trim_of_blank hblank]
    rfl
  · rw [Banner.isBannerLine, ← hrest]
    rfl

theorem cut_source : Banner.cut x.source = ⟨x.banner.flatten, x.text⟩ := by
  obtain ⟨t, more, hts⟩ := List.exists_cons_of_ne_nil x.nonempty
  have htext : x.text = x.indent ++ (t ++ ('\n' ::
      (more.map fun t => x.indent ++ t ++ ['\n']).flatten)) := by
    simp [text, hts]
  obtain ⟨line, others, hlines, hstarts⟩ :=
    Banner.lines_of_sentence x.isIndent (x.sentence (t := t) (by simp [hts])) _
  have hcut := @Banner.cut_append x.banner.flatten [] x.text _ _ (endsLine_flatten x.fullLine)
    (fun l hl => x.isBannerLine_of_mem (by rwa [lines_flatten x.fullLine] at hl)) (.inl rfl)
    (htext ▸ hlines) (Banner.isBannerLine_of_startsImport hstarts)
  simpa [source, lines] using hcut

/-! ## Sorting -/

theorem sortEntries_block (p : Policy) :
    (Sorter.ofPolicy p).sortEntries x.block.entries =
      (sortBy (compareStatements p) x.statements).map fun t =>
        (Sorter.ofPolicy p).finish (entryOf t) := by
  rw [Sorter.sortEntries_eq, block, sortBy_map, List.map_map]
  rfl

theorem code_source (p : Policy) : ((Sorter.ofPolicy p).sort x.source).code =
    x.withStatements p (sortBy (compareStatements p) x.statements) := by
  have hof : Block.ofText? (Banner.cut x.source).rest = some x.block := by
    rw [x.cut_source]
    exact x.ofText?_text
  have hne : sortBy (compareStatements p) x.statements ≠ [] := by
    intro hnil
    have hperm := sortBy_perm (compareStatements p) x.statements
    rw [hnil] at hperm
    exact x.nonempty hperm.nil_eq.symm
  have hrender := render_eq_lines (b := (Sorter.ofPolicy p).sortBlock x.block) rfl rfl rfl rfl
    p.separation (Sorter.ofPolicy p).groupOf (f := fun t => (Sorter.ofPolicy p).finish (entryOf t))
    (fun t => by simp [entryOf]) (fun t => by simp [entryOf]) hne (x.sortEntries_block p)
  rw [Sorter.code_of_block hof, x.cut_source]
  simp only [Sorter.groupOf, Sorter.finish_path, Sorter.finish_text] at hrender
  exact congrArg (x.banner.flatten ++ ·) hrender

theorem compareStatements_swap (p : Policy) (t u : List Char) :
    compareStatements p u t = (compareStatements p t u).swap :=
  (Sorter.ofPolicy p).comparePaths_swap _ _

/-- Statements have a stable order exactly if no three paths of one group are in a circle, and
sorting finds it. -/
theorem stablySorted_statements_iff (p : Policy) {ts us : List (List Char)} :
    StablySorted (compareStatements p) ts us ↔
      ¬ p.HasCircle (ts.map Statement.path) ∧ us = sortBy (compareStatements p) ts := by
  have hfound (hnot : ¬ p.HasCircle (ts.map Statement.path)) :
      StablySorted (compareStatements p) ts us ↔ us = sortBy (compareStatements p) ts :=
    stablySorted_iff (compareStatements_swap p) (Sorter.transOn_of_not_hasCircle hnot).of_map
  constructor
  · intro hstable
    have hnot : ¬ p.HasCircle (ts.map Statement.path) := by
      rintro ⟨hcase, a, ha, b, hb, c, hc, hgroup, hgroup', hcircle⟩
      obtain ⟨t, ht, rfl⟩ := List.mem_map.1 ha
      obtain ⟨u, hu, rfl⟩ := List.mem_map.1 hb
      obtain ⟨v, hv, rfl⟩ := List.mem_map.1 hc
      obtain ⟨htu, huv, hvt⟩ := Sorter.comparePaths_of_inCircle hcase hgroup hgroup' hcircle
      exact hstable.not_circle (compareStatements_swap p) ht hu hv htu huv hvt
    exact ⟨hnot, (hfound hnot).1 hstable⟩
  · rintro ⟨hnot, hus⟩
    exact (hfound hnot).2 hus

/-- Sorting import lines puts the statements in order and the names in their braces, if the policy
asks for it, sets groups apart, if the policy asks for that, and changes nothing else. The order is
the stable one, if the statements have one: they do unless three paths of one group are in a
circle. -/
theorem sort_importLines (p : Policy) :
    ∃ us, us.Perm x.statements ∧
      (Sorter.ofPolicy p).sort x.source =
        ⟨x.withStatements p us, x.withStatements p us != x.source⟩ ∧
      ∀ ts, StablySorted (compareStatements p) x.statements ts ↔
        ¬ p.HasCircle (x.statements.map Statement.path) ∧ ts = us := by
  refine ⟨sortBy (compareStatements p) x.statements, sortBy_perm _ _, ?_,
    fun ts => stablySorted_statements_iff p⟩
  rw [← x.code_source p, ← Sorter.changed_eq]

/-- A comment, an empty line and two imports, the second over two lines and without a semicolon. -/
def sample : ImportLines where
  banner := ["// top\n".toList, "\n".toList]
  indent := [' ']
  statements := ["import b from './b';".toList, "import a from\n'a'".toList]
  fullLine := by
    intro l hl
    simp only [List.mem_cons, List.not_mem_nil, or_false] at hl
    rcases hl with rfl | rfl
    · exact ⟨"// top".toList, by decide, rfl⟩
    · exact ⟨[], by decide, rfl⟩
  blank_or_comment := by decide
  isIndent := List.all_eq_true.1 rfl
  nonempty := List.cons_ne_nil _ _
  whole := by decide +kernel
  newline := by decide +kernel

/-- The policy of two groups with a blank line between them. -/
def twoGroupsApart : Policy :=
  { Policy.twoGroups with separation := true }

/-- The statement of the second group moves behind the other, with an empty line between them. -/
theorem sort_importLines_sample :
    StablySorted (compareStatements twoGroupsApart) sample.statements
        ["import a from\n'a'".toList, "import b from './b';".toList] ∧
      (Sorter.ofPolicy twoGroupsApart).sort sample.source =
        ⟨"// top\n\n import a from\n'a'\n\n import b from './b';\n".toList, true⟩ := by
  obtain ⟨us, -, hsort, hstable⟩ := sort_importLines sample twoGroupsApart
  have horder : StablySorted (compareStatements twoGroupsApart) sample.statements
      ["import a from\n'a'".toList, "import b from './b';".toList] := by
    refine ⟨[("import a from\n'a'".toList, 1), ("import b from './b';".toList, 0)],
      List.Perm.swap _ _ _, rfl, ?_⟩
    rw [List.pairwise_pair]
    exact .inl (by decide +kernel)
  obtain ⟨-, rfl⟩ := (hstable _).1 horder
  refine ⟨horder, hsort.trans ?_⟩
  decide +kernel

/-- Imports of the three forms of a digraph, each of which comes before the next. -/
def digraphForms : ImportLines where
  banner := []
  indent := []
  statements := ["import 'ǅ';".toList, "import 'ǆ';".toList, "import 'Ǆ';".toList]
  fullLine := by simp
  blank_or_comment := by simp
  isIndent := by simp
  nonempty := List.cons_ne_nil _ _
  whole := by decide +kernel
  newline := by decide +kernel

/-- Import lines that have no stable order. They stay as they are, the small letter behind another
form of it. -/
theorem digraphForms_no_order :
    (¬ ∃ us, StablySorted (compareStatements .twoGroups) digraphForms.statements us) ∧
      (Sorter.ofPolicy .twoGroups).sort digraphForms.source = ⟨digraphForms.source, false⟩ := by
  constructor
  · rintro ⟨us, hstable⟩
    exact hstable.not_circle (compareStatements_swap .twoGroups) (a := "import 'ǅ';".toList)
      (b := "import 'ǆ';".toList) (c := "import 'Ǆ';".toList) (by simp [digraphForms])
      (by simp [digraphForms]) (by simp [digraphForms]) (by decide +kernel) (by decide +kernel)
      (by decide +kernel)
  · decide +kernel

end ImportLines
end ImportOrder
