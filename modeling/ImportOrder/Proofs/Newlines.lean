import ImportOrder.Proofs.Ordering

/-!
# ImportOrder.Proofs.Newlines

The newlines of a sorted text. A text has newlines of one character (`CrlfFree`), of two characters
(`CrlfOnly`), or of both kinds.

Sorting makes no newline of two characters in a text without them. It keeps a text to such newlines
except in two cases: a comment stands behind the last import and only blanks follow it
(`Scanned.EndsInComment`), because the carriage return is trimmed off with the blanks behind the
comment; and all text behind the banner is one line that goes on behind its import
(`Scanned.GoesOn`), because no newline is seen there. `sort_newlines` says that these are all.

Texts of which each keeps to the longer newline keep to it together (`CrlfOnly.append`), so only the
start of a part matters, where the carriage return may have been left behind (`CrlfOnly.right`).
-/

namespace ImportOrder

open Text Statement

/-! ## Texts with one kind of newline -/

namespace Text

/-- Every newline of the text has two characters: a carriage return stands before each line feed. -/
def CrlfOnly (s : List Char) : Prop :=
  ∀ a b, s = a ++ '\n' :: b → a.getLast? = some '\r'

/-- No newline of the text has two characters. -/
def CrlfFree (s : List Char) : Prop :=
  ¬ ['\r', '\n'] <:+: s

theorem crlfOnly_iff {s : List Char} :
    CrlfOnly s ↔ ∀ i < s.length, s[i]? = some '\n' → (s.take i).getLast? = some '\r' := by
  constructor
  · intro h i hi hget
    refine h (s.take i) (s.drop (i + 1)) ?_
    obtain ⟨_, hc⟩ := List.getElem?_eq_some_iff.1 hget
    rw [← hc, List.getElem_cons_drop, List.take_append_drop]
  · rintro h a b rfl
    have hlast := h a.length (by simp) (by simp)
    rwa [List.take_left] at hlast

instance (s : List Char) : Decidable (CrlfOnly s) :=
  decidable_of_iff _ crlfOnly_iff.symm

theorem crlfFree_iff_free {s : List Char} : CrlfFree s ↔ Free id ['\r', '\n'] s := by
  simp [CrlfFree, Free, Holds]

theorem crlfOnly_of_not_mem {s : List Char} (h : '\n' ∉ s) : CrlfOnly s := by
  rintro a b rfl
  exact absurd (by simp) h

theorem CrlfOnly.append {s t : List Char} (hs : CrlfOnly s) (ht : CrlfOnly t) :
    CrlfOnly (s ++ t) := by
  intro a b hab
  rcases List.append_eq_append_iff.1 hab with ⟨u, ha, hu⟩ | ⟨u, hu, hb⟩
  · rw [ha, List.getLast?_append, ht u b hu]
    rfl
  · cases u with
    | nil =>
      have hstart := ht [] b (by simpa using hb.symm)
      cases hstart
    | cons c u =>
      cases hb
      exact hs a u hu

theorem crlfOnly_crlf : CrlfOnly ['\r', '\n'] := by
  intro a b hab
  match a with
  | [] => cases hab
  | [c] => cases hab; rfl
  | c :: d :: a => simp at hab

theorem CrlfOnly.left {s t : List Char} (h : CrlfOnly (s ++ t)) : CrlfOnly s := by
  rintro a b rfl
  exact h a (b ++ t) (by simp)

theorem CrlfOnly.right {s t : List Char} (h : CrlfOnly (s ++ t)) (ht : t.head? ≠ some '\n') :
    CrlfOnly t := by
  rintro a b rfl
  have hne : a ≠ [] := by
    rintro rfl
    exact ht rfl
  have hlast := h (s ++ a) b (by simp)
  rwa [List.getLast?_append_of_ne_nil s hne] at hlast

theorem CrlfOnly.of_isInfix {s t : List Char} (h : CrlfOnly s) (hin : t <:+: s)
    (ht : t.head? ≠ some '\n') : CrlfOnly t := by
  obtain ⟨front, back, rfl⟩ := hin
  exact h.left.right ht

theorem CrlfOnly.head?_ne {s t : List Char} (h : CrlfOnly (s ++ t)) (hs : s.getLast? ≠ some '\r') :
    t.head? ≠ some '\n' := by
  intro hhead
  cases t with
  | nil => cases hhead
  | cons c t =>
    cases hhead
    exact hs (h s t rfl)

theorem newline_not_mem_of_crlf {s : List Char} (honly : CrlfOnly s) (hfree : CrlfFree s) :
    '\n' ∉ s := by
  intro hm
  obtain ⟨a, b, rfl⟩ := List.append_of_mem hm
  obtain ⟨c, rfl⟩ := List.getLast?_eq_some_iff.1 (honly a b rfl)
  exact hfree ⟨c, b, by simp⟩

theorem crlfOnly_flatten {parts : List (List Char)} (h : ∀ p ∈ parts, CrlfOnly p) :
    CrlfOnly parts.flatten := by
  induction parts with
  | nil => exact crlfOnly_of_not_mem (by simp)
  | cons p parts ih =>
    rw [List.flatten_cons]
    exact (h p List.mem_cons_self).append (ih fun q hq => h q (List.mem_cons_of_mem p hq))

theorem head?_splitLine_snd {s : List Char} (h : (splitLine s).2 ≠ []) :
    (splitLine s).2.head? = some '\n' := by
  obtain ⟨c, rest, hrest⟩ := List.exists_cons_of_ne_nil h
  have hc := List.head?_dropWhile_not (· != '\n') s
  rw [splitLine] at hrest ⊢
  simp only at hrest ⊢
  rw [hrest] at hc ⊢
  simpa using hc

theorem head?_ne_newline {s : List Char} (h : '\n' ∉ s.takeWhile isBlank) :
    s.head? ≠ some '\n' := by
  intro hhead
  obtain ⟨rest, rfl⟩ := List.head?_eq_some_iff.1 hhead
  exact h (by simp [show isBlank '\n' = true from rfl])

theorem EndsLine.getLast?_ne {s : List Char} (h : EndsLine s) : s.getLast? ≠ some '\r' := by
  rcases h with rfl | ⟨t, rfl⟩
  · simp
  · rw [List.getLast?_concat]
    decide

end Text

/-! ## Sorted names -/

namespace Statement

theorem NameEntry.head?_ne {e : List Char} (he : NameEntry e) : e.head? ≠ some '\n' := by
  intro hhead
  cases e with
  | nil => cases hhead
  | cons c e =>
    cases hhead
    have hlen : (trim ('\n' :: e)).length ≤ e.length := by
      have hstart : trimStart ('\n' :: e) = trimStart e := rfl
      rw [trim, hstart]
      exact Nat.le_trans (trimEnd_isPrefix _).length_le (List.dropWhile_suffix _).length_le
    rw [he.trimmed, List.length_cons] at hlen
    omega

theorem crlfOnly_joined {names : List (List Char)} (h : ∀ e ∈ names, CrlfOnly e)
    (hne : names ≠ []) : CrlfOnly (joined names) := by
  have hspace : CrlfOnly [' '] := crlfOnly_of_not_mem (by decide)
  have hcomma : CrlfOnly [','] := crlfOnly_of_not_mem (by decide)
  induction names with
  | nil => exact absurd rfl hne
  | cons name names ih =>
    have hfront := hspace.append (h name List.mem_cons_self)
    cases names with
    | nil =>
      rw [joined_singleton]
      exact hfront.append hspace
    | cons next names =>
      have hrest := ih (fun e he => h e (List.mem_cons_of_mem _ he)) (by simp)
      rw [joined_cons_cons]
      exact hfront.append (hcomma.append hrest)

theorem crlfOnly_sortNames {s r : List Char} (h : CrlfOnly (s ++ r)) (ignoreCase : Bool) :
    CrlfOnly (sortNames ignoreCase s ++ r) := by
  rcases sortNames_eq ignoreCase s with heq | ⟨before, block, after, hsplit, -, hne, heq⟩
  · rwa [heq]
  · have hs := (splitBraces?_eq_some hsplit).1
    have hbefore : CrlfOnly (before ++ ['\x7b']) := by
      refine CrlfOnly.left (t := block ++ '\x7d' :: after ++ r) ?_
      rw [hs] at h
      simpa using h
    have hnames : CrlfOnly (joined (sortedEntries ignoreCase block)) := by
      refine crlfOnly_joined (fun e he => ?_) (sortedEntries_ne_nil hne)
      obtain ⟨hin, hentry⟩ := mem_sortedEntries he
      refine h.of_isInfix (hin.trans ⟨before ++ ['\x7b'], '\x7d' :: after ++ r, ?_⟩) hentry.head?_ne
      rw [hs]
      simp
    have hafter : CrlfOnly ('\x7d' :: after ++ r) := by
      refine CrlfOnly.right (s := before ++ '\x7b' :: block) ?_ (by simp)
      rw [hs] at h
      simpa using h
    rw [heq]
    simpa using hbefore.append (hnames.append hafter)

/-! ## The tail of a scan -/

/-- A comment stands behind the last statement, its line ends, and only blanks follow. -/
def Scanned.EndsInComment (s : Scanned) : Prop :=
  s.occurrences ≠ [] ∧ (Comment.trailing? (splitLine s.tail).1).isSome = true ∧
    (splitLine s.tail).2 ≠ [] ∧ allBlank (splitLine s.tail).2 = true

/-- The text is a single line, and something other than a comment stands behind its statement. -/
def Scanned.GoesOn (s : Scanned) : Prop :=
  s.occurrences ≠ [] ∧ '\n' ∉ s.text ∧ Comment.trailing? s.tail = none ∧ allBlank s.tail = false

instance (s : Scanned) : Decidable s.EndsInComment :=
  inferInstanceAs (Decidable (_ ∧ _ ∧ _ ∧ _))

instance (s : Scanned) : Decidable s.GoesOn :=
  inferInstanceAs (Decidable (_ ∧ _ ∧ _ ∧ _))

/-- The tail of a text with statements follows the last character of a statement. -/
theorem exists_endsVisible_tail {text : List Char} (h : (scan text).occurrences ≠ []) :
    ∃ front, EndsVisible front ∧ front ++ (scan text).tail = text := by
  obtain ⟨others, o, ho⟩ := (List.eq_nil_or_concat' _).resolve_left h
  have hsound : o.Sound := sound_of_mem_scan (s := text) (by rw [ho]; simp)
  refine ⟨((scan text).occurrences.map fun o : Occurrence => o.gap ++ o.indent ++ o.text).flatten,
    ?_, text_scan text⟩
  rw [ho, List.map_append, List.flatten_append, List.map_singleton, List.flatten_singleton]
  exact (hsound.sentence.endsVisible.prepend _).prepend _

theorem newline_not_mem_tail {text : List Char} (h : '\n' ∉ text) : '\n' ∉ (scan text).tail := by
  intro hm
  refine h ?_
  rw [← text_scan text]
  exact List.mem_append_right _ hm

/-- A line holds at most one statement, and only blanks before it. -/
theorem scan_of_line {text : List Char} (h : '\n' ∉ text) :
    (scan text).occurrences = [] ∨ ∃ indent t tail,
      scan text = ⟨[⟨[], indent, t⟩], tail⟩ := by
  cases hfirst : first? true text with
  | none =>
    rw [scan, scanFrom_of_none hfirst]
    exact .inl rfl
  | some f =>
    have htext := (first?_eq hfirst).1
    have hbefore : f.before = [] := by
      obtain ⟨-, -, ⟨-, hnil⟩ | ⟨t, ht⟩⟩ := first?_spec hfirst
      · exact hnil
      · refine absurd ?_ h
        rw [htext, ht]
        simp
    have hrest : first? false f.rest = none := by
      have hnot : '\n' ∉ f.rest := by
        intro hm
        refine h ?_
        rw [htext]
        simp [hm]
      have hopen := first?_append_open hnot []
      rw [List.append_nil] at hopen
      rw [hopen]
      rfl
    refine .inr ⟨f.indent, f.text, f.rest, ?_⟩
    rw [scan, scanFrom_of_some hfirst, scanFrom_of_none hrest, hbefore]

end Statement

/-! ## Rendered blocks -/

namespace Block

theorem cutComment_snd (gap : List Char) :
    (cutComment gap).2 =
      if (Comment.trailing? (splitLine gap).1).isSome then (splitLine gap).2 else gap := by
  simp only [cutComment]
  cases Comment.trailing? (splitLine gap).1 <;> rfl

theorem after_collect (indent : List Char) (occs : List Occurrence) (tail : List Char) :
    ∀ current : Entry, (collect indent current occs tail).2.2 = (cutComment tail).2 := by
  induction occs with
  | nil => intro current; rfl
  | cons o more ih =>
    intro current
    simp only [collect, ih]

theorem after_ofText? {text : List Char} {b : Block} (h : ofText? text = some b) :
    (scan text).occurrences ≠ [] ∧ b.after = (cutComment (scan text).tail).2 := by
  unfold ofText? at h
  split at h
  · cases h
  · rename_i first more tail hscan
    cases h
    rw [hscan]
    exact ⟨by simp, after_collect ..⟩

theorem ofText?_of_line {text : List Char} (h : '\n' ∉ text) {b : Block}
    (hof : ofText? text = some b) :
    b.before = [] ∧ (∃ e, b.entries = [e] ∧ e.leading = []) ∧ b.displaced = [] := by
  rcases scan_of_line h with hnone | ⟨indent, t, tail, hscan⟩
  · exact absurd hnone (after_ofText? hof).1
  · rw [ofText?, hscan] at hof
    cases hof
    exact ⟨by simp [lines], ⟨_, rfl, by simp [lines]⟩, rfl⟩

/-- The parts of a block keep to newlines of two characters. -/
structure CrlfParts (b : Block) : Prop where
  before : CrlfOnly b.before
  indent : CrlfOnly b.indent
  newline : CrlfOnly b.newline
  leading : ∀ e ∈ b.entries, ∀ c ∈ e.leading, CrlfOnly c
  line : ∀ e ∈ b.entries, CrlfOnly (e.text ++ e.trailing)
  displaced : ∀ segment ∈ b.displaced, CrlfOnly segment
  after : CrlfOnly b.renderAfter

variable {b : Block}

theorem crlfOnly_renderEntry (hb : b.CrlfParts) {e : Entry} (he : e ∈ b.entries) :
    CrlfOnly (b.renderEntry e) := by
  rw [renderEntry, List.append_assoc]
  refine CrlfOnly.append (crlfOnly_flatten fun part hpart => ?_) (hb.line e he)
  obtain ⟨c, hc, rfl⟩ := List.mem_map.1 hpart
  exact ((hb.leading e he c hc).append hb.newline).append hb.indent

theorem crlfOnly_renderMore (hb : b.CrlfParts) (separation : Bool) (groupOf : Entry → Nat)
    (entries : List Entry) (hentries : ∀ e ∈ entries, e ∈ b.entries) :
    ∀ previous, CrlfOnly (b.renderMore separation groupOf previous entries) := by
  induction entries with
  | nil => intro _; exact crlfOnly_of_not_mem (by simp [renderMore])
  | cons e more ih =>
    intro previous
    have hgap : CrlfOnly (if separation && previous != groupOf e then b.newline else []) := by
      split
      · exact hb.newline
      · exact crlfOnly_of_not_mem (by simp)
    have hentry := crlfOnly_renderEntry hb (hentries e List.mem_cons_self)
    have hmore := ih (fun e' he' => hentries e' (List.mem_cons_of_mem e he')) (groupOf e)
    exact (((hb.newline.append hgap).append hb.indent).append hentry).append hmore

theorem crlfOnly_render (hb : b.CrlfParts) (separation : Bool) (groupOf : Entry → Nat) :
    CrlfOnly (b.render separation groupOf) := by
  have hentries : CrlfOnly (b.renderEntries separation groupOf) := by
    unfold renderEntries
    split
    · exact crlfOnly_of_not_mem (by simp)
    · rename_i e more heq
      refine (crlfOnly_renderEntry hb (by simp [heq])).append ?_
      exact crlfOnly_renderMore hb separation groupOf more (by simp +contextual [heq]) _
  have hset : CrlfOnly (b.displaced.map fun segment => b.newline ++ b.newline ++ segment).flatten := by
    refine crlfOnly_flatten fun part hpart => ?_
    obtain ⟨segment, hsegment, rfl⟩ := List.mem_map.1 hpart
    exact (hb.newline.append hb.newline).append (hb.displaced segment hsegment)
  exact (((hb.before.append hb.indent).append hentries).append hset).append hb.after

theorem endsVisible_renderEntry (hb : b.Regular) {e : Entry} (he : e ∈ b.entries) :
    EndsVisible (b.renderEntry e) := by
  rw [renderEntry]
  rcases hb.trailing e he with hnil | ⟨-, hend, -⟩
  · rw [hnil, List.append_nil]
    exact (hb.sentence e he).endsVisible.prepend _
  · exact hend.prepend _

theorem endsVisible_renderMore (hb : b.Regular) (separation : Bool) (groupOf : Entry → Nat)
    (entries : List Entry) (hentries : ∀ e ∈ entries, e ∈ b.entries) :
    ∀ front previous, EndsVisible front →
      EndsVisible (front ++ b.renderMore separation groupOf previous entries) := by
  induction entries with
  | nil =>
    intro front previous hfront
    simpa [renderMore] using hfront
  | cons e more ih =>
    intro front previous _
    have hentry := endsVisible_renderEntry hb (hentries e List.mem_cons_self)
    have hrest := ih (fun e' he' => hentries e' (List.mem_cons_of_mem e he')) _ (groupOf e) hentry
    rw [renderMore, List.append_assoc, ← List.append_assoc front]
    exact hrest.prepend _

theorem endsVisible_displaced (hb : b.Regular) (segments : List (List Char))
    (hsegments : ∀ segment ∈ segments, segment ∈ b.displaced) :
    ∀ front, EndsVisible front →
      EndsVisible (front ++ (segments.map fun seg => b.newline ++ b.newline ++ seg).flatten) := by
  induction segments with
  | nil =>
    intro front hfront
    simpa using hfront
  | cons segment segments ih =>
    intro front _
    have hend := (hb.displaced segment (hsegments segment List.mem_cons_self)).1
    rw [List.map_cons, List.flatten_cons, ← List.append_assoc]
    exact ih (fun s hs => hsegments s (List.mem_cons_of_mem segment hs)) _
      ((hend.prepend _).prepend _)

/-- What is rendered before the text behind a block ends with something visible. -/
theorem render_eq_append (hb : b.Regular) (hne : b.entries ≠ []) (separation : Bool)
    (groupOf : Entry → Nat) :
    ∃ front, EndsVisible front ∧ b.render separation groupOf = front ++ b.renderAfter := by
  obtain ⟨e, more, heq⟩ := List.exists_cons_of_ne_nil hne
  have hentries : EndsVisible (b.renderEntries separation groupOf) := by
    rw [renderEntries, heq]
    exact endsVisible_renderMore hb separation groupOf more (by simp +contextual [heq]) _ _
      (endsVisible_renderEntry hb (by simp [heq]))
  exact ⟨_, endsVisible_displaced hb b.displaced (fun _ h => h) _ (hentries.prepend _), rfl⟩

end Block

namespace Sorter

variable {s : Sorter} {source : List Char} {b : Block}

theorem crlfOnly_rest (h : CrlfOnly source) : CrlfOnly (Banner.cut source).rest := by
  have hwhole := Banner.banner_append_rest source
  rw [← hwhole] at h
  exact h.right (h.head?_ne (Banner.endsLine_banner source).getLast?_ne)

theorem crlfOnly_line (h : CrlfOnly (Banner.cut source).rest) {e : Entry}
    (he : e.Sound (Banner.cut source).rest) :
    CrlfOnly ((s.finish e).text ++ (s.finish e).trailing) := by
  have hline : CrlfOnly (e.text ++ e.trailing) := by
    refine h.of_isInfix he.line ?_
    obtain ⟨c, rest, -, ht⟩ := he.sentence.starts
    simp [ht, importWord]
  rw [finish_trailing]
  unfold finish
  split
  · exact crlfOnly_sortNames hline _
  · exact hline

/-- The text behind a block starts with a line feed only if the carriage return before that went
with the comment on the last import's line. -/
theorem crlfOnly_after (h : CrlfOnly (Banner.cut source).rest)
    (hof : Block.ofText? (Banner.cut source).rest = some b) (hblank : allBlank b.after = true)
    (hcomment : ¬ (scan (Banner.cut source).rest).EndsInComment) : CrlfOnly b.after := by
  obtain ⟨hocc, hafter⟩ := Block.after_ofText? hof
  obtain ⟨front, hvisible, htail⟩ := exists_endsVisible_tail hocc
  refine h.of_isInfix (Block.sound_of_ofText? hof).after.isInfix fun hhead => ?_
  rw [Block.cutComment_snd] at hafter
  split at hafter
  · rename_i hsome
    refine hcomment ⟨hocc, hsome, ?_, by rwa [← hafter]⟩
    intro hnil
    rw [hafter, hnil] at hhead
    cases hhead
  · rw [← htail] at h
    rw [hafter] at hhead
    exact h.head?_ne (hvisible.getLast?_ne rfl) hhead

/-- With the longer newline, the parts of the sorted block keep to it. -/
theorem crlfParts_sortBlock (s : Sorter) (h : CrlfOnly (Banner.cut source).rest)
    (hof : Block.ofText? (Banner.cut source).rest = some b)
    (hcomment : ¬ (scan (Banner.cut source).rest).EndsInComment) :
    { s.sortBlock b with newline := ['\r', '\n'] }.CrlfParts := by
  have hsound := Block.sound_of_ofText? hof
  constructor
  · obtain ⟨rest, hrest⟩ := hsound.before
    rw [← hrest] at h
    exact h.left
  · exact crlfOnly_of_not_mem (Block.newline_not_mem_indent hsound.indent)
  · exact crlfOnly_crlf
  · intro e he c hc
    obtain ⟨e', he', rfl⟩ := mem_sortEntries he
    rw [finish_leading] at hc
    exact crlfOnly_of_not_mem ((hsound.entries e' he').leading c hc).2.newline
  · intro e he
    obtain ⟨e', he', rfl⟩ := mem_sortEntries he
    exact crlfOnly_line h (hsound.entries e' he')
  · intro segment hsegment
    obtain ⟨hin, -, hstart⟩ := hsound.displaced segment hsegment
    exact h.of_isInfix hin (head?_ne_newline hstart)
  · unfold Block.renderAfter
    split
    · rename_i hblank
      exact crlfOnly_after (b := b) h hof hblank hcomment
    · have hin := (dropBlankLines_suffix b.after).isInfix.trans hsound.after.isInfix
      have hstart := newline_not_mem_takeWhile_dropBlankLines b.after
      exact (crlfOnly_crlf.append crlfOnly_crlf).append
        (h.of_isInfix hin (head?_ne_newline hstart))

/-! ## The sorted text -/

theorem crlfFree_sort (s : Sorter) (h : CrlfFree source) : CrlfFree (s.sort source).code := by
  cases hof : Block.ofText? (Banner.cut source).rest with
  | none => rwa [sort_of_none hof]
  | some b =>
    have hsound := Block.sound_of_ofText? hof
    rw [crlfFree_iff_free] at h ⊢
    rw [← Banner.banner_append_rest source] at h
    have hrest := h.of_isInfix (List.suffix_append _ _).isInfix
    have hnewline : b.newline = ['\n'] := by
      rw [hsound.newline]
      exact Block.newlineOf_eq_newline_iff.2 hrest
    rw [code_of_block hof]
    exact (h.of_isInfix (List.prefix_append _ _).isInfix).append
      (free_render_crlf s hsound hnewline hrest _ _)
      (joins_of_pair (Banner.endsLine_banner source).getLast?_ne _)

/-- What is rendered before the text behind the block ends visibly, so that text must not start with
a line feed. -/
theorem head?_renderAfter_ne (hof : Block.ofText? (Banner.cut source).rest = some b)
    (h : CrlfOnly (s.sort source).code) : (s.sortBlock b).renderAfter.head? ≠ some '\n' := by
  have hsound := Block.sound_of_ofText? hof
  obtain ⟨front, hfront, hrender⟩ := Block.render_eq_append (s.regular_sortBlock hsound)
    (sortEntries_ne_nil hsound.nonempty) s.policy.separation s.groupOf
  rw [code_of_block hof, hrender, ← List.append_assoc] at h
  exact h.head?_ne ((hfront.prepend _).getLast?_ne rfl)

theorem not_endsInComment (hof : Block.ofText? (Banner.cut source).rest = some b)
    (h : CrlfOnly (s.sort source).code) : ¬ (scan (Banner.cut source).rest).EndsInComment := by
  rintro ⟨-, hcomment, hne, hblank⟩
  have hafter := (Block.after_ofText? hof).2
  rw [Block.cutComment_snd, if_pos hcomment] at hafter
  refine head?_renderAfter_ne hof h ?_
  rw [Block.renderAfter, sortBlock_after, hafter, if_pos hblank]
  exact head?_splitLine_snd hne

theorem not_goesOn (hof : Block.ofText? (Banner.cut source).rest = some b)
    (h : CrlfOnly (s.sort source).code) : ¬ (scan (Banner.cut source).rest).GoesOn := by
  rintro ⟨-, hline, hcomment, hblank⟩
  rw [text_scan] at hline
  have hafter := (Block.after_ofText? hof).2
  rw [Block.cutComment_snd, splitLine_of_not_mem (newline_not_mem_tail hline), hcomment] at hafter
  have hnewline : b.newline = ['\n'] := by
    rw [(Block.sound_of_ofText? hof).newline, Block.newlineOf_eq_newline_iff, ← crlfFree_iff_free]
    exact fun hin => hline (hin.subset (by simp))
  refine head?_renderAfter_ne hof h ?_
  rw [Block.renderAfter, sortBlock_after, sortBlock_newline, hafter, hnewline]
  simp [hblank]

/-- The newline of a single line does not show when only blanks or a comment follow its import. -/
theorem render_of_line (s : Sorter) (hline : '\n' ∉ (Banner.cut source).rest)
    (hof : Block.ofText? (Banner.cut source).rest = some b)
    (hgoes : ¬ (scan (Banner.cut source).rest).GoesOn) (newline : List Char) :
    { s.sortBlock b with newline := newline }.render s.policy.separation s.groupOf =
      (s.sortBlock b).render s.policy.separation s.groupOf := by
  obtain ⟨hocc, hafter⟩ := Block.after_ofText? hof
  obtain ⟨-, ⟨e, hentries, hleading⟩, hset⟩ := Block.ofText?_of_line hline hof
  have hblank : allBlank b.after = true := by
    rw [Block.cutComment_snd, splitLine_of_not_mem (newline_not_mem_tail hline)] at hafter
    split at hafter
    · rw [hafter]
      rfl
    · rename_i hnone
      rw [hafter]
      by_contra hcontent
      exact hgoes ⟨hocc, by rwa [text_scan], by simpa using hnone, by simpa using hcontent⟩
  have hsorted : s.sortEntries b.entries = [s.finish e] := by
    rw [sortEntries_eq, hentries]
    rfl
  exact Block.render_newline (b := s.sortBlock b) (e := s.finish e) hsorted (by rwa [finish_leading]) hset hblank newline

/-- Sorting makes no newline of two characters where there is none. A text with such newlines only
is kept to them exactly if it does not end in a comment behind its last import, and is not a single
line behind its banner that goes on behind its import. -/
theorem sort_newlines (s : Sorter) (source : List Char) :
    (CrlfFree source → CrlfFree (s.sort source).code) ∧
    (CrlfOnly source →
      (CrlfOnly (s.sort source).code ↔
        ¬ (scan (Banner.cut source).rest).EndsInComment ∧
          ¬ (scan (Banner.cut source).rest).GoesOn)) := by
  refine ⟨s.crlfFree_sort, fun h => ?_⟩
  cases hof : Block.ofText? (Banner.cut source).rest with
  | none =>
    have hnone := Block.scan_of_ofText?_none hof
    rw [sort_of_none hof]
    exact iff_of_true h ⟨fun hends => hends.1 hnone, fun hgoes => hgoes.1 hnone⟩
  | some b =>
    refine ⟨fun hcode => ⟨not_endsInComment hof hcode, not_goesOn hof hcode⟩, ?_⟩
    rintro ⟨hcomment, hgoes⟩
    have hrest := crlfOnly_rest h
    have hparts := Block.crlfOnly_render (s.crlfParts_sortBlock hrest hof hcomment)
      s.policy.separation s.groupOf
    have hbanner : CrlfOnly (Banner.cut source).banner := by
      rw [← Banner.banner_append_rest source] at h
      exact h.left
    rw [code_of_block hof]
    refine hbanner.append ?_
    rcases Block.newlineOf_eq (Banner.cut source).rest with hnewline | hnewline
    · -- without a newline of two characters there is none at all
      have hfree := crlfFree_iff_free.2 (Block.newlineOf_eq_newline_iff.1 hnewline)
      rwa [render_of_line s (newline_not_mem_of_crlf hrest hfree) hof hgoes] at hparts
    · rwa [← hnewline, ← (Block.sound_of_ofText? hof).newline] at hparts

/-- A text with newlines of two characters and a comment above its last import keeps them. -/
theorem sort_newlines_comment_above :
    CrlfOnly "import b from 'b'; // c\r\n// d\r\nimport a from 'a';\r\n".toList ∧
    CrlfOnly ((Sorter.ofPolicy .twoGroups).sort
      "import b from 'b'; // c\r\n// d\r\nimport a from 'a';\r\n".toList).code := by
  have honly : CrlfOnly "import b from 'b'; // c\r\n// d\r\nimport a from 'a';\r\n".toList := by
    decide +kernel
  refine ⟨honly, ((sort_newlines _ _).2 honly).2 ?_⟩
  decide +kernel

/-- The carriage return behind the comment of the last import is lost, and behind a banner with
newlines of two characters a line is broken by line feeds alone. -/
theorem crlf_not_kept :
    (CrlfOnly "import a from 'a'; // c\r\n".toList ∧
      ¬ CrlfOnly ((Sorter.ofPolicy .twoGroups).sort "import a from 'a'; // c\r\n".toList).code) ∧
    (CrlfOnly "// b\r\nimport a from 'a'; f()".toList ∧
      ¬ CrlfOnly ((Sorter.ofPolicy .twoGroups).sort
        "// b\r\nimport a from 'a'; f()".toList).code) := by
  decide +kernel

end Sorter
end ImportOrder
