import ImportOrder.Proofs.Banner
import ImportOrder.Proofs.Block
import ImportOrder.Proofs.Sort

/-!
# ImportOrder.Proofs.Words

Sorting makes no new words. A block is rendered from parts of the source, and a word that stands in
none of them and can lie across none of their joints (`Block.Holding`) does not stand in the
rendering (`free_render`).

Two kinds of word are kept out in this way. A word without blanks, commas and braces (`Solid`)
cannot lie across a joint, because there is a blank at each of them (`free_sort`). The newline of
two characters cannot either, because no part ends with the first of them (`free_render_crlf`).
-/

namespace ImportOrder

open Text

section Words

variable {fold : Char → Char} {word : List Char}

namespace Block

/-- A word is in none of the parts that a block is rendered from, and across none of the joints. -/
structure Holding (fold : Char → Char) (word : List Char) (b : Block) : Prop where
  before : Free fold word b.before ∧ ∀ x, Joins fold word b.before x
  indent : Free fold word b.indent ∧ ∀ x, Joins fold word b.indent x
  newline : Free fold word b.newline ∧ ∀ x, Joins fold word b.newline x
  leading : ∀ e ∈ b.entries, ∀ c ∈ e.leading,
    Free fold word c ∧ ∀ x, Joins fold word c (b.newline ++ x)
  line : ∀ e ∈ b.entries, Free fold word (e.text ++ e.trailing) ∧
    (∀ x, Joins fold word (e.text ++ e.trailing) (b.newline ++ x)) ∧
    (allBlank b.after = true → Joins fold word (e.text ++ e.trailing) b.after)
  displaced : ∀ segment ∈ b.displaced, Free fold word segment ∧
    (∀ x, Joins fold word segment (b.newline ++ x)) ∧
    (allBlank b.after = true → Joins fold word segment b.after)
  after : Free fold word b.after

variable {b : Block}

/-- What may follow the entries: a newline and more, or the blank text behind them, or nothing. -/
def Follows (b : Block) (r : List Char) : Prop :=
  (∃ x, r = b.newline ++ x) ∨ r = b.after ∧ allBlank b.after = true

theorem free_renderEntry (hb : b.Holding fold word) {e : Entry} (he : e ∈ b.entries)
    {r : List Char} (hr : Free fold word r) (hfollows : b.Follows r) :
    Free fold word (b.renderEntry e ++ r) := by
  obtain ⟨hline, hnewline, hafter⟩ := hb.line e he
  have hjoins : Joins fold word (e.text ++ e.trailing) r := by
    rcases hfollows with ⟨x, rfl⟩ | ⟨rfl, hblank⟩
    · exact hnewline x
    · exact hafter hblank
  have go : ∀ comments : List (List Char), (∀ c ∈ comments, c ∈ e.leading) →
      Free fold word ((comments.map fun c => c ++ b.newline ++ b.indent).flatten ++
        (e.text ++ e.trailing ++ r)) := by
    intro comments
    induction comments with
    | nil => intro _; exact hline.append hr hjoins
    | cons c comments ih =>
      intro h
      obtain ⟨hc, hjoin⟩ := hb.leading e he c (h c List.mem_cons_self)
      have hrest := ih fun d hd => h d (List.mem_cons_of_mem c hd)
      have hindent := hb.indent.1.append hrest (hb.indent.2 _)
      have hbreak := hb.newline.1.append hindent (hb.newline.2 _)
      have := hc.append hbreak (hjoin _)
      simpa using this
  have := go e.leading fun _ h => h
  simpa [renderEntry] using this

theorem free_renderMore (hb : b.Holding fold word) (separation : Bool) (groupOf : Entry → Nat)
    {r : List Char} (hr : Free fold word r) (hfollows : b.Follows r) (entries : List Entry)
    (hentries : ∀ e ∈ entries, e ∈ b.entries) :
    ∀ previous, Free fold word (b.renderMore separation groupOf previous entries ++ r) ∧
      b.Follows (b.renderMore separation groupOf previous entries ++ r) := by
  induction entries with
  | nil => intro _; exact ⟨hr, hfollows⟩
  | cons e more ih =>
    intro previous
    obtain ⟨hfree, hmore⟩ := ih (fun e he => hentries e (List.mem_cons_of_mem _ he)) (groupOf e)
    have hentry := free_renderEntry hb (hentries e List.mem_cons_self) hfree hmore
    have hindent := hb.indent.1.append hentry (hb.indent.2 _)
    have hgap : Free fold word ((if separation && previous != groupOf e then b.newline else []) ++
        (b.indent ++ (b.renderEntry e ++
          (b.renderMore separation groupOf (groupOf e) more ++ r)))) := by
      split
      · exact hb.newline.1.append hindent (hb.newline.2 _)
      · exact hindent
    refine ⟨?_, .inl ⟨_, by simp only [renderMore, List.append_assoc]; rfl⟩⟩
    have := hb.newline.1.append hgap (hb.newline.2 _)
    simpa [renderMore] using this

theorem free_rear (hb : b.Holding fold word) (segments : List (List Char))
    (hsegments : ∀ s ∈ segments, s ∈ b.displaced) :
    Free fold word ((segments.map fun s => b.newline ++ b.newline ++ s).flatten ++ b.renderAfter) ∧
      b.Follows ((segments.map fun s => b.newline ++ b.newline ++ s).flatten ++ b.renderAfter) := by
  have hbreak : ∀ {x : List Char}, Free fold word x →
      Free fold word (b.newline ++ (b.newline ++ x)) := fun hx =>
    hb.newline.1.append (hb.newline.1.append hx (hb.newline.2 _)) (hb.newline.2 _)
  induction segments with
  | nil =>
    rw [List.map_nil, List.flatten_nil, List.nil_append]
    unfold renderAfter
    split
    · rename_i hblank
      exact ⟨hb.after, .inr ⟨rfl, hblank⟩⟩
    · rw [List.append_assoc]
      exact ⟨hbreak (hb.after.of_isInfix (dropBlankLines_suffix b.after).isInfix), .inl ⟨_, rfl⟩⟩
  | cons s segments ih =>
    obtain ⟨hfree, hfollows⟩ := ih fun s hs => hsegments s (List.mem_cons_of_mem _ hs)
    obtain ⟨hs, hnewline, hafter⟩ := hb.displaced s (hsegments s List.mem_cons_self)
    have hjoins : Joins fold word s
        ((segments.map fun s => b.newline ++ b.newline ++ s).flatten ++ b.renderAfter) := by
      rcases hfollows with ⟨x, hx⟩ | ⟨hx, hblank⟩
      · rw [hx]
        exact hnewline x
      · rw [hx]
        exact hafter hblank
    have := hbreak (hs.append hfree hjoins)
    exact ⟨by simpa using this, .inl ⟨_, by simp; rfl⟩⟩

theorem free_render (hb : b.Holding fold word) (separation : Bool) (groupOf : Entry → Nat) :
    Free fold word (b.render separation groupOf) := by
  obtain ⟨hset, hfollows⟩ := free_rear hb b.displaced fun _ h => h
  have hentries : Free fold word (b.renderEntries separation groupOf ++
      ((b.displaced.map fun s => b.newline ++ b.newline ++ s).flatten ++ b.renderAfter)) := by
    unfold renderEntries
    split
    · exact hset
    · rename_i e more heq
      obtain ⟨hmore, hmoreFollows⟩ := free_renderMore hb separation groupOf hset hfollows more
        (fun e' he => by rw [heq]; exact List.mem_cons_of_mem _ he) (groupOf e)
      rw [List.append_assoc]
      exact free_renderEntry hb (by rw [heq]; exact List.mem_cons_self) hmore hmoreFollows
  have hindent := hb.indent.1.append hentries (hb.indent.2 _)
  have := hb.before.1.append hindent (hb.before.2 _)
  simpa [render] using this

end Block

/-! ## Solid words -/

/-- A word that cannot lie across a blank, a comma or a brace. -/
structure Solid (fold : Char → Char) (word : List Char) : Prop where
  nonempty : word ≠ []
  blank : ∀ c, isBlank c = true → Apart fold word c
  comma : Apart fold word ','
  opening : Apart fold word '\x7b'
  closing : Apart fold word '\x7d'

theorem Solid.free_blank (hw : Solid fold word) {s : List Char} (hs : allBlank s = true) :
    Free fold word s :=
  free_of_apart hw.nonempty fun c hc => hw.blank c (List.all_eq_true.1 hs c hc)

theorem Solid.joins_of_blank_last (hw : Solid fold word) {a : List Char} (ha : allBlank a = true)
    (b : List Char) : Joins fold word a b :=
  joins_of_last fun c hc => hw.blank c (List.all_eq_true.1 ha c (List.mem_of_getLast? hc))

theorem Solid.joins_of_blank_head (hw : Solid fold word) (a : List Char) {b : List Char}
    (hb : allBlank b = true) (hne : b ≠ []) (x : List Char) : Joins fold word a (b ++ x) := by
  refine joins_of_head fun c hc => hw.blank c (List.all_eq_true.1 hb c ?_)
  rw [List.head?_append_of_ne_nil _ hne] at hc
  exact List.mem_of_head? hc

theorem Solid.joins_of_blank (hw : Solid fold word) (a : List Char) {b : List Char}
    (hb : allBlank b = true) : Joins fold word a b :=
  joins_of_head fun c hc => hw.blank c (List.all_eq_true.1 hb c (List.mem_of_head? hc))

theorem Solid.joins_of_endsLine (hw : Solid fold word) {a : List Char} (ha : EndsLine a)
    (b : List Char) : Joins fold word a b := by
  refine joins_of_last fun c hc => hw.blank c ?_
  rcases ha with rfl | ⟨t, rfl⟩
  · cases hc
  · rw [List.getLast?_concat, Option.some.injEq] at hc
    subst hc
    rfl

theorem Block.newlineOf_eq (text : List Char) :
    newlineOf text = ['\n'] ∨ newlineOf text = ['\r', '\n'] := by
  unfold newlineOf
  split
  · exact .inr rfl
  · exact .inl rfl

theorem Block.newlineOf_eq_newline_iff {text : List Char} :
    newlineOf text = ['\n'] ↔ Free id ['\r', '\n'] text := by
  rw [← Statement.occursIn_eq_false_iff, newlineOf]
  cases occursIn ['\r', '\n'] text <;> simp

namespace Sorter

/-- The words in the statement of an entry and the comment behind it, also with sorted names. -/
theorem free_finish {s : Sorter} {e : Entry} (h : Free fold word (e.text ++ e.trailing))
    (hspace : Apart fold word ' ') (hcomma : Apart fold word ',') (hopen : Apart fold word '\x7b')
    (hclose : Apart fold word '\x7d') :
    Free fold word ((s.finish e).text ++ (s.finish e).trailing) := by
  rw [finish_trailing]
  unfold finish
  split
  · exact Statement.free_sortNames hspace hcomma hopen hclose h _
  · exact h

theorem holding_of_solid (hw : Solid fold word) (s : Sorter) {text : List Char} {b : Block}
    (hb : b.Sound text) (h : Free fold word text) : (s.sortBlock b).Holding fold word := by
  have hnewline : allBlank b.newline = true ∧ b.newline ≠ [] := by
    rw [hb.newline]
    rcases Block.newlineOf_eq text with heq | heq <;> rw [heq] <;> exact ⟨rfl, by simp⟩
  have hindent := allBlank_of_isIndent hb.indent
  exact {
    before := ⟨h.of_isInfix hb.before.isInfix, hw.joins_of_endsLine hb.endsLine⟩
    indent := ⟨hw.free_blank hindent, hw.joins_of_blank_last hindent⟩
    newline := ⟨hw.free_blank hnewline.1, hw.joins_of_blank_last hnewline.1⟩
    leading := by
      intro e he c hc
      obtain ⟨e', he', rfl⟩ := mem_sortEntries he
      rw [finish_leading] at hc
      exact ⟨h.of_isInfix ((hb.entries e' he').leading c hc).1,
        hw.joins_of_blank_head c hnewline.1 hnewline.2⟩
    line := by
      intro e he
      obtain ⟨e', he', rfl⟩ := mem_sortEntries he
      exact ⟨free_finish (h.of_isInfix (hb.entries e' he').line) (hw.blank ' ' rfl) hw.comma
        hw.opening hw.closing, hw.joins_of_blank_head _ hnewline.1 hnewline.2, hw.joins_of_blank _⟩
    displaced := fun segment hs => ⟨h.of_isInfix (hb.displaced segment hs).1,
      hw.joins_of_blank_head segment hnewline.1 hnewline.2, hw.joins_of_blank segment⟩
    after := h.of_isInfix hb.after.isInfix }

/-- A solid word that does not stand in a text does not stand there after sorting either. -/
theorem free_sort (hw : Solid fold word) (s : Sorter) {source : List Char}
    (h : Free fold word source) : Free fold word (s.sort source).code := by
  cases hb : Block.ofText? (Banner.cut source).rest with
  | none => rwa [sort_of_none hb]
  | some b =>
    have hrest : Free fold word (Banner.cut source).rest :=
      h.of_isInfix ⟨_, [], by rw [List.append_nil, Banner.banner_append_rest]⟩
    have hbanner : Free fold word (Banner.cut source).banner :=
      h.of_isInfix ⟨[], _, by rw [List.nil_append, Banner.banner_append_rest]⟩
    rw [code_of_block hb]
    exact hbanner.append
      (Block.free_render (holding_of_solid hw s (Block.sound_of_ofText? hb) hrest) _ _)
      (hw.joins_of_endsLine (Banner.endsLine_banner source) _)

end Sorter

end Words

/-! ## The newline of two characters -/

theorem Entry.Sound.line_endsVisible {text : List Char} {e : Entry} (he : e.Sound text)
    (s : Sorter) : EndsVisible ((s.finish e).text ++ (s.finish e).trailing) := by
  rw [Sorter.finish_trailing]
  rcases he.trailing with hnil | ⟨-, hend, -⟩
  · rw [hnil, List.append_nil]
    exact (s.sentence_finish e he.sentence).endsVisible
  · exact hend.prepend _

namespace Sorter

/-- A text in which no newline has two characters is not given one by sorting. -/
theorem free_render_crlf (s : Sorter) {text : List Char} {b : Block} (hb : b.Sound text)
    (hnewline : b.newline = ['\n']) (h : Free id ['\r', '\n'] text) (separation : Bool)
    (groupOf : Entry → Nat) :
    Free id ['\r', '\n'] ((s.sortBlock b).render separation groupOf) := by
  refine Block.free_render ?_ separation groupOf
  have hindent : ∀ c ∈ b.indent, c ≠ '\r' := by
    rintro c hc rfl
    exact absurd (hb.indent _ hc) (by decide)
  exact {
    before := by
      refine ⟨h.of_isInfix hb.before.isInfix, joins_of_pair ?_⟩
      rcases hb.endsLine with hnil | ⟨t, ht⟩
      · rw [sortBlock_before, hnil]
        simp
      · rw [sortBlock_before, ht, List.getLast?_concat]
        decide
    indent := ⟨free_of_not_mem fun hm => hindent _ hm rfl,
      joins_of_pair fun hlast => hindent _ (List.mem_of_getLast? hlast) rfl⟩
    newline := by
      rw [sortBlock_newline, hnewline]
      exact ⟨free_of_not_mem (by decide), joins_of_pair (by decide)⟩
    leading := by
      intro e he c hc
      obtain ⟨e', he', rfl⟩ := mem_sortEntries he
      rw [finish_leading] at hc
      obtain ⟨hin, hbare⟩ := (hb.entries e' he').leading c hc
      exact ⟨h.of_isInfix hin, fun x => joins_of_pair hbare.last _⟩
    line := by
      intro e he
      obtain ⟨e', he', rfl⟩ := mem_sortEntries he
      have hsound := hb.entries e' he'
      have hlast := (hsound.line_endsVisible s).getLast?_ne (c := '\r') rfl
      refine ⟨free_finish (h.of_isInfix hsound.line) ?_ ?_ ?_ ?_, fun x => joins_of_pair hlast _,
        fun _ => joins_of_pair hlast _⟩
      all_goals
        unfold Apart
        decide
    displaced := by
      intro segment hs
      obtain ⟨hin, hend, -⟩ := hb.displaced segment hs
      have hlast := hend.getLast?_ne (c := '\r') rfl
      exact ⟨h.of_isInfix hin, fun x => joins_of_pair hlast _, fun _ => joins_of_pair hlast _⟩
    after := h.of_isInfix hb.after.isInfix }

end Sorter

end ImportOrder
