import ImportOrder.Proofs.Block

/-!
# ImportOrder.Proofs.Layout

A rendered block, read back. `layout` says where the parts of a block stand in its rendering: each
statement with the text before it, and the text behind the last one. When a scan of the rendering
finds the statements at these places, the block that is read from it is the block that was rendered,
up to three things:

* text that was set aside is now behind the statements;
* comment lines above the first statement may have become part of the banner, or of the text before
  it;
* blanks between the last comment and the end of its line are gone.

`collect_layoutMore` reads the entries behind the first one, `cutAttached_leadingLines` and
`cutAttached_append` the comment lines above one.
-/

namespace ImportOrder
namespace Block

open Text Statement

/-- One of the two forms of a newline. -/
def IsNewline (s : List Char) : Prop :=
  s = ['\n'] ∨ s = ['\r', '\n']

/-- What holds of a block that was read from a text, and of that block with its entries sorted. -/
structure Regular (b : Block) : Prop where
  endsLine : EndsLine b.before
  settled : Comment.attachedLines ((lines b.before).map bareLine) = 0
  indent : ∀ c ∈ b.indent, isIndent c = true
  newline : IsNewline b.newline
  sentence : ∀ e ∈ b.entries, Sentence e.text
  trailing : ∀ e ∈ b.entries, TrailingComment e.trailing
  leading : ∀ e ∈ b.entries, ∀ c ∈ e.leading, BareLine c
  attached : ∀ e ∈ b.entries, Comment.attachedLines e.leading = e.leading.length
  displaced : ∀ segment ∈ b.displaced,
    EndsVisible segment ∧ '\n' ∉ segment.takeWhile isBlank

/-! ## Where the parts of a block stand -/

/-- Comment lines with the indentation of the block. -/
def leadingLines (b : Block) (comments : List (List Char)) : List Char :=
  (comments.map fun c => b.indent ++ c ++ b.newline).flatten

/-- What stands behind the last entry. -/
def rear (b : Block) : List Char :=
  (b.displaced.map fun segment => b.newline ++ b.newline ++ segment).flatten ++ b.renderAfter

/-- The blank line between two groups. -/
def separator (b : Block) (separation : Bool) (groupOf : Entry → Nat) (e next : Entry) :
    List Char :=
  if separation && groupOf e != groupOf next then b.newline else []

/-- The statements behind one of the entries, with the texts between them. -/
def layoutMore (b : Block) (separation : Bool) (groupOf : Entry → Nat) (e : Entry) :
    List Entry → Scanned
  | [] => ⟨[], e.trailing ++ b.rear⟩
  | next :: more =>
    let rest := b.layoutMore separation groupOf next more
    ⟨⟨e.trailing ++ (b.newline ++ b.separator separation groupOf e next ++
      b.leadingLines next.leading), b.indent, next.text⟩ :: rest.occurrences, rest.tail⟩

/-- The statements of a block, with the texts between them. -/
def layout (b : Block) (separation : Bool) (groupOf : Entry → Nat) : Scanned :=
  match b.entries with
  | [] => ⟨[], []⟩
  | e :: more =>
    let rest := b.layoutMore separation groupOf e more
    ⟨⟨b.before ++ b.leadingLines e.leading, b.indent, e.text⟩ :: rest.occurrences, rest.tail⟩

/-- The indentation may be counted to the lines of the comments or to what follows them. -/
theorem indent_renderEntry (b : Block) (e : Entry) :
    b.indent ++ b.renderEntry e =
      b.leadingLines e.leading ++ (b.indent ++ (e.text ++ e.trailing)) := by
  have go : ∀ comments : List (List Char),
      b.indent ++ ((comments.map fun c => c ++ b.newline ++ b.indent).flatten ++
        (e.text ++ e.trailing)) =
      b.leadingLines comments ++ (b.indent ++ (e.text ++ e.trailing)) := by
    intro comments
    induction comments with
    | nil => rfl
    | cons c comments ih =>
      simp only [leadingLines, List.map_cons, List.flatten_cons, List.append_assoc] at ih ⊢
      rw [ih]
  have := go e.leading
  rwa [renderEntry, List.append_assoc]

theorem text_layoutMore (b : Block) (separation : Bool) (groupOf : Entry → Nat) (e : Entry)
    (more : List Entry) :
    (b.layoutMore separation groupOf e more).text =
      e.trailing ++ (b.renderMore separation groupOf (groupOf e) more ++ b.rear) := by
  induction more generalizing e with
  | nil => rfl
  | cons next more ih =>
    have htext : (b.layoutMore separation groupOf e (next :: more)).text =
        e.trailing ++ (b.newline ++ (b.separator separation groupOf e next ++
          (b.leadingLines next.leading ++ (b.indent ++ (next.text ++
            (b.layoutMore separation groupOf next more).text))))) := by
      simp [layoutMore, Scanned.text]
    have hentry := congrArg (· ++ (b.renderMore separation groupOf (groupOf next) more ++ b.rear))
      (b.indent_renderEntry next)
    simp only [List.append_assoc] at hentry
    rw [htext, ih]
    simp only [renderMore, separator, List.append_assoc]
    rw [← hentry]

theorem text_layout {b : Block} (hb : b.entries ≠ []) (separation : Bool)
    (groupOf : Entry → Nat) :
    (b.layout separation groupOf).text = b.render separation groupOf := by
  cases hentries : b.entries with
  | nil => exact absurd hentries hb
  | cons e more =>
    have htext : (b.layout separation groupOf).text =
        b.before ++ (b.leadingLines e.leading ++ (b.indent ++ (e.text ++
          (b.layoutMore separation groupOf e more).text))) := by
      simp [layout, hentries, Scanned.text]
    have hentry := congrArg (· ++ (b.renderMore separation groupOf (groupOf e) more ++ b.rear))
      (b.indent_renderEntry e)
    simp only [List.append_assoc] at hentry
    rw [htext, text_layoutMore, ← hentry]
    simp [render, renderEntries, hentries, rear]

/-! ## Comment lines read back -/

section Comments

variable {b : Block}

theorem IsNewline.endsLine_append {s : List Char} (h : IsNewline s) (t : List Char) :
    EndsLine (t ++ s) := by
  rcases h with rfl | rfl
  · exact endsLine_newline t
  · exact .inr ⟨t ++ ['\r'], by simp⟩

theorem IsNewline.endsLine {s : List Char} (h : IsNewline s) : EndsLine s :=
  h.endsLine_append []

theorem IsNewline.ne_nil {s : List Char} (h : IsNewline s) : s ≠ [] := by
  rcases h with rfl | rfl <;> simp

theorem IsNewline.blank {s : List Char} (h : IsNewline s) : allBlank s = true := by
  rcases h with rfl | rfl <;> rfl

theorem splitLine_newline (hn : IsNewline b.newline) (x : List Char) :
    allBlank (splitLine (b.newline ++ x)).1 = true := by
  rcases hn with hn | hn <;> rw [hn] <;> rfl

theorem leadingLines_append (b : Block) (cs ds : List (List Char)) :
    b.leadingLines (cs ++ ds) = b.leadingLines cs ++ b.leadingLines ds := by
  simp [leadingLines]

theorem endsLine_leadingLines (hn : IsNewline b.newline) (comments : List (List Char)) :
    EndsLine (b.leadingLines comments) := by
  induction comments with
  | nil => exact .inl rfl
  | cons c comments ih =>
    rw [leadingLines, List.map_cons, List.flatten_cons]
    exact (hn.endsLine_append _).append ih

theorem newline_not_mem_indent (hb : ∀ c ∈ b.indent, isIndent c = true) : '\n' ∉ b.indent :=
  fun hm => absurd (hb _ hm) (by decide)

theorem bareLine_line (hi : ∀ c ∈ b.indent, isIndent c = true) (hn : IsNewline b.newline)
    {c : List Char} (hc : BareLine c) : bareLine (b.indent ++ c ++ b.newline) = b.indent ++ c := by
  have hlast : ∀ d, (b.indent ++ c).getLast? = some d → (d == '\n' || d == '\r') = false := by
    intro d hd
    rw [List.getLast?_append] at hd
    cases hlast : c.getLast? with
    | none =>
      rw [hlast, Option.none_or] at hd
      have hindent := hi d (List.mem_of_getLast? hd)
      cases hbad : (d == '\n' || d == '\r') with
      | false => rfl
      | true =>
        simp only [Bool.or_eq_true, beq_iff_eq] at hbad
        rcases hbad with rfl | rfl <;> exact absurd hindent (by decide)
    | some x =>
      rw [hlast, Option.some_or] at hd
      cases hd
      simp only [Bool.or_eq_false_iff, beq_eq_false_iff_ne]
      refine ⟨fun h => hc.newline (h ▸ List.mem_of_getLast? hlast), fun h => hc.last ?_⟩
      rw [hlast, h]
  have hblank : ∀ d ∈ b.newline, (d == '\n' || d == '\r') = true := by
    rcases hn with hn | hn <;> rw [hn] <;> exact List.all_eq_true.1 rfl
  rw [bareLine, dropEndWhile_append hblank, dropEndWhile_eq_self hlast]

theorem dropIndent_append (indent c : List Char) : dropIndent indent (indent ++ c) = c := by
  rw [dropIndent, List.isPrefixOf?_eq_some_iff_append_eq.2 rfl]

theorem lines_leadingLines (hi : ∀ c ∈ b.indent, isIndent c = true) (hn : IsNewline b.newline)
    {comments : List (List Char)} (hc : ∀ c ∈ comments, BareLine c) :
    lines (b.leadingLines comments) = comments.map fun c => b.indent ++ c ++ b.newline := by
  refine lines_flatten fun l hl => ?_
  obtain ⟨c, hmem, rfl⟩ := List.mem_map.1 hl
  have hopen : '\n' ∉ b.indent ++ c := by
    simp [newline_not_mem_indent hi, (hc c hmem).newline]
  rcases hn with hn | hn
  · exact ⟨b.indent ++ c, hopen, by rw [hn]⟩
  · exact ⟨b.indent ++ c ++ ['\r'], by simpa using hopen, by rw [hn]; simp⟩

theorem attachedLines_indented (hi : ∀ c ∈ b.indent, isIndent c = true)
    (comments : List (List Char)) :
    Comment.attachedLines (comments.map (b.indent ++ ·)) = Comment.attachedLines comments := by
  have hblank := allBlank_of_isIndent hi
  rw [Comment.attachedLines, Comment.attachedLines, ← List.map_reverse]
  refine Comment.runAbove_map (fun c => ?_) _
  rw [trim, trim, trimStart_append_of_blank hblank]

/-- Comment lines behind a text that does not end in one are cut off it again. -/
theorem cutAttached_append (hi : ∀ c ∈ b.indent, isIndent c = true) (hn : IsNewline b.newline)
    {front : List Char} (hfront : EndsLine front)
    (hsettled : Comment.attachedLines ((lines front).map bareLine) = 0)
    {comments : List (List Char)} (hc : ∀ c ∈ comments, BareLine c)
    (hattached : Comment.attachedLines comments = comments.length) :
    cutAttached (front ++ b.leadingLines comments) b.indent = (front, comments) := by
  have hlines : lines (front ++ b.leadingLines comments) =
      lines front ++ comments.map fun c => b.indent ++ c ++ b.newline := by
    rw [lines_append hfront, lines_leadingLines hi hn hc]
  have hbare : (comments.map fun c => b.indent ++ c ++ b.newline).map bareLine =
      comments.map (b.indent ++ ·) := by
    rw [List.map_map]
    exact List.map_congr_left fun c hmem => bareLine_line hi hn (hc c hmem)
  have hrun : Comment.attachedLines ((lines front ++ comments.map fun c =>
      b.indent ++ c ++ b.newline).map bareLine) = comments.length := by
    have hfull : Comment.runAbove (comments.map (b.indent ++ ·)).reverse =
        (comments.map (b.indent ++ ·)).reverse.length := by
      rw [← Comment.attachedLines, attachedLines_indented hi, hattached]
      simp
    rw [List.map_append, hbare, Comment.attachedLines, List.reverse_append,
      (Comment.isRun_iff.2 hfull).runAbove_append, ← Comment.attachedLines, hsettled]
    simp
  simp only [cutAttached, hlines, hrun, List.length_append, List.length_map,
    Nat.add_sub_cancel, List.take_left, List.drop_left, flatten_lines, List.map_map]
  congr 1
  rw [List.map_congr_left (g := id) fun c hmem => ?_, List.map_id]
  simp only [Function.comp_apply, bareLine_line hi hn (hc c hmem), dropIndent_append, id]

/-- Comment lines by themselves are cut somewhere, and stay the same lines. -/
theorem cutAttached_leadingLines (hi : ∀ c ∈ b.indent, isIndent c = true)
    (hn : IsNewline b.newline) {comments : List (List Char)} (hc : ∀ c ∈ comments, BareLine c) :
    ∃ k, cutAttached (b.leadingLines comments) b.indent =
      (b.leadingLines (comments.take k), comments.drop k) := by
  refine ⟨comments.length - Comment.attachedLines
    ((lines (b.leadingLines comments)).map bareLine), ?_⟩
  have hlines := lines_leadingLines hi hn hc
  simp only [cutAttached, leadingLines] at hlines ⊢
  simp only [hlines, List.length_map, List.map_take, ← List.map_drop, List.map_map]
  congr 1
  rw [List.map_congr_left (g := id) fun c hmem => ?_, List.map_id]
  have hmem' := List.mem_of_mem_drop hmem
  simp only [Function.comp_apply, bareLine_line hi hn (hc c hmem'), dropIndent_append, id]

end Comments

/-! ## Comments behind a statement read back -/

/-- What is left of a text behind a comment, which takes the blanks up to the end of its line. -/
def behindComment (t r : List Char) : List Char :=
  if t = [] then r else (splitLine r).2

theorem cutComment_append {t r : List Char} (ht : TrailingComment t)
    (hr : allBlank (splitLine r).1 = true) : cutComment (t ++ r) = (t, behindComment t r) := by
  have hblank := List.all_eq_true.1 hr
  rcases ht with rfl | ⟨hwhole, hend, hnl⟩
  · have hnone : Comment.trailing? (splitLine r).1 = none := by
      rw [Comment.trailing?, trim_of_blank hr]
      rfl
    simp [cutComment, hnone, behindComment]
  · have htrimEnd : trimEnd (t ++ (splitLine r).1) = t := by
      rw [trimEnd_append_of_blank hblank, ← List.append_nil t, trimEnd_append hend]
      rfl
    have hsome : Comment.trailing? (t ++ (splitLine r).1) = some t := by
      rw [Comment.trailing?, trim_append_of_blank hr, if_pos hwhole, htrimEnd]
    simp [cutComment, splitLine_append hnl, hsome, behindComment, hend.ne_nil]

theorem behindComment_newline {nl : List Char} (hn : IsNewline nl) (t x : List Char) :
    ∃ w, IsNewline w ∧ behindComment t (nl ++ x) = w ++ x := by
  unfold behindComment
  split
  · exact ⟨nl, hn, rfl⟩
  · refine ⟨['\n'], .inl rfl, ?_⟩
    rcases hn with rfl | rfl
    · exact congrArg Prod.snd (splitLine_append_newline (l := []) (by simp) x)
    · exact congrArg Prod.snd (splitLine_append_newline (l := ['\r']) (by simp) x)

theorem attachedLines_of_blank {front : List Char} (h : allBlank front = true) :
    Comment.attachedLines ((lines front).map bareLine) = 0 := by
  rw [Comment.attachedLines]
  cases hls : ((lines front).map bareLine).reverse with
  | nil => rw [Comment.runAbove]
  | cons l above =>
    have hl : l ∈ (lines front).map bareLine := by
      rw [← List.mem_reverse, hls]
      exact List.mem_cons_self
    obtain ⟨line, hline, rfl⟩ := List.mem_map.1 hl
    have hblank : allBlank (bareLine line) = true := by
      obtain ⟨r, hr⟩ := bareLine_isPrefix line
      have hall := allBlank_of_mem_lines h hline
      rw [← hr, allBlank_append] at hall
      exact hall.1
    rw [Comment.runAbove, trim_of_blank hblank]
    rfl

theorem residue_of_blank {front : List Char} (h : allBlank front = true) : residue front = [] := by
  have hvisible : visible (residue front) = [] := by
    rw [residue, visible_trimEnd, visible_dropBlankLines, allBlank_iff.1 h]
  rcases trimEnd_eq_nil_or_endsVisible (dropBlankLines front) with hnil | hend
  · exact hnil
  · obtain ⟨t, c, heq, hc⟩ := hend
    rw [residue, heq, visible_append] at hvisible
    simp [visible, hc] at hvisible

/-! ## The entries read back -/

theorem endsLine_separator {b : Block} (hn : IsNewline b.newline) (separation : Bool)
    (groupOf : Entry → Nat) (e next : Entry) :
    EndsLine (b.separator separation groupOf e next) := by
  unfold separator
  split
  · exact hn.endsLine
  · exact .inl rfl

theorem allBlank_separator {b : Block} (hn : IsNewline b.newline) (separation : Bool)
    (groupOf : Entry → Nat) (e next : Entry) :
    allBlank (b.separator separation groupOf e next) = true := by
  unfold separator
  split
  · exact hn.blank
  · rfl

/-- The comment behind the last entry. -/
def lastTrailing (entries : List Entry) : List Char :=
  (entries.getLast?.map (·.trailing)).getD []

theorem lastTrailing_cons_cons (e next : Entry) (more : List Entry) :
    lastTrailing (e :: next :: more) = lastTrailing (next :: more) := by
  simp [lastTrailing]

/-- Behind the entries stands the text behind the block when there is nothing but blanks, and else
a blank line with other text below it. -/
theorem rear_cases {b : Block} (hb : b.Regular) :
    (b.rear = b.after ∧ b.displaced = [] ∧ allBlank b.after = true) ∨
      ∃ y, b.rear = b.newline ++ (b.newline ++ y) ∧ allBlank y = false ∧
        '\n' ∉ y.takeWhile isBlank := by
  unfold rear
  cases hset : b.displaced with
  | nil =>
    by_cases hafter : allBlank b.after = true
    · exact .inl ⟨by simp [renderAfter, hafter], rfl, hafter⟩
    · refine .inr ⟨dropBlankLines b.after, by simp [renderAfter, hafter], ?_,
        newline_not_mem_takeWhile_dropBlankLines _⟩
      rwa [allBlank_iff, ← visible_dropBlankLines, ← allBlank_iff, Bool.not_eq_true] at hafter
  | cons segment more =>
    obtain ⟨⟨t, c, ht, hc⟩, hnl⟩ := hb.displaced segment (by rw [hset]; exact List.mem_cons_self)
    have hvisible : allBlank segment = false := by
      simp [ht, allBlank, hc]
    refine .inr ⟨segment ++ ((more.map fun segment => b.newline ++ b.newline ++ segment).flatten ++
      b.renderAfter), by simp, ?_, ?_⟩
    · rw [← Bool.not_eq_true, allBlank_append, hvisible]
      simp
    · rwa [takeWhile_append_of_not_blank hvisible]

theorem splitLine_rear {b : Block} (hb : b.Regular) :
    allBlank (splitLine b.rear).1 = true := by
  rcases rear_cases hb with ⟨heq, -, hblank⟩ | ⟨y, heq, -, -⟩
  · rw [heq]
    exact (allBlank_splitLine hblank).1
  · rw [heq]
    exact splitLine_newline hb.newline _

theorem collect_layoutMore {b : Block} (hb : b.Regular) (separation : Bool)
    (groupOf : Entry → Nat) (more : List Entry) :
    ∀ e current : Entry, e ∈ b.entries → (∀ next ∈ more, next ∈ b.entries) →
      (∀ next ∈ more, Statement.path next.text = next.path) →
      collect b.indent current (b.layoutMore separation groupOf e more).occurrences
          (b.layoutMore separation groupOf e more).tail =
        ({ current with trailing := e.trailing } :: more, [],
          behindComment (lastTrailing (e :: more)) b.rear) := by
  induction more with
  | nil =>
    intro e current he _ _
    simp only [layoutMore, collect, cutComment_append (hb.trailing e he) (splitLine_rear hb)]
    rfl
  | cons next more ih =>
    intro e current he hmore hpath
    have hnext := hmore next List.mem_cons_self
    -- what is left of the break behind the comment is blank, and nothing of it is kept
    obtain ⟨w, hw, hbehind⟩ := behindComment_newline hb.newline e.trailing
      (b.separator separation groupOf e next ++
        b.leadingLines next.leading)
    rw [← List.append_assoc, ← List.append_assoc] at hbehind
    have hends : EndsLine (w ++ b.separator separation groupOf e next) :=
      hw.endsLine.append (endsLine_separator hb.newline ..)
    have hblank : allBlank (w ++ b.separator separation groupOf e next) = true :=
      allBlank_append.2 ⟨hw.blank, allBlank_separator hb.newline ..⟩
    have hline : allBlank (splitLine (b.newline ++ b.separator separation groupOf e next ++
        b.leadingLines next.leading)).1 = true := by
      rw [List.append_assoc]
      exact splitLine_newline hb.newline _
    have hcut := cutAttached_append hb.indent hb.newline hends
      (attachedLines_of_blank hblank) (hb.leading next hnext) (hb.attached next hnext)
    have hrest := ih next ⟨next.path, next.leading, next.text, []⟩ hnext
      (fun e' he' => hmore e' (List.mem_cons_of_mem _ he'))
      (fun e' he' => hpath e' (List.mem_cons_of_mem _ he'))
    simp only [layoutMore, collect, cutComment_append (hb.trailing e he) hline]
    simp only [hbehind, hcut, hrest, residue_of_blank hblank,
      hpath next List.mem_cons_self, lastTrailing_cons_cons]
    rfl

/-! ## The block read back -/

/-- The block that a rendering of `b` is read as, its newline apart, when `before` and `entries` are
what is before its first entry and the entries. -/
def reread (b : Block) (before : List Char) (entries : List Entry) : Block :=
  { b with
    before := before
    entries := entries
    displaced := []
    after := behindComment (lastTrailing b.entries) b.rear }

section Reread

variable {b : Block} {e : Entry} {more : List Entry} {before : List Char}
  {leading : List (List Char)} {separation : Bool} {groupOf : Entry → Nat}

theorem ofText?_of_scan (hb : b.Regular) (hentries : b.entries = e :: more)
    (hpath : ∀ e ∈ b.entries, Statement.path e.text = e.path)
    (hcut : cutAttached (before ++ b.leadingLines leading) b.indent = (before, leading))
    {text : List Char}
    (hscan : scan text = ⟨⟨before ++ b.leadingLines leading, b.indent, e.text⟩ ::
      (b.layoutMore separation groupOf e more).occurrences,
      (b.layoutMore separation groupOf e more).tail⟩) :
    ofText? text = some { b.reread before ({ e with leading := leading } :: more) with
      newline := newlineOf text } := by
  have he : e ∈ b.entries := by
    rw [hentries]
    exact List.mem_cons_self
  have hmore : ∀ next ∈ more, next ∈ b.entries := by
    intro next hnext
    rw [hentries]
    exact List.mem_cons_of_mem _ hnext
  have hcollect := collect_layoutMore hb separation groupOf more e
    ⟨e.path, leading, e.text, []⟩ he hmore fun next hnext => hpath next (hmore next hnext)
  rw [ofText?, hscan]
  simp only [hcut, hpath e he, hcollect, reread, hentries]

theorem renderMore_congr {c : Block} (hindent : c.indent = b.indent)
    (hnewline : c.newline = b.newline) (entries : List Entry) (previous : Nat) :
    c.renderMore separation groupOf previous entries =
      b.renderMore separation groupOf previous entries := by
  induction entries generalizing previous with
  | nil => rfl
  | cons e more ih => simp only [renderMore, renderEntry, hindent, hnewline, ih]

/-- What was read from a rendering is rendered like it, up to the text behind the entries. -/
theorem render_reread (hgroup : groupOf { e with leading := leading } = groupOf e) :
    (b.reread before ({ e with leading := leading } :: more)).render separation groupOf =
      before ++ (b.leadingLines leading ++ (b.indent ++ (e.text ++ (e.trailing ++
        (b.renderMore separation groupOf (groupOf e) more ++
          (b.reread before ({ e with leading := leading } :: more)).renderAfter))))) := by
  have hrender := text_layout (b := b.reread before ({ e with leading := leading } :: more))
    (by simp [reread]) separation groupOf
  rw [← hrender]
  have htext : ((b.reread before ({ e with leading := leading } :: more)).layout separation
      groupOf).text = before ++ (b.leadingLines leading ++ (b.indent ++ (e.text ++
        ((b.reread before ({ e with leading := leading } :: more)).layoutMore separation groupOf
          { e with leading := leading } more).text))) := by
    simp [layout, reread, Scanned.text, leadingLines]
  rw [htext, text_layoutMore, hgroup,
    renderMore_congr (b := b) (c := b.reread before ({ e with leading := leading } :: more)) rfl rfl]
  rfl

/-- The newline of a block without line breaks of its own does not show. -/
theorem render_newline (hentries : b.entries = [e]) (hleading : e.leading = [])
    (hset : b.displaced = []) (hafter : allBlank b.after = true) (newline : List Char) :
    { b with newline := newline }.render separation groupOf = b.render separation groupOf := by
  simp [render, renderEntries, renderEntry, renderMore, renderAfter, hentries, hleading, hset,
    hafter]

end Reread

/-! ## The text behind the entries read back -/

/-- Blanks stand between the comment behind the last entry and the end of its line, and nothing but
blanks below. -/
def LosesBlanks (b : Block) : Prop :=
  lastTrailing b.entries ≠ [] ∧ b.displaced = [] ∧ allBlank b.after = true ∧
    (splitLine b.after).1 ≠ []

instance (b : Block) : Decidable b.LosesBlanks :=
  inferInstanceAs (Decidable (_ ∧ _ ∧ _ ∧ _))

theorem dropBlankLines_newline {front nl : List Char} (hfront : allBlank front = true)
    (hn : IsNewline nl) {y : List Char} (hy : '\n' ∉ y.takeWhile isBlank) :
    dropBlankLines (front ++ (nl ++ y)) = y := by
  have hkeep : ∀ {blank : List Char}, allBlank blank = true →
      dropBlankLines (blank ++ '\n' :: y) = y := by
    intro blank hblank
    rw [dropBlankLines_append hblank, afterLastNewline_of_not_mem hy, takeWhile_append_trimStart]
  rcases hn with rfl | rfl
  · exact hkeep hfront
  · have hblank : allBlank (front ++ ['\r']) = true := allBlank_append.2 ⟨hfront, rfl⟩
    simpa using hkeep hblank

theorem allBlank_behindComment {r : List Char} (h : allBlank r = true) (t : List Char) :
    allBlank (behindComment t r) = true := by
  unfold behindComment
  split
  · exact h
  · exact (allBlank_splitLine h).2

/-- Read and rendered again, the text behind the entries is the same unless blanks behind the last
comment are lost. -/
theorem renderAfter_reread {b : Block} (hb : b.Regular) (before : List Char)
    (entries : List Entry) :
    (b.reread before entries).renderAfter = b.rear ↔ ¬ b.LosesBlanks := by
  rcases rear_cases hb with ⟨hrear, hset, hblank⟩ | ⟨y, hrear, hy, hnl⟩
  · have hafter : (b.reread before entries).renderAfter =
        behindComment (lastTrailing b.entries) b.after := by
      rw [renderAfter, reread, hrear]
      simp [allBlank_behindComment hblank]
    have hsplit := splitLine_fst_append_snd b.after
    rw [hafter, hrear, behindComment]
    by_cases ht : lastTrailing b.entries = []
    · simp [ht, LosesBlanks]
    · rw [if_neg ht]
      simp only [LosesBlanks, ne_eq, ht, not_false_eq_true, hset, hblank, true_and, not_not]
      constructor
      · intro heq
        rw [heq] at hsplit
        exact List.append_left_eq_self.1 hsplit
      · intro heq
        rwa [heq, List.nil_append] at hsplit
  · obtain ⟨w, hw, hbehind⟩ := behindComment_newline hb.newline (lastTrailing b.entries)
      (b.newline ++ y)
    have hvisible : allBlank (w ++ (b.newline ++ y)) = false := by
      rw [← Bool.not_eq_true, allBlank_append, allBlank_append, hy]
      simp
    have hafter : (b.reread before entries).renderAfter = b.rear := by
      rw [renderAfter, reread, hrear]
      simp [hbehind, hvisible, dropBlankLines_newline hw.blank hb.newline hnl]
    refine iff_of_true hafter ?_
    rintro ⟨-, hset, hblank, -⟩
    rw [rear, hset, renderAfter, if_pos hblank] at hrear
    simp only [List.map_nil, List.flatten_nil, List.nil_append] at hrear
    rw [hrear, allBlank_append, allBlank_append, hy] at hblank
    simp at hblank

end Block
end ImportOrder
