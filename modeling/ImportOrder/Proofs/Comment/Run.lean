import ImportOrder.Proofs.Comment.Lexer

/-!
# ImportOrder.Proofs.Comment.Run

Where a run of comment lines begins. The run is found by its lines alone, walking up from a
statement, while a block comment is opened and closed walking down. So a run can begin inside a
block comment that was opened above it, and cut that comment in two.

It does so only where a line of the run looks like the head of a comment of its own while it stands
in a block comment (`HeadsOutside`). If all heads stand outside, the run begins outside, and else
not: `outside_above_iff`.
-/

namespace ImportOrder
namespace Comment

open Text

/-! ## Whole lines -/

/-- The state of the lexer behind some lines, each with a newline at its end. -/
def readLines (m : Mode) (ls : List (List Char)) : Mode :=
  read m (ls.map (fullLine [] ['\n'])).flatten

theorem readLines_cons (m : Mode) (l : List Char) (ls : List (List Char)) :
    readLines m (l :: ls) = readLines (read m (fullLine [] ['\n'] l)) ls := by
  rw [readLines, List.map_cons, List.flatten_cons, read_append, readLines]

theorem readLines_append (m : Mode) (ls more : List (List Char)) :
    readLines m (ls ++ more) = readLines (readLines m ls) more := by
  rw [readLines, readLines, readLines, List.map_append, List.flatten_append, read_append]

theorem readLines_cases (ls : List (List Char)) :
    readLines .code ls = .code ∨ readLines .code ls = .block := by
  have hends : EndsLine (ls.map (fullLine [] ['\n'])).flatten := by
    induction ls with
    | nil => exact .inl rfl
    | cons l ls ih => exact (endsLine_newline l).append ih
  rw [readLines, read_endsLine hends]
  split
  · exact .inr rfl
  · exact .inl rfl

/-! ## Heads of comments -/

/-- The line looks like the head of a comment of its own: it starts with `/*`, or with a `//` that
would comment out a `*/` behind it. -/
def IsHead (line : List Char) : Prop :=
  opensBlock (trim line) = true ∨ isLineComment (trim line) = true ∧ hasCloser (trim line) = true

/-- No head stands inside a block comment when the lines are read from `m` on. -/
def HeadsOutside (m : Mode) : List (List Char) → Prop
  | [] => True
  | l :: ls => (IsHead l → m.inBlock = false) ∧ HeadsOutside (read m (fullLine [] ['\n'] l)) ls

theorem headsOutside_append {m : Mode} {ls more : List (List Char)} :
    HeadsOutside m (ls ++ more) ↔ HeadsOutside m ls ∧ HeadsOutside (readLines m ls) more := by
  induction ls generalizing m with
  | nil => simp [HeadsOutside, readLines, read]
  | cons l ls ih => rw [List.cons_append, HeadsOutside, HeadsOutside, ih, readLines_cons, and_assoc]

theorem headsOutside_of_not {ls : List (List Char)} (h : ∀ l ∈ ls, ¬IsHead l) (m : Mode) :
    HeadsOutside m ls := by
  induction ls generalizing m with
  | nil => trivial
  | cons l ls ih =>
    exact ⟨fun hl => absurd hl (h l List.mem_cons_self),
      ih (fun x hx => h x (List.mem_cons_of_mem l hx)) _⟩

theorem not_isHead_of_closesBlock {line : List Char} (h : closesBlock (trim line) = true)
    (hwhole : ¬isWholeComment (trim line) = true) : ¬IsHead line := by
  rw [closesBlock] at h
  simp only [Bool.and_eq_true, Bool.not_eq_true'] at h
  rw [isWholeComment, Bool.or_eq_true, not_or] at hwhole
  rintro (hopens | ⟨hline, -⟩)
  · have hopener : Free id ['/', '*'] (trim line) := Statement.occursIn_eq_false_iff.1 h.1.2
    exact free_id_iff.1 hopener (List.isPrefixOf_iff_prefix.1 hopens).isInfix
  · exact hwhole.1 hline

/-- Of the lines of a block, only the one that opens it looks like a head. -/
theorem Reaches.not_isHead {body : List (List Char)} {opener l : List Char}
    (h : Reaches body opener) (hl : l ∈ body) : ¬IsHead l := by
  rintro (hopens | ⟨-, hcloser⟩)
  · rw [h.others l hl] at hopens
    cases hopens
  · rw [h.noCloser l (List.mem_cons_of_mem opener hl)] at hcloser
    cases hcloser

/-! ## Runs read from outside and from inside -/

theorem readLines_run {ls : List (List Char)} (hls : ∀ l ∈ ls, '\n' ∉ l)
    (h : runAbove ls = ls.length) : readLines .code ls.reverse = .code :=
  read_run (by simp) (.inl rfl) hls h

/-- Read from outside every comment, the heads of a run stand outside. -/
theorem headsOutside_run {ls : List (List Char)} (hls : ∀ l ∈ ls, '\n' ∉ l)
    (h : runAbove ls = ls.length) : HeadsOutside .code ls.reverse := by
  replace h := isRun_iff.2 h
  induction h with
  | nil => trivial
  | @whole l above hwhole habove ih =>
    have hls' : ∀ x ∈ above, '\n' ∉ x := fun x hx => hls x (List.mem_cons_of_mem l hx)
    rw [List.reverse_cons, headsOutside_append, readLines_run hls' (isRun_iff.1 habove)]
    exact ⟨ih hls', fun _ => rfl, trivial⟩
  | @block closer opener body above hwhole hcloses hreaches habove ih =>
    have hls' : ∀ x ∈ above, '\n' ∉ x := fun x hx => hls x (by simp [hx])
    rw [reverse_block, headsOutside_append, readLines_run hls' (isRun_iff.1 habove)]
    refine ⟨ih hls', fun _ => rfl, headsOutside_of_not ?_ _⟩
    intro x hx
    rcases List.mem_append.1 hx with hx | hx
    · exact hreaches.not_isHead (List.mem_reverse.1 hx)
    · rw [List.mem_singleton.1 hx]
      exact not_isHead_of_closesBlock hcloses (Bool.eq_false_iff.1 hwhole)

/-- A run whose heads are not inside the block comment that it is read from does not end it. -/
theorem readLines_run_block {ls : List (List Char)} (h : runAbove ls = ls.length)
    (hheads : HeadsOutside .block ls.reverse) : readLines .block ls.reverse = .block := by
  replace h := isRun_iff.2 h
  induction h with
  | nil => rfl
  | @whole l above hwhole _ ih =>
    rw [List.reverse_cons, headsOutside_append] at hheads
    have habove := ih hheads.1
    rw [habove] at hheads
    have hhead : ¬IsHead l := fun hl => Bool.noConfusion (hheads.2.1 hl)
    -- a line of the run that is no head is a line comment without a `*/`
    have hcloser : hasCloser (trim l) = false := by
      rw [isWholeComment, Bool.or_eq_true] at hwhole
      rcases hwhole with hline | hclosed
      · exact Bool.eq_false_iff.2 fun hclose => hhead (.inr ⟨hline, hclose⟩)
      · simp only [isClosedBlock, Bool.and_eq_true] at hclosed
        exact absurd (.inl hclosed.1.1.1) hhead
    rw [List.reverse_cons, readLines_append, habove, readLines_cons,
      read_inside (by simp) (.inl rfl) (hasCloser_of_trim hcloser)]
    rfl
  | block _ _ hreaches _ ih =>
    -- the opener of a block is a head, and it would stand inside
    rw [reverse_block, headsOutside_append] at hheads
    have houtside := hheads.2.1 (.inl hreaches.opens)
    rw [ih hheads.1] at houtside
    cases houtside

/-! ## The lines above a run -/

/-- The lines above the run of comment lines. -/
def linesAbove (ls : List (List Char)) : List (List Char) :=
  ls.take (ls.length - attachedLines ls)

/-- The run of comment lines at the end of some lines. -/
def attachedRun (ls : List (List Char)) : List (List Char) :=
  ls.drop (ls.length - attachedLines ls)

theorem linesAbove_append_attachedRun (ls : List (List Char)) :
    linesAbove ls ++ attachedRun ls = ls :=
  List.take_append_drop _ ls

theorem runAbove_attachedRun (ls : List (List Char)) :
    runAbove (attachedRun ls).reverse = (attachedRun ls).reverse.length := by
  have hle := runAbove_le ls.reverse
  have htake : (attachedRun ls).reverse = ls.reverse.take (runAbove ls.reverse) := by
    rw [attachedRun, attachedLines, List.reverse_drop]
    rw [List.length_reverse] at hle
    rw [Nat.sub_sub_self hle]
  rw [htake, runAbove_take, List.length_take, Nat.min_eq_left hle]

/-- Of lines that end outside block comments, those above the run of comment lines end outside block
comments just if no head in the run stands inside one. The run by itself is whole comments. -/
theorem outside_above_iff {ls : List (List Char)} (hls : ∀ l ∈ ls, '\n' ∉ l)
    (hend : (readLines .code ls).inBlock = false) :
    ((readLines .code (linesAbove ls)).inBlock = false ↔
      HeadsOutside (readLines .code (linesAbove ls)) (attachedRun ls)) ∧
    readLines .code (attachedRun ls) = .code := by
  have hrun := runAbove_attachedRun ls
  have hmem : ∀ l ∈ (attachedRun ls).reverse, '\n' ∉ l := fun l hl =>
    hls l (List.mem_of_mem_drop (List.mem_reverse.1 hl))
  have hheads := headsOutside_run hmem hrun
  have hwhole := readLines_run hmem hrun
  rw [List.reverse_reverse] at hheads hwhole
  refine ⟨?_, hwhole⟩
  rcases readLines_cases (linesAbove ls) with hcode | hblock
  · rw [hcode]
    exact iff_of_true rfl hheads
  · rw [hblock]
    refine iff_of_false Bool.noConfusion fun hinside => ?_
    have hinside' : HeadsOutside .block (attachedRun ls).reverse.reverse := by
      rwa [List.reverse_reverse]
    have hstay := readLines_run_block hrun hinside'
    rw [List.reverse_reverse, ← hblock, ← readLines_append, linesAbove_append_attachedRun] at hstay
    rw [hstay, hblock] at hend
    cases hend

/-- A `//` in a block comment, of the run or above it, is no head as long as no `*/` follows it. -/
theorem outside_above_iff_nested :
    ∃ ls, linesAbove ls = ["/*".toList, "// a".toList, "*/".toList, "f();".toList] ∧
      attachedRun ls = ["/*".toList, "// b".toList, "*/".toList] ∧
      (∀ l ∈ ls, '\n' ∉ l) ∧ (readLines .code ls).inBlock = false ∧
      ((readLines .code (linesAbove ls)).inBlock = false ↔
        HeadsOutside (readLines .code (linesAbove ls)) (attachedRun ls)) ∧
      readLines .code (attachedRun ls) = .code :=
  ⟨["/*".toList, "// a".toList, "*/".toList, "f();".toList, "/*".toList, "// b".toList, "*/".toList],
    by decide +kernel, by decide +kernel, by decide, by decide,
    outside_above_iff (by decide) (by decide)⟩

/-- The last line of a block comment is taken for a line comment, and the comment is cut in two. -/
theorem run_cuts_comment :
    (readLines .code ["/*".toList, "// a */".toList]).inBlock = false ∧
      attachedRun ["/*".toList, "// a */".toList] = ["// a */".toList] ∧
      (readLines .code (linesAbove ["/*".toList, "// a */".toList])).inBlock = true := by
  decide +kernel

end Comment
end ImportOrder
