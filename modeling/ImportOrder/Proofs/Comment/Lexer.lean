import ImportOrder.Proofs.Layout
import ImportOrder.Proofs.Statement.Names

/-!
# ImportOrder.Proofs.Comment.Lexer

A lexer that knows comments only: from a `//` to the end of the line, and from a `/*` to the next
`*/`. `read` gives its state behind a text. The comment lines that belong to a statement, which are
told line by line, are whole comments for it: read from outside every comment they end outside
(`read_attached`).
-/

namespace ImportOrder
namespace Comment

open Text Statement

/-- Where the lexer is: in code, there behind a slash, in a line comment, in a block comment, there
behind a star. -/
inductive Mode where
  | code
  | slash
  | line
  | block
  | star
  deriving Repr, DecidableEq

namespace Mode

/-- Outside every comment. A slash by itself is code. -/
def isOutside : Mode → Bool
  | code | slash => true
  | line | block | star => false

def inBlock : Mode → Bool
  | block | star => true
  | code | slash | line => false

end Mode

def step : Mode → Char → Mode
  | .code, c => if c = '/' then .slash else .code
  | .slash, c => if c = '/' then .line else if c = '*' then .block else .code
  | .line, c => if c = '\n' then .code else .line
  | .block, c => if c = '*' then .star else .block
  | .star, c => if c = '/' then .code else if c = '*' then .star else .block

def read (m : Mode) (s : List Char) : Mode :=
  s.foldl step m

theorem read_append (m : Mode) (s t : List Char) : read m (s ++ t) = read (read m s) t :=
  List.foldl_append

theorem read_cons (m : Mode) (c : Char) (s : List Char) : read m (c :: s) = read (step m c) s := rfl

/-! ## Texts that leave the lexer where it is -/

theorem read_code_of_not_mem {s : List Char} (h : '/' ∉ s) : read .code s = .code := by
  induction s with
  | nil => rfl
  | cons c s ih =>
    have hc : c ≠ '/' := fun heq => h (by rw [heq]; exact List.mem_cons_self)
    have hstep : step .code c = .code := if_neg hc
    rw [read_cons, hstep, ih fun hm => h (List.mem_cons_of_mem c hm)]

theorem read_line_of_not_mem {s : List Char} (h : '\n' ∉ s) : read .line s = .line := by
  induction s with
  | nil => rfl
  | cons c s ih =>
    have hc : c ≠ '\n' := fun heq => h (by rw [heq]; exact List.mem_cons_self)
    have hstep : step .line c = .line := if_neg hc
    rw [read_cons, hstep, ih fun hm => h (List.mem_cons_of_mem c hm)]

theorem slash_not_mem_of_blank {s : List Char} (h : allBlank s = true) : '/' ∉ s := by
  intro hm
  exact absurd (List.all_eq_true.1 h _ hm) (by decide)

theorem read_code_blank {s : List Char} (h : allBlank s = true) : read .code s = .code :=
  read_code_of_not_mem (slash_not_mem_of_blank h)

theorem read_block_blank {s : List Char} (h : allBlank s = true) : read .block s = .block := by
  induction s with
  | nil => rfl
  | cons c s ih =>
    rw [allBlank, List.all_cons, Bool.and_eq_true] at h
    have hc : c ≠ '*' := by
      rintro rfl
      exact absurd h.1 (by decide)
    have hstep : step .block c = .block := if_neg hc
    rw [read_cons, hstep, ih h.2]

theorem step_newline (m : Mode) : step m '\n' = if m.inBlock then .block else .code := by
  cases m <;> rfl

theorem read_newline {n : List Char} (hn : Block.IsNewline n) (m : Mode) :
    read m n = if m.inBlock then .block else .code := by
  rcases hn with rfl | rfl <;> cases m <;> rfl

theorem read_endsLine {s : List Char} (hs : EndsLine s) :
    read .code s = if (read .code s).inBlock then .block else .code := by
  rcases hs with rfl | ⟨t, rfl⟩
  · rfl
  · have hstep : read .code (t ++ ['\n']) = step (read .code t) '\n' := read_append _ _ _
    rw [hstep, step_newline]
    split <;> rfl

/-! ## Texts without markers -/

theorem head?_ne_of_free {x y : Char} {s : List Char} (h : Free id [x, y] (x :: s)) :
    s.head? ≠ some y := by
  intro hhead
  cases s with
  | nil => cases hhead
  | cons d s =>
    cases hhead
    exact h ⟨[x, y], ⟨[], s, rfl⟩, rfl⟩

/-- Only a `*/` ends a block comment. -/
theorem inBlock_read {m : Mode} {s : List Char} (hm : m.inBlock = true)
    (hstar : m = .star → s.head? ≠ some '/') (h : Free id ['*', '/'] s) :
    (read m s).inBlock = true := by
  induction s generalizing m with
  | nil => exact hm
  | cons c s ih =>
    have hfree : Free id ['*', '/'] s := h.of_isInfix (List.suffix_cons c s).isInfix
    have hnext : c = '*' → s.head? ≠ some '/' := by
      rintro rfl
      exact head?_ne_of_free h
    rw [read_cons]
    cases m with
    | code => cases hm
    | slash => cases hm
    | line => cases hm
    | block =>
      by_cases hc : c = '*'
      · have hstep : step .block c = .star := if_pos hc
        rw [hstep]
        exact ih rfl (fun _ => hnext hc) hfree
      · have hstep : step .block c = .block := if_neg hc
        rw [hstep]
        exact ih rfl (fun heq => by cases heq) hfree
    | star =>
      have hslash : c ≠ '/' := by
        rintro rfl
        exact hstar rfl rfl
      by_cases hc : c = '*'
      · have hstep : step .star c = .star := by rw [step, if_neg hslash, if_pos hc]
        rw [hstep]
        exact ih rfl (fun _ => hnext hc) hfree
      · have hstep : step .star c = .block := by rw [step, if_neg hslash, if_neg hc]
        rw [hstep]
        exact ih rfl (fun heq => by cases heq) hfree

/-- Only a `//` or a `/*` begins a comment. -/
theorem isOutside_read {m : Mode} {s : List Char} (hm : m.isOutside = true)
    (hslash : m = .slash → s.head? ≠ some '/' ∧ s.head? ≠ some '*')
    (hline : Free id ['/', '/'] s) (hblock : Free id ['/', '*'] s) :
    (read m s).isOutside = true := by
  induction s generalizing m with
  | nil => exact hm
  | cons c s ih =>
    have hline' : Free id ['/', '/'] s := hline.of_isInfix (List.suffix_cons c s).isInfix
    have hblock' : Free id ['/', '*'] s := hblock.of_isInfix (List.suffix_cons c s).isInfix
    rw [read_cons]
    cases m with
    | line => cases hm
    | block => cases hm
    | star => cases hm
    | code =>
      by_cases hc : c = '/'
      · subst hc
        have hstep : step .code '/' = .slash := rfl
        rw [hstep]
        exact ih rfl (fun _ => ⟨head?_ne_of_free hline, head?_ne_of_free hblock⟩) hline' hblock'
      · have hstep : step .code c = .code := if_neg hc
        rw [hstep]
        exact ih rfl (fun heq => by cases heq) hline' hblock'
    | slash =>
      obtain ⟨hne, hne'⟩ := hslash rfl
      have hc : c ≠ '/' := by
        rintro rfl
        exact hne rfl
      have hc' : c ≠ '*' := by
        rintro rfl
        exact hne' rfl
      have hstep : step .slash c = .code := by rw [step, if_neg hc, if_neg hc']
      rw [hstep]
      exact ih rfl (fun heq => by cases heq) hline' hblock'

theorem read_closed {s : List Char} (h : Free id ['*', '/'] s) :
    read .block (s ++ ['*', '/']) = .code := by
  have hin := inBlock_read (m := .block) rfl (fun heq => by cases heq) h
  rw [read_append]
  cases hmode : read .block s with
  | block => rfl
  | star => rfl
  | code => rw [hmode] at hin; cases hin
  | slash => rw [hmode] at hin; cases hin
  | line => rw [hmode] at hin; cases hin

theorem free_closer {s : List Char} (h : hasCloser s = false) : Free id ['*', '/'] s :=
  occursIn_eq_false_iff.1 h

/-! ## Lines -/

theorem exists_of_isClosedBlock {t : List Char} (h : isClosedBlock t = true) :
    ∃ body, t = ['/', '*'] ++ (body ++ ['*', '/']) ∧ hasCloser body = false := by
  rw [isClosedBlock] at h
  simp only [Bool.and_eq_true, Bool.not_eq_true', decide_eq_true_eq] at h
  obtain ⟨⟨⟨hopens, hcloses⟩, hlen⟩, hbody⟩ := h
  obtain ⟨rest, rfl⟩ := List.isPrefixOf_iff_prefix.1 hopens
  obtain ⟨front, hfront⟩ := List.isSuffixOf_iff_suffix.1 hcloses
  refine ⟨_, ?_, hbody⟩
  have hend : (['/', '*'] ++ rest).drop ((['/', '*'] ++ rest).length - 2) = ['*', '/'] := by
    conv_lhs => rw [← hfront]
    simp
  have htail : rest.drop ((['/', '*'] ++ rest).length - 4) = ['*', '/'] := by
    have hshift : (['/', '*'] ++ rest).length - 2 = 2 + ((['/', '*'] ++ rest).length - 4) := by omega
    rw [hshift, ← List.drop_drop] at hend
    exact hend
  have hdrop : (['/', '*'] ++ rest).drop 2 = rest := rfl
  rw [hdrop, ← htail, List.take_append_drop]

/-- The trim of a line takes no marker away. -/
theorem hasCloser_of_trim {l : List Char} (h : hasCloser (trim l) = false) : hasCloser l = false := by
  obtain ⟨a, b, ha, hb, heq⟩ := exists_trim_append l
  have hapart : ∀ {x : List Char}, allBlank x = true → ∀ c ∈ x, Apart id ['*', '/'] c := by
    intro x hx c hc hmem
    have hblank := List.all_eq_true.1 hx c hc
    simp only [id_eq, List.map_cons, List.map_nil, List.mem_cons, List.not_mem_nil, or_false] at hmem
    rcases hmem with rfl | rfl <;> exact absurd hblank (by decide)
  have hfree : Free id ['*', '/'] (a ++ (trim l ++ b)) := by
    refine (free_of_apart (by simp) (hapart ha)).append ?_
      (joins_of_last fun c hc => hapart ha c (List.mem_of_getLast? hc))
    refine (free_closer h).append (free_of_apart (by simp) (hapart hb)) ?_
    refine joins_of_head fun c hc => hapart hb c ?_
    exact List.mem_of_mem_head? hc
  rw [← heq] at hfree
  exact occursIn_eq_false_iff.2 hfree

section Lines

variable {indent newline : List Char} (hindent : ∀ c ∈ indent, isIndent c = true)
  (hnewline : Block.IsNewline newline)

/-- A comment line with the indentation and the newline that it is put between. -/
def fullLine (indent newline line : List Char) : List Char :=
  indent ++ line ++ newline

include hindent

theorem fullLine_trim (newline l : List Char) :
    ∃ a b, allBlank a = true ∧ allBlank b = true ∧ trim l ++ b <:+ l ∧
      fullLine indent newline l = a ++ (trim l ++ (b ++ newline)) := by
  obtain ⟨a, b, ha, hb, heq⟩ := exists_trim_append l
  refine ⟨indent ++ a, b, allBlank_append.2 ⟨allBlank_of_isIndent hindent, ha⟩, hb, ⟨a, heq.symm⟩, ?_⟩
  conv_lhs => rw [fullLine, heq]
  simp

include hnewline

theorem read_whole {l : List Char} (hl : '\n' ∉ l) (h : isWholeComment (trim l) = true) :
    read .code (fullLine indent newline l) = .code := by
  obtain ⟨a, b, ha, hb, hin, hline⟩ := fullLine_trim hindent newline l
  rw [hline, read_append, read_code_blank ha]
  rw [isWholeComment, Bool.or_eq_true] at h
  rcases h with h | h
  · obtain ⟨body, hbody⟩ := List.isPrefixOf_iff_prefix.1 h
    have hnot : '\n' ∉ body ++ b := by
      intro hm
      refine hl (hin.subset ?_)
      rw [← hbody, List.append_assoc]
      exact List.mem_append_right _ hm
    have hopen : read .code (trim l ++ (b ++ newline)) = read .line ((body ++ b) ++ newline) := by
      rw [← hbody]
      simp [read, step]
    rw [hopen, read_append, read_line_of_not_mem hnot, read_newline hnewline]
    rfl
  · obtain ⟨body, hsplit, hbody⟩ := exists_of_isClosedBlock h
    have hopen : read .code ['/', '*'] = .block := rfl
    rw [hsplit, List.append_assoc, read_append, hopen, read_append, read_closed (free_closer hbody),
      read_append, read_code_blank hb, read_newline hnewline]
    rfl

theorem read_inside {l : List Char} (h : hasCloser l = false) :
    read .block (fullLine indent newline l) = .block := by
  rw [fullLine, read_append, read_append, read_block_blank (allBlank_of_isIndent hindent),
    read_newline hnewline, inBlock_read rfl (fun heq => by cases heq) (free_closer h)]
  rfl

theorem read_inside_lines {ls : List (List Char)} (h : ∀ l ∈ ls, hasCloser l = false) :
    read .block (ls.map (fullLine indent newline)).flatten = .block := by
  induction ls with
  | nil => rfl
  | cons l ls ih =>
    rw [List.map_cons, List.flatten_cons, read_append,
      read_inside hindent hnewline (h l List.mem_cons_self)]
    exact ih fun x hx => h x (List.mem_cons_of_mem l hx)

theorem read_opening {l : List Char} (hopens : opensBlock (trim l) = true)
    (h : hasCloser (trim l) = false) : read .code (fullLine indent newline l) = .block := by
  obtain ⟨a, b, ha, -, hin, hline⟩ := fullLine_trim hindent newline l
  obtain ⟨body, hbody⟩ := List.isPrefixOf_iff_prefix.1 hopens
  have hfree : Free id ['*', '/'] (body ++ b) := by
    refine ((free_closer (hasCloser_of_trim h)).of_isInfix hin.isInfix).of_isInfix ?_
    rw [← hbody, List.append_assoc]
    exact (List.suffix_append _ _).isInfix
  have hopen : read .code (trim l ++ (b ++ newline)) = read .block ((body ++ b) ++ newline) := by
    rw [← hbody]
    simp [read, step]
  rw [hline, read_append, read_code_blank ha, hopen, read_append, read_newline hnewline,
    inBlock_read rfl (fun heq => by cases heq) hfree]
  rfl

theorem read_closing {l : List Char} (h : closesBlock (trim l) = true) :
    read .block (fullLine indent newline l) = .code := by
  obtain ⟨a, b, ha, hb, -, hline⟩ := fullLine_trim hindent newline l
  rw [closesBlock] at h
  simp only [Bool.and_eq_true, Bool.not_eq_true'] at h
  obtain ⟨⟨hcloses, -⟩, honly⟩ := h
  obtain ⟨front, hfront⟩ := List.isSuffixOf_iff_suffix.1 hcloses
  have hfree : Free id ['*', '/'] front := by
    have hlast : (trim l).dropLast = front ++ ['*'] := by
      rw [← hfront, List.dropLast_append_of_ne_nil (by simp)]
      rfl
    rw [hlast] at honly
    exact (free_closer honly).of_isInfix (List.prefix_append front ['*']).isInfix
  rw [hline, ← hfront, read_append, read_block_blank ha, read_append, read_closed hfree, read_append,
    read_code_blank hb, read_newline hnewline]
  rfl

/-- From the line that opens a block up to the line before the one that closes it. -/
theorem read_reaches {body : List (List Char)} {opener : List Char} (h : Reaches body opener) :
    read .code ((opener :: body.reverse).map (fullLine indent newline)).flatten = .block := by
  rw [List.map_cons, List.flatten_cons, read_append,
    read_opening hindent hnewline h.opens (h.noCloser opener List.mem_cons_self)]
  exact read_inside_lines hindent hnewline fun l hl =>
    hasCloser_of_trim (h.noCloser l (List.mem_cons_of_mem opener (List.mem_reverse.1 hl)))

/-- A run of comment lines, given nearest first, is whole comments. -/
theorem read_run {ls : List (List Char)} (hls : ∀ l ∈ ls, '\n' ∉ l) (h : runAbove ls = ls.length) :
    read .code (ls.reverse.map (fullLine indent newline)).flatten = .code := by
  replace h := isRun_iff.2 h
  induction h with
  | nil => rfl
  | @whole l above hwhole _ ih =>
    rw [List.reverse_cons, List.map_append, List.flatten_append, read_append,
      ih fun x hx => hls x (List.mem_cons_of_mem l hx)]
    simpa using read_whole hindent hnewline (hls l List.mem_cons_self) hwhole
  | @block closer opener body above _ hcloses hreaches _ ih =>
    have habove : ∀ l ∈ above, '\n' ∉ l := fun l hl => hls l (by simp [hl])
    rw [reverse_block, ← List.cons_append, List.map_append, List.map_append, List.flatten_append,
      List.flatten_append, read_append, read_append, ih habove,
      read_reaches hindent hnewline hreaches]
    simpa using read_closing hindent hnewline hcloses

/-- The comment lines that belong to a statement are whole comments. -/
theorem read_attached {ls : List (List Char)} (hls : ∀ l ∈ ls, '\n' ∉ l)
    (h : attachedLines ls = ls.length) :
    read .code (ls.map (fullLine indent newline)).flatten = .code := by
  rw [attachedLines, ← List.length_reverse] at h
  have hrun := read_run hindent hnewline (fun l hl => hls l (List.mem_reverse.1 hl)) h
  rwa [List.reverse_reverse] at hrun

end Lines

end Comment
end ImportOrder
