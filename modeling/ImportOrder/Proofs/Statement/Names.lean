import ImportOrder.Proofs.Sorting.Insertion
import ImportOrder.Proofs.Sorting.Natural
import ImportOrder.Proofs.Statement.Grammar
import ImportOrder.Proofs.Text.Search
import ImportOrder.Statement.Names

/-!
# ImportOrder.Proofs.Statement.Names

Sorting the names of a statement. What stands before and behind the block in braces stays, and the
block is written anew from its own entries (`sortNames_eq`).

* `free_sortNames`: no word comes about by that, blanks, commas and braces apart.
* `sortNames_sortNames`: names once sorted stay as they are.
-/

namespace ImportOrder
namespace Statement

open Text Sorting

/-! ## Cutting at a character -/

theorem splitBraces?_eq_some {s before block after : List Char}
    (h : splitBraces? s = some (before, block, after)) :
    s = before ++ '\x7b' :: (block ++ '\x7d' :: after) ∧ '\x7b' ∉ before ∧ '\x7d' ∉ block := by
  simp only [splitBraces?, Option.bind_eq_bind, Option.bind_eq_some_iff, Option.pure_def] at h
  obtain ⟨⟨b, rest⟩, hopen, ⟨k, a⟩, hclose, heq⟩ := h
  cases heq
  have hrest : rest = k ++ '\x7d' :: a := splitAtChar?_eq_some hclose
  refine ⟨?_, not_mem_of_splitAtChar? hopen, not_mem_of_splitAtChar? hclose⟩
  rw [splitAtChar?_eq_some hopen, hrest]

theorem splitBraces?_append {before block : List Char} (hbefore : '\x7b' ∉ before)
    (hblock : '\x7d' ∉ block) (after : List Char) :
    splitBraces? (before ++ '\x7b' :: (block ++ '\x7d' :: after)) = some (before, block, after) := by
  simp [splitBraces?, splitAtChar?_append hbefore, splitAtChar?_append hblock]

theorem append_cons_eq_append {x : Char} {a s b t : List Char} (hb : x ∉ b)
    (h : a ++ x :: s = b ++ t) : ∃ c, a = b ++ c ∧ t = c ++ x :: s := by
  rcases List.append_eq_append_iff.1 h with ⟨c, rfl, hc⟩ | ⟨c, rfl, hc⟩
  · cases c with
    | nil => exact ⟨[], by simp, by simpa using hc.symm⟩
    | cons y c =>
      rw [List.cons_append, List.cons.injEq] at hc
      exact absurd (by simp [hc.1]) hb
  · exact ⟨c, rfl, hc⟩

theorem append_cons_eq_append' {x : Char} {a s b t : List Char} (ht : x ∉ t)
    (h : a ++ x :: s = b ++ t) : ∃ c, b = a ++ x :: c ∧ s = c ++ t := by
  rw [← List.singleton_append, ← List.append_assoc] at h
  rcases List.append_eq_append_iff.1 h with ⟨c, hb, hs⟩ | ⟨c, hax, rfl⟩
  · exact ⟨c, by rw [hb, List.append_assoc, List.singleton_append], hs⟩
  · cases c using List.reverseRecOn with
    | nil => exact ⟨[], by simpa using hax.symm, rfl⟩
    | append_singleton c y =>
      rw [← List.append_assoc] at hax
      have hxy := (List.append_inj' hax rfl).2
      exact absurd (by simp [List.cons.inj hxy]) ht

theorem splitWhere_of_not {p : Char → Bool} {a : List Char} (ha : ∀ c ∈ a, p c = false) :
    splitWhere p a = [a] := by
  induction a with
  | nil => rfl
  | cons c a ih =>
    rw [splitWhere, if_neg (by simp [ha c List.mem_cons_self]),
      ih fun d hd => ha d (List.mem_cons_of_mem c hd)]

theorem splitWhere_append {p : Char → Bool} {a : List Char} (ha : ∀ c ∈ a, p c = false) {x : Char}
    (hx : p x = true) (s : List Char) :
    splitWhere p (a ++ x :: s) = a :: splitWhere p s := by
  induction a with
  | nil => rw [List.nil_append, splitWhere, if_pos hx]
  | cons c a ih =>
    rw [List.cons_append, splitWhere, if_neg (by simp [ha c List.mem_cons_self]),
      ih fun d hd => ha d (List.mem_cons_of_mem c hd)]

/-- Induction along the pieces of a text: the last one, or one in front of the character that ends
it. -/
@[elab_as_elim]
theorem splitInduction (p : Char → Bool) {motive : List Char → Prop}
    (last : ∀ a : List Char, (∀ c ∈ a, p c = false) → motive a)
    (cut : ∀ (a : List Char) (x : Char) (s : List Char), (∀ c ∈ a, p c = false) → p x = true →
      motive s → motive (a ++ x :: s)) (s : List Char) : motive s := by
  induction hn : s.length using Nat.strong_induction_on generalizing s with
  | _ n ih =>
    have hs : s.takeWhile (!p ·) ++ s.dropWhile (!p ·) = s := List.takeWhile_append_dropWhile
    have hfront : ∀ c ∈ s.takeWhile (!p ·), p c = false := by
      intro c hc
      simpa using List.mem_takeWhile_imp hc
    generalize s.takeWhile (!p ·) = front at hs hfront
    cases hrest : s.dropWhile (!p ·) with
    | nil =>
      rw [hrest, List.append_nil] at hs
      exact hs ▸ last front hfront
    | cons x rest =>
      have hx : p x = true := by
        have := List.head?_dropWhile_not (!p ·) s
        rw [hrest] at this
        simpa using this
      rw [hrest] at hs
      subst hs
      exact cut front x rest hfront hx (ih rest.length (by simp at hn; omega) rest rfl)

theorem mem_splitWhere {p : Char → Bool} {s piece : List Char} (h : piece ∈ splitWhere p s) :
    piece <:+: s ∧ ∀ c ∈ piece, p c = false := by
  induction s using splitInduction p with
  | last a ha =>
    rw [splitWhere_of_not ha, List.mem_singleton] at h
    subst h
    exact ⟨List.infix_refl _, ha⟩
  | cut a x s ha hx ih =>
    rw [splitWhere_append ha hx, List.mem_cons] at h
    rcases h with rfl | h
    · exact ⟨⟨[], x :: s, rfl⟩, ha⟩
    · obtain ⟨hin, hnot⟩ := ih h
      exact ⟨hin.trans ⟨a ++ [x], [], by simp⟩, hnot⟩

/-! ## The entries of a block -/

/-- An entry of a block: it holds something, no comma, and no blanks at its ends. -/
structure NameEntry (e : List Char) : Prop where
  nonempty : e ≠ []
  comma : ',' ∉ e
  trimmed : trim e = e

theorem trim_isInfix (s : List Char) : trim s <:+: s :=
  (trimEnd_isPrefix _).isInfix.trans (List.dropWhile_suffix _).isInfix

theorem trim_trim (s : List Char) : trim (trim s) = trim s := by
  have hstart : trimStart (trimStart s) = trimStart s := List.dropWhile_idempotent isBlank s
  have hend := trim_trimEnd (trimStart s)
  rw [← trim] at hend
  rw [hend, trim, hstart, ← trim]

theorem mem_entries {block e : List Char} (h : e ∈ entries block) :
    e <:+: block ∧ NameEntry e := by
  rw [entries, List.mem_filter] at h
  obtain ⟨hmem, hne⟩ := h
  obtain ⟨piece, hpiece, rfl⟩ := List.mem_map.1 hmem
  obtain ⟨hin, hnot⟩ := mem_splitWhere hpiece
  refine ⟨(trim_isInfix piece).trans hin, by simpa using hne, fun hm => ?_, trim_trim piece⟩
  have := hnot ',' ((trim_isInfix piece).subset hm)
  simp at this

/-- The block that sorting writes. -/
def joined (names : List (List Char)) : List Char :=
  ' ' :: ([',', ' '].intercalate names ++ [' '])

theorem joined_singleton (name : List Char) : joined [name] = ' ' :: (name ++ [' ']) := by
  rw [joined, List.intercalate_singleton]

theorem joined_cons_cons (name next : List Char) (names : List (List Char)) :
    joined (name :: next :: names) = ' ' :: name ++ ',' :: joined (next :: names) := by
  rw [joined, joined, List.intercalate_cons_cons]
  simp

theorem trim_spaced {name : List Char} (h : NameEntry name) {r : List Char}
    (hr : ∀ c ∈ r, isBlank c = true) : trim (' ' :: (name ++ r)) = name := by
  have hstart : trimStart (' ' :: (name ++ r)) = trimStart (name ++ r) := rfl
  have hvisible : allBlank name = false := by
    rw [← Bool.not_eq_true]
    intro hall
    refine h.nonempty ?_
    rw [← h.trimmed, trim, trimStart, List.dropWhile_eq_nil_iff.2 (List.all_eq_true.1 hall)]
    rfl
  rw [trim, hstart, trimStart_append_of_not_blank hvisible, trimEnd_append_of_blank hr]
  exact h.trimmed

/-- The pieces between the commas of the block that sorting writes are the entries that it is written
from, blanks at their ends apart. -/
theorem pieces_joined {names : List (List Char)} (h : ∀ e ∈ names, NameEntry e)
    (hne : names ≠ []) : (splitWhere (· == ',') (joined names)).map trim = names := by
  induction names with
  | nil => exact absurd rfl hne
  | cons name names ih =>
    have hname := h name List.mem_cons_self
    have hcomma : ∀ c ∈ ' ' :: name, (c == ',') = false := by
      intro c hc
      rcases List.mem_cons.1 hc with rfl | hc
      · rfl
      · rw [beq_eq_false_iff_ne]
        rintro rfl
        exact hname.comma hc
    cases names with
    | nil =>
      have hall : ∀ c ∈ ' ' :: (name ++ [' ']), (c == ',') = false := by
        intro c hc
        rw [← List.cons_append, List.mem_append] at hc
        rcases hc with hc | hc
        · exact hcomma c hc
        · rw [List.mem_singleton.1 hc]
          rfl
      rw [joined_singleton, splitWhere_of_not hall, List.map_singleton,
        trim_spaced hname (by simp [show isBlank ' ' = true from rfl])]
    | cons next names =>
      have htrim := trim_spaced hname (r := []) (by simp)
      rw [List.append_nil] at htrim
      rw [joined_cons_cons, splitWhere_append hcomma (by rfl), List.map_cons, htrim,
        ih (fun e he => h e (List.mem_cons_of_mem _ he)) (by simp)]

theorem entries_joined {names : List (List Char)} (h : ∀ e ∈ names, NameEntry e)
    (hne : names ≠ []) : entries (joined names) = names := by
  rw [entries, pieces_joined h hne, List.filter_eq_self]
  intro e he
  simpa using (h e he).nonempty

/-- The entries of a block in the order of their names. -/
def sortedEntries (ignoreCase : Bool) (block : List Char) : List (List Char) :=
  sortBy (fun a b => natural ignoreCase (nameOf a) (nameOf b)) (entries block)

theorem mem_sortedEntries {ignoreCase : Bool} {block e : List Char}
    (h : e ∈ sortedEntries ignoreCase block) : e <:+: block ∧ NameEntry e :=
  mem_entries ((sortBy_perm _ _).mem_iff.1 h)

theorem sortedEntries_ne_nil {ignoreCase : Bool} {block : List Char} (h : entries block ≠ []) :
    sortedEntries ignoreCase block ≠ [] := by
  intro hnil
  have := sortBy_perm (fun a b => natural ignoreCase (nameOf a) (nameOf b)) (entries block)
  rw [← sortedEntries, hnil] at this
  exact h (List.nil_perm.1 this)

theorem sortNames_of_block {s before block after : List Char}
    (hsplit : splitBraces? s = some (before, block, after)) (hcomment : hasComment block = false)
    (hne : entries block ≠ []) (ignoreCase : Bool) :
    sortNames ignoreCase s = before ++ '\x7b' :: (joined (sortedEntries ignoreCase block) ++
      '\x7d' :: after) := by
  simp [sortNames, hsplit, hcomment, joined, sortedEntries]

/-- Sorting leaves a statement alone, or writes the block in its first braces anew. -/
theorem sortNames_eq (ignoreCase : Bool) (s : List Char) :
    sortNames ignoreCase s = s ∨
      ∃ before block after, splitBraces? s = some (before, block, after) ∧
        hasComment block = false ∧ entries block ≠ [] ∧
        sortNames ignoreCase s = before ++ '\x7b' :: (joined (sortedEntries ignoreCase block) ++
          '\x7d' :: after) := by
  cases hsplit : splitBraces? s with
  | none => exact .inl (by rw [sortNames, hsplit])
  | some parts =>
    obtain ⟨before, block, after⟩ := parts
    by_cases hcomment : hasComment block = true
    · exact .inl (by simp [sortNames, hsplit, hcomment])
    · rw [Bool.not_eq_true] at hcomment
      by_cases hne : entries block = []
      · exact .inl (by simp [sortNames, hsplit, hcomment, hne])
      · exact .inr ⟨before, block, after, rfl, hcomment, hne,
          sortNames_of_block hsplit hcomment hne ignoreCase⟩

/-! ## Words across a block -/

section Words

variable {fold : Char → Char} {word : List Char}

/-- A word without blanks and commas stands in no block that is written from entries without
it. -/
theorem free_joined (hspace : Apart fold word ' ') (hcomma : Apart fold word ',')
    {names : List (List Char)} (h : ∀ e ∈ names, Free fold word e) (hne : names ≠ []) :
    Free fold word (joined names) := by
  have hnil : Free fold word [] := by
    obtain ⟨e, names, rfl⟩ := List.exists_cons_of_ne_nil hne
    exact (h e List.mem_cons_self).of_isInfix List.nil_infix
  induction names with
  | nil => exact absurd rfl hne
  | cons name names ih =>
    have hname := h name List.mem_cons_self
    have hfront : Free fold word (' ' :: name) :=
      hnil.join (m := [' ']) (by simpa using hspace) (by simp) hname
    cases names with
    | nil =>
      rw [joined_singleton]
      have := hfront.join (m := [' ']) (by simpa using hspace) (by simp) hnil
      simpa using this
    | cons next names =>
      rw [joined_cons_cons]
      exact hfront.join (m := [',']) (by simpa using hcomma) (by simp)
        (ih (fun e he => h e (List.mem_cons_of_mem _ he)) (by simp))

/-- A word without blanks, commas and braces that is not in a text with a statement at its start is
not there with the statement's names sorted either. -/
theorem free_sortNames (hspace : Apart fold word ' ') (hcomma : Apart fold word ',')
    (hopen : Apart fold word '\x7b') (hclose : Apart fold word '\x7d') {s r : List Char}
    (h : Free fold word (s ++ r)) (ignoreCase : Bool) :
    Free fold word (sortNames ignoreCase s ++ r) := by
  rcases sortNames_eq ignoreCase s with heq | ⟨before, block, after, hsplit, -, hne, heq⟩
  · rwa [heq]
  · have hs := (splitBraces?_eq_some hsplit).1
    subst hs
    have hblock : Free fold word block :=
      h.of_isInfix ⟨before ++ ['\x7b'], '\x7d' :: after ++ r, by simp⟩
    have hjoined : Free fold word (joined (sortedEntries ignoreCase block)) :=
      free_joined hspace hcomma (fun e he => hblock.of_isInfix (mem_sortedEntries he).1)
        (sortedEntries_ne_nil hne)
    have hafter : Free fold word (after ++ r) :=
      h.of_isInfix ⟨before ++ '\x7b' :: (block ++ ['\x7d']), [], by simp⟩
    have hbefore : Free fold word before := h.of_isInfix ⟨[], _, by simp; rfl⟩
    have hback := hjoined.join (m := ['\x7d']) (by simpa using hclose) (by simp) hafter
    have hall := hbefore.join (m := ['\x7b']) (by simpa using hopen) (by simp) hback
    rw [heq]
    simpa using hall

end Words

/-! ## Sorting twice -/

theorem occursIn_eq_false_iff {word s : List Char} : occursIn word s = false ↔ Free id word s := by
  rw [free_id_iff, ← occursIn_iff, Bool.not_eq_true]

theorem hasComment_eq_false_iff {block : List Char} :
    hasComment block = false ↔ Free id ['/', '/'] block ∧ Free id ['/', '*'] block := by
  rw [hasComment, Bool.or_eq_false_iff, occursIn_eq_false_iff, occursIn_eq_false_iff]

theorem mem_joined {names : List (List Char)} {c : Char} (h : c ∈ joined names) :
    c = ' ' ∨ c = ',' ∨ ∃ e ∈ names, c ∈ e := by
  induction names with
  | nil =>
    have hnil : joined [] = [' ', ' '] := rfl
    rw [hnil] at h
    simp at h
    exact .inl h
  | cons name names ih =>
    cases names with
    | nil =>
      rw [joined_singleton] at h
      simp only [List.mem_cons, List.mem_append, List.not_mem_nil, or_false] at h
      rcases h with h | h | h
      · exact .inl h
      · exact .inr (.inr ⟨name, List.mem_cons_self, h⟩)
      · exact .inl h
    | cons next names =>
      rw [joined_cons_cons] at h
      simp only [List.cons_append, List.mem_cons, List.mem_append] at h
      rcases h with h | h | h | h
      · exact .inl h
      · exact .inr (.inr ⟨name, List.mem_cons_self, h⟩)
      · exact .inr (.inl h)
      · rcases ih h with h | h | ⟨e, he, hc⟩
        · exact .inl h
        · exact .inr (.inl h)
        · exact .inr (.inr ⟨e, List.mem_cons_of_mem _ he, hc⟩)

/-- The characters of a block written anew are blanks, commas and characters of the block. -/
theorem mem_joined_sortedEntries {ignoreCase : Bool} {block : List Char} {c : Char}
    (h : c ∈ joined (sortedEntries ignoreCase block)) : c = ' ' ∨ c = ',' ∨ c ∈ block := by
  rcases mem_joined h with h | h | ⟨e, he, hc⟩
  · exact .inl h
  · exact .inr (.inl h)
  · exact .inr (.inr ((mem_sortedEntries he).1.subset hc))

theorem closing_not_mem_joined {ignoreCase : Bool} {block : List Char} (h : '\x7d' ∉ block) :
    '\x7d' ∉ joined (sortedEntries ignoreCase block) := by
  intro hm
  rcases mem_joined_sortedEntries hm with hspace | hcomma | hblock
  · exact absurd hspace (by decide)
  · exact absurd hcomma (by decide)
  · exact h hblock

/-- Entries in order are found in that order, and stay in it. -/
theorem sortedEntries_joined {ignoreCase : Bool} {block : List Char} (h : entries block ≠ []) :
    sortedEntries ignoreCase (joined (sortedEntries ignoreCase block)) =
      sortedEntries ignoreCase block := by
  have hentries : entries (joined (sortedEntries ignoreCase block)) =
      sortedEntries ignoreCase block :=
    entries_joined (fun e he => (mem_sortedEntries he).2) (sortedEntries_ne_nil h)
  rw [sortedEntries, hentries]
  refine sortBy_eq_self (inOrder_sortBy (fun a b hlt => ?_) _)
  rw [natural_swap, hlt]
  decide

theorem sortNames_sortNames (ignoreCase : Bool) (s : List Char) :
    sortNames ignoreCase (sortNames ignoreCase s) = sortNames ignoreCase s := by
  rcases sortNames_eq ignoreCase s with heq | ⟨before, block, after, hsplit, hcomment, hne, heq⟩
  · rw [heq, heq]
  · obtain ⟨-, hbefore, hblock⟩ := splitBraces?_eq_some hsplit
    have hclosing : '\x7d' ∉ joined (sortedEntries ignoreCase block) := closing_not_mem_joined hblock
    have hagain := splitBraces?_append hbefore hclosing after
    have hcomment' : hasComment (joined (sortedEntries ignoreCase block)) = false := by
      rw [hasComment_eq_false_iff] at hcomment ⊢
      have hfree : ∀ {word : List Char}, Free id word block → Apart id word ' ' →
          Apart id word ',' → Free id word (joined (sortedEntries ignoreCase block)) :=
        fun hb hspace hcomma => free_joined hspace hcomma
          (fun e he => hb.of_isInfix (mem_sortedEntries he).1) (sortedEntries_ne_nil hne)
      constructor
      · exact hfree hcomment.1 (by unfold Apart; decide) (by unfold Apart; decide)
      · exact hfree hcomment.2 (by unfold Apart; decide) (by unfold Apart; decide)
    have hentries : entries (joined (sortedEntries ignoreCase block)) ≠ [] := by
      rw [entries_joined (fun e he => (mem_sortedEntries he).2) (sortedEntries_ne_nil hne)]
      exact sortedEntries_ne_nil hne
    rw [heq, sortNames_of_block hagain hcomment' hentries, sortedEntries_joined hne]

end Statement
end ImportOrder
