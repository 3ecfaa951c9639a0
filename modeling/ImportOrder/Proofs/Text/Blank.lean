import Mathlib.Data.List.DropRight
import Mathlib.Data.List.TakeWhile
import ImportOrder.Text.Blank

/-!
# ImportOrder.Proofs.Text.Blank

What the trims take away. `visible` is a text without its blanks; every trim keeps it, so a text
that is only cut and trimmed loses nothing that can be seen.

* `visible_trimEnd`, `visible_dropBlankLines`: trims drop blanks only.
* `dropBlankLines_eq`: what is left is an indentation and the text from its first content on.
-/

namespace ImportOrder
namespace Text

/-- The characters of a text that are not blank. -/
def visible (s : List Char) : List Char :=
  s.filter (!isBlank ·)

@[simp] theorem visible_nil : visible [] = [] := rfl

@[simp] theorem visible_append (s t : List Char) : visible (s ++ t) = visible s ++ visible t :=
  List.filter_append s t

theorem visible_flatten (ls : List (List Char)) : visible ls.flatten = (ls.map visible).flatten := by
  induction ls with
  | nil => rfl
  | cons l ls ih => rw [List.flatten_cons, visible_append, ih, List.map_cons, List.flatten_cons]

theorem visible_eq_nil {s : List Char} : visible s = [] ↔ ∀ c ∈ s, isBlank c = true := by
  simp [visible, List.filter_eq_nil_iff]

theorem isBlank_of_isIndent {c : Char} (h : isIndent c = true) : isBlank c = true := by
  simp only [isIndent, Bool.or_eq_true, beq_iff_eq] at h
  rcases h with rfl | rfl <;> rfl

theorem allBlank_of_isIndent {s : List Char} (h : ∀ c ∈ s, isIndent c = true) :
    allBlank s = true :=
  List.all_eq_true.2 fun c hc => isBlank_of_isIndent (h c hc)

/-- The code points of the blanks. -/
def blankCodes : List Nat :=
  [0x9, 0xA, 0xB, 0xC, 0xD, 0x20, 0x85, 0xA0, 0x1680, 0x2000, 0x2001, 0x2002, 0x2003, 0x2004,
   0x2005, 0x2006, 0x2007, 0x2008, 0x2009, 0x200A, 0x2028, 0x2029, 0x202F, 0x205F, 0x3000]

/-- What holds of the blanks one by one holds of every blank. -/
theorem forall_blank {P : Char → Prop} (h : ∀ n ∈ blankCodes, P (Char.ofNat n)) {c : Char}
    (hc : isBlank c = true) : P c := by
  have hmem : c.toNat ∈ blankCodes := by
    simp only [isBlank, Bool.or_eq_true, Bool.and_eq_true, decide_eq_true_eq, beq_iff_eq] at hc
    simp only [blankCodes, List.mem_cons, List.not_mem_nil, or_false]
    omega
  have := h _ hmem
  rwa [Char.ofNat_toNat] at this

theorem visible_dropWhile {p : Char → Bool} (hp : ∀ c, p c = true → isBlank c = true)
    (s : List Char) : visible (s.dropWhile p) = visible s := by
  have hs : visible (s.takeWhile p ++ s.dropWhile p) = visible s := by
    rw [List.takeWhile_append_dropWhile]
  have hfront : visible (s.takeWhile p) = [] :=
    visible_eq_nil.2 fun c hc => hp c (List.mem_takeWhile_imp hc)
  rw [visible_append, hfront, List.nil_append] at hs
  exact hs

theorem visible_reverse (s : List Char) : visible s.reverse = (visible s).reverse := by
  simp [visible]

theorem visible_dropEndWhile {p : Char → Bool} (hp : ∀ c, p c = true → isBlank c = true)
    (s : List Char) : visible (dropEndWhile p s) = visible s := by
  rw [dropEndWhile, visible_reverse, visible_dropWhile hp, visible_reverse, List.reverse_reverse]

@[simp] theorem visible_trimStart (s : List Char) : visible (trimStart s) = visible s :=
  visible_dropWhile (fun _ h => h) s

@[simp] theorem visible_trimEnd (s : List Char) : visible (trimEnd s) = visible s :=
  visible_dropEndWhile (fun _ h => h) s

theorem trimEnd_isPrefix (s : List Char) : trimEnd s <+: s := by
  have h := List.reverse_prefix.2 (List.dropWhile_suffix (l := s.reverse) isBlank)
  rwa [List.reverse_reverse] at h

theorem exists_dropEndWhile_append (p : Char → Bool) (s : List Char) :
    ∃ r, s = dropEndWhile p s ++ r ∧ ∀ c ∈ r, p c = true := by
  refine ⟨(s.reverse.takeWhile p).reverse, ?_, ?_⟩
  · rw [dropEndWhile, ← List.reverse_append, List.takeWhile_append_dropWhile,
      List.reverse_reverse]
  · intro c hc
    exact List.mem_takeWhile_imp (List.mem_reverse.1 hc)

theorem exists_trimEnd_append (s : List Char) :
    ∃ r, s = trimEnd s ++ r ∧ ∀ c ∈ r, isBlank c = true :=
  exists_dropEndWhile_append isBlank s

theorem dropEndWhile_append {p : Char → Bool} {r : List Char} (hr : ∀ c ∈ r, p c = true)
    (s : List Char) : dropEndWhile p (s ++ r) = dropEndWhile p s := by
  rw [dropEndWhile, dropEndWhile, List.reverse_append,
    List.dropWhile_append_of_pos fun c hc => hr c (List.mem_reverse.1 hc)]

theorem dropEndWhile_eq_self {p : Char → Bool} {s : List Char}
    (h : ∀ c, s.getLast? = some c → p c = false) : dropEndWhile p s = s := by
  cases hr : s.reverse with
  | nil => rw [dropEndWhile, hr, List.reverse_eq_nil_iff.1 hr]; rfl
  | cons c r =>
    have hc := h c (by rw [← List.head?_reverse, hr]; rfl)
    rw [dropEndWhile, hr, List.dropWhile_cons, if_neg (by simp [hc]), ← hr, List.reverse_reverse]

theorem trimEnd_append_of_blank {r : List Char} (hr : ∀ c ∈ r, isBlank c = true) (s : List Char) :
    trimEnd (s ++ r) = trimEnd s :=
  dropEndWhile_append hr s

/-- The text has a last character, and that is not blank. -/
def EndsVisible (s : List Char) : Prop :=
  ∃ t c, s = t ++ [c] ∧ isBlank c = false

theorem EndsVisible.prepend {s : List Char} (hs : EndsVisible s) (t : List Char) :
    EndsVisible (t ++ s) := by
  obtain ⟨u, c, rfl, hc⟩ := hs
  exact ⟨t ++ u, c, by rw [List.append_assoc], hc⟩

theorem EndsVisible.ne_nil {s : List Char} (hs : EndsVisible s) : s ≠ [] := by
  obtain ⟨u, c, rfl, -⟩ := hs
  simp

theorem EndsVisible.getLast?_ne {s : List Char} (hs : EndsVisible s) {c : Char}
    (hc : isBlank c = true) : s.getLast? ≠ some c := by
  obtain ⟨t, d, rfl, hd⟩ := hs
  rw [List.getLast?_concat]
  rintro ⟨⟩
  rw [hc] at hd
  cases hd

theorem trimEnd_eq_nil_or_endsVisible (s : List Char) : trimEnd s = [] ∨ EndsVisible (trimEnd s) := by
  cases h : s.reverse.dropWhile isBlank with
  | nil => exact .inl (by rw [trimEnd, dropEndWhile, h]; rfl)
  | cons c r =>
    have hc := List.head?_dropWhile_not isBlank s.reverse
    rw [h] at hc
    exact .inr ⟨r.reverse, c, by rw [trimEnd, dropEndWhile, h, List.reverse_cons],
      by simpa using hc⟩

/-- What a trim leaves, between the blanks that it takes away. -/
theorem exists_trim_append (s : List Char) :
    ∃ a b, allBlank a = true ∧ allBlank b = true ∧ s = a ++ (trim s ++ b) := by
  obtain ⟨b, hb, hblank⟩ := exists_trimEnd_append (trimStart s)
  refine ⟨s.takeWhile isBlank, b, ?_, List.all_eq_true.2 hblank, ?_⟩
  · exact List.all_eq_true.2 fun c hc => List.mem_takeWhile_imp hc
  · rw [trim, ← hb, takeWhile_append_trimStart]

/-- A text that ends with content keeps the trim at the end away from itself. -/
theorem trimEnd_append {s : List Char} (hs : EndsVisible s) (t : List Char) :
    trimEnd (s ++ t) = s ++ trimEnd t := by
  obtain ⟨u, c, rfl, hc⟩ := hs
  have hstop : (u ++ [c]).reverse.dropWhile isBlank = (u ++ [c]).reverse := by
    rw [List.reverse_append, List.reverse_singleton, List.singleton_append, List.dropWhile_cons,
      if_neg (by simp [hc])]
  rw [trimEnd, trimEnd, dropEndWhile, dropEndWhile, List.reverse_append, List.dropWhile_append,
    hstop]
  split
  · rename_i h
    rw [List.isEmpty_iff.1 h, List.reverse_reverse, List.reverse_nil, List.append_nil]
  · rw [List.reverse_append, List.reverse_reverse]

theorem afterLastNewline_suffix (s : List Char) : afterLastNewline s <:+ s := by
  have h := List.takeWhile_prefix (l := s.reverse) (· != '\n')
  have h' := List.reverse_suffix.2 h
  rwa [List.reverse_reverse] at h'

theorem newline_not_mem_afterLastNewline (s : List Char) : '\n' ∉ afterLastNewline s := by
  intro h
  have := List.mem_takeWhile_imp (List.mem_reverse.1 h)
  simp at this

/-- Dropping blank lines leaves an indentation and the text from its first content on. -/
theorem dropBlankLines_eq (s : List Char) :
    ∃ lead, dropBlankLines s = lead ++ trimStart s ∧ '\n' ∉ lead ∧
      lead <:+ s.takeWhile isBlank := by
  simp only [dropBlankLines]
  split
  · exact ⟨_, rfl, newline_not_mem_afterLastNewline _, afterLastNewline_suffix _⟩
  · exact ⟨[], rfl, by simp, List.nil_suffix⟩

theorem dropBlankLines_suffix (s : List Char) : dropBlankLines s <:+ s := by
  obtain ⟨lead, h, -, front, hfront⟩ := dropBlankLines_eq s
  refine ⟨front, ?_⟩
  rw [h, ← List.append_assoc, hfront, takeWhile_append_trimStart]

@[simp] theorem visible_dropBlankLines (s : List Char) :
    visible (dropBlankLines s) = visible s := by
  obtain ⟨lead, h, -, hlead⟩ := dropBlankLines_eq s
  have hblank : visible lead = [] :=
    visible_eq_nil.2 fun c hc => List.mem_takeWhile_imp (hlead.subset hc)
  rw [h, visible_append, hblank, List.nil_append, visible_trimStart]

theorem allBlank_iff {s : List Char} : allBlank s = true ↔ visible s = [] := by
  rw [visible_eq_nil, allBlank, List.all_eq_true]

end Text
end ImportOrder
