import Mathlib.Data.List.Forall2
import Mathlib.Order.Bounds.Basic
import ImportOrder.Proofs.Text.Utf8

/-!
# ImportOrder.Proofs.Text.FirstPlace

The search for a word gives its first place. `find?_eq_some_iff` and `find?_eq_none_iff` say so for any
elements and any folding; they go by the search that looks at every place in turn.

For bytes, `OccursAt` says what it is that a word stands at an index, the case of ASCII letters apart:
byte by byte, without a folding. `search_isLeast` is about the search as it is run, as long as a
machine word holds its first offsets. `skipTo?_eq_findIdx?` says where it compares.
-/

namespace ImportOrder
namespace Text

/-! ## Any elements -/

section Find

variable {α : Type} [BEq α] [LawfulBEq α] {fold : α → α} {word s : List α} {start : Nat}

/-- The search at every place in turn passes no place where the word stands. -/
theorem exists_place?_le (hne : word ≠ []) {i : Nat} (h : standsAt fold word (s.drop i) = true) :
    ∃ n ≤ i, place? fold word s = some n := by
  induction s generalizing i with
  | nil =>
    have hlen := length_le_of_standsAt h
    rw [List.drop_nil, List.length_nil, Nat.le_zero] at hlen
    exact absurd (List.length_eq_zero_iff.1 hlen) hne
  | cons x xs ih =>
    rw [place?]
    by_cases hhere : standsAt fold word (x :: xs) = true
    · exact ⟨0, Nat.zero_le i, if_pos hhere⟩
    · cases i with
      | zero => exact absurd h hhere
      | succ i =>
        rw [List.drop_succ_cons] at h
        obtain ⟨n, hn, hplace⟩ := ih h
        exact ⟨n + 1, Nat.succ_le_succ hn, by rw [if_neg hhere, hplace]; rfl⟩

/-- The indices from `start` on at which the word stands. -/
def placesFrom (fold : α → α) (s word : List α) (start : Nat) : Set Nat :=
  {i | start ≤ i ∧ standsAt fold word (s.drop i) = true}

theorem exists_find?_le (hne : word ≠ []) {i : Nat} (h : i ∈ placesFrom fold s word start) :
    ∃ n ≤ i, find? fold s word start = some n := by
  obtain ⟨hi, hstands⟩ := h
  obtain ⟨m, rfl⟩ := Nat.exists_eq_add_of_le hi
  rw [← List.drop_drop] at hstands
  obtain ⟨n, hn, hplace⟩ := exists_place?_le hne hstands
  exact ⟨start + n, Nat.add_le_add_left hn start, by rw [find?_eq_map_place? hne, hplace]; rfl⟩

theorem mem_placesFrom_of_find? (hne : word ≠ []) {i : Nat}
    (h : find? fold s word start = some i) : i ∈ placesFrom fold s word start := by
  rw [find?_eq_map_place? hne] at h
  obtain ⟨n, hplace, rfl⟩ := Option.map_eq_some_iff.1 h
  have hstands := (place?_eq_some hplace).1
  rw [List.drop_drop] at hstands
  exact ⟨Nat.le_add_right start n, hstands⟩

theorem find?_eq_some_iff (hne : word ≠ []) {i : Nat} :
    find? fold s word start = some i ↔ IsLeast (placesFrom fold s word start) i := by
  constructor
  · intro h
    refine ⟨mem_placesFrom_of_find? hne h, fun j hj => ?_⟩
    obtain ⟨n, hn, hfind⟩ := exists_find?_le hne hj
    rw [h] at hfind
    cases hfind
    exact hn
  · intro h
    obtain ⟨n, hn, hfind⟩ := exists_find?_le hne h.1
    have hle : i ≤ n := h.2 (mem_placesFrom_of_find? hne hfind)
    rw [hfind, Nat.le_antisymm hn hle]

theorem find?_eq_none_iff (hne : word ≠ []) :
    find? fold s word start = none ↔ placesFrom fold s word start = ∅ := by
  rw [Set.eq_empty_iff_forall_notMem]
  constructor
  · intro h i hi
    obtain ⟨n, -, hfind⟩ := exists_find?_le hne hi
    rw [h] at hfind
    cases hfind
  · intro h
    cases hfind : find? fold s word start with
    | none => rfl
    | some i => exact absurd (mem_placesFrom_of_find? hne hfind) (h i)

end Find

/-! ## Bytes -/

def IsCapitalOf (capital small : UInt8) : Prop :=
  65 ≤ capital.toNat ∧ capital.toNat ≤ 90 ∧ small.toNat = capital.toNat + 32

/-- The same byte, or the two cases of one ASCII letter. -/
def SameByte (a b : UInt8) : Prop :=
  a = b ∨ IsCapitalOf a b ∨ IsCapitalOf b a

theorem foldByte_eq_iff {a b : UInt8} : foldByte a = foldByte b ↔ SameByte a b := by
  rw [← UInt8.toNat_inj, foldByte_toNat, foldByte_toNat, SameByte, IsCapitalOf, IsCapitalOf,
    ← UInt8.toNat_inj]
  split <;> split <;> omega

/-- An ASCII small letter becomes its capital; nothing else changes. -/
def raiseByte (b : UInt8) : UInt8 :=
  if 0x61 ≤ b && b ≤ 0x7A then b - 0x20 else b

theorem raiseByte_toNat (b : UInt8) :
    (raiseByte b).toNat = if 97 ≤ b.toNat ∧ b.toNat ≤ 122 then b.toNat - 32 else b.toNat := by
  have hlow : (0x61 ≤ b) ↔ 97 ≤ b.toNat := UInt8.le_iff_toNat_le
  have hhigh : (b ≤ 0x7A) ↔ b.toNat ≤ 122 := UInt8.le_iff_toNat_le
  simp only [raiseByte, Bool.and_eq_true, decide_eq_true_eq, hlow, hhigh]
  split
  · have hle : (0x20 : UInt8) ≤ b := UInt8.le_iff_toNat_le.2 (by
      have hnat : (0x20 : UInt8).toNat = 32 := rfl
      omega)
    rw [UInt8.toNat_sub_of_le _ _ hle]
    rfl
  · rfl

/-- A byte folds like another just if it is the small letter or the capital of that. -/
theorem foldByte_eq_iff_or {x y : UInt8} :
    foldByte y = foldByte x ↔ y = foldByte x ∨ y = raiseByte x := by
  simp only [← UInt8.toNat_inj, foldByte_toNat, raiseByte_toNat]
  split <;> split <;> split <;> omega

/-- The search skips to the first byte that is the small letter or the capital of the word's first. -/
theorem skipTo?_eq_findIdx? (x : UInt8) (s : List UInt8) :
    skipTo? foldByte x s =
      (s.findIdx? fun y => y == foldByte x || y == raiseByte x).map fun k => (k, s.drop k) := by
  induction s with
  | nil => rfl
  | cons y s ih =>
    have hcase : (y == foldByte x || y == raiseByte x) = (foldByte y == foldByte x) := by
      rw [Bool.eq_iff_iff, Bool.or_eq_true, beq_iff_eq, beq_iff_eq, beq_iff_eq, foldByte_eq_iff_or]
    rw [skipTo?, List.findIdx?_cons, hcase]
    by_cases hy : (foldByte y == foldByte x) = true
    · simp [hy]
    · simp only [if_neg hy, ih, Option.map_map]
      congr 1

/-- The word stands at an index of the text, the case of ASCII letters apart. -/
structure OccursAt (text word : List UInt8) (i : Nat) : Prop where
  fits : i + word.length ≤ text.length
  same : List.Forall₂ SameByte ((text.drop i).take word.length) word

theorem standsAt_foldByte_iff {text word : List UInt8} (hne : word ≠ []) {i : Nat} :
    standsAt foldByte word (text.drop i) = true ↔ OccursAt text word i := by
  have hsame : standsAt foldByte word (text.drop i) = true ↔
      List.Forall₂ SameByte ((text.drop i).take word.length) word := by
    rw [standsAt_iff, ← List.forall₂_eq_eq_eq, List.forall₂_map_left_iff,
      List.forall₂_map_right_iff]
    simp only [foldByte_eq_iff]
  constructor
  · intro h
    have hlen := length_le_of_standsAt h
    have hpos := List.length_pos_iff.2 hne
    rw [List.length_drop] at hlen
    exact ⟨by omega, hsame.1 h⟩
  · intro h
    exact hsame.2 h.same

theorem placesFrom_foldByte {text word : List UInt8} (hne : word ≠ []) (start : Nat) :
    placesFrom foldByte text word start = {i | start ≤ i ∧ OccursAt text word i} := by
  ext i
  exact and_congr_right fun _ => standsAt_foldByte_iff hne

/-- The search as it is run gives the first index from its start on at which the word stands, and none
just if there is no such index. -/
theorem search_isLeast {text word : List UInt8} {start : Nat} (hne : word ≠ [])
    (hfits : start + word.length < offsetLimit) :
    (∀ i, search foldByte text word start = .ok (some i) ↔
      IsLeast {i | start ≤ i ∧ OccursAt text word i} i) ∧
    (search foldByte text word start = .ok none ↔ ∀ i, start ≤ i → ¬ OccursAt text word i) := by
  have hsearch : search foldByte text word start = .ok (find? foldByte text word start) := by
    rw [search, if_neg (by simp [Nat.not_le.2 hfits])]
  rw [hsearch, ← placesFrom_foldByte hne]
  constructor
  · intro i
    rw [Except.ok.injEq, find?_eq_some_iff hne]
  · rw [Except.ok.injEq, find?_eq_none_iff hne, placesFrom_foldByte hne,
      Set.eq_empty_iff_forall_notMem]
    exact ⟨fun h i hi hstands => h i ⟨hi, hstands⟩, fun h i hmem => h i hmem.1 hmem.2⟩

/-- A place that begins inside one that was compared in vain is found. -/
theorem search_isLeast_overlapping :
    ∃ text word : List UInt8, text = utf8 "x</S</ScRipt>".toList ∧ word = utf8 "</script".toList ∧
      word ≠ [] ∧ 1 + word.length < offsetLimit ∧
      IsLeast {i | 1 ≤ i ∧ OccursAt text word i} 4 :=
  ⟨_, _, rfl, rfl, by decide, by decide,
    ((search_isLeast (by decide) (by decide)).1 4).1 (by decide +kernel)⟩

end Text
end ImportOrder
