import Mathlib.Data.List.TakeWhile
import ImportOrder.Proofs.Sorting.Natural
import ImportOrder.Proofs.Text.Digit

/-!
# ImportOrder.Proofs.Sorting.Keys

What the comparison without regard to case goes by. A text is taken apart into keys: one for each run
of digits, which holds its value, and one for each other character. The comparison is that of the key
lists, the first difference deciding (`caseless_eq_compareLex`). So it is transitive, as every
lexicographic comparison of places is.
-/

namespace ImportOrder
namespace Sorting

open Text

def keys : List Char → List Place
  | [] => []
  | c :: s =>
    if isDigit c then ⟨1, decimalValue (c :: s.takeWhile isDigit)⟩ :: keys (s.dropWhile isDigit)
    else place c :: keys s
termination_by s => s.length
decreasing_by
  · have := length_dropWhile_le isDigit s
    simp only [List.length_cons]
    omega
  · simp

theorem keys_digit {c : Char} (h : isDigit c = true) (s : List Char) :
    keys (c :: s) =
      ⟨1, decimalValue (c :: s.takeWhile isDigit)⟩ :: keys (s.dropWhile isDigit) := by
  rw [keys, if_pos h]

theorem keys_other {c : Char} (h : isDigit c = false) (s : List Char) :
    keys (c :: s) = place c :: keys s := by
  rw [keys, if_neg (by simp [h])]

/-! ## Runs of digits -/

theorem compare_two_parts {base x y m n : Nat} (hm : m < base) (hn : n < base) :
    compare (x * base + m) (y * base + n) = (compare x y).then (compare m n) := by
  have step : ∀ {i j : Nat}, i < j → i * base + base ≤ j * base := by
    intro i j h
    rw [← Nat.succ_mul]
    exact Nat.mul_le_mul_right base h
  rcases Nat.lt_trichotomy x y with hlt | rfl | hgt
  · have hparts := step hlt
    have hwhole : x * base + m < y * base + n := by omega
    rw [Nat.compare_eq_lt.2 hlt, Nat.compare_eq_lt.2 hwhole]
    rfl
  · rw [Nat.compare_eq_eq.2 rfl, Ordering.eq_then]
    simp only [compare, compareOfLessAndEq, Nat.add_lt_add_iff_left, Nat.add_left_cancel_iff]
  · have hparts := step hgt
    have hwhole : y * base + n < x * base + m := by omega
    rw [Nat.compare_eq_gt.2 hgt, Nat.compare_eq_gt.2 hwhole]
    rfl

/-- Runs of the same length write numbers in the order of their first different digits. -/
theorem byCode_eq_compare {a b : List Char} (ha : ∀ c ∈ a, isDigit c = true)
    (hb : ∀ c ∈ b, isDigit c = true) (hlength : a.length = b.length) :
    byCode a b = compare (decimalValue a) (decimalValue b) := by
  induction a generalizing b with
  | nil =>
    cases b with
    | nil => rfl
    | cons => cases hlength
  | cons x xs ih =>
    cases b with
    | nil => cases hlength
    | cons y ys =>
      rw [List.length_cons, List.length_cons, Nat.add_right_cancel_iff] at hlength
      have hxs : ∀ c ∈ xs, isDigit c = true := fun c hc => ha c (List.mem_cons_of_mem x hc)
      have hys : ∀ c ∈ ys, isDigit c = true := fun c hc => hb c (List.mem_cons_of_mem y hc)
      have hx := toNat_of_isDigit (ha x List.mem_cons_self)
      have hy := toNat_of_isDigit (hb y List.mem_cons_self)
      have hfirst : compare (x.toNat - 48) (y.toNat - 48) = compare x.toNat y.toNat := by
        have heq : x.toNat - 48 = y.toNat - 48 ↔ x.toNat = y.toNat := by omega
        simp only [compare, compareOfLessAndEq, Nat.sub_lt_sub_iff_right hx.1, heq]
      have hrest := decimalValue_lt hxs
      rw [hlength] at hrest
      rw [byCode, decimalValue_cons, decimalValue_cons, hlength,
        compare_two_parts hrest (decimalValue_lt hys), hfirst, ih hxs hys hlength]

/-- Without leading zeros the longer run writes the greater number. -/
theorem decimalValue_lt_of_length {a b : List Char} (ha : ∀ c ∈ a, isDigit c = true)
    (hb : ∀ c ∈ b, isDigit c = true) (hzero : b.head? ≠ some '0') (h : a.length < b.length) :
    decimalValue a < decimalValue b := by
  cases b with
  | nil => cases h
  | cons c s =>
    have hfirst : c ≠ '0' := fun heq => hzero (by rw [heq]; rfl)
    calc decimalValue a < 10 ^ a.length := decimalValue_lt ha
      _ ≤ 10 ^ s.length := Nat.pow_le_pow_right (by decide) (by simpa [Nat.lt_succ_iff] using h)
      _ ≤ decimalValue (c :: s) := pow_le_decimalValue (hb c List.mem_cons_self) hfirst s

/-- Runs of digits are compared by the numbers they write. -/
theorem byValue_eq_compare {a b : List Char} (ha : ∀ c ∈ a, isDigit c = true)
    (hb : ∀ c ∈ b, isDigit c = true) :
    byValue a b = compare (decimalValue a) (decimalValue b) := by
  have digits : ∀ {s : List Char}, (∀ c ∈ s, isDigit c = true) →
      ∀ c ∈ s.dropWhile (· == '0'), isDigit c = true :=
    fun h c hc => h c ((List.dropWhile_suffix _).subset hc)
  have first : ∀ s : List Char, (s.dropWhile (· == '0')).head? ≠ some '0' := by
    intro s h
    have := List.head?_dropWhile_not (· == '0') s
    rw [h] at this
    simp at this
  rw [← decimalValue_dropZeros a, ← decimalValue_dropZeros b]
  simp only [byValue]
  rcases Nat.lt_trichotomy (a.dropWhile (· == '0')).length (b.dropWhile (· == '0')).length with
    hlt | heq | hgt
  · rw [Nat.compare_eq_lt.2 hlt,
      Nat.compare_eq_lt.2 (decimalValue_lt_of_length (digits ha) (digits hb) (first b) hlt)]
    rfl
  · rw [Nat.compare_eq_eq.2 heq, Ordering.eq_then, byCode_eq_compare (digits ha) (digits hb) heq]
  · rw [Nat.compare_eq_gt.2 hgt,
      Nat.compare_eq_gt.2 (decimalValue_lt_of_length (digits hb) (digits ha) (first a) hgt)]
    rfl

/-! ## Whole texts -/

theorem kind_place_eq_one {c : Char} : (place c).kind = 1 ↔ isDigit c = true := by
  cases h : isDigit c with
  | true => simp [place, h]
  | false =>
    rw [place, if_neg (by simp [h])]
    split
    · simp
    · split
      · simp
      · split <;> simp

theorem keys_cons (c : Char) (s : List Char) :
    ∃ k rest, keys (c :: s) = k :: rest ∧ k.kind = (place c).kind := by
  cases h : isDigit c with
  | true => exact ⟨_, _, keys_digit h s, (kind_place_eq_one.2 h).symm⟩
  | false => exact ⟨_, _, keys_other h s, rfl⟩

theorem compare_of_kind_ne {a b k l : Place} (h : a.kind ≠ b.kind) (hk : k.kind = a.kind)
    (hl : l.kind = b.kind) : k.compare l = a.compare b ∧ a.compare b ≠ .eq := by
  have hne : Ord.compare a.kind b.kind ≠ .eq := fun heq => h (Nat.compare_eq_eq.1 heq)
  simp only [Place.compare, hk, hl]
  cases hkind : Ord.compare a.kind b.kind with
  | eq => exact absurd hkind hne
  | lt => exact ⟨rfl, fun heq => by cases heq⟩
  | gt => exact ⟨rfl, fun heq => by cases heq⟩

theorem isDigit_run {c : Char} (hc : isDigit c = true) (s : List Char) :
    ∀ d ∈ c :: s.takeWhile isDigit, isDigit d = true := by
  intro d hd
  rcases List.mem_cons.1 hd with rfl | hd
  · exact hc
  · exact List.mem_takeWhile_imp hd

theorem compareLex_keys_digits {a b : Char} (ha : isDigit a = true) (hb : isDigit b = true)
    (as bs : List Char) :
    List.compareLex Place.compare (keys (a :: as)) (keys (b :: bs)) =
      (byValue (a :: as.takeWhile isDigit) (b :: bs.takeWhile isDigit)).then
        (List.compareLex Place.compare (keys (as.dropWhile isDigit))
          (keys (bs.dropWhile isDigit))) := by
  rw [keys_digit ha, keys_digit hb, List.compareLex_cons_cons,
    byValue_eq_compare (isDigit_run ha as) (isDigit_run hb bs)]
  rfl

theorem then_of_ne_eq {o p : Ordering} (h : o ≠ .eq) : o.then p = o := by
  cases o with
  | eq => exact absurd rfl h
  | lt => rfl
  | gt => rfl

theorem compareLex_keys_other {a b : Char} (h : ¬(isDigit a && isDigit b) = true)
    (as bs : List Char) :
    List.compareLex Place.compare (keys (a :: as)) (keys (b :: bs)) =
      ((place a).compare (place b)).then (List.compareLex Place.compare (keys as) (keys bs)) := by
  by_cases hkind : (place a).kind = (place b).kind
  · -- both characters are digits, or neither is
    have hdigit : isDigit a = isDigit b := by
      rw [Bool.eq_iff_iff, ← kind_place_eq_one, ← kind_place_eq_one, hkind]
    rw [hdigit, Bool.and_self, Bool.not_eq_true] at h
    rw [keys_other (hdigit.trans h), keys_other h, List.compareLex_cons_cons]
  · obtain ⟨k, rest, hkeys, hk⟩ := keys_cons a as
    obtain ⟨l, more, hkeys', hl⟩ := keys_cons b bs
    obtain ⟨hcompare, hne⟩ := compare_of_kind_ne hkind hk hl
    rw [hkeys, hkeys', List.compareLex_cons_cons, hcompare, then_of_ne_eq hne, then_of_ne_eq hne]

theorem caseless_eq_compareLex (a b : List Char) :
    caseless a b = List.compareLex Place.compare (keys a) (keys b) := by
  fun_induction caseless a b with
  | case1 => rw [keys]; rfl
  | case2 b bs =>
    obtain ⟨k, rest, hkeys, -⟩ := keys_cons b bs
    rw [hkeys, keys]
    rfl
  | case3 a as =>
    obtain ⟨k, rest, hkeys, -⟩ := keys_cons a as
    rw [hkeys, keys]
    rfl
  | case4 a as b bs hdigits heq ih =>
    rw [Bool.and_eq_true] at hdigits
    rw [compareLex_keys_digits hdigits.1 hdigits.2, heq, ← ih]
    rfl
  | case5 a as b bs hdigits hne =>
    rw [Bool.and_eq_true] at hdigits
    rw [compareLex_keys_digits hdigits.1 hdigits.2, then_of_ne_eq hne]
  | case6 a as b bs hdigits heq ih =>
    rw [compareLex_keys_other hdigits, heq, ← ih]
    rfl
  | case7 a as b bs hdigits hne =>
    rw [compareLex_keys_other hdigits, then_of_ne_eq hne]

instance : Std.TransCmp Place.compare :=
  inferInstanceAs (Std.TransCmp (compareLex (compareOn Place.kind) (compareOn Place.rank)))

instance : Std.LawfulEqCmp Place.compare where
  eq_of_compare {a b} h := by
    rw [Place.compare, Ordering.then_eq_eq, Nat.compare_eq_eq, Nat.compare_eq_eq] at h
    obtain ⟨hkind, hrank⟩ := h
    cases a
    cases b
    simp_all

/-- Texts that agree, case apart, are those with the same keys. -/
theorem caseless_eq_eq {a b : List Char} : caseless a b = .eq ↔ keys a = keys b := by
  rw [caseless_eq_compareLex]
  exact Std.LawfulEqCmp.compare_eq_iff_eq

instance : Std.TransCmp caseless where
  eq_swap := caseless_swap _ _
  isLE_trans {a b c} hab hbc := by
    rw [caseless_eq_compareLex] at hab hbc ⊢
    exact Std.TransCmp.isLE_trans hab hbc

end Sorting
end ImportOrder
