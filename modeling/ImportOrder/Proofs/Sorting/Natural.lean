import ImportOrder.Sorting.Natural

/-!
# ImportOrder.Proofs.Sorting.Natural

Of two texts the natural order puts one before the other or neither, whichever is asked for first
(`natural_swap`). Where letters decide by case this rests on the tables: no character is both a
small letter and a capital (`not_isSmall_and_isCapital`).
-/

namespace ImportOrder
namespace Text

/-- All code points of the run are even, or all are odd. -/
def Run.hasOneParity (r : Run) : Bool :=
  r.step % 2 == 0 || r.first == r.last

/-- The runs share no code point: one ends before the other starts, or they differ in parity. -/
def Run.apart (r r' : Run) : Bool :=
  r.last < r'.first || r'.last < r.first ||
    (r.hasOneParity && r'.hasOneParity && r.first % 2 != r'.first % 2)

theorem Run.mod_two_of_contains {r : Run} (h : r.hasOneParity = true) {n : Nat}
    (hn : r.contains n = true) : n % 2 = r.first % 2 := by
  simp only [Run.contains, Bool.and_eq_true, decide_eq_true_eq, beq_iff_eq] at hn
  obtain ⟨⟨hfirst, hlast⟩, hstep⟩ := hn
  simp only [Run.hasOneParity, Bool.or_eq_true, beq_iff_eq] at h
  rcases h with h | h
  · have hdvd : 2 ∣ n - r.first :=
      Nat.dvd_trans (Nat.dvd_of_mod_eq_zero h) (Nat.dvd_of_mod_eq_zero hstep)
    omega
  · have : n = r.first := by omega
    rw [this]

theorem Run.not_contains_of_apart {r r' : Run} (h : r.apart r' = true) {n : Nat}
    (hn : r.contains n = true) : r'.contains n = false := by
  rw [← Bool.not_eq_true]
  intro hn'
  have hbounds := hn
  have hbounds' := hn'
  simp only [Run.contains, Bool.and_eq_true, decide_eq_true_eq] at hbounds hbounds'
  simp only [Run.apart, Bool.or_eq_true, Bool.and_eq_true, decide_eq_true_eq, bne_iff_ne] at h
  rcases h with (h | h) | ⟨⟨hone, hone'⟩, hne⟩
  · omega
  · omega
  · have := Run.mod_two_of_contains hone hn
    have := Run.mod_two_of_contains hone' hn'
    omega

/-- The run shares no code point with the others, which are looked at as far as it reaches. -/
def Run.apartFrom (r : Run) : List Run → Bool
  | [] => true
  | r' :: runs => r.apart r' && (r.last < r'.first || r.apartFrom runs)

/-- No run of the first list shares a code point with one of the second. -/
def apartRuns : List Run → List Run → Bool
  | [], _ => true
  | r :: runs, others =>
    r.apartFrom others && apartRuns runs (others.dropWhile fun r' => r'.last < r.first)

theorem Run.not_inRuns_of_apartFrom {r : Run} {others : List Run} (h : r.apartFrom others = true)
    {n : Nat} (hn : r.contains n = true) : inRuns n others = false := by
  induction others with
  | nil => rfl
  | cons r' others ih =>
    simp only [Run.apartFrom, Bool.and_eq_true, Bool.or_eq_true, decide_eq_true_eq] at h
    rw [inRuns, Run.not_contains_of_apart h.1 hn, Bool.false_or]
    rcases h.2 with h | h
    · have hlast : n ≤ r.last := by
        simp only [Run.contains, Bool.and_eq_true, decide_eq_true_eq] at hn
        exact hn.1.2
      simp only [Bool.and_eq_false_iff, decide_eq_false_iff_not]
      exact .inl (by omega)
    · rw [ih h, Bool.and_false]

theorem inRuns_dropWhile {n first : Nat} (hfirst : first ≤ n) {runs : List Run}
    (h : inRuns n runs = true) : inRuns n (runs.dropWhile fun r => r.last < first) = true := by
  induction runs with
  | nil => cases h
  | cons r runs ih =>
    rw [List.dropWhile_cons]
    split
    · rename_i hlast
      rw [decide_eq_true_eq] at hlast
      simp only [inRuns, Bool.and_eq_true, Bool.or_eq_true, Run.contains, decide_eq_true_eq] at h
      rcases h.2 with h | h
      · omega
      · exact ih h
    · exact h

theorem not_inRuns_of_apartRuns {runs others : List Run} (h : apartRuns runs others = true) {n : Nat}
    (hn : inRuns n runs = true) : inRuns n others = false := by
  induction runs generalizing others with
  | nil => cases hn
  | cons r runs ih =>
    simp only [apartRuns, Bool.and_eq_true] at h
    simp only [inRuns, Bool.and_eq_true, Bool.or_eq_true, decide_eq_true_eq] at hn
    rcases hn.2 with hr | hmore
    · exact Run.not_inRuns_of_apartFrom h.1 hr
    · rw [← Bool.not_eq_true]
      intro hothers
      have := inRuns_dropWhile hn.1 hothers
      rw [ih h.2 hmore] at this
      cases this

theorem not_isSmall_and_isCapital (c : Char) : ¬(isSmall c = true ∧ isCapital c = true) := by
  rintro ⟨hsmall, hcapital⟩
  have htables : apartRuns lowercaseRuns uppercaseRuns = true := by decide +kernel
  rw [isCapital, not_inRuns_of_apartRuns htables hsmall] at hcapital
  cases hcapital

end Text

namespace Sorting

open Text

theorem compare_nat_swap (a b : Nat) : compare b a = (compare a b).swap :=
  (Nat.compare_swap a b).symm

theorem swap_then (a b : Ordering) : (a.then b).swap = a.swap.then b.swap := by
  cases a <;> rfl

theorem Place.compare_swap (a b : Place) : b.compare a = (a.compare b).swap := by
  rw [Place.compare, Place.compare, swap_then, compare_nat_swap a.kind, compare_nat_swap a.rank]

theorem byCode_swap (a b : List Char) : byCode b a = (byCode a b).swap := by
  induction a generalizing b with
  | nil => cases b <;> rfl
  | cons x xs ih =>
    cases b with
    | nil => rfl
    | cons y ys => rw [byCode, byCode, swap_then, compare_nat_swap x.toNat, ih]

theorem byValue_swap (a b : List Char) : byValue b a = (byValue a b).swap := by
  simp only [byValue]
  rw [swap_then, compare_nat_swap, byCode_swap]

theorem caseless_swap (a b : List Char) : caseless b a = (caseless a b).swap := by
  fun_induction caseless a b with
  | case1 => rw [caseless]; rfl
  | case2 => rw [caseless]; rfl
  | case3 => rw [caseless]; rfl
  | case4 x xs y ys hdigits heq ih =>
    rw [Bool.and_comm] at hdigits
    rw [caseless, if_pos hdigits, byValue_swap, heq, ← ih]
    rfl
  | case5 x xs y ys hdigits hother =>
    rw [Bool.and_comm] at hdigits
    rw [caseless, if_pos hdigits, byValue_swap]
    cases h : byValue (x :: xs.takeWhile isDigit) (y :: ys.takeWhile isDigit) with
    | eq => exact absurd h hother
    | lt => rfl
    | gt => rfl
  | case6 x xs y ys hdigits heq ih =>
    rw [Bool.and_comm] at hdigits
    rw [caseless, if_neg hdigits, Place.compare_swap, heq, ← ih]
    rfl
  | case7 x xs y ys hdigits hother =>
    rw [Bool.and_comm] at hdigits
    rw [caseless, if_neg hdigits, Place.compare_swap]
    cases h : (place x).compare (place y) with
    | eq => exact absurd h hother
    | lt => rfl
    | gt => rfl

theorem byCase_swap (a b : List Char) : byCase b a = (byCase a b).swap := by
  induction a generalizing b with
  | nil => cases b <;> rfl
  | cons x xs ih =>
    cases b with
    | nil => rfl
    | cons y ys =>
      rw [byCase, byCase]
      by_cases hxy : x = y
      · rw [if_pos hxy, if_pos hxy.symm, ih]
      · rw [if_neg hxy, if_neg (Ne.symm hxy)]
        -- at most one of the two characters is small and the other a capital
        have hx := not_isSmall_and_isCapital x
        have hy := not_isSmall_and_isCapital y
        by_cases hsmall : (isSmall x && isCapital y) = true
        · have hother : ¬(isSmall y && isCapital x) = true := by
            rw [Bool.and_eq_true] at hsmall ⊢
            exact fun h => hx ⟨hsmall.1, h.2⟩
          rw [if_pos hsmall, if_neg hother, Bool.and_comm, if_pos hsmall]
          rfl
        · by_cases hcapital : (isCapital x && isSmall y) = true
          · rw [if_neg hsmall, if_pos hcapital, Bool.and_comm, if_pos hcapital]
            rfl
          · rw [if_neg hsmall, if_neg hcapital, Bool.and_comm, if_neg hcapital, Bool.and_comm,
              if_neg hsmall, compare_nat_swap]

/-- Asked the other way round, the natural order gives the opposite answer. -/
theorem natural_swap (ignoreCase : Bool) (a b : List Char) :
    natural ignoreCase b a = (natural ignoreCase a b).swap := by
  rw [natural, natural, caseless_swap]
  cases caseless a b with
  | lt => rfl
  | gt => rfl
  | eq =>
    cases ignoreCase with
    | true => rfl
    | false => exact byCase_swap a b

end Sorting
end ImportOrder
