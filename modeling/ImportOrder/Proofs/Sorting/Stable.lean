import ImportOrder.Proofs.Sorting.Insertion

/-!
# ImportOrder.Proofs.Sorting.Stable

Sorting by insertion is stable: every two elements of the sorted list stand in the order of the
comparison, and equal ones in the order in which they stood before. The elements are told apart by
their places in the list that is sorted (`StablySorted`), and there is only one such order
(`StablySorted.unique`). The comparison need be transitive only on that list. Where three elements
come before each other in a circle there is no such order (`StablySorted.not_circle`).
-/

namespace ImportOrder
namespace Sorting

variable {α : Type}

/-- The comparison is transitive on the elements of a list. -/
def TransOn (cmp : α → α → Ordering) (xs : List α) : Prop :=
  ∀ a ∈ xs, ∀ b ∈ xs, ∀ c ∈ xs,
    (cmp a b).isLE = true → (cmp b c).isLE = true → (cmp a c).isLE = true

instance (cmp : α → α → Ordering) (xs : List α) : Decidable (TransOn cmp xs) :=
  inferInstanceAs (Decidable (∀ a ∈ xs, ∀ b ∈ xs, ∀ c ∈ xs,
    (cmp a b).isLE = true → (cmp b c).isLE = true → (cmp a c).isLE = true))

theorem TransOn.of_subset {cmp : α → α → Ordering} {xs ys : List α} (h : TransOn cmp xs)
    (hsub : ys ⊆ xs) : TransOn cmp ys :=
  fun a ha b hb c hc => h a (hsub ha) b (hsub hb) c (hsub hc)

theorem TransOn.of_map {β : Type} {cmp : β → β → Ordering} {f : α → β} {xs : List α}
    (h : TransOn cmp (xs.map f)) : TransOn (fun a b => cmp (f a) (f b)) xs :=
  fun _ ha _ hb _ hc =>
    h _ (List.mem_map_of_mem ha) _ (List.mem_map_of_mem hb) _ (List.mem_map_of_mem hc)

/-- Of two elements with their places, the first comes before the second: it is less, or they are
equal and it stood before. -/
def Precedes (cmp : α → α → Ordering) (x y : α × Nat) : Prop :=
  cmp x.1 y.1 = .lt ∨ cmp x.1 y.1 = .eq ∧ x.2 < y.2

/-- `ys` holds the elements of `xs` in the order of the comparison, equal ones in their old order. -/
def StablySorted (cmp : α → α → Ordering) (xs ys : List α) : Prop :=
  ∃ placed : List (α × Nat), placed.Perm xs.zipIdx ∧ placed.map Prod.fst = ys ∧
    placed.Pairwise (Precedes cmp)

theorem isLE_of_precedes {cmp : α → α → Ordering} {x y : α × Nat} (h : Precedes cmp x y) :
    (cmp x.1 y.1).isLE = true := by
  rcases h with h | ⟨h, -⟩ <;> rw [h] <;> rfl

theorem precedes_of_isLE {cmp : α → α → Ordering} {x y : α × Nat}
    (h : (cmp x.1 y.1).isLE = true) (hplace : x.2 < y.2) : Precedes cmp x y := by
  cases hcmp : cmp x.1 y.1 with
  | lt => exact .inl hcmp
  | eq => exact .inr ⟨hcmp, hplace⟩
  | gt =>
    rw [hcmp] at h
    cases h

theorem Precedes.asymm {cmp : α → α → Ordering} (hswap : ∀ a b, cmp b a = (cmp a b).swap)
    {x y : α × Nat} (h : Precedes cmp x y) : ¬ Precedes cmp y x := by
  intro hyx
  have hflip := hswap x.1 y.1
  rcases h with hlt | ⟨heq, hbefore⟩
  · rw [hlt] at hflip
    rcases hyx with hlt' | ⟨heq', -⟩
    · rw [hlt'] at hflip
      cases hflip
    · rw [heq'] at hflip
      cases hflip
  · rw [heq] at hflip
    rcases hyx with hlt' | ⟨-, hbefore'⟩
    · rw [hlt'] at hflip
      cases hflip
    · omega

/-- The elements of a list have one order that is stable. -/
theorem StablySorted.unique {cmp : α → α → Ordering} (hswap : ∀ a b, cmp b a = (cmp a b).swap)
    {xs ys zs : List α} (hys : StablySorted cmp xs ys) (hzs : StablySorted cmp xs zs) : ys = zs := by
  obtain ⟨placed, hperm, rfl, hplaced⟩ := hys
  obtain ⟨placed', hperm', rfl, hplaced'⟩ := hzs
  have heq : placed = placed' := (hperm.trans hperm'.symm).eq_of_pairwise
    (fun x y _ _ hxy hyx => absurd hyx (hxy.asymm hswap)) hplaced hplaced'
  rw [heq]

theorem not_circle_of_pairwise {r : α → α → Prop} (hasymm : ∀ x y, r x y → ¬ r y x) {l : List α}
    (hl : l.Pairwise r) {x y z : α} (hx : x ∈ l) (hy : y ∈ l) (hz : z ∈ l) (hxy : r x y)
    (hyz : r y z) : ¬ r z x := by
  intro hzx
  obtain ⟨i, hi, rfl⟩ := List.getElem_of_mem hx
  obtain ⟨j, hj, rfl⟩ := List.getElem_of_mem hy
  obtain ⟨k, hk, rfl⟩ := List.getElem_of_mem hz
  have hplace : ∀ (i j : Nat) (hi : i < l.length) (hj : j < l.length), r l[i] l[j] → i ≤ j := by
    intro i j hi hj hij
    by_contra hlt
    exact hasymm _ _ hij (List.pairwise_iff_getElem.1 hl j i hj hi (by omega))
  have hij := hplace i j hi hj hxy
  have hjk := hplace j k hj hk hyz
  have hki := hplace k i hk hi hzx
  obtain rfl : i = j := by omega
  exact hasymm _ _ hxy hxy

/-- Elements that come before each other in a circle have no stable order. -/
theorem StablySorted.not_circle {cmp : α → α → Ordering} (hswap : ∀ a b, cmp b a = (cmp a b).swap)
    {xs ys : List α} (h : StablySorted cmp xs ys) {a b c : α} (ha : a ∈ xs) (hb : b ∈ xs)
    (hc : c ∈ xs) (hab : cmp a b = .lt) (hbc : cmp b c = .lt) : cmp c a ≠ .lt := by
  obtain ⟨placed, hperm, -, hplaced⟩ := h
  have hplace : ∀ a ∈ xs, ∃ i, (a, i) ∈ placed := by
    intro a ha
    rw [← List.zipIdx_map_fst 0 xs, ← (hperm.map Prod.fst).mem_iff, List.mem_map] at ha
    obtain ⟨⟨_, i⟩, hi, rfl⟩ := ha
    exact ⟨i, hi⟩
  obtain ⟨_, ha⟩ := hplace a ha
  obtain ⟨_, hb⟩ := hplace b hb
  obtain ⟨_, hc⟩ := hplace c hc
  intro hca
  exact not_circle_of_pairwise (fun _ _ => Precedes.asymm hswap) hplaced ha hb hc (.inl hab)
    (.inl hbc) (.inl hca)

section Insertion

variable {cmp : α → α → Ordering} (hswap : ∀ a b, cmp b a = (cmp a b).swap)
include hswap

theorem isLE_of_not_lt {a b : α} (h : cmp b a ≠ .lt) : (cmp a b).isLE = true := by
  rw [hswap b a]
  cases hcmp : cmp b a with
  | lt => exact absurd hcmp h
  | eq => rfl
  | gt => rfl

/-- An element from behind those that are sorted, given last element first, is put between those
that precede it and those that it precedes. -/
theorem pairwise_insertLast {x : α × Nat} {sorted : List (α × Nat)}
    (htrans : TransOn cmp ((x :: sorted).map Prod.fst))
    (hplace : ∀ y ∈ sorted, y.2 < x.2)
    (h : sorted.Pairwise fun z y => Precedes cmp y z) :
    (insertLast (fun a b => cmp a.1 b.1) x sorted).Pairwise fun z y => Precedes cmp y z := by
  induction sorted with
  | nil => simp [insertLast]
  | cons y ys ih =>
    obtain ⟨hy, hys⟩ := List.pairwise_cons.1 h
    rw [insertLast]
    split
    · rename_i hlt
      have hrest := ih (htrans.of_subset (by grind))
        (fun z hz => hplace z (List.mem_cons_of_mem _ hz)) hys
      refine List.pairwise_cons.2 ⟨fun z hz => ?_, hrest⟩
      rcases List.mem_cons.1 ((insertLast_perm _ x ys).mem_iff.1 hz) with rfl | hz
      · exact .inl hlt
      · exact hy z hz
    · rename_i hge
      have hle : (cmp y.1 x.1).isLE = true := isLE_of_not_lt hswap hge
      refine List.pairwise_cons.2 ⟨fun z hz => ?_, h⟩
      refine precedes_of_isLE ?_ (hplace z hz)
      rcases List.mem_cons.1 hz with rfl | hz'
      · exact hle
      · -- `z` precedes `y`, which is not behind `x`
        exact htrans z.1 (by grind) y.1 (by grind) x.1 (by grind)
          (isLE_of_precedes (hy z hz')) hle

theorem stablySorted_sortBy {xs : List α} (htrans : TransOn cmp xs) :
    StablySorted cmp xs (sortBy cmp xs) := by
  have go : ∀ (rest sorted : List (α × Nat)), (rest ++ sorted).map Prod.fst ⊆ xs →
      (∀ y ∈ sorted, ∀ x ∈ rest, y.2 < x.2) → rest.Pairwise (fun x y => x.2 < y.2) →
      (sorted.Pairwise fun z y => Precedes cmp y z) →
      (rest.foldl (fun sorted x => insertLast (fun a b => cmp a.1 b.1) x sorted)
        sorted).Pairwise fun z y => Precedes cmp y z := by
    intro rest
    induction rest with
    | nil => exact fun sorted _ _ _ h => h
    | cons x rest ih =>
      intro sorted hsub hplace hrest hsorted
      obtain ⟨hx, hrest⟩ := List.pairwise_cons.1 hrest
      have hperm := insertLast_perm (fun a b => cmp a.1 b.1) x sorted
      have hsubset : (x :: sorted).map Prod.fst ⊆ xs := by
        refine List.Subset.trans ?_ hsub
        simp
      refine ih _ ?_ (fun y hy z hz => ?_) hrest
        (pairwise_insertLast hswap (htrans.of_subset hsubset)
          (fun y hy => hplace y hy x List.mem_cons_self) hsorted)
      · refine List.Subset.trans (List.Perm.subset ?_) hsub
        exact ((hperm.append_left rest).trans List.perm_middle).map _
      · rcases List.mem_cons.1 (hperm.mem_iff.1 hy) with rfl | hy
        · exact hx z hz
        · exact hplace y hy z (List.mem_cons_of_mem _ hz)
  have hzip : xs.zipIdx.map Prod.fst = xs := List.zipIdx_map_fst 0 xs
  refine ⟨sortBy (fun a b => cmp a.1 b.1) xs.zipIdx, sortBy_perm _ _, ?_, ?_⟩
  · rw [← sortBy_map, hzip]
  · rw [sortBy, List.pairwise_reverse]
    refine go xs.zipIdx [] ?_ (by simp) ?_ List.Pairwise.nil
    · rw [List.append_nil, hzip]
      exact List.Subset.refl xs
    · have hplaces : (xs.zipIdx.map Prod.snd).Pairwise (· < ·) := by
        rw [List.zipIdx_map_snd]
        exact List.pairwise_lt_range' ..
      exact List.pairwise_map.1 hplaces

theorem stablySorted_iff {xs : List α} (htrans : TransOn cmp xs) {ys : List α} :
    StablySorted cmp xs ys ↔ ys = sortBy cmp xs := by
  have hsorted := stablySorted_sortBy hswap htrans
  constructor
  · intro hys
    exact hys.unique hswap hsorted
  · rintro rfl
    exact hsorted

end Insertion
end Sorting
end ImportOrder
