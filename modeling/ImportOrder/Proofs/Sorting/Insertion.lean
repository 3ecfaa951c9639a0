import Mathlib.Data.List.Chain
import ImportOrder.Sorting.Insertion

/-!
# ImportOrder.Proofs.Sorting.Insertion

The stable sort by insertion. It looks at elements only through the comparison (`sortBy_map`). A
list in which no element comes before the one in front of it (`InOrder`) is left alone
(`sortBy_eq_self`). If no two elements come before each other, sorting makes such a list
(`inOrder_sortBy`). Transitivity plays no part in this, so both hold for comparisons that lack it.
-/

namespace ImportOrder
namespace Sorting

variable {α β : Type}

theorem insertLast_map (cmp : β → β → Ordering) (f : α → β) (x : α) (xs : List α) :
    insertLast cmp (f x) (xs.map f) =
      (insertLast (fun a b => cmp (f a) (f b)) x xs).map f := by
  induction xs with
  | nil => rfl
  | cons y ys ih =>
    rw [List.map_cons, insertLast, insertLast]
    split
    · rw [ih, List.map_cons]
    · rfl

/-- Sorting goes by what the elements are compared by. -/
theorem sortBy_map (cmp : β → β → Ordering) (f : α → β) (xs : List α) :
    sortBy cmp (xs.map f) = (sortBy (fun a b => cmp (f a) (f b)) xs).map f := by
  have go : ∀ (xs acc : List α),
      (xs.map f).foldl (fun sorted x => insertLast cmp x sorted) (acc.map f) =
        (xs.foldl (fun sorted x => insertLast (fun a b => cmp (f a) (f b)) x sorted) acc).map f := by
    intro xs
    induction xs with
    | nil => intro acc; rfl
    | cons x xs ih =>
      intro acc
      rw [List.map_cons, List.foldl_cons, List.foldl_cons, insertLast_map, ih]
  have h := go xs []
  rw [List.map_nil] at h
  rw [sortBy, sortBy, h, List.map_reverse]

/-- No element comes before the one in front of it. -/
def InOrder (cmp : α → α → Ordering) (xs : List α) : Prop :=
  xs.IsChain fun a b => cmp b a ≠ .lt

theorem inOrder_map (cmp : β → β → Ordering) (f : α → β) (xs : List α) :
    InOrder cmp (xs.map f) ↔ InOrder (fun a b => cmp (f a) (f b)) xs :=
  List.isChain_map f

/-- The sorted part of a list, given last element first, stays in order when an element is put into
it. -/
theorem insertLast_isChain {cmp : α → α → Ordering} (hcmp : ∀ a b, cmp a b = .lt → cmp b a ≠ .lt)
    (x : α) {xs : List α} (h : xs.IsChain fun a b => cmp a b ≠ .lt) :
    (insertLast cmp x xs).IsChain fun a b => cmp a b ≠ .lt := by
  induction xs with
  | nil => simp [insertLast]
  | cons y ys ih =>
    rw [insertLast]
    split
    · rename_i hlt
      have htail := ih h.tail
      cases ys with
      | nil => simp [insertLast, hcmp x y hlt]
      | cons z zs =>
        rw [insertLast] at htail ⊢
        split
        · rename_i hlt'
          rw [if_pos hlt'] at htail
          exact htail.cons_cons (List.isChain_cons_cons.1 h).1
        · rename_i hge
          rw [if_neg hge] at htail
          exact htail.cons_cons (hcmp x y hlt)
    · rename_i hge
      exact h.cons_cons hge

theorem inOrder_sortBy {cmp : α → α → Ordering} (hcmp : ∀ a b, cmp a b = .lt → cmp b a ≠ .lt)
    (xs : List α) : InOrder cmp (sortBy cmp xs) := by
  have go : ∀ (xs acc : List α), (acc.IsChain fun a b => cmp a b ≠ .lt) →
      (xs.foldl (fun sorted x => insertLast cmp x sorted) acc).IsChain fun a b => cmp a b ≠ .lt := by
    intro xs
    induction xs with
    | nil => intro acc h; exact h
    | cons x xs ih => intro acc h; exact ih _ (insertLast_isChain hcmp x h)
  rw [InOrder, sortBy, List.isChain_reverse]
  exact go xs [] List.isChain_nil

theorem sortBy_eq_self {cmp : α → α → Ordering} {xs : List α} (h : InOrder cmp xs) :
    sortBy cmp xs = xs := by
  have go : ∀ (xs acc : List α), InOrder cmp (acc.reverse ++ xs) →
      xs.foldl (fun sorted x => insertLast cmp x sorted) acc = xs.reverse ++ acc := by
    intro xs
    induction xs with
    | nil => intro acc _; rfl
    | cons x xs ih =>
      intro acc h
      have hinsert : insertLast cmp x acc = x :: acc := by
        cases acc with
        | nil => rfl
        | cons y ys =>
          rw [InOrder, List.reverse_cons, List.append_assoc] at h
          have hpair := (List.isChain_append.1 h).2.1
          rw [List.singleton_append, List.isChain_cons_cons] at hpair
          rw [insertLast, if_neg hpair.1]
      rw [List.foldl_cons, hinsert, ih (x :: acc) (by simpa using h)]
      simp
  rw [sortBy, go xs [] h]
  simp

end Sorting
end ImportOrder
