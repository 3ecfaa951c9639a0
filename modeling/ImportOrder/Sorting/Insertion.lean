/-!
# ImportOrder.Sorting.Insertion

A stable sort by insertion. Elements are taken from left to right; each moves left over the
elements that it comes strictly before, and stops at the first that it does not.

By a total order a list has one stable order, and every stable sort finds it. For a comparison that
is no total order the sort of the standard library leaves the order open; the one here is that of
insertion.
-/

namespace ImportOrder
namespace Sorting

variable {α : Type}

/-- Puts `x` behind the elements that it does not come before. The sorted list is given last
element first. -/
def insertLast (cmp : α → α → Ordering) (x : α) : List α → List α
  | [] => [x]
  | y :: ys => if cmp x y = .lt then y :: insertLast cmp x ys else x :: y :: ys

/-- The list in ascending order; equal elements keep their order. If the comparison is no total
order, the order is the one that insertion comes to, where the standard library fixes none. -/
def sortBy (cmp : α → α → Ordering) (xs : List α) : List α :=
  (xs.foldl (fun sorted x => insertLast cmp x sorted) []).reverse

theorem insertLast_perm (cmp : α → α → Ordering) (x : α) (xs : List α) :
    (insertLast cmp x xs).Perm (x :: xs) := by
  induction xs with
  | nil => exact List.Perm.refl _
  | cons y ys ih =>
    rw [insertLast]
    split
    · exact (ih.cons y).trans (List.Perm.swap x y ys)
    · exact List.Perm.refl _

theorem sortBy_perm (cmp : α → α → Ordering) (xs : List α) : (sortBy cmp xs).Perm xs := by
  have go : ∀ (xs acc : List α),
      (xs.foldl (fun sorted x => insertLast cmp x sorted) acc).Perm (xs ++ acc) := by
    intro xs
    induction xs with
    | nil => intro acc; exact List.Perm.refl _
    | cons x xs ih =>
      intro acc
      refine (ih _).trans ?_
      refine ((insertLast_perm cmp x acc).append_left xs).trans ?_
      exact List.perm_middle
  have h := go xs []
  rw [List.append_nil] at h
  exact (List.reverse_perm _).trans h

end Sorting
end ImportOrder
