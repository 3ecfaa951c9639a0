import Mathlib.Data.List.SplitBy
import ImportOrder.Proofs.Sorting.Laws

/-!
# ImportOrder.Proofs.Sorting.Runs

What the natural order goes by, said without its way through the two texts. A text falls apart into
runs, each as many digits as stand together or one other character. A run of digits counts by its
value, however long it is, and another character by its place in the collation. The natural order is
the lexicographic order of these keys (`natural_compares_runs`); only texts with the same keys may be
told apart by case.
-/

namespace ImportOrder
namespace Sorting

open Text

/-- The runs of a text: digits that stand together, and each other character by itself. -/
def runs (s : List Char) : List (List Char) :=
  s.splitBy fun a b => isDigit a && isDigit b

/-- What a run counts by: digits by their value, another character by its place in the collation. -/
def runKey : List Char → Place
  | [] => ⟨0, 0⟩
  | c :: s => if isDigit c then ⟨1, decimalValue (c :: s)⟩ else place c

def runKeys (s : List Char) : List Place :=
  (runs s).map runKey

theorem isChain_digits {t : List Char} (h : ∀ c ∈ t, isDigit c = true) :
    t.IsChain fun a b => (isDigit a && isDigit b) = true := by
  refine List.Pairwise.isChain (List.pairwise_of_forall_mem_list fun a ha b hb => ?_)
  rw [h a ha, h b hb, Bool.and_self]

theorem runs_digits {t s : List Char} (hne : t ≠ []) (ht : ∀ c ∈ t, isDigit c = true)
    (hs : ∀ c, s.head? = some c → isDigit c = false) : runs (t ++ s) = t :: runs s := by
  have hsplit : runs (t ++ s) = runs t ++ runs s :=
    List.splitBy_append fun a _ b hb => by rw [hs b hb, Bool.and_false]
  rw [hsplit, runs, List.splitBy_of_isChain hne (isChain_digits ht), List.singleton_append]

theorem runs_other {c : Char} (h : isDigit c = false) (s : List Char) :
    runs (c :: s) = [c] :: runs s := by
  have hsplit : runs ([c] ++ s) = runs [c] ++ runs s := by
    refine List.splitBy_append fun a ha b _ => ?_
    rw [List.getLast?_singleton, Option.mem_some] at ha
    rw [← ha, h, Bool.false_and]
  exact hsplit

theorem head?_dropWhile_isDigit (s : List Char) :
    ∀ c, (s.dropWhile isDigit).head? = some c → isDigit c = false := by
  intro c hc
  have := List.head?_dropWhile_not isDigit s
  rw [hc] at this
  simpa using this

/-- The keys that the comparison finds on its way are those of the runs. -/
theorem keys_eq_runKeys (s : List Char) : keys s = runKeys s := by
  fun_induction keys s with
  | case1 => rfl
  | case2 c s hdigit ih =>
    have hsplit : runs (c :: s) =
        (c :: s.takeWhile isDigit) :: runs (s.dropWhile isDigit) := by
      conv_lhs => rw [← List.takeWhile_append_dropWhile (p := isDigit) (l := s)]
      exact runs_digits (by simp) (isDigit_run hdigit s) (head?_dropWhile_isDigit s)
    rw [ih, runKeys, runKeys, hsplit, List.map_cons, runKey, if_pos hdigit]
  | case3 c s hother ih =>
    rw [Bool.not_eq_true] at hother
    rw [ih, runKeys, runKeys, runs_other hother, List.map_cons, runKey, if_neg (by simp [hother])]

/-- The natural order compares the keys of the runs, the first difference deciding and a beginning
coming before the whole. Without regard to case it is nothing else, and with regard to case it differs
only on texts that have the same keys. -/
theorem natural_compares_runs (a b : List Char) :
    natural true a b = List.compareLex Place.compare (runKeys a) (runKeys b) ∧
      (List.compareLex Place.compare (runKeys a) (runKeys b) ≠ .eq →
        natural false a b = List.compareLex Place.compare (runKeys a) (runKeys b)) := by
  have hcaseless : caseless a b = List.compareLex Place.compare (runKeys a) (runKeys b) := by
    rw [caseless_eq_compareLex, keys_eq_runKeys, keys_eq_runKeys]
  rw [← hcaseless]
  exact ⟨natural_true a b, fun hne => natural_of_ne hne false⟩

end Sorting
end ImportOrder
