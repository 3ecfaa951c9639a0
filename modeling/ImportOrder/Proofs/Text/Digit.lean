import Mathlib.Tactic.Ring
import ImportOrder.Text.Ranges

/-!
# ImportOrder.Proofs.Text.Digit

The numbers that runs of digits write. The first digit of a run counts for a power of ten
(`decimalValue_cons`), so a run writes less than the power of its length (`decimalValue_lt`), and at
least the power below it unless it starts with a zero (`pow_le_decimalValue`).
-/

namespace ImportOrder
namespace Text

theorem toNat_of_isDigit {c : Char} (h : isDigit c = true) : 48 ≤ c.toNat ∧ c.toNat ≤ 57 := by
  simp only [isDigit, Bool.and_eq_true, decide_eq_true_eq] at h
  exact h

theorem decimalValue_cons (c : Char) (s : List Char) :
    decimalValue (c :: s) = (c.toNat - 48) * 10 ^ s.length + decimalValue s := by
  have go : ∀ (s : List Char) (acc : Nat),
      s.foldl (fun acc c => 10 * acc + (c.toNat - 48)) acc =
        acc * 10 ^ s.length + decimalValue s := by
    intro s
    induction s with
    | nil => simp [decimalValue]
    | cons d s ih =>
      intro acc
      have hvalue : decimalValue (d :: s) = (d.toNat - 48) * 10 ^ s.length + decimalValue s := by
        rw [decimalValue, List.foldl_cons, ih]
        simp
      rw [List.foldl_cons, ih, hvalue, List.length_cons]
      ring
  rw [decimalValue, List.foldl_cons, go]
  simp

theorem decimalValue_lt {s : List Char} (h : ∀ c ∈ s, isDigit c = true) :
    decimalValue s < 10 ^ s.length := by
  induction s with
  | nil => simp [decimalValue]
  | cons c s ih =>
    have hc := toNat_of_isDigit (h c List.mem_cons_self)
    have hs := ih fun d hd => h d (List.mem_cons_of_mem c hd)
    have hfirst : (c.toNat - 48) * 10 ^ s.length ≤ 9 * 10 ^ s.length :=
      Nat.mul_le_mul_right _ (by omega)
    rw [decimalValue_cons, List.length_cons, Nat.pow_succ]
    omega

theorem decimalValue_dropZeros (s : List Char) :
    decimalValue (s.dropWhile (· == '0')) = decimalValue s := by
  induction s with
  | nil => rfl
  | cons c s ih =>
    rw [List.dropWhile_cons]
    split
    · rename_i hc
      rw [ih, decimalValue_cons, beq_iff_eq.1 hc]
      simp
    · rfl

theorem pow_le_decimalValue {c : Char} (hc : isDigit c = true) (hne : c ≠ '0') (s : List Char) :
    10 ^ s.length ≤ decimalValue (c :: s) := by
  have hcode : c.toNat ≠ 48 := fun h => hne (Char.toNat_inj.1 h)
  have hbounds := toNat_of_isDigit hc
  have hfirst : 1 * 10 ^ s.length ≤ (c.toNat - 48) * 10 ^ s.length :=
    Nat.mul_le_mul_right _ (by omega)
  rw [decimalValue_cons]
  omega

end Text
end ImportOrder
