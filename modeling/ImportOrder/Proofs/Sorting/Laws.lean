import ImportOrder.Proofs.Sorting.Keys
import ImportOrder.Proofs.Sorting.Stable
import ImportOrder.Proofs.Text.Case

/-!
# ImportOrder.Proofs.Sorting.Laws

The natural order as an order. Without regard to case it is transitive, and so it is with regard to
case but for one thing: of a digraph's three forms the small comes before the capital, the capital
before the mixed form, and the mixed form before the small one. Three texts that differ first in these
go round in a circle (`InCircle`). `natural_laws` says that no other texts do.

The comparison by case is settled where two texts first differ, so a circle of three texts has all its
first differences at one place (`byCase_trans_or`). There one character is small and another a
capital, since the code points alone make no circle (`turn_of_caseOrder`).
-/

namespace ImportOrder
namespace Sorting

open Text

/-! ## First differences -/

/-- The order of two different characters. -/
def caseOrder (a b : Char) : Ordering :=
  if isSmall a && isCapital b then .lt
  else if isCapital a && isSmall b then .gt
  else compare a.toNat b.toNat

theorem byCase_cons_of_ne {a b : Char} (h : a ≠ b) (as bs : List Char) :
    byCase (a :: as) (b :: bs) = caseOrder a b := by
  rw [byCase, if_neg h, caseOrder]

theorem byCase_append (p a b : List Char) : byCase (p ++ a) (p ++ b) = byCase a b := by
  induction p with
  | nil => rfl
  | cons c p ih => rw [List.cons_append, List.cons_append, byCase, if_pos rfl, ih]

theorem caseOrder_ne_eq {a b : Char} (h : a ≠ b) : caseOrder a b ≠ .eq := by
  unfold caseOrder
  split
  · decide
  · split
    · decide
    · exact fun heq => h (Char.toNat_inj.1 (Nat.compare_eq_eq.1 heq))

theorem caseOrder_swap {a b : Char} (h : a ≠ b) : caseOrder b a = (caseOrder a b).swap := by
  have hswap := byCase_swap [a] [b]
  rwa [byCase_cons_of_ne h, byCase_cons_of_ne h.symm] at hswap

theorem ne_of_caseOrder_lt {a b : Char} (h : caseOrder a b = .lt) : a ≠ b := by
  rintro rfl
  have hnot := not_isSmall_and_isCapital a
  rw [← Bool.and_eq_true] at hnot
  rw [caseOrder, if_neg hnot, Bool.and_comm, if_neg hnot, Nat.compare_eq_eq.2 rfl] at h
  cases h

theorem byCase_eq_eq {a b : List Char} : byCase a b = .eq ↔ a = b := by
  induction a generalizing b with
  | nil => cases b <;> simp [byCase]
  | cons x xs ih =>
    cases b with
    | nil => simp [byCase]
    | cons y ys =>
      by_cases hxy : x = y
      · rw [byCase, if_pos hxy, ih, hxy]
        simp
      · simp [byCase_cons_of_ne hxy, caseOrder_ne_eq hxy, hxy]

/-- The comparison by case is transitive, unless three characters at one place go round. -/
theorem byCase_trans_or {a b c : List Char} (hab : byCase a b = .lt) (hbc : byCase b c = .lt) :
    byCase a c = .lt ∨ ∃ p x y z a' b' c', a = p ++ x :: a' ∧ b = p ++ y :: b' ∧ c = p ++ z :: c' ∧
      caseOrder x y = .lt ∧ caseOrder y z = .lt ∧ caseOrder z x = .lt := by
  induction a generalizing b c with
  | nil =>
    cases b with
    | nil => cases hab
    | cons y b' =>
      cases c with
      | nil => cases hbc
      | cons z c' => exact .inl rfl
  | cons x a' ih =>
    cases b with
    | nil => cases hab
    | cons y b' =>
      cases c with
      | nil => cases hbc
      | cons z c' =>
        by_cases hxy : x = y
        · subst hxy
          by_cases hxz : x = z
          · subst hxz
            rw [byCase, if_pos rfl] at hab hbc ⊢
            rcases ih hab hbc with hlt | ⟨p, x', y', z', a'', b'', c'', rfl, rfl, rfl, hcircle⟩
            · exact .inl hlt
            · exact .inr ⟨x :: p, x', y', z', a'', b'', c'', rfl, rfl, rfl, hcircle⟩
          · rw [byCase_cons_of_ne hxz] at hbc ⊢
            exact .inl hbc
        · rw [byCase_cons_of_ne hxy] at hab
          by_cases hyz : y = z
          · subst hyz
            rw [byCase_cons_of_ne hxy]
            exact .inl hab
          · rw [byCase_cons_of_ne hyz] at hbc
            have hxz : x ≠ z := by
              rintro rfl
              rw [caseOrder_swap hxy, hab] at hbc
              cases hbc
            rw [byCase_cons_of_ne hxz]
            cases hlast : caseOrder x z with
            | lt => exact .inl rfl
            | eq => exact absurd hlast (caseOrder_ne_eq hxz)
            | gt =>
              refine .inr ⟨[], x, y, z, a', b', c', rfl, rfl, rfl, hab, hbc, ?_⟩
              rw [caseOrder_swap hxz, hlast]
              rfl

/-! ## Circles of characters -/

/-- The three forms of a digraph in the order in which each comes before the next, from each of them
on. -/
def turns (d : Digraph) : List (Char × Char × Char) :=
  [(d.mixed, d.small, d.capital), (d.small, d.capital, d.mixed), (d.capital, d.mixed, d.small)]

theorem caseOrder_turns {d : Digraph} (hd : d ∈ digraphs) {t : Char × Char × Char}
    (ht : t ∈ turns d) :
    caseOrder t.1 t.2.1 = .lt ∧ caseOrder t.2.1 t.2.2 = .lt ∧ caseOrder t.2.2 t.1 = .lt := by
  have hall : ∀ d ∈ digraphs, ∀ t ∈ turns d, caseOrder t.1 t.2.1 = .lt ∧
      caseOrder t.2.1 t.2.2 = .lt ∧ caseOrder t.2.2 t.1 = .lt := by
    decide +kernel
  exact hall d hd t ht

theorem le_toNat_of_isCapital {c : Char} (h : isCapital c = true) : 65 ≤ c.toNat := by
  have hbelow : ∀ n < 65, inRuns n uppercaseRuns = false := by decide +kernel
  by_contra hlt
  rw [isCapital, hbelow c.toNat (by omega)] at h
  cases h

theorem isDigit_eq_false {c : Char} (h : 57 < c.toNat) : isDigit c = false := by
  rw [← Bool.not_eq_true]
  intro hdigit
  have := toNat_of_isDigit hdigit
  omega

theorem isDigit_of_isSmall {c : Char} (h : isSmall c = true) : isDigit c = false := by
  have hbelow : ∀ n < 58, inRuns n lowercaseRuns = false := by decide +kernel
  refine isDigit_eq_false ?_
  by_contra hlt
  rw [isSmall, hbelow c.toNat (by omega)] at h
  cases h

theorem smallCode_of_place {c : Char} {k : Nat} (h : place c = ⟨2, k⟩) : smallCode c = k := by
  unfold place at h
  split at h
  · cases h
  · split at h
    · cases h
      rfl
    · split at h
      · cases h
      · split at h <;> cases h

/-- A character behind a capital and before a small letter, though the small letter comes before the
capital: if all three have one place in the collation, they are forms of a digraph. -/
theorem digraph_of_caseOrder {s t m : Char} (hs : isSmall s = true) (ht : isCapital t = true)
    (htm : caseOrder t m = .lt) (hms : caseOrder m s = .lt)
    (hplace : isDigit m = false → isDigit t = false → place m = place s ∧ place t = place s) :
    ⟨s, m, t⟩ ∈ digraphs := by
  have hsmall : isSmall t = false := by
    rw [← Bool.not_eq_true]
    exact fun h => not_isSmall_and_isCapital t ⟨h, ht⟩
  have hm : isSmall m = false := by
    rw [← Bool.not_eq_true]
    intro h
    simp [caseOrder, hsmall, ht, h] at htm
  have hm' : isCapital m = false := by
    rw [← Bool.not_eq_true]
    intro h
    simp [caseOrder, hm, h, hs] at hms
  simp only [caseOrder, hsmall, hm, hm', hs, ht, Bool.false_and, Bool.and_false, Bool.and_true,
    Bool.false_eq_true, if_false, Nat.compare_eq_lt] at htm hms
  have hle := le_toNat_of_isCapital ht
  obtain ⟨hpm, hpt⟩ := hplace (isDigit_eq_false (by omega)) (isDigit_eq_false (by omega))
  have hps : place s = ⟨2, smallCode s⟩ := by
    rw [place, if_neg (by simp [isDigit_of_isSmall hs]), if_pos (isLetter_of_isSmall hs)]
  exact digraph_of_between hs ht hm' hms (smallCode_of_place (hpm.trans hps))
    (smallCode_of_place (hpt.trans hps))

/-- Characters that go round, each before the next, are the forms of a digraph in turn, if those of
them that are no digits have one place in the collation. -/
theorem turn_of_caseOrder {x y z : Char} (hxy : caseOrder x y = .lt) (hyz : caseOrder y z = .lt)
    (hzx : caseOrder z x = .lt)
    (hpxy : isDigit x = false → isDigit y = false → place x = place y)
    (hpyz : isDigit y = false → isDigit z = false → place y = place z)
    (hpzx : isDigit z = false → isDigit x = false → place z = place x) :
    ∃ d ∈ digraphs, (x, y, z) ∈ turns d := by
  by_cases hinv : (isSmall x && isCapital y) = true
  · rw [Bool.and_eq_true] at hinv
    have hx := isDigit_of_isSmall hinv.1
    exact ⟨_, digraph_of_caseOrder hinv.1 hinv.2 hyz hzx fun hz hy =>
      ⟨hpzx hz hx, (hpxy hx hy).symm⟩, by simp [turns]⟩
  · by_cases hinv' : (isSmall y && isCapital z) = true
    · rw [Bool.and_eq_true] at hinv'
      have hy := isDigit_of_isSmall hinv'.1
      exact ⟨_, digraph_of_caseOrder hinv'.1 hinv'.2 hzx hxy fun hx hz =>
        ⟨hpxy hx hy, (hpyz hy hz).symm⟩, by simp [turns]⟩
    · by_cases hinv'' : (isSmall z && isCapital x) = true
      · rw [Bool.and_eq_true] at hinv''
        have hz := isDigit_of_isSmall hinv''.1
        exact ⟨_, digraph_of_caseOrder hinv''.1 hinv''.2 hxy hyz fun hy hx =>
          ⟨hpyz hy hz, (hpzx hz hx).symm⟩, by simp [turns]⟩
      · -- without a small letter before a capital all three go by code point
        have code : ∀ {a b : Char}, caseOrder a b = .lt → ¬(isSmall a && isCapital b) = true →
            a.toNat < b.toNat := by
          intro a b h hnot
          rw [caseOrder, if_neg hnot] at h
          split at h
          · cases h
          · exact Nat.compare_eq_lt.1 h
        have h₁ := code hxy hinv
        have h₂ := code hyz hinv'
        have h₃ := code hzx hinv''
        omega

/-! ## Texts -/

/-- Where texts with the same keys first differ, the two characters have one place in the collation
unless one of them is a digit. -/
theorem place_eq_of_keys {p a b : List Char} {x y : Char} (hx : isDigit x = false)
    (hy : isDigit y = false) (h : keys (p ++ x :: a) = keys (p ++ y :: b)) : place x = place y := by
  have hskip : ∀ (p s : List Char) {c : Char}, isDigit c = false →
      (p ++ c :: s).dropWhile isDigit = p.dropWhile isDigit ++ c :: s := by
    intro p s c hc
    induction p with
    | nil => simp [hc]
    | cons d p ih =>
      rw [List.cons_append, List.dropWhile_cons, List.dropWhile_cons, ih]
      split <;> rfl
  -- the keys are read along the common front, a run of digits at a time
  induction hn : p.length using Nat.strong_induction_on generalizing p with
  | _ n ih =>
    cases p with
    | nil =>
      rw [List.nil_append, List.nil_append, keys_other hx, keys_other hy] at h
      exact (List.cons.inj h).1
    | cons c p =>
      rw [List.length_cons] at hn
      cases hc : isDigit c with
      | true =>
        rw [List.cons_append, List.cons_append, keys_digit hc, keys_digit hc, hskip p a hx,
          hskip p b hy] at h
        have hle := length_dropWhile_le isDigit p
        exact ih _ (by omega) (List.cons.inj h).2 rfl
      | false =>
        rw [List.cons_append, List.cons_append, keys_other hc, keys_other hc] at h
        exact ih _ (by omega) (List.cons.inj h).2 rfl

/-- Texts that agree, case apart, and whose first difference is in the forms of a digraph, each of
which comes before the next. -/
def InCircle (a b c : List Char) : Prop :=
  caseless a b = .eq ∧ caseless b c = .eq ∧
    ∃ p a' b' c', ∃ d ∈ digraphs, ∃ t ∈ turns d,
      a = p ++ t.1 :: a' ∧ b = p ++ t.2.1 :: b' ∧ c = p ++ t.2.2 :: c'

theorem natural_true (a b : List Char) : natural true a b = caseless a b := by
  rw [natural]
  split
  · rename_i h
    rw [h]
    rfl
  · rfl

theorem natural_false_of_eq {a b : List Char} (h : caseless a b = .eq) :
    natural false a b = byCase a b := by
  rw [natural, h]
  rfl

theorem natural_of_ne {a b : List Char} (h : caseless a b ≠ .eq) (ignoreCase : Bool) :
    natural ignoreCase a b = caseless a b := by
  rw [natural]
  split
  · rename_i heq
    exact absurd heq h
  · rfl

theorem natural_self (ignoreCase : Bool) (a : List Char) : natural ignoreCase a a = .eq := by
  have hself : caseless a a = .eq := caseless_eq_eq.2 rfl
  cases ignoreCase with
  | true => rw [natural_true, hself]
  | false => rw [natural_false_of_eq hself, byCase_eq_eq]

theorem natural_false_eq_eq {a b : List Char} : natural false a b = .eq ↔ a = b := by
  constructor
  · intro h
    by_cases heq : caseless a b = .eq
    · rwa [natural_false_of_eq heq, byCase_eq_eq] at h
    · rw [natural_of_ne heq] at h
      exact absurd h heq
  · rintro rfl
    exact natural_self false a

theorem isLE_caseless {ignoreCase : Bool} {a b : List Char}
    (h : (natural ignoreCase a b).isLE = true) : (caseless a b).isLE = true := by
  by_cases heq : caseless a b = .eq
  · rw [heq]
    rfl
  · rwa [natural_of_ne heq] at h

theorem InCircle.not_trans {a b c : List Char} (h : InCircle a b c) :
    natural false a b = .lt ∧ natural false b c = .lt ∧ natural false a c = .gt := by
  obtain ⟨hab, hbc, p, a', b', c', d, hd, t, ht, rfl, rfl, rfl⟩ := h
  have hac := Std.TransCmp.eq_trans hab hbc
  obtain ⟨hxy, hyz, hzx⟩ := caseOrder_turns hd ht
  rw [natural_false_of_eq hab, natural_false_of_eq hbc, natural_false_of_eq hac, byCase_append,
    byCase_append, byCase_append, byCase_cons_of_ne (ne_of_caseOrder_lt hxy),
    byCase_cons_of_ne (ne_of_caseOrder_lt hyz), byCase_cons_of_ne (ne_of_caseOrder_lt hzx).symm,
    caseOrder_swap (ne_of_caseOrder_lt hzx), hzx]
  exact ⟨hxy, hyz, rfl⟩

/-- Of texts that agree at both ends of a chain, those in between agree too. -/
theorem caseless_eq_of_ends {a b c : List Char} (hab : (caseless a b).isLE = true)
    (hbc : (caseless b c).isLE = true) (hac : caseless a c = .eq) :
    caseless a b = .eq ∧ caseless b c = .eq := by
  have eq_of_not_lt : ∀ {o : Ordering}, o.isLE = true → o ≠ .lt → o = .eq := by
    intro o hle hne
    cases o with
    | lt => exact absurd rfl hne
    | eq => rfl
    | gt => cases hle
  refine ⟨eq_of_not_lt hab fun hlt => ?_, eq_of_not_lt hbc fun hlt => ?_⟩
  · rw [Std.TransCmp.lt_of_lt_of_isLE hlt hbc] at hac
    cases hac
  · rw [Std.TransCmp.lt_of_isLE_of_lt hab hlt] at hac
    cases hac

theorem inCircle_of_not_trans {a b c : List Char} (hab : (natural false a b).isLE = true)
    (hbc : (natural false b c).isLE = true) (hac : natural false a c = .gt) : InCircle a b c := by
  have hle := Std.TransCmp.isLE_trans (isLE_caseless hab) (isLE_caseless hbc)
  have heq : caseless a c = .eq := by
    by_contra hne
    rw [natural_of_ne hne] at hac
    rw [hac] at hle
    cases hle
  obtain ⟨heq', heq''⟩ := caseless_eq_of_ends (isLE_caseless hab) (isLE_caseless hbc) heq
  rw [natural_false_of_eq heq'] at hab
  rw [natural_false_of_eq heq''] at hbc
  rw [natural_false_of_eq heq] at hac
  have lt_of_ne : ∀ {a b : List Char}, (byCase a b).isLE = true → a ≠ b → byCase a b = .lt := by
    intro a b hle hne
    cases h : byCase a b with
    | lt => rfl
    | eq => exact absurd (byCase_eq_eq.1 h) hne
    | gt =>
      rw [h] at hle
      cases hle
  have hlt := lt_of_ne hab fun h => by rw [h] at hab hac; rw [hac] at hbc; cases hbc
  have hlt' := lt_of_ne hbc fun h => by rw [h, hac] at hab; cases hab
  rcases byCase_trans_or hlt hlt' with h | ⟨p, x, y, z, a', b', c', rfl, rfl, rfl, hxy, hyz, hzx⟩
  · rw [hac] at h
    cases h
  · have hkeys := caseless_eq_eq.1 heq'
    have hkeys' := caseless_eq_eq.1 heq''
    have hkeys'' := caseless_eq_eq.1 heq
    obtain ⟨d, hd, ht⟩ := turn_of_caseOrder hxy hyz hzx
      (fun hx hy => place_eq_of_keys hx hy hkeys) (fun hy hz => place_eq_of_keys hy hz hkeys')
      (fun hz hx => place_eq_of_keys hz hx hkeys''.symm)
    exact ⟨heq', heq'', p, a', b', c', d, hd, _, ht, rfl, rfl, rfl⟩

theorem natural_true_trans {a b c : List Char} (hab : (natural true a b).isLE = true)
    (hbc : (natural true b c).isLE = true) : (natural true a c).isLE = true := by
  rw [natural_true] at hab hbc ⊢
  exact Std.TransCmp.isLE_trans hab hbc

theorem natural_trans {ignoreCase : Bool} {a b c : List Char}
    (h : ignoreCase = true ∨ ¬ InCircle a b c) (hab : (natural ignoreCase a b).isLE = true)
    (hbc : (natural ignoreCase b c).isLE = true) : (natural ignoreCase a c).isLE = true := by
  cases ignoreCase with
  | true => exact natural_true_trans hab hbc
  | false =>
    have hnot : ¬ InCircle a b c := h.resolve_left Bool.false_ne_true
    cases hac : natural false a c with
    | lt => rfl
    | eq => rfl
    | gt => exact absurd (inCircle_of_not_trans hab hbc hac) hnot

/-- The natural order of some texts need be transitive only with regard to case. -/
theorem transOn_of_case {ignoreCase : Bool} {texts : List (List Char)}
    (h : ignoreCase = false → TransOn (natural false) texts) :
    TransOn (natural ignoreCase) texts := by
  cases ignoreCase with
  | false => exact h rfl
  | true => exact fun a _ b _ c _ => natural_true_trans

/-- The laws of the natural order. It is transitive but for texts in a circle, which there are only
with regard to case. -/
theorem natural_laws (ignoreCase : Bool) (a b c : List Char) :
    natural ignoreCase a a = .eq ∧
    natural ignoreCase b a = (natural ignoreCase a b).swap ∧
    (natural false a b = .eq ↔ a = b) ∧
    (((natural ignoreCase a b).isLE = true → (natural ignoreCase b c).isLE = true →
      (natural ignoreCase a c).isLE = true) ↔ (ignoreCase = true ∨ ¬ InCircle a b c)) := by
  refine ⟨natural_self ignoreCase a, natural_swap ignoreCase a b, natural_false_eq_eq, ?_,
    natural_trans⟩
  intro htrans
  cases ignoreCase with
  | true => exact .inl rfl
  | false =>
    refine .inr fun hcircle => ?_
    obtain ⟨hab, hbc, hac⟩ := hcircle.not_trans
    have hle := htrans (by rw [hab]; rfl) (by rw [hbc]; rfl)
    rw [hac] at hle
    cases hle

/-- The three forms of a digraph by themselves. -/
theorem natural_not_trans :
    natural false ['ǅ'] ['ǆ'] = .lt ∧ natural false ['ǆ'] ['Ǆ'] = .lt ∧
      natural false ['ǅ'] ['Ǆ'] = .gt := by
  decide +kernel

end Sorting
end ImportOrder
