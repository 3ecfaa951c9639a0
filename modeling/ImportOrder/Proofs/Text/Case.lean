import Mathlib.Data.List.Chain
import ImportOrder.Proofs.Sorting.Natural

/-!
# ImportOrder.Proofs.Text.Case

Letters between small and capital. The digraphs that Unicode has as single characters have a third
form, with only the first part a capital, which is neither small nor a capital. They are the only
letters whose third form lies, by code point, between a capital and the small form
(`digraph_of_between`).
-/

namespace ImportOrder
namespace Text

/-- The three forms of a digraph. -/
structure Digraph where
  small : Char
  mixed : Char
  capital : Char
  deriving Repr, DecidableEq

def digraphs : List Digraph :=
  [⟨'ǆ', 'ǅ', 'Ǆ'⟩, ⟨'ǉ', 'ǈ', 'Ǉ'⟩, ⟨'ǌ', 'ǋ', 'Ǌ'⟩, ⟨'ǳ', 'ǲ', 'Ǳ'⟩]

/-- What the tables say of the three forms. -/
structure Digraph.Listed (d : Digraph) : Prop where
  small : isSmall d.small = true
  capital : isCapital d.capital = true
  mixed : isSmall d.mixed = false ∧ isCapital d.mixed = false
  mixed_form : smallCode d.mixed = d.small.toNat
  capital_lt_mixed : d.capital.toNat < d.mixed.toNat
  mixed_lt_small : d.mixed.toNat < d.small.toNat

theorem listed_of_mem {d : Digraph} (h : d ∈ digraphs) : d.Listed := by
  have hall : ∀ d ∈ digraphs, isSmall d.small = true ∧ isCapital d.capital = true ∧
      (isSmall d.mixed = false ∧ isCapital d.mixed = false) ∧
      smallCode d.mixed = d.small.toNat ∧ d.capital.toNat < d.mixed.toNat ∧
      d.mixed.toNat < d.small.toNat := by
    decide +kernel
  obtain ⟨hsmall, hcapital, hmixed, hform, hlt, hlt'⟩ := hall d h
  exact ⟨hsmall, hcapital, hmixed, hform, hlt, hlt'⟩

/-! ## Runs inside runs -/

/-- The runs of a table start one behind the other. -/
def Ascending (runs : List Run) : Prop :=
  runs.IsChain fun r r' => r.first ≤ r'.first

instance (runs : List Run) : Decidable (Ascending runs) :=
  inferInstanceAs (Decidable (runs.IsChain fun r r' => r.first ≤ r'.first))

/-- A look-up in an ascending table finds every code point of its runs. -/
theorem inRuns_of_mem {runs : List Run} (h : Ascending runs) {r : Run} (hr : r ∈ runs) {n : Nat}
    (hn : r.contains n = true) : inRuns n runs = true := by
  have hfirst : r.first ≤ n := by
    simp only [Run.contains, Bool.and_eq_true, decide_eq_true_eq] at hn
    exact hn.1.1
  induction runs with
  | nil => cases hr
  | cons r' runs ih =>
    simp only [inRuns, Bool.and_eq_true, Bool.or_eq_true, decide_eq_true_eq]
    rcases List.mem_cons.1 hr with rfl | hr
    · exact ⟨hfirst, .inl hn⟩
    · have hle : r'.first ≤ r.first :=
        List.rel_of_pairwise_cons (List.isChain_iff_pairwise.1 h) hr
      exact ⟨by omega, .inr (ih h.tail hr)⟩

theorem exists_run_of_inRuns {n : Nat} {runs : List Run} (h : inRuns n runs = true) :
    ∃ r ∈ runs, r.contains n = true := by
  induction runs with
  | nil => cases h
  | cons r runs ih =>
    simp only [inRuns, Bool.and_eq_true, Bool.or_eq_true] at h
    rcases h.2 with hr | hmore
    · exact ⟨r, List.mem_cons_self, hr⟩
    · obtain ⟨r', hmem, hr'⟩ := ih hmore
      exact ⟨r', List.mem_cons_of_mem r hmem, hr'⟩

/-- All code points of the run are code points of the other. -/
def Run.within (r r' : Run) : Bool :=
  r'.first ≤ r.first && r.last ≤ r'.last && (r.first - r'.first) % r'.step == 0 &&
    (r.first == r.last || r.step % r'.step == 0)

theorem Run.contains_of_within {r r' : Run} (h : r.within r' = true) {n : Nat}
    (hn : r.contains n = true) : r'.contains n = true := by
  simp only [Run.within, Run.contains, Bool.and_eq_true, Bool.or_eq_true, decide_eq_true_eq,
    beq_iff_eq] at h hn ⊢
  obtain ⟨⟨⟨hfirst, hlast⟩, hstart⟩, hstep⟩ := h
  obtain ⟨⟨hn, hn'⟩, hmod⟩ := hn
  have hsplit : n - r'.first = (n - r.first) + (r.first - r'.first) := by omega
  have hdvd : r'.step ∣ n - r.first := by
    rcases hstep with hone | hdvd
    · rw [show n - r.first = 0 by omega]
      exact Nat.dvd_zero _
    · exact Nat.dvd_trans (Nat.dvd_of_mod_eq_zero hdvd) (Nat.dvd_of_mod_eq_zero hmod)
  refine ⟨⟨by omega, by omega⟩, ?_⟩
  rw [hsplit]
  exact Nat.mod_eq_zero_of_dvd (Nat.dvd_add hdvd (Nat.dvd_of_mod_eq_zero hstart))

/-- The runs of the first table that are not found inside a run of the second, when both are walked
through together. -/
def outsideRuns : List Run → List Run → List Run
  | [], _ => []
  | r :: runs, others =>
    let rest := others.dropWhile fun r' => r'.last < r.first
    if rest.head?.any r.within then outsideRuns runs rest else r :: outsideRuns runs rest

theorem mem_outsideRuns_or {runs : List Run} {r : Run} (h : r ∈ runs) (others : List Run) :
    r ∈ outsideRuns runs others ∨ ∃ r' ∈ others, r.within r' = true := by
  induction runs generalizing others with
  | nil => cases h
  | cons r₀ runs ih =>
    have hsuffix := List.dropWhile_suffix (l := others) fun r' => r'.last < r₀.first
    have later : r ∈ runs →
        r ∈ outsideRuns runs (others.dropWhile fun r' => r'.last < r₀.first) ∨
          ∃ r' ∈ others, r.within r' = true := by
      intro hr
      rcases ih hr _ with hout | ⟨r', hr', hwithin⟩
      · exact .inl hout
      · exact .inr ⟨r', hsuffix.subset hr', hwithin⟩
    rw [outsideRuns]
    split
    · rename_i hfound
      rcases List.mem_cons.1 h with rfl | hr
      · obtain ⟨r', hhead, hwithin⟩ := (Option.any_eq_true ..).1 hfound
        exact .inr ⟨r', hsuffix.subset (List.mem_of_head? hhead), hwithin⟩
      · exact later hr
    · rcases List.mem_cons.1 h with rfl | hr
      · exact .inl List.mem_cons_self
      · rcases later hr with hout | hwithin
        · exact .inl (List.mem_cons_of_mem _ hout)
        · exact .inr hwithin

/-- What the runs of a table hold is found in a second table, if none of them lies outside. -/
theorem inRuns_or_mem_outsideRuns {runs others : List Run} (h : Ascending others) {r : Run}
    (hr : r ∈ runs) {n : Nat} (hn : r.contains n = true) :
    inRuns n others = true ∨ r ∈ outsideRuns runs others := by
  rcases mem_outsideRuns_or hr others with hout | ⟨r', hr', hwithin⟩
  · exact .inr hout
  · exact .inl (inRuns_of_mem h hr' (Run.contains_of_within hwithin hn))

/-- The code points of a run, each as a run of its own. -/
def Run.singles (r : Run) : List Run :=
  (List.range ((r.last - r.first) / r.step + 1)).map fun i =>
    ⟨r.first + i * r.step, r.first + i * r.step, 1⟩

theorem Run.mem_singles {r : Run} {n : Nat} (h : r.contains n = true) : ⟨n, n, 1⟩ ∈ r.singles := by
  simp only [Run.contains, Bool.and_eq_true, decide_eq_true_eq, beq_iff_eq] at h
  obtain ⟨⟨hfirst, hlast⟩, hstep⟩ := h
  have hn : r.first + (n - r.first) / r.step * r.step = n := by
    have := Nat.div_add_mod (n - r.first) r.step
    rw [hstep, Nat.mul_comm] at this
    omega
  have hle : (n - r.first) / r.step ≤ (r.last - r.first) / r.step :=
    Nat.div_le_div_right (by omega)
  exact List.mem_map.2 ⟨(n - r.first) / r.step, List.mem_range.2 (by omega), by rw [hn]⟩

/-- The ranges of a table as runs. -/
def rangeRuns (ranges : List (Nat × Nat)) : List Run :=
  ranges.map fun p => ⟨p.1, p.2, 1⟩

theorem inRuns_rangeRuns (n : Nat) (ranges : List (Nat × Nat)) :
    inRuns n (rangeRuns ranges) = inRanges n ranges := by
  induction ranges with
  | nil => rfl
  | cons range ranges ih =>
    rw [rangeRuns, List.map_cons, inRuns, ← rangeRuns, ih, inRanges]
    by_cases h : range.1 ≤ n
    · simp [Run.contains, h, Nat.mod_one]
    · simp [h]

theorem isLetter_of_isSmall {c : Char} (h : isSmall c = true) : isLetter c = true := by
  have hinside : outsideRuns lowercaseRuns (rangeRuns alphabeticRanges) = [] := by
    decide +kernel
  have hascending : Ascending (rangeRuns alphabeticRanges) := by
    decide +kernel
  obtain ⟨r, hmem, hr⟩ := exists_run_of_inRuns h
  rcases inRuns_or_mem_outsideRuns hascending hmem hr with hin | hout
  · rwa [inRuns_rangeRuns] at hin
  · rw [hinside] at hout
    cases hout

/-! ## Small forms -/

/-- A code point stays where it is, or one of the table's runs moves it. -/
theorem shifted_cases (n : Nat) (shifts : List Shift) :
    shifted n shifts = n ∨
      ∃ s ∈ shifts, s.contains n = true ∧ shifted n shifts = ((n : Int) + s.distance).toNat := by
  induction shifts with
  | nil => exact .inl rfl
  | cons s rest ih =>
    rw [shifted]
    split
    · exact .inl rfl
    · split
      · rename_i hcontains
        exact .inr ⟨s, List.mem_cons_self, hcontains, rfl⟩
      · rcases ih with heq | ⟨s', hmem, hs'⟩
        · exact .inl heq
        · exact .inr ⟨s', List.mem_cons_of_mem s hmem, hs'⟩

theorem smallCode_of_isSmall {c : Char} (h : isSmall c = true) : smallCode c = c.toNat := by
  have htables : apartRuns lowercaseRuns (lowercaseShifts.map (·.toRun)) = true := by
    decide +kernel
  have hascending : Ascending (lowercaseShifts.map (·.toRun)) := by
    decide +kernel
  rcases shifted_cases c.toNat lowercaseShifts with heq | ⟨s, hs, hcontains, -⟩
  · exact heq
  · have hin := inRuns_of_mem hascending (List.mem_map.2 ⟨s, hs, rfl⟩) hcontains
    rw [not_inRuns_of_apartRuns htables h] at hin
    cases hin

/-- The runs that the table of small forms moves up. -/
def movedUp : List Run :=
  (lowercaseShifts.filter (0 < ·.distance)).map (·.toRun)

/-- What has a small form behind itself is a capital or the third form of a digraph. -/
theorem isCapital_or_mixed {c : Char} (h : c.toNat < smallCode c) :
    isCapital c = true ∨ ∃ d ∈ digraphs, c = d.mixed := by
  have houtside : outsideRuns ((outsideRuns movedUp uppercaseRuns).flatMap Run.singles)
      uppercaseRuns = digraphs.map fun d => ⟨d.mixed.toNat, d.mixed.toNat, 1⟩ := by
    decide +kernel
  have hascending : Ascending uppercaseRuns := by
    decide +kernel
  rcases shifted_cases c.toNat lowercaseShifts with heq | ⟨s, hs, hcontains, hmoved⟩
  · rw [smallCode, heq] at h
    omega
  · have hup : s.toRun ∈ movedUp := by
      refine List.mem_map.2 ⟨s, List.mem_filter.2 ⟨hs, ?_⟩, rfl⟩
      rw [smallCode, hmoved] at h
      rw [decide_eq_true_eq]
      omega
    rcases inRuns_or_mem_outsideRuns hascending hup hcontains with hin | hout
    · exact .inl hin
    · -- the run is not a run of capitals as a whole, so its code points are looked up one by one
      have hsingle := List.mem_flatMap.2 ⟨s.toRun, hout, Run.mem_singles hcontains⟩
      rcases inRuns_or_mem_outsideRuns hascending hsingle (n := c.toNat) (by simp [Run.contains])
        with hin | hout'
      · exact .inl hin
      · rw [houtside] at hout'
        obtain ⟨d, hd, heq⟩ := List.mem_map.1 hout'
        simp only [Run.mk.injEq, and_true, and_self] at heq
        exact .inr ⟨d, hd, (Char.toNat_inj.1 heq).symm⟩

/-- To the small form of a digraph only the other two forms are moved. -/
theorem form_of_digraph {d : Digraph} (hd : d ∈ digraphs) {c : Char}
    (h : smallCode c = d.small.toNat) : c = d.small ∨ c = d.mixed ∨ c = d.capital := by
  have htable : (digraphs.all fun d => lowercaseShifts.all fun s =>
      let n := ((d.small.toNat : Int) - s.distance).toNat
      !s.contains n || n == d.mixed.toNat || n == d.capital.toNat) = true := by
    decide +kernel
  rcases shifted_cases c.toNat lowercaseShifts with heq | ⟨s, hs, hcontains, hmoved⟩
  · exact .inl (Char.toNat_inj.1 (heq.symm.trans h))
  · have hfrom : ((d.small.toNat : Int) - s.distance).toNat = c.toNat := by
      have hpos : 0 < smallCode c := by
        have := (listed_of_mem hd).mixed_lt_small
        omega
      rw [← h]
      rw [smallCode, hmoved] at hpos ⊢
      omega
    have hrow := List.all_eq_true.1 (List.all_eq_true.1 htable d hd) s hs
    simp only [hfrom, hcontains, Bool.not_true, Bool.false_or, Bool.or_eq_true, beq_iff_eq] at hrow
    rcases hrow with hmixed | hcapital
    · exact .inr (.inl (Char.toNat_inj.1 hmixed))
    · exact .inr (.inr (Char.toNat_inj.1 hcapital))

/-- A letter between a small letter and a capital of the same small form, and none of the two
itself, is the third form of a digraph. -/
theorem digraph_of_between {s m t : Char} (hs : isSmall s = true) (ht : isCapital t = true)
    (hm : isCapital m = false) (hlt : m.toNat < s.toNat) (hsm : smallCode m = smallCode s)
    (hst : smallCode t = smallCode s) : ⟨s, m, t⟩ ∈ digraphs := by
  have hself := smallCode_of_isSmall hs
  rw [hself] at hsm hst
  rcases isCapital_or_mixed (c := m) (by omega) with hcapital | ⟨d, hd, rfl⟩
  · rw [hm] at hcapital
    cases hcapital
  · have hsmall : d.small = s :=
      Char.toNat_inj.1 ((listed_of_mem hd).mixed_form.symm.trans hsm)
    subst hsmall
    rcases form_of_digraph hd hst with rfl | rfl | rfl
    · exact absurd ⟨hs, ht⟩ (not_isSmall_and_isCapital _)
    · rw [hm] at ht
      cases ht
    · exact hd

end Text
end ImportOrder
