import ImportOrder.Proofs.Alike
import ImportOrder.Proofs.Ordering

/-!
# ImportOrder.Proofs.StandardOrder

A policy without patterns orders imports by the standard pattern, the expression `^[^./]`: modules
of other projects first, all others in the last group. The two named groups say the same with two
tests of the first character. They part at the empty path only, and no statement has that one.

* `matchesIn_textStart_set`: a set at the start of a text matches just if it holds the first
  character.
* `index_standard`, `index_named`: both ways to write the groups put a path in the same one.
* `sort_standard_eq_named`: so they sort every text and every component alike.
-/

namespace ImportOrder

open Text

/-! ## A set at the start of a text -/

namespace Pattern

theorem any_zipWith_eq_false {α : Type} {f : α → Bool} {l : List α} {m : Marks}
    (h : (∀ x ∈ l, f x = false) ∨ m.any id = false) :
    (List.zipWith (fun x marked => marked && f x) l m).any id = false := by
  induction l generalizing m with
  | nil => rfl
  | cons x l ih =>
    cases m with
    | nil => rfl
    | cons b m =>
      rw [List.zipWith_cons_cons, List.any_cons, id, Bool.or_eq_false_iff, Bool.and_eq_false_iff]
      rcases h with h | h
      · exact ⟨.inr (h x List.mem_cons_self), ih (.inl fun y hy => h y (List.mem_cons_of_mem x hy))⟩
      · rw [List.any_cons, Bool.or_eq_false_iff] at h
        exact ⟨.inl h.1, ih (.inr h.2)⟩

namespace Regex

/-- Only the first place of a text is its start. -/
theorem run_textStart (c : Char) (s : List Char) :
    ∃ m : Marks, run (c :: s) (.look .textStart) (List.replicate ((c :: s).length + 1) true) =
      true :: m ∧ m.any id = false := by
  refine ⟨_, rfl, any_zipWith_eq_false
    (f := fun (p : Option Char × Option Char) => Look.textStart.holds p.1 p.2) (.inl ?_)⟩
  intro p hp
  obtain ⟨d, -, hd⟩ := List.mem_map.1 (List.of_mem_zip hp).1
  rw [Look.holds, ← hd]
  rfl

/-- The expression of a set behind the start of the text asks for the first character. -/
theorem matchesIn_textStart_set (set : CharSet) (text : List Char) :
    (Regex.seq (.look .textStart) (.seq (.set set) .empty)).matchesIn text =
      text.head?.any set.mem := by
  cases text with
  | nil => rfl
  | cons c s =>
    obtain ⟨m, hstart, hm⟩ := run_textStart c s
    have hrest : (List.zipWith (fun d marked => marked && set.mem d) s m).any id = false :=
      any_zipWith_eq_false (.inr hm)
    rw [matchesIn, run, hstart, run, run, run, List.zipWith_cons_cons, List.any_cons, List.any_cons,
      hrest]
    simp

end Regex

/-- What the standard pattern writes: any character but the two that lead to a module of the
project. -/
def standardSet : CharSet :=
  ⟨[(0, 45), (48, 0xD7FF), (0xE000, CharSet.lastCode)]⟩

theorem read?_standardPattern :
    read? Policy.standardPattern.toList =
      some (.seq (.look .textStart) (.seq (.set standardSet) .empty)) := by
  have hread : readText? Policy.standardPattern.toList =
      some (.seq (.look .textStart) (.seq (.set standardSet) .empty)) := by cbv
  have hsize :
      (Regex.seq (.look .textStart) (.seq (.set standardSet) .empty)).isBuildable = true := by
    decide +kernel
  rw [read?, hread, Option.filter_some, if_pos hsize]

theorem mem_standardSet (c : Char) : standardSet.mem c = !(c == '.' || c == '/') := by
  have hdot : c.toNat = 46 ↔ c = '.' := ⟨fun h => Char.toNat_inj.1 h, fun h => h ▸ rfl⟩
  have hslash : c.toNat = 47 ↔ c = '/' := ⟨fun h => Char.toNat_inj.1 h, fun h => h ▸ rfl⟩
  have hvalid : c.toNat < 0xD800 ∨ 0xDFFF < c.toNat ∧ c.toNat < 0x110000 := c.valid
  rw [Bool.eq_iff_iff]
  simp only [CharSet.mem, standardSet, inRanges, CharSet.lastCode, Bool.and_eq_true, Bool.or_eq_true,
    Bool.not_eq_true', Bool.or_eq_false_iff, decide_eq_true_eq, beq_eq_false_iff_ne, ne_eq, ← hdot,
    ← hslash]
  omega

end Pattern

/-! ## The groups of the standard pattern -/

namespace Policy

variable (p : Policy) {path : List Char}

theorem takes_standardPattern (path : List Char) :
    (PathGroup.ofPattern standardPattern).takes path =
      path.head?.any fun c => !(c == '.' || c == '/') := by
  have hnamed : standardPattern ≠ PathGroup.thirdPartyName ∧
      standardPattern ≠ PathGroup.ownModulesName := by decide
  have hmem : Pattern.standardSet.mem = fun c => !(c == '.' || c == '/') :=
    funext Pattern.mem_standardSet
  rw [PathGroup.ofPattern, if_neg hnamed.1, if_neg hnamed.2, Pattern.read?_standardPattern]
  simp only [PathGroup.takes, Pattern.Regex.matchesIn_textStart_set, hmem]

theorem index_standard (h : path ≠ []) :
    ({ p with order := [] } : Policy).grouping.index path = (isOwnPath path).toNat := by
  obtain ⟨c, s, rfl⟩ := List.exists_cons_of_ne_nil h
  rw [index_eq]
  simp only [patterns, List.isEmpty_nil, if_true, List.findIdx_cons, List.findIdx_nil,
    takes_standardPattern, List.head?_cons, Option.any_some, isOwnPath]
  cases (c == '.' || c == '/') <;> rfl

theorem index_named (path : List Char) :
    ({ p with order := [PathGroup.thirdPartyName, PathGroup.ownModulesName] } :
      Policy).grouping.index path = (isOwnPath path).toNat := by
  have hthird : PathGroup.ofPattern PathGroup.thirdPartyName = .thirdParty := rfl
  have hown : PathGroup.ofPattern PathGroup.ownModulesName = .ownModules := rfl
  rw [index_eq]
  simp only [patterns, List.isEmpty_cons, Bool.false_eq_true, if_false, List.findIdx_cons,
    List.findIdx_nil, hthird, hown, PathGroup.takes]
  cases isOwnPath path <;> rfl

end Policy

namespace Sorter

theorem alike_standard_named (p : Policy) :
    Alike (ofPolicy { p with order := [] })
      (ofPolicy { p with order := [PathGroup.thirdPartyName, PathGroup.ownModulesName] }) where
  separation := rfl
  ignoreCase := rfl
  sortNames := rfl
  index := fun _ hpath => (p.index_standard hpath).trans (p.index_named _).symm

end Sorter

/-- A policy without patterns sorts every text and every component as the policy with the two named
groups does. -/
theorem sort_standard_eq_named (p : Policy) :
    (∀ source, (Sorter.ofPolicy { p with order := [] }).sort source =
      (Sorter.ofPolicy
        { p with order := [PathGroup.thirdPartyName, PathGroup.ownModulesName] }).sort source) ∧
    ∀ document, Component.sort (.ofPolicy { p with order := [] }) document =
      Component.sort (.ofPolicy
        { p with order := [PathGroup.thirdPartyName, PathGroup.ownModulesName] }) document :=
  ⟨(Sorter.alike_standard_named p).sort, Component.sort_of_alike (Sorter.alike_standard_named p)⟩

end ImportOrder
