import ImportOrder.Proofs.Alike
import ImportOrder.Proofs.Command.Selection

/-!
# ImportOrder.Proofs.Host

What the integration does with a document before the host parses it. A component is sorted and
passed to the companion unless one of the globs of its policy excludes it, and every other document
stays as it is (`preprocess_of_handles`, `preprocess_of_not_handles`).

A list of globs is read as a whole. One wrong glob takes all others with it, so that files which
they exclude are sorted. `preprocess_readable_iff` compares a list with the one in which only its
globs are left.
-/

namespace ImportOrder

open Pattern.Glob

namespace Exclude

/-- The patterns of a list that are globs. -/
def readable (patterns : List String) : List String :=
  patterns.filter fun pattern => (Pattern.Glob.read pattern.toList).toBool

theorem mem_readable_iff {patterns : List String} {pattern : String} :
    pattern ∈ readable patterns ↔
      pattern ∈ patterns ∧ ∃ glob, Pattern.Glob.read pattern.toList = .ok glob := by
  rw [readable, List.mem_filter]
  refine and_congr_right fun _ => ?_
  cases Pattern.Glob.read pattern.toList <;> simp [Except.toBool]

theorem not_anyWrong_readable (patterns : List String) : ¬AnyWrong (readable patterns) := by
  rintro ⟨pattern, hpattern, e, he⟩
  obtain ⟨-, glob, hglob⟩ := mem_readable_iff.1 hpattern
  cases hglob.symm.trans he

/-- The patterns that are no globs fit nothing. -/
theorem anyFits_readable_iff {patterns : List String} {path : List Char} :
    AnyFits (readable patterns) path ↔ AnyFits patterns path := by
  constructor
  · rintro ⟨pattern, hpattern, hfits⟩
    exact ⟨pattern, (mem_readable_iff.1 hpattern).1, hfits⟩
  · rintro ⟨pattern, hpattern, glob, hglob, hfits⟩
    exact ⟨pattern, mem_readable_iff.2 ⟨hpattern, glob, hglob⟩, glob, hglob, hfits⟩

end Exclude

namespace Host

/-- The context with the globs of its policy only. -/
def Context.readable (ctx : Context) : Context :=
  { ctx with policy := { ctx.policy with exclude := Exclude.readable ctx.policy.exclude } }

/-- The document is a component that the globs do not exclude. A list with a wrong glob excludes
nothing. -/
def Context.Handles (ctx : Context) : Prop :=
  ∃ path, ctx.filepath = some path ∧ Path.isComponent path = true ∧
    (AnyWrong ctx.policy.exclude ∨ ¬AnyFits ctx.policy.exclude path)

/-- The document is a component that a glob excludes, in a list with a wrong glob. -/
def Context.Overlooks (ctx : Context) : Prop :=
  ∃ path, ctx.filepath = some path ∧ Path.isComponent path = true ∧
    AnyWrong ctx.policy.exclude ∧ AnyFits ctx.policy.exclude path

theorem handles_iff_readable {ctx : Context} :
    ctx.Handles ↔ ctx.readable.Handles ∨ ctx.Overlooks := by
  have hright := Exclude.not_anyWrong_readable ctx.policy.exclude
  simp only [Context.Handles, Context.Overlooks, Context.readable, hright, false_or,
    Exclude.anyFits_readable_iff]
  constructor
  · rintro ⟨path, hpath, hkind, hor⟩
    by_cases hfits : AnyFits ctx.policy.exclude path
    · exact .inr ⟨path, hpath, hkind, hor.resolve_right (not_not_intro hfits), hfits⟩
    · exact .inl ⟨path, hpath, hkind, hfits⟩
  · rintro (⟨path, hpath, hkind, hfits⟩ | ⟨path, hpath, hkind, hwrong, -⟩)
    · exact ⟨path, hpath, hkind, .inr hfits⟩
    · exact ⟨path, hpath, hkind, .inl hwrong⟩

theorem Context.Overlooks.not_handles_readable {ctx : Context} (h : ctx.Overlooks) :
    ¬ctx.readable.Handles := by
  obtain ⟨path, hpath, -, -, hfits⟩ := h
  rintro ⟨path', hpath', -, hwrong | hnot⟩
  · exact Exclude.not_anyWrong_readable _ hwrong
  · cases hpath.symm.trans hpath'
    exact hnot (Exclude.anyFits_readable_iff.2 hfits)

namespace Plugin

variable {Ast : Type} (p : Plugin Ast) (ctx : Context) (source : List Char)

/-- Sorts a document and passes it to the companion, if there is one. -/
def handle : Except HostError (List Char) :=
  let sorted := (Component.sort (.ofPolicy ctx.policy) source).code
  match p.companion with
  | some companion => companion.preprocess ctx sorted
  | none => .ok sorted

variable {p ctx source}

theorem preprocess_of_handles (h : ctx.Handles) :
    p.preprocess ctx source = p.handle ctx source := by
  obtain ⟨path, hpath, hkind, hor⟩ := h
  have hleft : ¬leavesAlone ctx.policy path = true := by
    rw [leavesAlone_iff]
    rintro ⟨hright, hfits⟩
    exact hor.elim hright (absurd hfits)
  simp only [preprocess, hpath, if_neg hleft, hkind, Bool.not_true, Bool.false_eq_true, if_false]
  rfl

theorem preprocess_of_not_handles (h : ¬ctx.Handles) : p.preprocess ctx source = .ok source := by
  cases hpath : ctx.filepath with
  | none => simp only [preprocess, hpath]
  | some path =>
    by_cases hleft : leavesAlone ctx.policy path = true
    · simp only [preprocess, hpath, hleft, if_true]
    · by_cases hkind : Path.isComponent path = true
      · -- nothing but an exclusion keeps a component from being sorted
        refine absurd ⟨path, hpath, hkind, ?_⟩ h
        rw [leavesAlone_iff, Classical.not_and_iff_not_or_not, Classical.not_not] at hleft
        exact hleft
      · simp [preprocess, hpath, hkind]

theorem preprocess_eq_error {e : HostError} (h : p.preprocess ctx source = .error e) :
    ∃ companion ∈ p.companion,
      companion.preprocess ctx (Component.sort (.ofPolicy ctx.policy) source).code = .error e := by
  by_cases hhandles : ctx.Handles
  · rw [preprocess_of_handles hhandles, handle] at h
    split at h
    · rename_i companion hcompanion
      exact ⟨companion, hcompanion, h⟩
    · cases h
  · rw [preprocess_of_not_handles hhandles] at h
    cases h

theorem alike_readable : Sorter.Alike (.ofPolicy ctx.readable.policy) (.ofPolicy ctx.policy) :=
  ⟨rfl, rfl, rfl, fun _ _ => rfl⟩

/-- The globs of a policy do not count for what is done with a document, as far as the companion
does not look at them. -/
theorem handle_readable (hcompanion : ∀ companion ∈ p.companion, ∀ text,
    companion.preprocess ctx.readable text = companion.preprocess ctx text) :
    p.handle ctx.readable source = p.handle ctx source := by
  rw [handle, handle, Component.sort_of_alike alike_readable]
  split
  · rename_i companion hcase
    exact hcompanion companion hcase _
  · rfl

variable (p ctx source)

/-- Taking the patterns that are no globs from the list makes no difference, for a companion that
does not look at the list, unless a component that a glob excludes is overlooked for a wrong one:
then the component is sorted and passed on, and the difference is whatever that does to it. Where
nothing is overlooked, an excluded file stays as it is. Errors come from the companion only. -/
theorem preprocess_readable_iff :
    ((∀ companion ∈ p.companion, ∀ text,
        companion.preprocess ctx.readable text = companion.preprocess ctx text) →
      (p.preprocess ctx source = p.preprocess ctx.readable source ↔
        (ctx.Overlooks → p.handle ctx source = .ok source))) ∧
    (¬ctx.Overlooks → ∀ path ∈ ctx.filepath, AnyFits ctx.policy.exclude path →
      p.preprocess ctx source = .ok source) ∧
    ∀ e, p.preprocess ctx source = .error e → ∃ companion ∈ p.companion,
      companion.preprocess ctx (Component.sort (.ofPolicy ctx.policy) source).code = .error e := by
  refine ⟨fun hcompanion => ?_, fun hnot path hpath hfits => ?_, fun e he => preprocess_eq_error he⟩
  · by_cases hover : ctx.Overlooks
    · rw [preprocess_of_handles (handles_iff_readable.2 (.inr hover)),
        preprocess_of_not_handles hover.not_handles_readable]
      simp [hover]
    · by_cases hhandles : ctx.readable.Handles
      · rw [preprocess_of_handles (handles_iff_readable.2 (.inl hhandles)),
          preprocess_of_handles hhandles, handle_readable hcompanion]
        simp [hover]
      · rw [preprocess_of_not_handles (mt handles_iff_readable.1 (not_or_intro hhandles hover)),
          preprocess_of_not_handles hhandles]
        simp [hover]
  · refine preprocess_of_not_handles fun hhandles => ?_
    obtain ⟨path', hpath', -, hwrong | hunfit⟩ :=
      (handles_iff_readable.1 hhandles).resolve_right hnot
    · exact Exclude.not_anyWrong_readable _ hwrong
    · cases (show ctx.filepath = some path' from hpath').symm.trans hpath
      exact hunfit (Exclude.anyFits_readable_iff.2 hfits)

/-- A component with a list of globs. -/
def component (patterns : List String) : Context :=
  ⟨some "a.svelte".toList,
    { order := ["<THIRD_PARTY_MODULES>", "<LOCAL_MODULES>"], exclude := patterns }⟩

/-- An integration whose companion takes no component. -/
def refusing : Plugin Unit :=
  ⟨some { name := "refusing", preprocess := fun _ _ => .error (.companion "refused"),
          parse := fun _ _ => .ok () }⟩

/-- A wrong glob beside one that does not fit makes no difference, and a component that is excluded
stays although the companion would refuse it. -/
theorem preprocess_readable_iff_refusing :
    refusing.preprocess (component ["[", "b.svelte"]) [] =
      refusing.preprocess (component ["[", "b.svelte"]).readable [] ∧
    refusing.preprocess (component ["*.svelte"]) [] = .ok [] ∧
    ∃ companion ∈ refusing.companion,
      companion.preprocess (component ["[", "b.svelte"])
          (Component.sort (.ofPolicy (component ["[", "b.svelte"]).policy) []).code =
        .error (.companion "refused") := by
  have hcompanion : ∀ companion ∈ refusing.companion, ∀ text,
      companion.preprocess (component ["[", "b.svelte"]).readable text =
        companion.preprocess (component ["[", "b.svelte"]) text := by
    rintro companion ⟨⟩ text
    rfl
  have hunfit : ¬(component ["[", "b.svelte"]).Overlooks := by
    rintro ⟨path, ⟨⟩, -, -, hfits⟩
    exact absurd hfits (by decide +kernel)
  have hright : ¬(component ["*.svelte"]).Overlooks := by
    rintro ⟨path, ⟨⟩, -, hwrong, -⟩
    exact absurd hwrong (by decide +kernel)
  have hrefused : refusing.preprocess (component ["[", "b.svelte"]) [] =
      .error (.companion "refused") := by decide +kernel
  exact ⟨((preprocess_readable_iff _ _ _).1 hcompanion).2 fun hover => absurd hover hunfit,
    (preprocess_readable_iff _ _ _).2.1 hright _ rfl (by decide +kernel),
    (preprocess_readable_iff _ _ _).2.2 _ hrefused⟩

/-- A wrong glob in front of the one that excludes a component lets the component be sorted. -/
theorem excluded_component_sorted :
    AnyFits (component ["[", "*.svelte"]).policy.exclude "a.svelte".toList ∧
    (withoutCompanion : Plugin Unit).preprocess (component ["[", "*.svelte"])
        "<script>\nimport b from './b';\nimport a from 'a';\n</script>\n".toList =
      .ok "<script>\nimport a from 'a';\nimport b from './b';\n</script>\n".toList ∧
    (withoutCompanion : Plugin Unit).preprocess (component ["[", "*.svelte"]).readable
        "<script>\nimport b from './b';\nimport a from 'a';\n</script>\n".toList =
      .ok "<script>\nimport b from './b';\nimport a from 'a';\n</script>\n".toList := by
  decide +kernel

end Plugin
end Host
end ImportOrder
