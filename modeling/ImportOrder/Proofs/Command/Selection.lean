import ImportOrder.Command.Run
import Mathlib.Data.List.Forall2

/-!
# ImportOrder.Proofs.Command.Selection

Which files a run looks at and which of them it leaves alone, told by the globs of the command line
and of the configuration. A run reads all of its globs before it looks at a file; from then on no
glob is wrong, and a component and a script are excluded alike.
-/

namespace ImportOrder

theorem mapM_eq_ok_iff {ε α β : Type} {f : α → Except ε β} {xs : List α} {ys : List β} :
    xs.mapM f = .ok ys ↔ List.Forall₂ (fun x y => f x = .ok y) xs ys := by
  induction xs generalizing ys with
  | nil => cases ys <;> simp [pure, Except.pure]
  | cons x xs ih =>
    rw [List.mapM_cons, List.forall₂_cons_left_iff]
    cases hx : f x with
    | error e => simp [bind, Except.bind]
    | ok y =>
      cases hxs : xs.mapM f with
      | error e => simp [bind, Except.bind, ← ih, hxs]
      | ok ys => simp [bind, Except.bind, pure, Except.pure, ← ih, hxs, eq_comm]

namespace Pattern.Glob

/-- Some pattern is not a glob. -/
def AnyWrong (patterns : List String) : Prop :=
  ∃ pattern ∈ patterns, ∃ e, Glob.read pattern.toList = .error e

/-- Some pattern is a glob that fits the path. -/
def AnyFits (patterns : List String) (path : List Char) : Prop :=
  ∃ pattern ∈ patterns, ∃ glob, Glob.read pattern.toList = .ok glob ∧ glob.matchesPath path

instance (patterns : List String) : Decidable (AnyWrong patterns) :=
  decidable_of_iff (∃ pattern ∈ patterns, (Glob.read pattern.toList).toBool = false) <|
    exists_congr fun pattern => and_congr_right' <| by
      cases Glob.read pattern.toList <;> simp [Except.toBool]

instance (patterns : List String) (path : List Char) : Decidable (AnyFits patterns path) :=
  decidable_of_iff
    (∃ pattern ∈ patterns, (Glob.read pattern.toList).toOption.any (·.matchesPath path)) <|
    exists_congr fun pattern => and_congr_right' <| by
      cases Glob.read pattern.toList <;> simp [Except.toOption]

/-- The globs are those of the patterns. -/
def AreGlobs (patterns : List String) (globs : List Glob) : Prop :=
  List.Forall₂ (fun pattern glob => Glob.read pattern.toList = .ok glob) patterns globs

theorem exists_areGlobs {patterns : List String} (h : ¬AnyWrong patterns) :
    ∃ globs, AreGlobs patterns globs := by
  induction patterns with
  | nil => exact ⟨[], .nil⟩
  | cons pattern patterns ih =>
    obtain ⟨globs, hglobs⟩ := ih fun ⟨p, hp, he⟩ => h ⟨p, List.mem_cons_of_mem _ hp, he⟩
    cases hread : Glob.read pattern.toList with
    | error e => exact absurd ⟨pattern, List.mem_cons_self, e, hread⟩ h
    | ok glob => exact ⟨glob :: globs, .cons hread hglobs⟩

theorem AreGlobs.not_anyWrong {patterns : List String} {globs : List Glob}
    (h : AreGlobs patterns globs) : ¬AnyWrong patterns := by
  rintro ⟨pattern, hpattern, e, he⟩
  induction h with
  | nil => cases hpattern
  | cons hread _ ih =>
    rcases List.mem_cons.1 hpattern with rfl | hpattern
    · cases hread.symm.trans he
    · exact ih hpattern

theorem AreGlobs.any_matchesPath_iff {patterns : List String} {globs : List Glob}
    (h : AreGlobs patterns globs) {path : List Char} :
    globs.any (·.matchesPath path) ↔ AnyFits patterns path := by
  induction h with
  | nil => simp [AnyFits]
  | cons hread _ ih => simp [AnyFits, ih, hread]

end Pattern.Glob

open Pattern.Glob

/-! ## Exclusion -/

namespace Exclude

theorem readGlobs_eq_ok_iff {patterns : List String} {globs : List Pattern.Glob} :
    readGlobs patterns = .ok globs ↔ AreGlobs patterns globs := by
  rw [readGlobs, mapM_eq_ok_iff, AreGlobs]
  refine iff_of_eq (congrArg (List.Forall₂ · patterns globs) ?_)
  funext pattern glob
  cases Pattern.Glob.read pattern.toList <;> simp

theorem exists_excludes_eq {patterns : List String} (h : ¬AnyWrong patterns) (path : List Char) :
    ∃ excluded, excludes patterns path = .ok excluded ∧ (excluded ↔ AnyFits patterns path) := by
  obtain ⟨globs, hglobs⟩ := exists_areGlobs h
  refine ⟨globs.any (·.matchesPath path), ?_, hglobs.any_matchesPath_iff⟩
  rw [excludes, readGlobs_eq_ok_iff.2 hglobs]
  rfl

theorem exists_excludes_error {patterns : List String} (h : AnyWrong patterns) (path : List Char) :
    ∃ e, excludes patterns path = .error e := by
  cases hglobs : readGlobs patterns with
  | error e => exact ⟨e, by rw [excludes, hglobs]; rfl⟩
  | ok globs => exact absurd h (readGlobs_eq_ok_iff.1 hglobs).not_anyWrong

end Exclude

/-- A component is left alone if a glob fits it and no pattern is wrong. -/
theorem Host.Plugin.leavesAlone_iff {policy : Policy} {path : List Char} :
    leavesAlone policy path = true ↔ ¬AnyWrong policy.exclude ∧ AnyFits policy.exclude path := by
  by_cases hwrong : AnyWrong policy.exclude
  · obtain ⟨e, he⟩ := Exclude.exists_excludes_error hwrong path
    simp [leavesAlone, he, hwrong]
  · obtain ⟨excluded, he, hiff⟩ := Exclude.exists_excludes_eq hwrong path
    simp [leavesAlone, he, hwrong, hiff]

namespace Command

/-! ## Selection -/

section SortText

variable {s : Sorter} (h : ¬AnyWrong s.policy.exclude)
include h

theorem leavesAlone_iff (path : List Char) :
    Host.Plugin.leavesAlone s.policy path ↔ AnyFits s.policy.exclude path :=
  Host.Plugin.leavesAlone_iff.trans (and_iff_right h)

end SortText

end Command
end ImportOrder
