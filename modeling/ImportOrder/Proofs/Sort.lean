import ImportOrder.Proofs.Statement.Parts
import ImportOrder.Sort

/-!
# ImportOrder.Proofs.Sort

Sorting a text is sorting the block of its imports (`code_of_block`), and of a block only the
entries change. The entries are put in the order of their ranks and then finished
(`sortEntries_eq`). Entries that are in order and finished stay as they are
(`sortEntries_eq_self`).
-/

namespace ImportOrder

/-- The policy of two groups: modules of other projects, then modules of the project itself. -/
def Policy.twoGroups : Policy :=
  { order := [PathGroup.thirdPartyName, PathGroup.ownModulesName] }

namespace Sorter

open Sorting

/-- A block with its entries in order. -/
def sortBlock (s : Sorter) (b : Block) : Block :=
  { b with entries := s.sortEntries b.entries }

section Fields

variable (s : Sorter) (b : Block)

@[simp] theorem sortBlock_before : (s.sortBlock b).before = b.before := rfl
@[simp] theorem sortBlock_indent : (s.sortBlock b).indent = b.indent := rfl
@[simp] theorem sortBlock_newline : (s.sortBlock b).newline = b.newline := rfl
@[simp] theorem sortBlock_entries : (s.sortBlock b).entries = s.sortEntries b.entries := rfl
@[simp] theorem sortBlock_displaced : (s.sortBlock b).displaced = b.displaced := rfl
@[simp] theorem sortBlock_after : (s.sortBlock b).after = b.after := rfl

end Fields

def groupOf (s : Sorter) (e : Entry) : Nat :=
  s.grouping.index e.path

theorem code_of_block {s : Sorter} {source : List Char} {b : Block}
    (h : Block.ofText? (Banner.cut source).rest = some b) :
    (s.sort source).code = (Banner.cut source).banner ++
      (s.sortBlock b).render s.policy.separation s.groupOf := by
  simp only [sort, h]
  rfl

theorem sort_of_none {s : Sorter} {source : List Char}
    (h : Block.ofText? (Banner.cut source).rest = none) : s.sort source = ⟨source, false⟩ := by
  simp only [sort, h]

theorem changed_eq (s : Sorter) (source : List Char) :
    (s.sort source).changed = ((s.sort source).code != source) := by
  cases h : Block.ofText? (Banner.cut source).rest with
  | none => rw [sort_of_none h]; simp
  | some b => simp only [sort, h]

theorem finish_eq_self {s : Sorter} (h : s.policy.sortNames = false) (e : Entry) :
    s.finish e = e := by
  rw [finish, h]
  rfl

theorem sortEntries_eq (s : Sorter) (entries : List Entry) :
    s.sortEntries entries =
      (sortBy (fun a b => s.compareRanked (s.rank a) (s.rank b)) entries).map s.finish := by
  rw [sortEntries, sortBy_map, List.map_map]
  rfl

theorem mem_sortEntries {s : Sorter} {entries : List Entry} {e : Entry}
    (h : e ∈ s.sortEntries entries) : ∃ e' ∈ entries, e = s.finish e' := by
  rw [sortEntries_eq] at h
  obtain ⟨e', he', rfl⟩ := List.mem_map.1 h
  exact ⟨e', (sortBy_perm _ _).mem_iff.1 he', rfl⟩

/-! ## Entries in order -/

section Finish

variable (s : Sorter) (e : Entry)

@[simp] theorem finish_path : (s.finish e).path = e.path := by
  unfold finish
  split <;> rfl

@[simp] theorem finish_leading : (s.finish e).leading = e.leading := by
  unfold finish
  split <;> rfl

@[simp] theorem finish_trailing : (s.finish e).trailing = e.trailing := by
  unfold finish
  split <;> rfl

theorem finish_finish : s.finish (s.finish e) = s.finish e := by
  unfold finish
  split
  · rw [Statement.sortNames_sortNames]
  · rfl

theorem sentence_finish (h : Statement.Sentence e.text) :
    Statement.Sentence (s.finish e).text := by
  unfold finish
  split
  · exact Statement.sentence_sortNames h _
  · exact h

end Finish

/-- The order of module paths: by group, within a group by the natural order. -/
def comparePaths (s : Sorter) (a b : List Char) : Ordering :=
  (compare (s.grouping.index a) (s.grouping.index b)).then (natural s.policy.ignoreCase a b)

theorem comparePaths_swap (s : Sorter) (a b : List Char) :
    s.comparePaths b a = (s.comparePaths a b).swap := by
  rw [comparePaths, comparePaths, swap_then, compare_nat_swap, natural_swap]

/-- The entries stand in the order of their paths. -/
def EntriesInOrder (s : Sorter) (entries : List Entry) : Prop :=
  InOrder s.comparePaths (entries.map (·.path))

theorem entriesInOrder_sortEntries (s : Sorter) (entries : List Entry) :
    s.EntriesInOrder (s.sortEntries entries) := by
  have hpaths : (s.sortEntries entries).map (·.path) =
      (sortBy (fun a b => s.compareRanked (s.rank a) (s.rank b)) entries).map (·.path) := by
    rw [sortEntries_eq, List.map_map]
    exact List.map_congr_left fun e _ => s.finish_path e
  rw [EntriesInOrder, hpaths, inOrder_map]
  refine inOrder_sortBy (fun a b hlt => ?_) entries
  rw [comparePaths_swap, hlt]
  decide

theorem sortEntries_eq_self {s : Sorter} {entries : List Entry} (h : s.EntriesInOrder entries)
    (hfinish : ∀ e ∈ entries, s.finish e = e) : s.sortEntries entries = entries := by
  rw [EntriesInOrder, inOrder_map] at h
  have hsort : sortBy (fun a b => s.compareRanked (s.rank a) (s.rank b)) entries = entries :=
    sortBy_eq_self h
  rw [sortEntries_eq, hsort, List.map_congr_left (g := id) hfinish, List.map_id]

/-! ## Sorting what is sorted -/

theorem sort_eq_self_iff (s : Sorter) (source : List Char) :
    s.sort source = ⟨source, false⟩ ↔ (s.sort source).code = source := by
  constructor
  · intro h
    rw [h]
  · intro h
    have hchanged : (s.sort source).changed = false := by
      rw [changed_eq, h]
      simp
    cases hsort : s.sort source with
    | mk code changed =>
      rw [hsort] at h hchanged
      simp_all

theorem finish_withLeading (s : Sorter) (e : Entry) (leading : List (List Char)) :
    s.finish { e with leading := leading } = { s.finish e with leading := leading } := by
  unfold finish
  split <;> rfl

theorem sortEntries_ne_nil {s : Sorter} {entries : List Entry} (h : entries ≠ []) :
    s.sortEntries entries ≠ [] := by
  rw [sortEntries_eq]
  intro hnil
  have hlength := (sortBy_perm (fun a b => s.compareRanked (s.rank a) (s.rank b))
    entries).length_eq
  rw [List.map_eq_nil_iff.1 hnil] at hlength
  exact h (List.length_eq_zero_iff.1 hlength.symm)

/-- Sorted entries stay as they are, also when the first has other comments above it. -/
theorem sortEntries_withLeading {s : Sorter} {entries : List Entry} {e : Entry} {more : List Entry}
    (h : s.sortEntries entries = e :: more) (leading : List (List Char)) :
    s.sortEntries ({ e with leading := leading } :: more) =
      { e with leading := leading } :: more := by
  have hfinish : ∀ e' ∈ e :: more, s.finish e' = e' := by
    intro e' he'
    rw [← h] at he'
    obtain ⟨e'', -, rfl⟩ := mem_sortEntries he'
    exact s.finish_finish e''
  have horder := s.entriesInOrder_sortEntries entries
  rw [h] at horder
  refine sortEntries_eq_self horder ?_
  intro e' he'
  rcases List.mem_cons.1 he' with rfl | he'
  · rw [finish_withLeading, hfinish e List.mem_cons_self]
  · exact hfinish e' (List.mem_cons_of_mem _ he')

end Sorter
end ImportOrder
