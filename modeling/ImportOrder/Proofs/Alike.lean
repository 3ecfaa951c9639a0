import ImportOrder.Proofs.Component
import ImportOrder.Proofs.Statement.Module

/-!
# ImportOrder.Proofs.Alike

Sorters that cannot be told apart. A sorting reads three settings of its policy and the groups of
the paths that statements have, and no statement has the empty path. So sorters that agree on these
sort every text and every component alike (`Sorter.Alike.sort`, `Component.sort_of_alike`).
-/

namespace ImportOrder

namespace Sorter

/-- Two sorters with the same settings that put every path in the same group. The empty path does
not count, since no statement has it. -/
structure Alike (s s' : Sorter) : Prop where
  separation : s.policy.separation = s'.policy.separation
  ignoreCase : s.policy.ignoreCase = s'.policy.ignoreCase
  sortNames : s.policy.sortNames = s'.policy.sortNames
  index : ∀ path, path ≠ [] → s.grouping.index path = s'.grouping.index path

namespace Alike

variable {s s' : Sorter}

theorem finish (h : Alike s s') : s.finish = s'.finish := by
  funext e
  rw [Sorter.finish, Sorter.finish, h.sortNames, h.ignoreCase]

theorem compareRanked (h : Alike s s') : s.compareRanked = s'.compareRanked := by
  funext a b
  rw [Sorter.compareRanked, Sorter.compareRanked, h.ignoreCase]

theorem sortEntries (h : Alike s s') {entries : List Entry} (hpath : ∀ e ∈ entries, e.path ≠ []) :
    s.sortEntries entries = s'.sortEntries entries := by
  have hrank : entries.map s.rank = entries.map s'.rank :=
    List.map_congr_left fun e he => by rw [rank, rank, h.index e.path (hpath e he)]
  rw [Sorter.sortEntries, Sorter.sortEntries, hrank, h.compareRanked, h.finish]

end Alike
end Sorter

namespace Block

variable {b : Block} {separation : Bool} {groupOf groupOf' : Entry → Nat}

theorem renderMore_congr_group {entries : List Entry} (h : ∀ e ∈ entries, groupOf e = groupOf' e)
    (previous : Nat) : b.renderMore separation groupOf previous entries =
      b.renderMore separation groupOf' previous entries := by
  induction entries generalizing previous with
  | nil => rfl
  | cons e more ih =>
    rw [renderMore, renderMore, h e List.mem_cons_self,
      ih (fun e' he' => h e' (List.mem_cons_of_mem e he'))]

theorem render_congr_group (h : ∀ e ∈ b.entries, groupOf e = groupOf' e) :
    b.render separation groupOf = b.render separation groupOf' := by
  have hentries : b.renderEntries separation groupOf = b.renderEntries separation groupOf' := by
    unfold renderEntries
    cases hb : b.entries with
    | nil => rfl
    | cons e more =>
      rw [hb] at h
      dsimp only
      rw [h e List.mem_cons_self,
        renderMore_congr_group fun e' he' => h e' (List.mem_cons_of_mem e he')]
  rw [render, render, hentries]

theorem path_ne_nil_of_ofText? {text : List Char} (h : ofText? text = some b) :
    ∀ e ∈ b.entries, e.path ≠ [] := by
  intro e he
  have hsound := (sound_of_ofText? h).entries e he
  rw [hsound.path]
  exact hsound.sentence.path_ne_nil

end Block

namespace Sorter

/-- Sorters that group paths alike sort every text alike. -/
theorem Alike.sort {s s' : Sorter} (h : Alike s s') (source : List Char) :
    s.sort source = s'.sort source := by
  have hcode : (s.sort source).code = (s'.sort source).code := by
    cases hblock : Block.ofText? (Banner.cut source).rest with
    | none => rw [sort_of_none hblock, sort_of_none hblock]
    | some b =>
      have hpath := Block.path_ne_nil_of_ofText? hblock
      have hentries := h.sortEntries hpath
      have hgroup : ∀ e ∈ (s.sortBlock b).entries, s.groupOf e = s'.groupOf e := by
        intro e he
        obtain ⟨e', he', rfl⟩ := mem_sortEntries he
        rw [groupOf, groupOf, finish_path, h.index e'.path (hpath e' he')]
      have hsorted : s.sortBlock b = s'.sortBlock b := by
        rw [sortBlock, sortBlock, hentries]
      rw [code_of_block hblock, code_of_block hblock, Block.render_congr_group hgroup, hsorted,
        h.separation]
  have hchanged : (s.sort source).changed = (s'.sort source).changed := by
    rw [changed_eq, changed_eq, hcode]
  calc s.sort source = ⟨(s.sort source).code, (s.sort source).changed⟩ := rfl
    _ = s'.sort source := by rw [hcode, hchanged]

end Sorter

theorem Component.sort_of_alike {s s' : Sorter} (h : s.Alike s') (document : List Char) :
    Component.sort s document = Component.sort s' document := by
  have hsplice : spliceRegion s = spliceRegion s' := by
    funext d r
    rw [spliceRegion, spliceRegion, h.sort]
  rw [Component.sort, Component.sort, hsplice]

end ImportOrder
