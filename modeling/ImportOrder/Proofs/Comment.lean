import ImportOrder.Comment
import ImportOrder.Proofs.Text.Lines

/-!
# ImportOrder.Proofs.Comment

The run of comment lines above a statement. `Reaches` says where the way up from the end of a block
comes to its opener, and `IsRun` what the lines of a run are, so proofs about runs go by induction on
`IsRun` (`isRun_iff`).

A run is found by what it holds itself: cut off by itself it is found whole (`runAbove_take`), what
stands before it does not end in one (`runAbove_drop`), and lines put before it leave it alone
(`IsRun.runAbove_append`). It goes by the trimmed lines only (`runAbove_map`).
-/

namespace ImportOrder
namespace Comment

open Text

/-! ## The way up to an opener -/

/-- Lines from an opener down, nearest first: going up through `body`, no line starts with `/*` before
`opener` does, and none up to it holds a `*/`. -/
structure Reaches (body : List (List Char)) (opener : List Char) : Prop where
  opens : opensBlock (trim opener) = true
  others : ∀ l ∈ body, opensBlock (trim l) = false
  noCloser : ∀ l ∈ opener :: body, hasCloser (trim l) = false

theorem reaches_cons {body : List (List Char)} {l opener : List Char} :
    Reaches (l :: body) opener ↔
      hasCloser (trim l) = false ∧ opensBlock (trim l) = false ∧ Reaches body opener := by
  constructor
  · rintro ⟨hopens, hothers, hnoCloser⟩
    rw [List.forall_mem_cons] at hothers
    simp only [List.forall_mem_cons] at hnoCloser
    exact ⟨hnoCloser.2.1, hothers.1, hopens, hothers.2,
      List.forall_mem_cons.2 ⟨hnoCloser.1, hnoCloser.2.2⟩⟩
  · rintro ⟨hcloser, hl, hopens, hothers, hnoCloser⟩
    rw [List.forall_mem_cons] at hnoCloser
    refine ⟨hopens, List.forall_mem_cons.2 ⟨hl, hothers⟩, ?_⟩
    simp only [List.forall_mem_cons]
    exact ⟨hnoCloser.1, hcloser, hnoCloser.2⟩

theorem linesToOpener?_of_reaches {body : List (List Char)} {opener : List Char}
    (h : Reaches body opener) (above : List (List Char)) :
    linesToOpener? (body ++ opener :: above) = some (body.length + 1) := by
  induction body with
  | nil =>
    have hopener := h.noCloser opener List.mem_cons_self
    simp [linesToOpener?, hopener, h.opens]
  | cons l body ih =>
    obtain ⟨hcloser, hl, hbody⟩ := reaches_cons.1 h
    simp [linesToOpener?, hcloser, hl, ih hbody]

theorem linesToOpener?_eq_some_iff {ls : List (List Char)} {k : Nat} :
    linesToOpener? ls = some k ↔
      ∃ body opener above, ls = body ++ opener :: above ∧ k = body.length + 1 ∧
        Reaches body opener := by
  constructor
  · intro h
    induction ls generalizing k with
    | nil => cases h
    | cons l ls ih =>
      rw [linesToOpener?] at h
      split at h
      · cases h
      · rename_i hcloser
        rw [Bool.not_eq_true] at hcloser
        split at h
        · rename_i hopens
          cases h
          exact ⟨[], l, ls, rfl, rfl, hopens, by simp, by simpa using hcloser⟩
        · rename_i hopens
          obtain ⟨j, hj, rfl⟩ := Option.map_eq_some_iff.1 h
          obtain ⟨body, opener, above, rfl, rfl, hreaches⟩ := ih hj
          rw [Bool.not_eq_true] at hopens
          exact ⟨l :: body, opener, above, rfl, rfl, reaches_cons.2 ⟨hcloser, hopens, hreaches⟩⟩
  · rintro ⟨body, opener, above, rfl, rfl, h⟩
    exact linesToOpener?_of_reaches h above

theorem linesToOpener?_le {ls : List (List Char)} {k : Nat} (h : linesToOpener? ls = some k) :
    k ≤ ls.length := by
  obtain ⟨body, opener, above, rfl, rfl, -⟩ := linesToOpener?_eq_some_iff.1 h
  simp

/-! ## Runs -/

theorem runAbove_le (ls : List (List Char)) : runAbove ls ≤ ls.length := by
  fun_induction runAbove ls with
  | case1 => simp
  | case2 l above hwhole ih =>
    simp only [List.length_cons]
    omega
  | case3 l above hwhole hcloses k hk ih =>
    have hle := linesToOpener?_le hk
    simp only [List.length_drop] at ih
    simp only [List.length_cons]
    omega
  | case4 => simp
  | case5 => simp

/-- What stands before a run of comment lines does not end in one. -/
theorem runAbove_drop (ls : List (List Char)) : runAbove (ls.drop (runAbove ls)) = 0 := by
  fun_induction runAbove ls with
  | case1 => simp [runAbove]
  | case2 l above hwhole ih => rwa [Nat.add_comm, List.drop_succ_cons]
  | case3 l above hwhole hcloses k hk ih =>
    rwa [Nat.add_right_comm, Nat.add_assoc, Nat.add_comm, List.drop_succ_cons, Nat.add_comm,
      ← List.drop_drop]
  | case4 l above hwhole hcloses hk =>
    rw [List.drop_zero, runAbove, if_neg hwhole, if_pos hcloses, hk]
  | case5 l above hwhole hcloses => rw [List.drop_zero, runAbove, if_neg hwhole, if_neg hcloses]

/-- A run of comment lines, nearest first: lines that are comments by themselves, and blocks from the
line that closes one up to the nearest line that opens it. -/
inductive IsRun : List (List Char) → Prop where
  | nil : IsRun []
  | whole {l : List Char} {above : List (List Char)} (hwhole : isWholeComment (trim l) = true)
      (habove : IsRun above) : IsRun (l :: above)
  | block {closer opener : List Char} {body above : List (List Char)}
      (hwhole : isWholeComment (trim closer) = false) (hcloses : closesBlock (trim closer) = true)
      (hreaches : Reaches body opener) (habove : IsRun above) :
      IsRun (closer :: (body ++ opener :: above))

theorem reverse_block (closer opener : List Char) (body above : List (List Char)) :
    (closer :: (body ++ opener :: above)).reverse =
      above.reverse ++ opener :: (body.reverse ++ [closer]) := by
  simp

theorem isRun_take (ls : List (List Char)) : IsRun (ls.take (runAbove ls)) := by
  fun_induction runAbove ls with
  | case1 => exact .nil
  | case2 l above hwhole ih =>
    rw [Nat.add_comm, List.take_succ_cons]
    exact .whole hwhole ih
  | case3 l above hwhole hcloses k hk ih =>
    obtain ⟨body, opener, more, rfl, rfl, hreaches⟩ := linesToOpener?_eq_some_iff.1 hk
    have hdrop : (body ++ opener :: more).drop (body.length + 1) = more := by simp
    rw [hdrop] at ih ⊢
    have hlen : 1 + (body.length + 1) + runAbove more = body.length + (runAbove more + 1) + 1 := by
      omega
    rw [hlen, List.take_succ_cons, List.take_length_add_append, List.take_succ_cons]
    exact .block (Bool.not_eq_true _ ▸ hwhole) hcloses hreaches ih
  | case4 => exact .nil
  | case5 => exact .nil

theorem IsRun.runAbove_append {ls : List (List Char)} (h : IsRun ls) (more : List (List Char)) :
    runAbove (ls ++ more) = ls.length + runAbove more := by
  induction h with
  | nil => simp
  | whole hwhole _ ih =>
    rw [List.cons_append, runAbove, if_pos hwhole, ih, List.length_cons]
    omega
  | @block closer opener body above hwhole hcloses hreaches _ ih =>
    have hdrop : (body ++ opener :: (above ++ more)).drop (body.length + 1) = above ++ more := by simp
    rw [List.cons_append, List.append_assoc, List.cons_append, runAbove, hwhole, if_neg (by simp),
      if_pos hcloses, linesToOpener?_of_reaches hreaches]
    simp only [hdrop, ih, List.length_cons, List.length_append]
    omega

theorem isRun_iff {ls : List (List Char)} : IsRun ls ↔ runAbove ls = ls.length := by
  constructor
  · intro h
    have hrun := h.runAbove_append []
    rwa [List.append_nil, runAbove, Nat.add_zero] at hrun
  · intro h
    have hrun := isRun_take ls
    rwa [h, List.take_length] at hrun

/-- Cut off by itself, a run of comment lines is found whole. -/
theorem runAbove_take (ls : List (List Char)) :
    runAbove (ls.take (runAbove ls)) = runAbove ls := by
  have hrun := isRun_iff.1 (isRun_take ls)
  rwa [List.length_take, Nat.min_eq_left (runAbove_le ls)] at hrun

theorem linesToOpener?_map {f : List Char → List Char} (hf : ∀ l, trim (f l) = trim l)
    (ls : List (List Char)) : linesToOpener? (ls.map f) = linesToOpener? ls := by
  induction ls with
  | nil => rfl
  | cons l ls ih => simp only [List.map_cons, linesToOpener?, hf, ih]

theorem runAbove_map {f : List Char → List Char} (hf : ∀ l, trim (f l) = trim l)
    (ls : List (List Char)) : runAbove (ls.map f) = runAbove ls := by
  fun_induction runAbove ls with
  | case1 => rw [List.map_nil, runAbove]
  | case2 l above hwhole ih =>
    rw [List.map_cons, runAbove, hf, if_pos hwhole, ih]
  | case3 l above hwhole hcloses k hk ih =>
    rw [List.map_cons, runAbove, hf, if_neg hwhole, if_pos hcloses, linesToOpener?_map hf, hk]
    simp only [← List.map_drop, ih]
  | case4 l above hwhole hcloses hk =>
    rw [List.map_cons, runAbove, hf, if_neg hwhole, if_pos hcloses, linesToOpener?_map hf, hk]
  | case5 l above hwhole hcloses =>
    rw [List.map_cons, runAbove, hf, if_neg hwhole, if_neg hcloses]

end Comment
end ImportOrder
