import ImportOrder.Component
import ImportOrder.Proofs.Markup.Region
import ImportOrder.Proofs.Words

/-!
# ImportOrder.Proofs.Component

Sorting a component. The texts outside its script regions stay, and each region gets its own
content sorted.

* `sort_eq_weave`: replacing region by region, from the last to the first, is replacing all of them
  at once, and the newlines at the edges of a content never have to be put back.
* `regions_sort`: the sorted document has the same regions with the sorted contents.

Sorting makes no closing tag (`enclosed_sort`), so the search in the sorted document follows the
one in the document (`Markup.regionsFrom_weave`).
-/

namespace ImportOrder

open Text Markup

/-! ## The edges of a sorted text -/

namespace Sorter

theorem head?_sort (s : Sorter) {source : List Char} (h : source.head? = some '\n') :
    (s.sort source).code.head? = some '\n' := by
  cases source with
  | nil => cases h
  | cons c source =>
    cases h
    rcases Banner.cut_newline source with ⟨b, hb⟩ | hnone
    · cases hblock : Block.ofText? (Banner.cut ('\n' :: source)).rest with
      | none => rw [sort_of_none hblock]; rfl
      | some block => rw [code_of_block hblock, hb]; rfl
    · rw [sort_of_none]
      · rfl
      · unfold Block.ofText?
        split
        · rfl
        · rename_i hscan
          rw [hscan] at hnone
          cases hnone

theorem getLast?_sort (s : Sorter) {source : List Char} (h : source.getLast? = some '\n') :
    (s.sort source).code.getLast? = some '\n' := by
  cases hblock : Block.ofText? (Banner.cut source).rest with
  | none => rwa [sort_of_none hblock]
  | some b =>
    have hsound := Block.sound_of_ofText? hblock
    have hrest : (Banner.cut source).rest ≠ [] := by
      intro hnil
      obtain ⟨e, entries, he⟩ := List.exists_cons_of_ne_nil hsound.nonempty
      have hentry := hsound.entries e (by rw [he]; exact List.mem_cons_self)
      have hline := hentry.line
      rw [hnil, List.infix_nil, List.append_eq_nil_iff] at hline
      exact hentry.sentence.endsVisible.ne_nil hline.1
    have hlast : b.after.getLast? = some '\n' := by
      refine hsound.last ?_
      rw [getLast?_of_suffix ⟨_, Banner.banner_append_rest source⟩ hrest, h]
    have hafter : (s.sortBlock b).renderAfter.getLast? = some '\n' := by
      unfold Block.renderAfter
      split
      · exact hlast
      · rename_i hblank
        have hne : dropBlankLines b.after ≠ [] := by
          intro hnil
          have := visible_dropBlankLines b.after
          rw [hnil] at this
          exact hblank (allBlank_iff.2 this.symm)
        rw [sortBlock_after, List.getLast?_append_of_ne_nil _ hne,
          getLast?_of_suffix (dropBlankLines_suffix b.after) hne, hlast]
    have hne : (s.sortBlock b).renderAfter ≠ [] := by
      intro hnil
      rw [hnil] at hafter
      cases hafter
    rw [code_of_block hblock, Block.render, ← List.append_assoc,
      List.getLast?_append_of_ne_nil _ hne, hafter]

theorem enclosed_sort (s : Sorter) {content : List Char} (h : Enclosed content) :
    Enclosed (s.sort content).code := by
  have hw : Solid Char.toLower closingTag := {
    nonempty := by simp [closingTag]
    blank := fun c hc => forall_blank (P := fun c => Apart Char.toLower closingTag c)
      (by unfold Apart; decide) hc
    comma := by unfold Apart; decide
    opening := by unfold Apart; decide
    closing := by unfold Apart; decide }
  exact free_sort hw s h

end Sorter

/-! ## Replacing region by region -/

namespace Component

theorem keepEdgeNewlines_sort (s : Sorter) (content : List Char) :
    keepEdgeNewlines content (s.sort content).code = (s.sort content).code := by
  have hhead : ¬(content.head? = some '\n' && (s.sort content).code.head? != some '\n') = true := by
    intro h
    simp only [Bool.and_eq_true, decide_eq_true_eq, bne_iff_ne] at h
    exact h.2 (s.head?_sort h.1)
  have hlast :
      ¬(content.getLast? = some '\n' && (s.sort content).code.getLast? != some '\n') = true := by
    intro h
    simp only [Bool.and_eq_true, decide_eq_true_eq, bne_iff_ne] at h
    exact h.2 (s.getLast?_sort h.1)
  simp only [keepEdgeNewlines]
  rw [if_neg hhead, if_neg hlast]

theorem replaceSlice_append (a b c new : List Char) :
    replaceSlice (size a) (size a + size b) new (a ++ (b ++ c)) = a ++ (new ++ c) := by
  rw [replaceSlice, ← size_append, ← List.append_assoc, cut?_append]
  simp only [cut?_append, List.append_assoc]

/-- Sorting one region, in a document whose later regions may have been sorted before. -/
theorem spliceRegion_eq (s : Sorter) {r : Region} {a c : List Char} (hstart : r.start = size a)
    (changed : Bool) :
    spliceRegion s ⟨a ++ (r.content ++ c), changed⟩ r =
      ⟨a ++ ((s.sort r.content).code ++ c), (s.sort r.content).changed || changed⟩ := by
  simp only [spliceRegion]
  split
  · rename_i hchanged
    rw [hchanged, Region.stop, hstart, replaceSlice_append, keepEdgeNewlines_sort]
    rfl
  · rename_i hchanged
    have hsame : (s.sort r.content).code = r.content := by
      rw [Sorter.changed_eq] at hchanged
      simpa using hchanged
    rw [hsame, eq_false_of_ne_true hchanged]
    rfl

/-- The offsets of the regions stay right while those behind them are replaced. -/
theorem foldr_spliceRegion (s : Sorter) (rs : List Region) :
    ∀ (a text : List Char) (texts : List (List Char)),
      outside? (size a) text rs = some texts → weave texts (rs.map (·.content)) = text →
      rs.foldr (fun r document => spliceRegion s document r) ⟨a ++ text, false⟩ =
        ⟨a ++ weave texts (rs.map fun r => (s.sort r.content).code),
          rs.any fun r => (s.sort r.content).changed⟩ := by
  induction rs with
  | nil =>
    intro a text texts houtside hweave
    cases houtside
    rfl
  | cons r rs ih =>
    intro a text texts houtside hweave
    simp only [outside?] at houtside
    split at houtside
    · cases houtside
    · rename_i hpos
      split at houtside
      · cases houtside
      · rename_i before rest hcut
        obtain ⟨htext, hbefore⟩ := cut?_eq_some hcut
        split at houtside
        · cases houtside
        · rename_i content after hcontent
          obtain ⟨ts, hts, rfl⟩ := Option.map_eq_some_iff.1 houtside
          rw [List.map_cons, weave, htext] at hweave
          have hrest := List.append_cancel_left hweave
          rw [← hrest, cut?_append] at hcontent
          cases hcontent
          have hstart : r.start = size (a ++ before) := by
            rw [size_append, hbefore]
            omega
          have hstop : r.stop = size (a ++ before ++ r.content) := by
            rw [Region.stop, hstart, size_append (a ++ before)]
          rw [hstop] at hts
          have hmore := ih (a ++ before ++ r.content) _ ts hts rfl
          have hdocument : a ++ text = a ++ before ++ r.content ++ weave ts (rs.map (·.content)) := by
            rw [htext, ← hrest]
            simp
          rw [List.foldr_cons, hdocument, hmore, List.append_assoc (a ++ before),
            spliceRegion_eq s hstart]
          simp [weave]

/-- Sorting a document weaves the sorted contents into the texts outside the regions, and the
search finds both the contents and the sorted contents between these texts. -/
theorem sort_weave (s : Sorter) (document : List Char) :
    ∃ texts marks,
      weave texts ((regions document).map (·.content)) = document ∧
      Recovers 0 texts ((regions document).map (·.content)) marks ∧
      sort s document = ⟨weave texts ((regions document).map fun r => (s.sort r.content).code),
        (regions document).any fun r => (s.sort r.content).changed⟩ ∧
      Recovers 0 texts ((regions document).map fun r => (s.sort r.content).code) marks := by
  obtain ⟨t, ts, hwoven⟩ := regionsFrom_weave 0 document
  have hold := hwoven.recovers 0 ((regions document).map (·.content))
    (by simp [regions, hwoven.length_eq]) (by
      intro c hc
      obtain ⟨r, hr, rfl⟩ := List.mem_map.1 hc
      exact hwoven.enclosed r hr)
  have hnew := hwoven.recovers 0 ((regions document).map fun r => (s.sort r.content).code)
    (by simp [regions, hwoven.length_eq]) (by
      intro c hc
      obtain ⟨r, hr, rfl⟩ := List.mem_map.1 hc
      exact s.enclosed_sort (hwoven.enclosed r hr))
  refine ⟨t :: ts, _, hwoven.weave_eq, hold, ?_, hnew⟩
  have houtside := hold.outside
  rw [regions, hwoven.weave_eq] at houtside
  have := foldr_spliceRegion s (regions document) [] document (t :: ts) houtside hwoven.weave_eq
  rw [sort, List.foldl_reverse]
  exact this

/-- Sorting the regions of a document from the last to the first is replacing each of them by its
sorted content at once. The document counts as changed exactly when its text changes, and the
sorter itself keeps a newline at the start and at the end of a content. -/
theorem sort_eq_weave (s : Sorter) (document : List Char) :
    (∃ texts, outside? 0 document (regions document) = some texts ∧
      weave texts ((regions document).map (·.content)) = document ∧
      (sort s document).code =
        weave texts ((regions document).map fun r => (s.sort r.content).code)) ∧
    ((sort s document).changed = true ↔ (sort s document).code ≠ document) ∧
    ∀ content, keepEdgeNewlines content (s.sort content).code = (s.sort content).code ∧
      (content.head? = some '\n' → (s.sort content).code.head? = some '\n') ∧
      (content.getLast? = some '\n' → (s.sort content).code.getLast? = some '\n') := by
  obtain ⟨texts, marks, hweave, hold, hsort, hnew⟩ := sort_weave s document
  have houtside := hold.outside
  rw [hweave] at houtside
  refine ⟨⟨texts, houtside, hweave, by rw [hsort]⟩, ?_, fun content =>
    ⟨keepEdgeNewlines_sort s content, s.head?_sort, s.getLast?_sort⟩⟩
  rw [hsort]
  constructor
  · intro hchanged hsame
    -- the contents found in the sorted document are the sorted contents
    have hcontents := hnew.contents
    simp only at hsame
    rw [hsame] at hcontents
    obtain ⟨r, hr, hr'⟩ := List.any_eq_true.1 hchanged
    have heq := List.map_inj_left.1 hcontents r hr
    rw [Sorter.changed_eq, bne_iff_ne] at hr'
    exact hr' heq.symm
  · intro hdiffer
    by_contra hnone
    rw [List.any_eq_true] at hnone
    refine hdiffer ?_
    have hsame : ((regions document).map fun r => (s.sort r.content).code) =
        (regions document).map (·.content) := by
      refine List.map_congr_left fun r hr => ?_
      by_contra hne
      refine hnone ⟨r, hr, ?_⟩
      rw [Sorter.changed_eq, bne_iff_ne]
      exact hne
    simp only [hsame, hweave]

/-- The sorted document has as many regions as the document, in the same order, with the same
attributes and role, each with its content sorted; the texts outside the regions are the same. -/
theorem regions_sort (s : Sorter) (document : List Char) :
    (regions (sort s document).code).map (·.content) =
      (regions document).map (fun r => (s.sort r.content).code) ∧
    ((regions (sort s document).code).map fun r => (r.attributeText, r.attributes, r.role)) =
      ((regions document).map fun r => (r.attributeText, r.attributes, r.role)) ∧
    ∃ texts, outside? 0 document (regions document) = some texts ∧
      outside? 0 (sort s document).code (regions (sort s document).code) = some texts := by
  obtain ⟨texts, marks, hweave, hold, hsort, hnew⟩ := sort_weave s document
  have hcode : (sort s document).code =
      weave texts ((regions document).map fun r => (s.sort r.content).code) := by rw [hsort]
  have hattributes := hold.attributes
  have houtside := hold.outside
  rw [hweave] at hattributes houtside
  rw [hcode]
  refine ⟨hnew.contents, ?_, texts, houtside, hnew.outside⟩
  have hmarks : ∀ rs : List Region, (rs.map fun r => (r.attributeText, r.attributes, r.role)) =
      (rs.map fun r => (r.attributeText, r.attributes)).map fun m =>
        (m.1, m.2, if m.2.any Region.isModuleMark then Role.moduleLevel else .instanceLevel) := by
    intro rs
    rw [List.map_map]
    rfl
  rw [hmarks, hmarks]
  exact congrArg (List.map _) (hnew.attributes.trans hattributes.symm)

end Component
end ImportOrder
