import ImportOrder.Proofs.Markup.Cursor.Search

/-!
# ImportOrder.Proofs.Markup.Placement

Where the regions of a document stand, whatever the document. Each region is the content of an
element that is written out at its place, from the `<` of its opening tag to the name in its closing
tag (`StandsIn`); the spans are read off that. The regions follow each other, since the search goes on
behind the content of each. The main statement is `regions_in_place`.
-/

namespace ImportOrder
namespace Markup

open Text

namespace Region

/-- The region is the content of an element of the document. -/
def StandsIn (r : Region) (document : List Char) : Prop :=
  ∃ before name tag closing rest,
    document = before ++ '<' :: (name ++ (tag ++ '>' :: (r.content ++ (closing ++ rest)))) ∧
      sameIgnoringCase name scriptWord = true ∧ sameIgnoringCase closing closingTag = true ∧
      Enclosed r.content ∧ r.start = size (before ++ '<' :: (name ++ (tag ++ ['>']))) ∧
      r.attributeText = trim tag

/-- What the span of a region says about the document: the content stands at the span, behind a `>`
and before a closing tag of which there is none inside, and the attribute text is what stands
between the name of the opening tag and that `>`. -/
structure InPlace (r : Region) (document : List Char) : Prop where
  content : slice? r.start r.stop document = some r.content
  behind_tag : 0 < r.start ∧ (utf8 document)[r.start - 1]? = some '>'.toUInt8
  closed : ∃ closing, slice? r.stop (r.stop + 8) document = some closing ∧
    sameIgnoringCase closing closingTag = true
  enclosed : Enclosed r.content
  attributeText : ∃ opening name tag,
    slice? opening (opening + 7) document = some ('<' :: name) ∧
      sameIgnoringCase name scriptWord = true ∧
      slice? (opening + 7) (r.start - 1) document = some tag ∧ r.attributeText = trim tag

end Region

/-! ## One element -/

theorem element?_stands {attributes s : List Char} {start : Nat} {e : Element}
    (h : element? attributes start s = some e) :
    ∃ closing rest, s = e.region.content ++ (closing ++ rest) ∧
      sameIgnoringCase closing closingTag = true ∧ Enclosed e.region.content ∧
      e.region.start = start ∧ e.region.attributeText = trim attributes := by
  unfold element? at h
  split at h
  · cases h
  · rename_i n hfind
    rw [find?_eq_place? (by simp [closingTag])] at hfind
    obtain ⟨hstands, hfree⟩ := place?_eq_some hfind
    have hs : s = s.take n ++
        ((s.drop n).take closingTag.length ++ (s.drop n).drop closingTag.length) := by
      rw [List.take_append_drop, List.take_append_drop]
    have henclosed := hfree (by simp [closingTag])
    split at h
    · cases h
      exact ⟨_, _, hs, hstands, henclosed, rfl, rfl⟩
    · cases h
      exact ⟨_, _, hs, hstands, henclosed, rfl, rfl⟩

theorem stepAt_stands {before s : List Char} {e : Element}
    (h : stepAt (size before) s = .found e) : e.region.StandsIn (before ++ '<' :: s) := by
  unfold stepAt at h
  split at h
  · split at h <;> cases h
  · split at h
    · cases h
    · rename_i tag hscript
      obtain ⟨name, hs, -, hname, -⟩ := scriptTag?_eq_some hscript
      split at h
      · cases h
      · rename_i attributes rest hattributes
        simp only at h
        split at h
        · cases h
        · split at h
          · cases h
          · rename_i e' helement
            cases h
            obtain ⟨closing, after, hrest, hclosing, henclosed, hstart, htext⟩ :=
              element?_stands helement
            refine ⟨before, name, attributes, closing, after, ?_, hname, hclosing, henclosed, ?_,
              htext⟩
            · rw [hs, splitTag?_eq_some hattributes, hrest]
            · have hsix : size name = 6 := size_of_sameIgnoringCase hname
              have hlt : '<'.utf8Size = 1 := rfl
              have hgt : '>'.utf8Size = 1 := rfl
              simp only [hstart, size_append, size_cons, size_nil, hsix, hlt, hgt]
              omega

/-! ## The run -/

/-- What the search finds from a place on stands in the document, behind that place and in order. -/
structure Placed (pos : Nat) (document : List Char) (rs : List Region) : Prop where
  stand : ∀ r ∈ rs, r.StandsIn document
  behind : ∀ r ∈ rs, pos < r.start
  ordered : rs.Pairwise fun r next => r.stop < next.start

theorem placed_nil (pos : Nat) (document : List Char) : Placed pos document [] :=
  ⟨by simp, by simp, List.Pairwise.nil⟩

theorem Placed.mono {pos pos' : Nat} {document : List Char} {rs : List Region}
    (h : Placed pos' document rs) (hpos : pos ≤ pos') : Placed pos document rs :=
  ⟨h.stand, fun r hr => Nat.lt_of_le_of_lt hpos (h.behind r hr), h.ordered⟩

theorem Placed.cons {pos next : Nat} {document : List Char} {r : Region} {rs : List Region}
    (h : Placed next document rs) (hr : r.StandsIn document) (hpos : pos < r.start)
    (hnext : r.stop ≤ next) : Placed pos document (r :: rs) := by
  have hstart : r.start ≤ r.stop := Nat.le_add_right _ _
  constructor
  · intro x hx
    rcases List.mem_cons.1 hx with rfl | hx
    · exact hr
    · exact h.stand x hx
  · intro x hx
    rcases List.mem_cons.1 hx with rfl | hx
    · exact hpos
    · have := h.behind x hx
      omega
  · refine List.pairwise_cons.2 ⟨?_, h.ordered⟩
    intro x hx
    have := h.behind x hx
    omega

theorem placed_regionsFrom (before s : List Char) :
    Placed (size before) (before ++ s) (regionsFrom (size before) s) := by
  induction hn : s.length using Nat.strong_induction_on generalizing before s with
  | _ n ih =>
    cases s with
    | nil =>
      rw [regionsFrom]
      exact placed_nil _ _
    | cons c s =>
      rw [List.length_cons] at hn
      by_cases hc : c = '<'
      · subst hc
        have hlt : '<'.utf8Size = 1 := rfl
        cases hstep : stepAt (size before) s with
        | «over» =>
          rw [regionsFrom_of_over hstep]
          exact placed_nil _ _
        | goOn next rest =>
          obtain ⟨p, hs, hagain⟩ := stepAt_goOn hstep
          have hnext : next = size (before ++ '<' :: p) := by
            have heq := hagain (size before) rest rfl
            rw [← hs, hstep] at heq
            rw [size_append, size_cons, hlt, ← Nat.add_assoc]
            exact (Step.goOn.inj heq).1
          have hmore := ih rest.length (by rw [← hn, hs, List.length_append]; omega)
            (before ++ '<' :: p) rest rfl
          have htext : before ++ '<' :: p ++ rest = before ++ '<' :: s := by rw [hs]; simp
          rw [htext] at hmore
          rw [regionsFrom_of_goOn hstep, hnext]
          exact hmore.mono (by rw [size_append]; omega)
        | found e =>
          obtain ⟨p, closing, hs, -, hcontent, hagain⟩ := stepAt_found hstep
          have heq := hagain (size before) e.region.content e.rest hcontent id
          rw [← hs, hstep] at heq
          have hstart := congrArg (fun e => e.region.start) (Step.found.inj heq)
          have hrestStart := congrArg Element.restStart (Step.found.inj heq)
          simp only at hstart hrestStart
          have hnext : e.restStart =
              size (before ++ '<' :: (p ++ (e.region.content ++ closing))) := by
            rw [hrestStart]
            simp only [size_append, size_cons, hlt]
            omega
          have hmore := ih e.rest.length (by rw [← hn, hs]; simp only [List.length_append]; omega)
            (before ++ '<' :: (p ++ (e.region.content ++ closing))) e.rest rfl
          have htext : before ++ '<' :: (p ++ (e.region.content ++ closing)) ++ e.rest =
              before ++ '<' :: s := by
            conv_rhs => rw [hs]
            simp
          rw [htext] at hmore
          rw [regionsFrom_of_found hstep, hnext]
          refine hmore.cons (stepAt_stands hstep) (by omega) ?_
          rw [Region.stop, ← hnext, hrestStart, hstart]
          omega
      · have hmore := ih s.length (by omega) (before ++ [c]) s rfl
        rw [List.append_assoc, List.singleton_append, size_append, size_cons, size_nil,
          Nat.add_zero] at hmore
        rw [regionsFrom_of_ne (by simpa using hc)]
        exact hmore.mono (Nat.le_add_right _ _)

/-! ## Spans -/

theorem Region.StandsIn.inPlace {r : Region} {document : List Char} (h : r.StandsIn document) :
    r.InPlace document := by
  obtain ⟨before, name, tag, closing, rest, rfl, hname, hclosing, henclosed, hstart, htext⟩ := h
  have hlt : '<'.utf8Size = 1 := rfl
  have hgt : '>'.utf8Size = 1 := rfl
  have hsix : size name = 6 := size_of_sameIgnoringCase hname
  have height : size closing = 8 := size_of_sameIgnoringCase hclosing
  have hopen : size ('<' :: name) = 7 := by rw [size_cons, hlt, hsix]
  have hbehind : r.start - 1 = size (before ++ '<' :: (name ++ tag)) := by
    rw [hstart]
    simp only [size_append, size_cons, size_nil, hgt]
    omega
  constructor
  · have hslice := slice?_append (before ++ '<' :: (name ++ (tag ++ ['>']))) r.content
      (closing ++ rest)
    rw [← hstart] at hslice
    simpa [Region.stop] using hslice
  · refine ⟨by rw [hstart]; simp only [size_append, size_cons, hlt]; omega, ?_⟩
    obtain ⟨byte, bs, henc, hbyte⟩ := Cursor.getElem?_append_cons
      (before ++ '<' :: (name ++ tag)) (r.content ++ (closing ++ rest)) '>'
    rw [utf8EncodeChar_of_low (by decide), List.cons.injEq] at henc
    rw [hbehind, henc.1]
    simpa using hbyte
  · have hslice := slice?_append (before ++ '<' :: (name ++ (tag ++ ['>'])) ++ r.content) closing rest
    rw [size_append (before ++ '<' :: (name ++ (tag ++ ['>']))), ← hstart, height] at hslice
    exact ⟨closing, by simpa [Region.stop] using hslice, hclosing⟩
  · exact henclosed
  · refine ⟨size before, name, tag, ?_, hname, ?_, htext⟩
    · have hslice := slice?_append before ('<' :: name)
        (tag ++ '>' :: (r.content ++ (closing ++ rest)))
      rw [hopen] at hslice
      exact hslice
    · have hslice := slice?_append (before ++ '<' :: name) tag
        ('>' :: (r.content ++ (closing ++ rest)))
      have hstop : size (before ++ '<' :: name) + size tag = r.start - 1 := by
        rw [hbehind]
        simp only [size_append, size_cons]
        omega
      rw [hstop, size_append before, hopen] at hslice
      simpa using hslice

/-- The regions of any document stand in it, each behind the end of the one before, and the search for
them by cursors ends without an access outside the bytes or a slice inside a character. -/
theorem regions_in_place (document : List Char) :
    Cursor.regions document = .ok (regions document) ∧
      (∀ r ∈ regions document, r.InPlace document) ∧
      (regions document).Pairwise fun r next => r.stop < next.start := by
  have h := placed_regionsFrom [] document
  exact ⟨Cursor.regions_eq document, fun r hr => (h.stand r hr).inPlace, h.ordered⟩

end Markup
end ImportOrder
