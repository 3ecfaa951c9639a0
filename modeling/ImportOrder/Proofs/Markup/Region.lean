import ImportOrder.Markup.Region
import ImportOrder.Proofs.Text.Search

/-!
# ImportOrder.Proofs.Markup.Region

The regions of a document with other contents. A document is its texts outside the regions with the
contents between them (`weave`, `outside?`). With any contents in which no closing tag stands, the
search finds the same regions again, each with its new content, and the same texts outside them
(`Woven`). The main statement, `regionsFrom_weave`, says so of every document.

The search is a simulation between the two documents, step by step. What a step decides depends on
the text that it passes over and on seven characters behind it (`stepAt_goOn`, `stepAt_found`), and
an element in front of a content takes more than these.
-/

namespace ImportOrder
namespace Markup

open Text

/-! ## Texts outside the regions -/

/-- The texts before, between and behind the spans of regions, in a text that starts at byte offset
`pos`; nothing if a span starts before the end of the last one, or is not a place of the text. -/
def outside? (pos : Nat) (s : List Char) : List Region → Option (List (List Char))
  | [] => some [s]
  | r :: more =>
    if r.start < pos then none
    else
      match cut? (r.start - pos) s with
      | none => none
      | some (before, rest) =>
        match cut? (size r.content) rest with
        | none => none
        | some (_, after) => (outside? r.stop after more).map (before :: ·)

/-- Texts with other texts between them. -/
def weave : List (List Char) → List (List Char) → List Char
  | [], _ => []
  | t :: _, [] => t
  | t :: ts, c :: cs => t ++ (c ++ weave ts cs)

theorem weave_cons (t : List Char) (ts cs : List (List Char)) (p : List Char) :
    weave ((p ++ t) :: ts) cs = p ++ weave (t :: ts) cs := by
  cases cs with
  | nil => rfl
  | cons c cs => simp [weave]

/-- Text passed over before the first region is outside. -/
theorem outside?_append {pos : Nat} {p s t : List Char} {rs : List Region} {ts : List (List Char)}
    (h : outside? (pos + size p) s rs = some (t :: ts)) :
    outside? pos (p ++ s) rs = some ((p ++ t) :: ts) := by
  cases rs with
  | nil =>
    simp only [outside?, Option.some.injEq, List.cons.injEq] at h ⊢
    exact ⟨by rw [h.1], h.2⟩
  | cons r more =>
    simp only [outside?] at h ⊢
    split at h
    · cases h
    · rename_i hpos
      split at h
      · cases h
      · rename_i before rest hcut
        obtain ⟨rfl, hsize⟩ := cut?_eq_some hcut
        have hstart : r.start - pos = size (p ++ before) := by
          rw [size_append, hsize]
          omega
        rw [if_neg (by omega), ← List.append_assoc, hstart, cut?_append]
        split at h
        · cases h
        · rename_i content after hcontent
          obtain ⟨ts', hts, heq⟩ := Option.map_eq_some_iff.1 h
          cases heq
          simp only [hcontent, hts, Option.map_some]

/-- A region right behind the text passed over. -/
theorem outside?_cons {pos : Nat} {p s : List Char} {r : Region} {rs : List Region}
    {ts : List (List Char)} (hstart : r.start = pos + size p)
    (h : outside? r.stop s rs = some ts) :
    outside? pos (p ++ (r.content ++ s)) (r :: rs) = some (p :: ts) := by
  have hpos : r.start - pos = size p := by omega
  rw [outside?, if_neg (by omega), hpos, cut?_append]
  simp only [cut?_append, h, Option.map_some]

/-! ## Sizes -/

theorem utf8Size_toLower (c : Char) : c.toLower.utf8Size = c.utf8Size := by
  by_cases h : c.val ≥ 'A'.val ∧ c.val ≤ 'Z'.val
  · have hval : c.toLower.val = c.val + 32 := by
      delta Char.toLower
      rw [dif_pos h]
      rfl
    obtain ⟨hlow, hhigh⟩ := h
    have hc : c.val ≤ 127 := UInt32.le_trans hhigh (by decide)
    have hc' : c.toLower.val ≤ 127 := by
      rw [hval]
      have h₁ : c.toNat ≤ 90 := hhigh
      rw [UInt32.le_iff_toNat_le, UInt32.toNat_add]
      simp
      omega
    simp [Char.utf8Size, hc, hc']
  · have heq : c.toLower = c := by
      delta Char.toLower
      rw [dif_neg h]
    rw [heq]

theorem size_of_sameIgnoringCase {a b : List Char} (h : sameIgnoringCase a b = true) :
    size a = size b := by
  have hsize : ∀ s : List Char, size (s.map Char.toLower) = size s := by
    intro s
    induction s with
    | nil => rfl
    | cons c s ih => rw [List.map_cons, size_cons, size_cons, utf8Size_toLower, ih]
  rw [← hsize a, ← hsize b, beq_iff_eq.1 h]

/-! ## Readers and what follows -/

/-- Whether a text starts with a word is told by as many characters as the word has. -/
theorem dropWord?_eq_none {w s t : List Char} {n : Nat} (hn : w.length ≤ n)
    (ht : t.take n = s.take n) (h : dropWord? w s = none) : dropWord? w t = none := by
  cases hdrop : dropWord? w t with
  | none => rfl
  | some rest =>
    have hw : s.take w.length = w := by
      calc s.take w.length = (s.take n).take w.length := by
            rw [List.take_take, Nat.min_eq_left hn]
        _ = (t.take n).take w.length := by rw [ht]
        _ = t.take w.length := by rw [List.take_take, Nat.min_eq_left hn]
        _ = w := by rw [dropWord?_eq_some hdrop, List.take_left]
    rw [← List.take_append_drop w.length s, hw, dropWord?_append] at h
    cases h

/-- The first place of a word does not depend on what follows it. -/
theorem splitAtWord?_append {w before after : List Char} (hw : w ≠ [])
    (h : splitAtWord? w (before ++ (w ++ after)) = some (before, after)) (x : List Char) :
    splitAtWord? w (before ++ (w ++ x)) = some (before, x) := by
  induction before with
  | nil =>
    obtain ⟨c, w, rfl⟩ := List.exists_cons_of_ne_nil hw
    have hdrop := dropWord?_append (c :: w) x
    rw [List.cons_append] at hdrop
    rw [List.nil_append, List.cons_append, splitAtWord?, hdrop]
  | cons c before ih =>
    rw [List.cons_append, splitAtWord?] at h ⊢
    cases hdrop : dropWord? w (c :: (before ++ (w ++ after))) with
    | some rest =>
      rw [hdrop] at h
      simp at h
    | none =>
      rw [hdrop] at h
      have htake : (c :: (before ++ (w ++ x))).take w.length =
          (c :: (before ++ (w ++ after))).take w.length := by
        have hlen : w.length ≤ (c :: (before ++ w)).length := by
          simp only [List.length_append, List.length_cons]
          omega
        have hfront : ∀ y, (c :: (before ++ (w ++ y))).take w.length =
            (c :: (before ++ w)).take w.length := by
          intro y
          rw [← List.take_append_of_le_length hlen, List.cons_append, List.append_assoc]
        rw [hfront, hfront]
      rw [dropWord?_eq_none (Nat.le_refl _) htake hdrop]
      obtain ⟨⟨b, a⟩, hba, heq⟩ := Option.map_eq_some_iff.1 h
      cases heq
      simp only [ih hba, Option.map_some]

theorem splitTag?_append {quote : Option Char} {text rest : List Char}
    (h : splitTag? quote (text ++ '>' :: rest) = some (text, rest)) (x : List Char) :
    splitTag? quote (text ++ '>' :: x) = some (text, x) := by
  induction text generalizing quote with
  | nil =>
    rw [List.nil_append] at h ⊢
    cases quote with
    | some q =>
      simp [splitTag?] at h
    | none => simp [splitTag?]
  | cons c text ih =>
    rw [List.cons_append] at h ⊢
    cases quote with
    | some q =>
      simp only [splitTag?] at h ⊢
      obtain ⟨⟨t, r⟩, ht, heq⟩ := Option.map_eq_some_iff.1 h
      cases heq
      rw [ih ht]
      rfl
    | none =>
      simp only [splitTag?] at h ⊢
      split at h
      · simp at h
      · rename_i hc
        obtain ⟨⟨t, r⟩, ht, heq⟩ := Option.map_eq_some_iff.1 h
        cases heq
        rw [if_neg hc, ih ht]
        rfl

theorem splitTag?_plain {p : List Char} (hp : ∀ c ∈ p, c ≠ '>' ∧ c ≠ '"' ∧ c ≠ '\'')
    (s : List Char) :
    splitTag? none (p ++ s) = (splitTag? none s).map fun (text, rest) => (p ++ text, rest) := by
  induction p with
  | nil => simp
  | cons c p ih =>
    obtain ⟨hgt, hdouble, hsingle⟩ := hp c List.mem_cons_self
    have hquote : (c = '"' || c = '\'') = false := by simp [hdouble, hsingle]
    rw [List.cons_append, splitTag?]
    simp only [hgt, hquote, if_false, Bool.false_eq_true]
    rw [ih fun x hx => hp x (List.mem_cons_of_mem c hx), Option.map_map]
    rfl

theorem splitTag?_quoted {quote : Char} {v : List Char} (hv : quote ∉ v) (s : List Char) :
    splitTag? (some quote) (v ++ quote :: s) =
      (splitTag? none s).map fun (text, rest) => (v ++ quote :: text, rest) := by
  induction v with
  | nil => simp [splitTag?]
  | cons c v ih =>
    have hc : c ≠ quote := by
      rintro rfl
      exact hv List.mem_cons_self
    rw [List.cons_append, splitTag?]
    simp only [hc, if_false]
    rw [ih fun hmem => hv (List.mem_cons_of_mem c hmem), Option.map_map]
    rfl

theorem splitTag?_unclosed {quote : Char} {s : List Char} (hs : quote ∉ s) :
    splitTag? (some quote) s = none := by
  induction s with
  | nil => rfl
  | cons c s ih =>
    have hc : c ≠ quote := by
      rintro rfl
      exact hs List.mem_cons_self
    rw [splitTag?]
    simp only [hc, if_false]
    rw [ih fun hmem => hs (List.mem_cons_of_mem c hmem)]
    rfl

theorem scriptTag?_eq_some {s tag : List Char} (h : scriptTag? s = some tag) :
    ∃ name, s = name ++ tag ∧ name.length = 6 ∧ sameIgnoringCase name scriptWord = true ∧
      tag.head?.any endsTagName = true := by
  unfold scriptTag? at h
  split at h
  · rename_i hcond
    cases h
    rw [Bool.and_eq_true] at hcond
    have hlen := congrArg List.length (beq_iff_eq.1 hcond.1)
    rw [List.length_map, List.length_map] at hlen
    exact ⟨s.take scriptWord.length, (List.take_append_drop _ _).symm, hlen, hcond⟩
  · cases h

theorem scriptTag?_append {name tag : List Char} (hlen : name.length = 6)
    (hname : sameIgnoringCase name scriptWord = true) (htag : tag.head?.any endsTagName = true) :
    scriptTag? (name ++ tag) = some tag := by
  have hword : scriptWord.length = name.length := hlen.symm
  rw [scriptTag?, hword, List.take_left, List.drop_left, hname, htag]
  rfl

theorem scriptTag?_eq_none {s t : List Char} (ht : t.take 7 = s.take 7)
    (h : scriptTag? s = none) : scriptTag? t = none := by
  cases hscript : scriptTag? t with
  | none => rfl
  | some tag =>
    obtain ⟨name, rfl, hlen, hname, htag⟩ := scriptTag?_eq_some hscript
    cases tag with
    | nil => cases htag
    | cons c tag =>
      have hs : s.take 7 = name ++ [c] := by
        rw [← ht, List.take_append, hlen, List.take_of_length_le (by omega)]
        rfl
      have hsplit : s = name ++ (c :: s.drop 7) := by
        conv_lhs => rw [← List.take_append_drop 7 s, hs]
        simp
      have hread : scriptTag? (name ++ (c :: s.drop 7)) = some (c :: s.drop 7) :=
        scriptTag?_append hlen hname htag
      rw [hsplit, hread] at h
      cases h

/-! ## Elements -/

/-- A content in which no closing tag stands. -/
def Enclosed (content : List Char) : Prop :=
  Free Char.toLower closingTag content

theorem find?_closingTag {content rest : List Char} (hcontent : Enclosed content)
    (hrest : standsAt Char.toLower closingTag rest = true) :
    find? Char.toLower (content ++ rest) closingTag 0 = some content.length := by
  have hall : ('/' :: scriptWord).all (fun y => y.toLower != Char.toLower '<') = true := rfl
  have hfirst : ∀ y ∈ '/' :: scriptWord, y.toLower ≠ Char.toLower '<' := by
    intro y hy
    simpa using List.all_eq_true.1 hall y hy
  rw [find?_eq_place? (by simp [closingTag])]
  exact place?_append hfirst hcontent hrest

theorem standsAt_closing {closing rest : List Char}
    (h : standsAt Char.toLower closingTag (closing ++ '>' :: rest) = true) (x : List Char) :
    standsAt Char.toLower closingTag (closing ++ '>' :: x) = true := by
  have hlen : closingTag.length ≤ closing.length := by
    by_contra hlt
    have hmem : '>' ∈ (closing ++ '>' :: rest).take closingTag.length := by
      rw [List.take_append, List.mem_append]
      right
      obtain ⟨k, hk⟩ : ∃ k, closingTag.length - closing.length = k + 1 :=
        ⟨closingTag.length - closing.length - 1, by omega⟩
      rw [hk, List.take_succ_cons]
      exact List.mem_cons_self
    have := List.mem_map_of_mem (f := Char.toLower) hmem
    rw [standsAt_iff.1 h] at this
    exact absurd this (by decide)
  rw [standsAt_iff, List.take_append_of_le_length hlen] at h ⊢
  exact h

/-- An element is its content and what closes it. With another content it is read again, and its
closing tag with it. -/
theorem element?_eq_some {attributes s : List Char} {start : Nat} {e : Element}
    (h : element? attributes start s = some e) :
    ∃ content closing, s = content ++ (closing ++ e.rest) ∧ Enclosed content ∧
      e.region = ⟨content, start, trim attributes, lastValues (readAttributes attributes)⟩ ∧
      ∀ start' new x, Enclosed new → (e.rest = [] → x = []) →
        element? attributes start' (new ++ (closing ++ x)) =
          some ⟨⟨new, start', trim attributes, lastValues (readAttributes attributes)⟩, x,
            start' + size new + size closing⟩ := by
  unfold element? at h
  split at h
  · cases h
  · rename_i n hfind
    rw [find?_eq_place? (by simp [closingTag])] at hfind
    obtain ⟨hstands, hfree⟩ := place?_eq_some hfind
    have hs : s.take n ++ s.drop n = s := List.take_append_drop n s
    split at h
    · -- the closing tag is itself not closed, and nothing follows
      rename_i hclose
      cases h
      refine ⟨s.take n, s.drop n, by simp, hfree (by simp [closingTag]), rfl, ?_⟩
      intro start' new x hnew hx
      rw [hx rfl, List.append_nil, element?, find?_closingTag hnew hstands]
      simp only [List.take_left, List.drop_left, hclose, size_append]
      simp [Nat.add_assoc]
    · rename_i closing rest hclose
      cases h
      have hdrop := splitAtChar?_eq_some hclose
      have hnot := not_mem_of_splitAtChar? hclose
      have hgt : '>'.utf8Size = 1 := rfl
      refine ⟨s.take n, closing ++ ['>'], ?_, hfree (by simp [closingTag]), rfl, ?_⟩
      · simp only [List.append_assoc, List.singleton_append, ← hdrop, hs]
      · intro start' new x hnew _
        rw [hdrop] at hstands
        simp only [List.append_assoc, List.singleton_append]
        rw [element?, find?_closingTag hnew (standsAt_closing hstands x)]
        simp only [List.take_left, List.drop_left, splitAtChar?_append hnot, Region.stop,
          size_append, size_cons, size_nil, hgt]
        simp [Nat.add_assoc]

/-! ## Steps -/

theorem stepAt_over {pos : Nat} {s : List Char} (h : stepAt pos s = .over) (pos' : Nat) :
    stepAt pos' s = .over := by
  unfold stepAt at h ⊢
  split at h
  · split at h
    · rfl
    · cases h
  · split at h
    · cases h
    · split at h
      · rfl
      · rename_i attributes rest _
        simp only at h ⊢
        split at h
        · cases h
        · rename_i hslash
          rw [if_neg hslash]
          split at h
          · rename_i hnone
            have hnone' : element? attributes (pos' + 7 + size attributes + 1) rest = none := by
              unfold element? at hnone ⊢
              split at hnone
              · rfl
              · split at hnone <;> cases hnone
            rw [hnone']
          · cases h

/-- An opening tag read in front of one text is read in front of any. -/
theorem stepAt_tag {s tag attributes rest : List Char} (hcomment : commentBody? s = none)
    (hscript : scriptTag? s = some tag) (hattributes : splitTag? none tag = some (attributes, rest)) :
    ∃ p, s = p ++ rest ∧ 7 ≤ p.length ∧ ∀ pos x,
      stepAt pos (p ++ x) =
        if attributes.getLast? = some '/' then .goOn (pos + 1 + size p) x
        else
          match element? attributes (pos + 1 + size p) x with
          | none => .over
          | some e => .found e := by
  obtain ⟨name, rfl, hlen, hname, htag⟩ := scriptTag?_eq_some hscript
  have htext := splitTag?_eq_some hattributes
  subst htext
  have hgt : '>'.utf8Size = 1 := rfl
  have hsize : size (name ++ (attributes ++ ['>'])) = 6 + size attributes + 1 := by
    have hsix : size name = 6 := size_of_sameIgnoringCase hname
    simp only [size_append, size_cons, size_nil, hgt]
    omega
  refine ⟨name ++ (attributes ++ ['>']), by simp, by simp; omega, ?_⟩
  intro pos x
  have happend : name ++ (attributes ++ ['>']) ++ x = name ++ (attributes ++ '>' :: x) := by simp
  have htake : (name ++ (attributes ++ '>' :: x)).take 6 =
      (name ++ (attributes ++ '>' :: rest)).take 6 := by
    rw [List.take_append_of_le_length (Nat.le_of_eq hlen.symm),
      List.take_append_of_le_length (Nat.le_of_eq hlen.symm)]
  have hnone : commentBody? (name ++ (attributes ++ '>' :: x)) = none :=
    dropWord?_eq_none (by decide) htake hcomment
  have hends : (attributes ++ '>' :: x).head?.any endsTagName = true := by
    cases attributes with
    | nil => rfl
    | cons c attributes => exact htag
  have hstart : pos + 7 + size attributes + 1 = pos + 1 + size (name ++ (attributes ++ ['>'])) := by
    rw [hsize]
    omega
  rw [happend, stepAt, hnone]
  by_cases hself : attributes.getLast? = some '/'
  · simp only [scriptTag?_append hlen hname hends, splitTag?_append hattributes x, hstart, hself,
      if_true]
  · cases helement : element? attributes (pos + 1 + size (name ++ (attributes ++ ['>']))) x with
    | none =>
      simp only [scriptTag?_append hlen hname hends, splitTag?_append hattributes x, hstart, hself,
        helement, if_false]
    | some e =>
      simp only [scriptTag?_append hlen hname hends, splitTag?_append hattributes x, hstart, hself,
        helement, if_false]

/-- A step that goes on passes over a text; what it does depends on that text and on the seven
characters behind it. -/
theorem stepAt_goOn {pos next : Nat} {s rest : List Char} (h : stepAt pos s = .goOn next rest) :
    ∃ p, s = p ++ rest ∧ ∀ pos' x, x.take 7 = rest.take 7 →
      stepAt pos' (p ++ x) = .goOn (pos' + 1 + size p) x := by
  unfold stepAt at h
  split at h
  · rename_i inside hcomment
    split at h
    · cases h
    · rename_i body rest' hend
      cases h
      have hs := dropWord?_eq_some hcomment
      have hinside := splitAtWord?_eq_some hend
      refine ⟨['!', '-', '-'] ++ (body ++ commentEnd), by rw [hs, hinside]; simp, ?_⟩
      intro pos' x _
      have hread : commentBody? (['!', '-', '-'] ++ (body ++ commentEnd) ++ x) =
          some (body ++ (commentEnd ++ x)) := by
        rw [List.append_assoc, List.append_assoc]
        exact dropWord?_append _ _
      rw [hinside, List.append_assoc] at hend
      have hsplit := splitAtWord?_append (by simp [commentEnd]) hend x
      have hsize : size (['!', '-', '-'] ++ (body ++ commentEnd)) = 3 + size body + 3 := by
        rw [size_append, size_append]
        have hfront : size ['!', '-', '-'] = 3 := rfl
        have hback : size commentEnd = 3 := rfl
        omega
      simp only [stepAt, hread, hsplit, hsize]
      congr 1
      omega
  · rename_i hcomment
    split at h
    · -- neither a comment nor a script begins here
      rename_i hscript
      cases h
      refine ⟨[], rfl, ?_⟩
      intro pos' x hx
      rw [List.nil_append, stepAt, commentBody?, dropWord?_eq_none (by decide) hx hcomment,
        scriptTag?_eq_none hx hscript]
      simp
    · rename_i tag hscript
      split at h
      · cases h
      · rename_i attributes rest' hattributes
        obtain ⟨p, hs, -, hstep⟩ := stepAt_tag hcomment hscript hattributes
        simp only at h
        split at h
        · rename_i hslash
          cases h
          refine ⟨p, hs, ?_⟩
          intro pos' x _
          rw [hstep, if_pos hslash]
        · split at h <;> cases h

/-- A step that finds an element finds it with any content that can be enclosed, and finds what
follows. -/
theorem stepAt_found {pos : Nat} {s : List Char} {e : Element} (h : stepAt pos s = .found e) :
    ∃ p closing, s = p ++ (e.region.content ++ (closing ++ e.rest)) ∧ 7 ≤ p.length ∧
      Enclosed e.region.content ∧
      ∀ pos' new x, Enclosed new → (e.rest = [] → x = []) →
        stepAt pos' (p ++ (new ++ (closing ++ x))) =
          .found ⟨⟨new, pos' + 1 + size p, e.region.attributeText, e.region.attributes⟩, x,
            pos' + 1 + size p + size new + size closing⟩ := by
  unfold stepAt at h
  split at h
  · split at h <;> cases h
  · rename_i hcomment
    split at h
    · cases h
    · rename_i tag hscript
      split at h
      · cases h
      · rename_i attributes rest hattributes
        obtain ⟨p, hs, hlen, hstep⟩ := stepAt_tag hcomment hscript hattributes
        simp only at h
        split at h
        · cases h
        · rename_i hslash
          split at h
          · cases h
          · rename_i e' helement
            cases h
            obtain ⟨content, closing, hrest, hcontent, hregion, hagain⟩ :=
              element?_eq_some helement
            refine ⟨p, closing, ?_, hlen, ?_, ?_⟩
            · rw [hs, hrest, hregion]
            · rw [hregion]
              exact hcontent
            · intro pos' new x hnew hx
              rw [hstep, if_neg hslash, hagain _ _ _ hnew hx, hregion]

/-! ## The search -/

section Search

variable {pos : Nat} {s : List Char}

theorem regionsFrom_of_ne {c : Char} (hc : (c != '<') = true) :
    regionsFrom pos (c :: s) = regionsFrom (pos + c.utf8Size) s := by
  rw [regionsFrom, if_pos hc]

theorem regionsFrom_of_over (h : stepAt pos s = .over) : regionsFrom pos ('<' :: s) = [] := by
  rw [regionsFrom, if_neg (by decide)]
  split
  · rfl
  · rename_i heq
    rw [h] at heq
    cases heq
  · rename_i heq
    rw [h] at heq
    cases heq

theorem regionsFrom_of_goOn {next : Nat} {rest : List Char} (h : stepAt pos s = .goOn next rest) :
    regionsFrom pos ('<' :: s) = regionsFrom next rest := by
  rw [regionsFrom, if_neg (by decide)]
  split
  · rename_i heq
    rw [h] at heq
    cases heq
  · rename_i heq
    rw [h] at heq
    cases heq
    rfl
  · rename_i heq
    rw [h] at heq
    cases heq

theorem regionsFrom_of_found {e : Element} (h : stepAt pos s = .found e) :
    regionsFrom pos ('<' :: s) = e.region :: regionsFrom e.restStart e.rest := by
  rw [regionsFrom, if_neg (by decide)]
  split
  · rename_i heq
    rw [h] at heq
    cases heq
  · rename_i heq
    rw [h] at heq
    cases heq
  · rename_i heq
    rw [h] at heq
    cases heq
    rfl

end Search

/-- In the text woven from `ts` and `cs` the search finds regions with the contents `cs` and the
attributes `marks`, and the texts `ts` outside them. -/
structure Recovers (pos : Nat) (ts cs : List (List Char))
    (marks : List (List Char × List Attribute)) : Prop where
  contents : (regionsFrom pos (weave ts cs)).map (·.content) = cs
  attributes : ((regionsFrom pos (weave ts cs)).map fun r => (r.attributeText, r.attributes)) = marks
  outside : outside? pos (weave ts cs) (regionsFrom pos (weave ts cs)) = some ts

theorem take_weave {t : List Char} (ht : 7 ≤ t.length) (ts cs : List (List Char)) :
    (weave (t :: ts) cs).take 7 = t.take 7 := by
  cases cs with
  | nil => rfl
  | cons c cs => rw [weave, List.take_append_of_le_length ht]

/-- Text passed over does not change what is recovered behind it. -/
theorem Recovers.prepend {pos : Nat} {p t : List Char} {ts cs : List (List Char)}
    {marks : List (List Char × List Attribute)}
    (h : Recovers (pos + size p) (t :: ts) cs marks)
    (hskip : regionsFrom pos (p ++ weave (t :: ts) cs) =
      regionsFrom (pos + size p) (weave (t :: ts) cs)) :
    Recovers pos ((p ++ t) :: ts) cs marks := by
  constructor
  · rw [weave_cons, hskip, h.contents]
  · rw [weave_cons, hskip, h.attributes]
  · rw [weave_cons, hskip]
    exact outside?_append h.outside

/-- An element in front of what is recovered behind its closing tag. -/
theorem Recovers.found {pos : Nat} {p closing t new : List Char} {ts news : List (List Char)}
    {marks : List (List Char × List Attribute)} {attributeText : List Char}
    {attributes : List Attribute}
    (hstep : stepAt pos (p ++ (new ++ (closing ++ weave (t :: ts) news))) =
      .found ⟨⟨new, pos + 1 + size p, attributeText, attributes⟩, weave (t :: ts) news,
        pos + 1 + size p + size new + size closing⟩)
    (h : Recovers (pos + 1 + size p + size new + size closing) (t :: ts) news marks) :
    Recovers pos (('<' :: p) :: (closing ++ t) :: ts) (new :: news)
      ((attributeText, attributes) :: marks) := by
  have hfound := regionsFrom_of_found hstep
  have htext : weave (('<' :: p) :: (closing ++ t) :: ts) (new :: news) =
      '<' :: (p ++ (new ++ (closing ++ weave (t :: ts) news))) := by
    rw [weave, weave_cons]
    rfl
  constructor
  · rw [htext, hfound, List.map_cons, h.contents]
  · rw [htext, hfound, List.map_cons, h.attributes]
  · rw [htext, hfound, ← List.cons_append]
    refine outside?_cons ?_ (outside?_append h.outside)
    rw [size_cons, ← Nat.add_assoc]
    rfl

/-- The text `s`, which starts at byte offset `pos`, is `t` and `ts` with the contents of its regions
between them. With other contents that can be enclosed, the search recovers these contents, and the
rest as it was, wherever the text starts. -/
structure Woven (pos : Nat) (s t : List Char) (ts : List (List Char)) : Prop where
  weave_eq : weave (t :: ts) ((regionsFrom pos s).map (·.content)) = s
  length_eq : ts.length = (regionsFrom pos s).length
  /-- A first text with an element behind it ends with the opening tag of a script. -/
  long : ts ≠ [] → 7 ≤ t.length
  enclosed : ∀ r ∈ regionsFrom pos s, Enclosed r.content
  recovers : ∀ pos' news, news.length = ts.length → (∀ c ∈ news, Enclosed c) →
    Recovers pos' (t :: ts) news ((regionsFrom pos s).map fun r => (r.attributeText, r.attributes))

theorem woven_of_none {s : List Char} (h : ∀ pos, regionsFrom pos s = []) (pos : Nat) :
    Woven pos s s [] where
  weave_eq := by rw [h]; rfl
  length_eq := by rw [h]; rfl
  long := fun hne => absurd rfl hne
  enclosed := by simp [h]
  recovers := by
    intro pos' news hlen _
    rw [List.length_eq_zero_iff.1 hlen]
    exact ⟨by simp [weave, h], by simp [weave, h], by simp [weave, h, outside?]⟩

section Cases

variable {pos : Nat} {s t : List Char} {ts news : List (List Char)}

/-- Other contents leave the first characters as they are, those that tell what a step does. -/
theorem Woven.take_weave (h : Woven pos s t ts) (hlen : news.length = ts.length) :
    (weave (t :: ts) news).take 7 = s.take 7 := by
  cases ts with
  | nil =>
    have hnone : regionsFrom pos s = [] := List.length_eq_zero_iff.1 h.length_eq.symm
    have hs := h.weave_eq
    rw [hnone] at hs
    rw [List.length_eq_zero_iff.1 hlen, ← hs]
    rfl
  | cons t' ts =>
    have hseven := h.long (List.cons_ne_nil _ _)
    rw [Markup.take_weave hseven]
    conv_rhs => rw [← h.weave_eq, Markup.take_weave hseven]

theorem Woven.weave_eq_nil (h : Woven pos [] t ts) (hlen : news.length = ts.length) :
    weave (t :: ts) news = [] := by
  have htext := h.weave_eq
  have hcount := h.length_eq
  rw [regionsFrom] at htext hcount
  obtain rfl : ts = [] := List.length_eq_zero_iff.1 hcount
  rw [List.length_eq_zero_iff.1 hlen, ← htext]
  rfl

/-- The search goes on behind a text, and what makes it do so are the first characters there. -/
theorem Woven.prepend {p : List Char} (h : Woven (pos + size p) s t ts)
    (hskip : ∀ pos' x, x.take 7 = s.take 7 →
      regionsFrom pos' (p ++ x) = regionsFrom (pos' + size p) x) :
    Woven pos (p ++ s) (p ++ t) ts where
  weave_eq := by rw [hskip pos s rfl, weave_cons, h.weave_eq]
  length_eq := by rw [hskip pos s rfl, h.length_eq]
  long := by
    intro hne
    have := h.long hne
    rw [List.length_append]
    omega
  enclosed := by
    rw [hskip pos s rfl]
    exact h.enclosed
  recovers := by
    intro pos' news hlen hnews
    rw [hskip pos s rfl]
    exact (h.recovers (pos' + size p) news hlen hnews).prepend (hskip pos' _ (h.take_weave hlen))

theorem Woven.found {e : Element} (h : Woven e.restStart e.rest t ts)
    (hstep : stepAt pos s = .found e) : ∃ t' ts', Woven pos ('<' :: s) t' ts' := by
  obtain ⟨p, closing, hs, hseven, hcontent, hagain⟩ := stepAt_found hstep
  have hregions := regionsFrom_of_found hstep
  refine ⟨'<' :: p, (closing ++ t) :: ts, ?_, ?_, ?_, ?_, ?_⟩
  · rw [hregions, List.map_cons, weave, weave_cons, h.weave_eq, List.cons_append, ← hs]
  · rw [hregions, List.length_cons, List.length_cons, h.length_eq]
  · intro _
    rw [List.length_cons]
    omega
  · intro r hr
    rw [hregions] at hr
    rcases List.mem_cons.1 hr with rfl | hr
    · exact hcontent
    · exact h.enclosed r hr
  · intro pos' news hlen hnews
    cases news with
    | nil => simp at hlen
    | cons new news =>
      have hlen' : news.length = ts.length := by simpa using hlen
      have hnil : e.rest = [] → weave (t :: ts) news = [] := by
        intro hrest
        exact (hrest ▸ h).weave_eq_nil hlen'
      rw [hregions, List.map_cons]
      exact (h.recovers _ news hlen' fun c hc => hnews c (List.mem_cons_of_mem _ hc)).found
        (hagain pos' new _ (hnews new List.mem_cons_self) hnil)

end Cases

/-- Every text is its texts outside the regions with the contents between them. -/
theorem regionsFrom_weave (pos : Nat) (s : List Char) : ∃ t ts, Woven pos s t ts := by
  fun_induction regionsFrom pos s with
  | case1 pos => exact ⟨[], [], woven_of_none (fun pos => by rw [regionsFrom]) pos⟩
  | case2 pos c s hc ih =>
    obtain ⟨t, ts, hwoven⟩ := ih
    exact ⟨[c] ++ t, ts, Woven.prepend (p := [c]) hwoven fun _ _ _ => regionsFrom_of_ne hc⟩
  | case3 pos c s hc hstep =>
    obtain rfl : c = '<' := by simpa using hc
    exact ⟨'<' :: s, [], woven_of_none (fun pos' => regionsFrom_of_over (stepAt_over hstep pos')) pos⟩
  | case4 pos c s hc next rest hstep ih =>
    obtain rfl : c = '<' := by simpa using hc
    obtain ⟨t, ts, hwoven⟩ := ih
    obtain ⟨p, rfl, hagain⟩ := stepAt_goOn hstep
    have hsize : ∀ pos, pos + size ('<' :: p) = pos + 1 + size p := by
      intro pos
      rw [size_cons, ← Nat.add_assoc]
      rfl
    have hnext : next = pos + size ('<' :: p) := by
      have hsame := hagain pos rest rfl
      rw [hstep] at hsame
      rw [hsize]
      exact (Step.goOn.inj hsame).1
    subst hnext
    refine ⟨'<' :: p ++ t, ts, hwoven.prepend fun pos' x hx => ?_⟩
    rw [hsize]
    exact regionsFrom_of_goOn (hagain pos' x hx)
  | case5 pos c s hc e hstep ih =>
    obtain rfl : c = '<' := by simpa using hc
    obtain ⟨t, ts, hwoven⟩ := ih
    exact hwoven.found hstep

end Markup
end ImportOrder
