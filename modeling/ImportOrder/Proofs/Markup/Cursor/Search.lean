import ImportOrder.Proofs.Markup.Cursor.Attributes
import ImportOrder.Proofs.Markup.Cursor.Tags

/-!
# ImportOrder.Proofs.Markup.Cursor.Search

The search for regions at a cursor. `stepAt_append` is about one step, from a `<` on, and
`regionsFrom_append` about the whole run: from a place between two characters on, no access and no
slice is at fault and the cursor always moves on. `regions_eq` says so for a document.
-/

namespace ImportOrder
namespace Markup
namespace Cursor

open Text

/-! ## Words and characters by their places -/

theorem dropWord?_eq_standsAt (w s : List Char) :
    dropWord? w s = if standsAt id w s then some (s.drop w.length) else none := by
  by_cases h : standsAt id w s = true
  · have htake : s.take w.length = w := by simpa using standsAt_iff.1 h
    rw [if_pos h]
    conv_lhs => rw [← List.take_append_drop w.length s, htake, dropWord?_append]
  · rw [if_neg h]
    cases hdrop : dropWord? w s with
    | none => rfl
    | some r =>
      refine absurd (standsAt_iff.2 ?_) h
      rw [dropWord?_eq_some hdrop, List.take_left]

theorem splitAtWord?_eq_place? {w : List Char} (hne : w ≠ []) (s : List Char) :
    splitAtWord? w s = (place? id w s).map fun n => (s.take n, s.drop (n + w.length)) := by
  induction s with
  | nil =>
    cases w with
    | nil => exact absurd rfl hne
    | cons x w => rfl
  | cons c s ih =>
    rw [splitAtWord?, dropWord?_eq_standsAt, place?]
    by_cases h : standsAt id w (c :: s) = true
    · simp [h]
    · simp only [if_neg h, ih, Option.map_map]
      congr 1
      funext n
      simp [Nat.add_right_comm]

theorem splitAtChar?_eq_findIdx? (x : Char) (s : List Char) :
    splitAtChar? x s = (s.findIdx? (· == x)).map fun n => (s.take n, s.drop (n + 1)) := by
  induction s with
  | nil => rfl
  | cons c s ih =>
    rw [splitAtChar?, List.findIdx?_cons]
    by_cases h : c = x
    · simp [h]
    · have hbeq : (c == x) = false := by simpa using h
      simp only [h, hbeq, if_false, ih, Option.map_map, Bool.false_eq_true]
      congr 1

/-! ## One step -/

/-- The move of the cursor in a step of the search on characters. -/
def Move.of : Step → Move
  | .over => .over
  | .goOn next _ => .goOn next
  | .found e => .found e.region e.restStart

theorem commentBody?_isSome (s : List Char) :
    (utf8 ['<', '!', '-', '-']).isPrefixOf (utf8 ('<' :: s)) = (commentBody? s).isSome := by
  rw [Bool.eq_iff_iff, List.isPrefixOf_iff_prefix, utf8_isPrefix_iff (low_of_all rfl),
    List.cons_prefix_cons]
  constructor
  · rintro ⟨-, inside, rfl⟩
    rw [commentBody?, dropWord?_append]
    rfl
  · intro h
    obtain ⟨inside, hinside⟩ := Option.isSome_iff_exists.1 h
    exact ⟨rfl, inside, (dropWord?_eq_some hinside).symm⟩

theorem stepAt_comment (a : List Char) {s inside : List Char} (h : commentBody? s = some inside) :
    stepAt (a ++ '<' :: s) (size a) = .ok (Move.of (Markup.stepAt (size a) s)) := by
  have hs : s = ['!', '-', '-'] ++ inside := dropWord?_eq_some h
  have htail : tailFrom (utf8 (a ++ '<' :: s)) (size a + 4) = .ok (utf8 inside) := by
    have hfour : size (a ++ ['<', '!', '-', '-']) = size a + 4 := by
      rw [size_append]
      rfl
    rw [hs, ← hfour]
    simpa using tailFrom_append (a ++ ['<', '!', '-', '-']) inside
  have hfind : find? id (utf8 inside) (utf8 commentEnd) 0 =
      (place? id commentEnd inside).map fun n => size (inside.take n) := by
    rw [find?_eq_place? (by decide)]
    exact place?_utf8 folding_id (by decide) (low_of_all rfl) inside
  have hprefix : (utf8 ['<', '!', '-', '-']).isPrefixOf (utf8 ('<' :: s)) = true := by
    rw [commentBody?_isSome, h]
    rfl
  rw [stepAt, Markup.stepAt, h]
  simp only [tailFrom_append, ok_bind, hprefix, if_true, htail, hfind,
    splitAtWord?_eq_place? (show commentEnd ≠ [] by decide)]
  cases place? id commentEnd inside with
  | none => rfl
  | some n => rfl

/-- The byte before a place between two characters belongs to the character before it. -/
theorem byteBefore_append (f : List Char) (x : Char) (b : List Char) :
    ∃ byte ∈ String.utf8EncodeChar x,
      byteBefore (utf8 (f ++ [x] ++ b)) (size (f ++ [x])) = .ok byte := by
  obtain ⟨front, byte, henc⟩ : ∃ front byte, String.utf8EncodeChar x = front ++ [byte] := by
    obtain ⟨first, bs, henc⟩ := exists_utf8EncodeChar x
    refine ⟨(String.utf8EncodeChar x).dropLast, (String.utf8EncodeChar x).getLast ?_, ?_⟩
    · rw [henc]
      simp
    · rw [List.dropLast_concat_getLast]
  have hlen : x.utf8Size = front.length + 1 := by
    rw [← String.length_utf8EncodeChar, henc, List.length_append, List.length_singleton]
  have hpos : size (f ++ [x]) - 1 = (utf8 f ++ front).length := by
    rw [size_append, size_cons, size_nil, List.length_append, length_utf8]
    omega
  have hbytes : utf8 (f ++ [x] ++ b) = (utf8 f ++ front) ++ byte :: utf8 b := by
    simp [utf8_append, utf8_cons, henc]
  refine ⟨byte, by rw [henc]; simp, ?_⟩
  rw [byteBefore, if_neg (by rw [size_append, size_cons, hlen]; omega), byteAt, hpos, hbytes]
  simp

/-- A tag is closed by `/>` just where its attribute text ends in a slash: the character before the
attribute text is a letter. -/
theorem byteBefore_tag {name : List Char} (hname : sameIgnoringCase name scriptWord = true)
    (a text rest : List Char) :
    ∃ byte, byteBefore (utf8 (a ++ '<' :: name ++ text ++ '>' :: rest))
        (size (a ++ '<' :: name ++ text)) = .ok byte ∧
      ((byte == '/'.toUInt8) = true ↔ text.getLast? = some '/') := by
  have hslash : Agree (· == '/'.toUInt8) (· == '/') := agree_beq (by decide)
  rcases List.eq_nil_or_concat text with rfl | ⟨text', x, rfl⟩
  · rcases List.eq_nil_or_concat name with rfl | ⟨name', x, rfl⟩
    · exact absurd hname (by decide)
    · obtain ⟨byte, hmem, hbyte⟩ := byteBefore_append (a ++ '<' :: name') x ('>' :: rest)
      refine ⟨byte, by simpa using hbyte, ?_⟩
      have hx : x.toLower = 't' := by
        have hfold := congrArg List.getLast? (beq_iff_eq.1 hname)
        rw [List.concat_eq_append, List.map_append, List.map_singleton, List.getLast?_concat] at hfold
        exact Option.some.inj hfold
      have hne : x ≠ '/' := by
        rintro rfl
        exact absurd hx (by decide)
      have hbeq : (byte == '/'.toUInt8) = (x == '/') := hslash x byte hmem
      rw [hbeq]
      simpa using hne
  · obtain ⟨byte, hmem, hbyte⟩ := byteBefore_append (a ++ '<' :: name ++ text') x ('>' :: rest)
    refine ⟨byte, by simpa using hbyte, ?_⟩
    have hbeq : (byte == '/'.toUInt8) = (x == '/') := hslash x byte hmem
    rw [hbeq, List.concat_eq_append, List.getLast?_concat]
    simp

theorem utf8_closingTag : utf8 closingTag = '<'.toUInt8 :: utf8 ('/' :: scriptWord) := by
  rw [closingTag, utf8_cons, utf8EncodeChar_of_low (by decide)]
  rfl

/-- An element at a cursor: the text before its attributes is `f`. -/
theorem elementAt_append (f text rest : List Char) :
    elementAt (f ++ (text ++ '>' :: rest)) (size f) (size (f ++ text)) =
      .ok (Move.of (match element? text (size (f ++ text) + 1) rest with
        | none => .over
        | some e => .found e)) := by
  have hstart : size (f ++ text) + 1 = size (f ++ text ++ ['>']) := (size_concat (by decide)).symm
  have hwhole : f ++ (text ++ '>' :: rest) = f ++ text ++ ['>'] ++ rest := by simp
  have hdrop : (utf8 (f ++ (text ++ '>' :: rest))).drop (size (f ++ text) + 1) = utf8 rest := by
    rw [hwhole, hstart, utf8_append, ← length_utf8 (f ++ text ++ ['>']), List.drop_left]
  have hfind : findFolded '<'.toUInt8 (utf8 ('/' :: scriptWord)) (utf8 (f ++ (text ++ '>' :: rest)))
      (size (f ++ text) + 1) = .ok ((place? Char.toLower closingTag rest).map fun n =>
        size (f ++ text) + 1 + size (rest.take n)) := by
    rw [findFolded_eq, hdrop, ← utf8_closingTag,
      place?_utf8 folding_toLower (by decide) (low_of_all rfl) rest, Option.map_map]
    rfl
  rw [elementAt, element?, find?_eq_place? (by decide)]
  simp only [hfind, ok_bind]
  cases place? Char.toLower closingTag rest with
  | none => rfl
  | some n =>
    have hrest : rest.take n ++ rest.drop n = rest := List.take_append_drop n rest
    have hslice := slice_append f text ('>' :: rest)
    have hread := attributesFrom_append [] text
    have hcontent := slice_append (f ++ text ++ ['>']) (rest.take n) (rest.drop n)
    have htail := tailFrom_append (f ++ text ++ ['>'] ++ rest.take n) (rest.drop n)
    have hbehind : (utf8 (rest.drop n)).findIdx? (· == '>'.toUInt8) =
        ((rest.drop n).findIdx? (· == '>')).map fun k => size ((rest.drop n).take k) :=
      findIdx?_utf8 (agree_beq (by decide)) _
    rw [hrest, ← hwhole, ← hstart] at hcontent
    rw [List.append_assoc _ (List.take _ _), hrest, ← hwhole, size_append (f ++ text ++ ['>']),
      ← hstart] at htail
    rw [List.nil_append, size_nil] at hread
    rw [← size_append] at hslice
    simp only [Option.map_some, hslice, hread, hcontent, htail, ok_bind, hbehind,
      splitAtChar?_eq_findIdx?]
    cases (rest.drop n).findIdx? (· == '>') with
    | none =>
      simp only [Option.map_none, Option.elim_none, length_utf8, Move.of]
      rw [hwhole, size_append (f ++ text ++ ['>']), ← hstart]
      rfl
    | some k => rfl

theorem stepAt_script (a : List Char) {s tag : List Char} (hcomment : commentBody? s = none)
    (hscript : scriptTag? s = some tag) :
    stepAt (a ++ '<' :: s) (size a) = .ok (Move.of (Markup.stepAt (size a) s)) := by
  obtain ⟨name, hs, -, hname, -⟩ := scriptTag?_eq_some hscript
  have hprefix : (utf8 ['<', '!', '-', '-']).isPrefixOf (utf8 ('<' :: s)) = false := by
    rw [commentBody?_isSome, hcomment]
    rfl
  have hopens := opensScript_append a s
  have hsix : size name = scriptWord.length := size_of_sameIgnoringCase hname
  have htagStart : size a + 1 + scriptWord.length = size (a ++ '<' :: name) := by
    have hlt : '<'.utf8Size = 1 := rfl
    rw [size_append, size_cons, hlt, hsix]
    omega
  have htext : a ++ '<' :: s = (a ++ '<' :: name) ++ tag := by rw [hs]; simp
  have htagEnd := tagEnd_append (a ++ '<' :: name) tag
  rw [← htext, ← htagStart] at htagEnd
  rw [hscript] at hopens
  rw [stepAt, Markup.stepAt, hcomment, hscript]
  simp only [tailFrom_append, ok_bind, hprefix, Bool.false_eq_true, if_false, hopens,
    Option.isSome_some, Bool.not_true, htagEnd]
  cases hsplit : splitTag? none tag with
  | none => rfl
  | some parts =>
    obtain ⟨text, rest⟩ := parts
    have hwhole : a ++ '<' :: s = (a ++ '<' :: name) ++ (text ++ '>' :: rest) := by
      rw [htext, splitTag?_eq_some hsplit]
    have hstart : size a + 7 + size text + 1 = size (a ++ '<' :: name ++ text) + 1 := by
      have hseven : scriptWord.length = 6 := rfl
      rw [size_append, ← htagStart]
      omega
    obtain ⟨byte, hbyte, hslash⟩ := byteBefore_tag hname a text rest
    rw [List.append_assoc (a ++ '<' :: name), ← hwhole] at hbyte
    have helement := elementAt_append (a ++ '<' :: name) text rest
    rw [← hwhole, ← htagStart] at helement
    simp only [Option.map_some, hbyte, ok_bind, hstart]
    by_cases hself : text.getLast? = some '/'
    · rw [if_pos (hslash.2 hself), if_pos hself]
      rfl
    · rw [if_neg (fun h => hself (hslash.1 h)), if_neg hself]
      exact helement

/-- A step at a `<` moves the cursor as the step on characters goes on, and has no fault. -/
theorem stepAt_append (a s : List Char) :
    stepAt (a ++ '<' :: s) (size a) = .ok (Move.of (Markup.stepAt (size a) s)) := by
  cases hcomment : commentBody? s with
  | some inside => exact stepAt_comment a hcomment
  | none =>
    cases hscript : scriptTag? s with
    | some tag => exact stepAt_script a hcomment hscript
    | none =>
      have hprefix : (utf8 ['<', '!', '-', '-']).isPrefixOf (utf8 ('<' :: s)) = false := by
        rw [commentBody?_isSome, hcomment]
        rfl
      have hopens := opensScript_append a s
      rw [hscript] at hopens
      rw [stepAt, Markup.stepAt, hcomment, hscript]
      simp only [tailFrom_append, ok_bind, hprefix, hopens]
      rfl

/-! ## The run -/

theorem regionsFrom_skip {front : List Char} (h : ∀ c ∈ front, (c == '<') = false) (pos : Nat)
    (s : List Char) :
    Markup.regionsFrom pos (front ++ s) = Markup.regionsFrom (pos + size front) s := by
  induction front generalizing pos with
  | nil => rfl
  | cons c front ih =>
    have hc : (c != '<') = true := by
      rw [bne, h c List.mem_cons_self]
      rfl
    rw [List.cons_append, regionsFrom_of_ne hc, ih fun x hx => h x (List.mem_cons_of_mem c hx),
      size_cons, Nat.add_assoc]

theorem next_of_goOn {pos next : Nat} {s rest : List Char}
    (h : Markup.stepAt pos s = .goOn next rest) : ∃ p, s = p ++ rest ∧ next = pos + 1 + size p := by
  obtain ⟨p, hs, hagain⟩ := stepAt_goOn h
  have heq := hagain pos rest rfl
  rw [← hs, h] at heq
  exact ⟨p, hs, (Step.goOn.inj heq).1⟩

theorem next_of_found {pos : Nat} {s : List Char} {e : Element}
    (h : Markup.stepAt pos s = .found e) :
    ∃ p, s = p ++ e.rest ∧ e.restStart = pos + 1 + size p := by
  obtain ⟨p, closing, hs, -, hcontent, hagain⟩ := stepAt_found h
  have heq := hagain pos e.region.content e.rest hcontent id
  rw [← hs, h] at heq
  have hstop := congrArg Element.restStart (Step.found.inj heq)
  refine ⟨p ++ (e.region.content ++ closing), by rw [hs]; simp, ?_⟩
  simp only [size_append] at hstop ⊢
  omega

/-- From a place between two characters on, the search on bytes finds what the search on characters
finds. Each step leaves the cursor between two characters again, further on. -/
theorem regionsFrom_append (a b : List Char) :
    regionsFrom (a ++ b) (size a) = .ok (Markup.regionsFrom (size a) b) := by
  induction hn : b.length using Nat.strong_induction_on generalizing a b with
  | _ n ih =>
    rw [regionsFrom]
    by_cases hlen : size a < (utf8 (a ++ b)).length
    · have hagree : Agree (· == '<'.toUInt8) (· == '<') := agree_beq (by decide)
      simp only [dif_pos hlen, tailFrom_append, ok_bind, findIdx?_utf8 hagree]
      cases hidx : b.findIdx? (· == '<') with
      | none =>
        have hnone := List.findIdx?_eq_none_iff.1 hidx
        have hover := regionsFrom_skip hnone (size a) []
        rw [List.append_nil, Markup.regionsFrom] at hover
        rw [hover]
        rfl
      | some k =>
        obtain ⟨front, x, s, hb, hk, hx, hfront⟩ := findIdx?_eq_some_append hidx
        rw [beq_iff_eq] at hx
        subst hx
        have htake : b.take k = front := by rw [hb, ← hk, List.take_left]
        have htext : a ++ b = (a ++ front) ++ '<' :: s := by rw [hb, List.append_assoc]
        have hpos : size a + size front = size (a ++ front) := (size_append a front).symm
        have hstep := stepAt_append (a ++ front) s
        rw [← htext] at hstep
        have hagain : ∀ p rest next, s = p ++ rest → next = size (a ++ front) + 1 + size p →
            size a < next ∧
              regionsFrom (a ++ b) next = .ok (Markup.regionsFrom next rest) := by
          intro p rest next hs hnext
          have hlt : '<'.utf8Size = 1 := rfl
          have hplace : next = size (a ++ front ++ '<' :: p) := by
            rw [hnext, size_append (a ++ front), size_cons, hlt, Nat.add_assoc]
          have hwhole : a ++ b = a ++ front ++ '<' :: p ++ rest := by rw [hb, hs]; simp
          refine ⟨by rw [hnext, size_append]; omega, ?_⟩
          rw [hplace, hwhole]
          exact ih rest.length (by rw [← hn, hb, hs]; simp; omega) _ rest rfl
        simp only [Option.map_some, htake, hpos, hstep, ok_bind]
        rw [hb, regionsFrom_skip hfront, hpos, ← hb]
        cases hcase : Markup.stepAt (size (a ++ front)) s with
        | «over» =>
          rw [regionsFrom_of_over hcase]
          rfl
        | goOn next rest =>
          obtain ⟨p, hs, hnext⟩ := next_of_goOn hcase
          obtain ⟨hmoves, hmore⟩ := hagain p rest next hs hnext
          rw [regionsFrom_of_goOn hcase]
          simp only [Move.of, dif_pos hmoves, hmore]
        | found e =>
          obtain ⟨p, hs, hnext⟩ := next_of_found hcase
          obtain ⟨hmoves, hmore⟩ := hagain p e.rest e.restStart hs hnext
          rw [regionsFrom_of_found hcase]
          simp only [Move.of, dif_pos hmoves, hmore, ok_bind]
          rfl
    · have hnil : b = [] := by
        have hle := length_le_size b
        rw [length_utf8, size_append] at hlen
        exact List.length_eq_zero_iff.1 (by omega)
      rw [dif_neg hlen, hnil, Markup.regionsFrom]
      rfl

/-- The search by cursors has no fault on any document, and finds its regions. -/
theorem regions_eq (document : List Char) : regions document = .ok (Markup.regions document) :=
  regionsFrom_append [] document

end Cursor
end Markup
end ImportOrder
