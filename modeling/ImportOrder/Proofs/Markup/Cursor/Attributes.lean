import ImportOrder.Proofs.Markup.Attribute
import ImportOrder.Proofs.Markup.Cursor.Checked

/-!
# ImportOrder.Proofs.Markup.Cursor.Attributes

The readers of attributes at a cursor. Each lemma is about the cursor `size a` in `a ++ b`: the reader
has no fault, gives what the reader of texts gives on `b`, and ends behind what that one takes.
-/

namespace ImportOrder
namespace Markup
namespace Cursor

open Text

/-! ## Values -/

theorem takeWhile_ne {c : Char} {v : List Char} (hv : ∀ x ∈ v, (x == c) = false) (s : List Char) :
    (v ++ c :: s).takeWhile (· != c) = v ∧ ((v ++ c :: s).dropWhile (· != c)).drop 1 = s := by
  have hall : ∀ x ∈ v, (x != c) = true := by
    intro x hx
    rw [bne, hv x hx]
    rfl
  rw [List.takeWhile_append_of_pos hall, List.takeWhile_cons_of_neg (by simp),
    List.dropWhile_append_of_pos hall, List.dropWhile_cons_of_neg (by simp)]
  simp

/-- A quoted value ends at its quote, or at the end of the text. -/
theorem valueAt_quoted {a r : List Char} {quote : Char} (hquote : quote = '"' ∨ quote = '\'') :
    ∃ taken, r = taken ++ (r.dropWhile (· != quote)).drop 1 ∧
      (do
        let tail ← tailFrom (utf8 (a ++ quote :: r)) (size a + 1)
        let stop := (tail.findIdx? (· == quote.toUInt8)).elim (utf8 (a ++ quote :: r)).length
          (size a + 1 + ·)
        let value ← slice (a ++ quote :: r) (size a + 1) stop
        return (value, min (stop + 1) (utf8 (a ++ quote :: r)).length)) =
      (.ok (r.takeWhile (· != quote), size (a ++ quote :: taken)) : Except Fault _) := by
  have hlow : quote.toNat < 128 := by rcases hquote with rfl | rfl <;> decide
  have htext : a ++ quote :: r = (a ++ [quote]) ++ r := by simp
  have hstart : size a + 1 = size (a ++ [quote]) := (size_concat hlow).symm
  have htail : tailFrom (utf8 (a ++ quote :: r)) (size a + 1) = .ok (utf8 r) := by
    rw [htext, hstart, tailFrom_append]
  have hfind : (utf8 r).findIdx? (· == quote.toUInt8) =
      (r.findIdx? (· == quote)).map fun n => size (r.take n) :=
    findIdx?_utf8 (agree_beq hlow) r
  rw [htail, ok_bind]
  simp only [hfind]
  cases hidx : r.findIdx? (· == quote) with
  | none =>
    have hall : ∀ x ∈ r, (x != quote) = true := by
      intro x hx
      rw [bne, List.findIdx?_eq_none_iff.1 hidx x hx]
      rfl
    have hdrop : r.dropWhile (· != quote) = [] := List.dropWhile_eq_nil_iff.2 hall
    have htake : r.takeWhile (· != quote) = r := List.takeWhile_eq_self_iff.2 hall
    have hslice := slice_append (a ++ [quote]) r []
    rw [List.append_nil, ← htext, ← size_append, ← htext, ← hstart] at hslice
    refine ⟨r, by rw [hdrop]; simp, ?_⟩
    simp only [Option.map_none, Option.elim_none, length_utf8, htake]
    rw [hslice, ok_bind, Nat.min_eq_right (Nat.le_succ _)]
    rfl
  | some n =>
    obtain ⟨v, x, back, hr, hn, hx, hv⟩ := findIdx?_eq_some_append hidx
    rw [beq_iff_eq] at hx
    subst hx
    obtain ⟨htake, hdrop⟩ := takeWhile_ne hv back
    rw [← hr] at htake hdrop
    have hslice := slice_append (a ++ [x]) v (x :: back)
    rw [← hr, ← htext, ← hstart] at hslice
    have hvn : r.take n = v := by rw [hr, ← hn, List.take_left]
    have hnext : min (size a + 1 + size v + 1) (size (a ++ x :: r)) =
        size (a ++ x :: (v ++ [x])) := by
      have hv' := size_concat (a := a ++ x :: v) hlow
      have hleft := size_concat (a := a) hlow
      rw [hr]
      simp only [size_append, size_cons, size_nil, List.append_assoc, List.cons_append] at hv' hleft ⊢
      omega
    refine ⟨v ++ [x], by rw [hdrop, hr]; simp, ?_⟩
    simp only [Option.map_some, Option.elim_some, hvn, length_utf8, htake]
    rw [hslice, ok_bind, hnext]
    rfl

theorem quoteAt_cons {a r : List Char} {c : Char} (hc : (c = '"' || c = '\'') = true) :
    (utf8 (a ++ c :: r))[size a]?.filter isQuoteByte = some c.toUInt8 := by
  have hc' : c = '"' ∨ c = '\'' := by simpa using hc
  have hlow : c.toNat < 128 := by rcases hc' with rfl | rfl <;> decide
  obtain ⟨byte, bs, henc, hbyte⟩ := getElem?_append_cons a r c
  rw [utf8EncodeChar_of_low hlow, List.cons.injEq] at henc
  have hq : isQuoteByte c.toUInt8 = true := by rcases hc' with rfl | rfl <;> decide
  rw [hbyte, ← henc.1, Option.filter_some, if_pos hq]

theorem quoteAt_eq_none {a b : List Char} (hb : ∀ c, b.head? = some c → (c = '"' || c = '\'') = false) :
    (utf8 (a ++ b))[size a]?.filter isQuoteByte = none := by
  have hsome := getElem?_filter_append agree_isQuote a b
  have hnone : b.head?.filter (fun c => c == '"' || c == '\'') = none := by
    cases hhead : b.head? with
    | none => rfl
    | some c =>
      have hc := hb c hhead
      rw [Option.filter_some, if_neg]
      simpa using hc
  rw [hnone, Option.isSome_none] at hsome
  exact Option.isSome_eq_false_iff.1 hsome |> Option.isNone_iff_eq_none.1

theorem valueAt_bare (a r : List Char) :
    (do
      let stop := skipWhile (onByte (!isAsciiBlank ·)) (utf8 (a ++ r)) (size a)
      let value ← slice (a ++ r) (size a) stop
      return (value, stop)) =
      (.ok (r.takeWhile (!isAsciiBlank ·), size (a ++ r.takeWhile (!isAsciiBlank ·))) :
        Except Fault _) := by
  have hstop : skipWhile (onByte (!isAsciiBlank ·)) (utf8 (a ++ r)) (size a) =
      size (a ++ r.takeWhile (!isAsciiBlank ·)) := skipWhile_append agree_isAsciiBlank.not a r
  have hslice := slice_append a (r.takeWhile (!isAsciiBlank ·)) (r.dropWhile (!isAsciiBlank ·))
  rw [List.takeWhile_append_dropWhile, ← size_append] at hslice
  simp only [hstop]
  rw [hslice, ok_bind]
  rfl

theorem readValue_bare {b : List Char}
    (h : ∀ c, (b.dropWhile isIndent).head? = some c → (c = '"' || c = '\'') = false) :
    readValue b = ((b.dropWhile isIndent).takeWhile (!isAsciiBlank ·),
      (b.dropWhile isIndent).dropWhile (!isAsciiBlank ·)) := by
  rw [readValue]
  split
  · rename_i hnil
    rw [hnil]
    rfl
  · rename_i c rest hcons
    have hc := h c (by rw [hcons]; rfl)
    rw [hcons, if_neg (by rw [hc]; decide)]

theorem valueAt_append (a b : List Char) :
    ∃ taken, b = taken ++ (readValue b).2 ∧
      valueAt (a ++ b) (size a) = .ok ((readValue b).1, size (a ++ taken)) := by
  have hb : b.takeWhile isIndent ++ b.dropWhile isIndent = b := List.takeWhile_append_dropWhile
  have hskip := skipWhile_append agree_isIndent a b
  have htext : a ++ b = (a ++ b.takeWhile isIndent) ++ b.dropWhile isIndent := by
    rw [List.append_assoc, hb]
  rw [valueAt]
  simp only [hskip]
  by_cases hquoted : ∃ c rest, b.dropWhile isIndent = c :: rest ∧ (c = '"' || c = '\'') = true
  · obtain ⟨c, rest, hrest, hc⟩ := hquoted
    have hc' : c = '"' ∨ c = '\'' := by simpa using hc
    obtain ⟨taken, htaken, hread⟩ := valueAt_quoted (a := a ++ b.takeWhile isIndent) (r := rest) hc'
    have hquote := quoteAt_cons (a := a ++ b.takeWhile isIndent) (r := rest) hc
    have hvalue : readValue b =
        (rest.takeWhile (· != c), (rest.dropWhile (· != c)).drop 1) := by
      rw [readValue, hrest]
      simp only [hc, if_true]
    rw [← hrest, ← htext] at hquote hread
    refine ⟨b.takeWhile isIndent ++ c :: taken, ?_, ?_⟩
    · rw [hvalue, List.append_assoc, List.cons_append, ← htaken, ← hrest, hb]
    · simp only [hquote, hvalue]
      rw [hread, List.append_assoc]
  · have hbare : ∀ c, (b.dropWhile isIndent).head? = some c → (c = '"' || c = '\'') = false := by
      intro c hc
      by_contra hquote
      cases hrest : b.dropWhile isIndent with
      | nil =>
        rw [hrest] at hc
        cases hc
      | cons d rest =>
        rw [hrest] at hc
        cases hc
        exact hquoted ⟨c, rest, hrest, eq_true_of_ne_false hquote⟩
    have hquote := quoteAt_eq_none (a := a ++ b.takeWhile isIndent) hbare
    have hread := valueAt_bare (a ++ b.takeWhile isIndent) (b.dropWhile isIndent)
    rw [← htext] at hquote hread
    rw [readValue_bare hbare]
    refine ⟨b.takeWhile isIndent ++ (b.dropWhile isIndent).takeWhile (!isAsciiBlank ·), ?_, ?_⟩
    · rw [List.append_assoc, List.takeWhile_append_dropWhile, hb]
    · simp only [hquote]
      rw [hread, List.append_assoc]

theorem assignmentAt_append (a b : List Char) :
    ∃ taken, b = taken ++ (readAssignment b).2 ∧
      assignmentAt (a ++ b) (size a) = .ok ((readAssignment b).1, size (a ++ taken)) ∧
      (b.head? = some '=' → taken ≠ []) := by
  have hb : b.takeWhile isIndent ++ b.dropWhile isIndent = b := List.takeWhile_append_dropWhile
  have hskip := skipWhile_append agree_isIndent a b
  have htext : a ++ b = (a ++ b.takeWhile isIndent) ++ b.dropWhile isIndent := by
    rw [List.append_assoc, hb]
  rw [assignmentAt]
  simp only [hskip]
  by_cases hassigned : ∃ rest, b.dropWhile isIndent = '=' :: rest
  · obtain ⟨rest, hrest⟩ := hassigned
    have hbyte : (utf8 (a ++ b))[size (a ++ b.takeWhile isIndent)]? = some '='.toUInt8 := by
      obtain ⟨byte, bs, henc, hbyte⟩ :=
        getElem?_append_cons (a ++ b.takeWhile isIndent) rest '='
      rw [utf8EncodeChar_of_low (by decide), List.cons.injEq] at henc
      rw [htext, hrest, hbyte, henc.1]
    have hread : readAssignment b = readValue rest := by
      rw [readAssignment, hrest]
      rfl
    obtain ⟨taken, htaken, hvalue⟩ := valueAt_append (a ++ b.takeWhile isIndent ++ ['=']) rest
    rw [size_concat (by decide)] at hvalue
    have hwhole : a ++ b.takeWhile isIndent ++ ['='] ++ rest = a ++ b := by
      rw [htext, hrest]
      simp
    rw [hwhole] at hvalue
    refine ⟨b.takeWhile isIndent ++ '=' :: taken, ?_, ?_, by simp⟩
    · rw [hread, List.append_assoc, List.cons_append, ← htaken, ← hrest, hb]
    · rw [if_pos hbyte, hvalue, hread]
      simp
  · have hbyte : ¬ (utf8 (a ++ b))[size (a ++ b.takeWhile isIndent)]? = some '='.toUInt8 := by
      intro hbyte
      have hagree : Agree (· == '='.toUInt8) (· == '=') := agree_beq (by decide)
      have hsome := getElem?_filter_append hagree (a ++ b.takeWhile isIndent) (b.dropWhile isIndent)
      rw [← htext, hbyte] at hsome
      cases hrest : b.dropWhile isIndent with
      | nil =>
        rw [hrest] at hsome
        cases hsome
      | cons c rest =>
        rw [hrest] at hsome
        by_cases hc : c = '='
        · exact hassigned ⟨rest, by rw [hrest, hc]⟩
        · simp [hc, Option.filter_some] at hsome
    have hread : readAssignment b = ([], b.dropWhile isIndent) := by
      rw [readAssignment]
      split
      · rename_i rest hrest
        exact absurd ⟨rest, hrest⟩ hassigned
      · rfl
    refine ⟨b.takeWhile isIndent, ?_, ?_, ?_⟩
    · rw [hread, hb]
    · rw [if_neg hbyte, hread]
    · intro hhead
      cases b with
      | nil => cases hhead
      | cons c b =>
        cases hhead
        exact absurd ⟨b, rfl⟩ hassigned

theorem endsName_of_not_between {c : Char} (hbetween : isBetween c = false) (hc : c ≠ '=') :
    endsName c = false := by
  simp only [isBetween, isAsciiBlank, Bool.or_eq_false_iff, beq_eq_false_iff_ne] at hbetween
  simp only [endsName, Bool.or_eq_false_iff, beq_eq_false_iff_ne]
  obtain ⟨⟨⟨⟨⟨hspace, htab⟩, hline⟩, -⟩, hreturn⟩, hslash⟩ := hbetween
  exact ⟨⟨⟨⟨⟨hc, hspace⟩, htab⟩, hline⟩, hreturn⟩, hslash⟩

/-- A name and what is assigned to it, or only what is assigned if the name is empty. -/
theorem readAttributes_name {s rest : List Char} {c : Char}
    (h : s.dropWhile isBetween = c :: rest) (hc : isBetween c = false) :
    readAttributes s =
      if ((c :: rest).takeWhile (!endsName ·)).isEmpty then
        readAttributes (readAssignment ((c :: rest).dropWhile (!endsName ·))).2
      else
        ⟨(c :: rest).takeWhile (!endsName ·),
          (readAssignment ((c :: rest).dropWhile (!endsName ·))).1⟩ ::
          readAttributes (readAssignment ((c :: rest).dropWhile (!endsName ·))).2 := by
  by_cases heq : c = '='
  · subst heq
    have hends : endsName '=' = true := rfl
    have hread : readAssignment ('=' :: rest) = readValue rest := rfl
    rw [readAttributes_of_dropWhile_equals h, List.takeWhile_cons_of_neg (by simp [hends]),
      List.dropWhile_cons_of_neg (by simp [hends]), hread]
    rfl
  · have hends := endsName_of_not_between hc heq
    rw [readAttributes_of_dropWhile h heq, List.takeWhile_cons_of_pos (by simp [hends]),
      List.dropWhile_cons_of_pos (by simp [hends])]
    rfl

/-- The name at the cursor and what is assigned to it. A name that is empty is followed by an equals
sign, so the cursor moves on. -/
theorem nameAt_append (f : List Char) {c : Char} (hc : isBetween c = false) (rest : List Char) :
    skipWhile (onByte (!endsName ·)) (utf8 (f ++ c :: rest)) (size f) =
        size (f ++ (c :: rest).takeWhile (!endsName ·)) ∧
      slice (f ++ c :: rest) (size f) (size (f ++ (c :: rest).takeWhile (!endsName ·))) =
        .ok ((c :: rest).takeWhile (!endsName ·)) ∧
      ∃ p, p ≠ [] ∧ c :: rest = p ++ (readAssignment ((c :: rest).dropWhile (!endsName ·))).2 ∧
        assignmentAt (f ++ c :: rest) (size (f ++ (c :: rest).takeWhile (!endsName ·))) =
          .ok ((readAssignment ((c :: rest).dropWhile (!endsName ·))).1, size (f ++ p)) := by
  have hsplit : (c :: rest).takeWhile (!endsName ·) ++ (c :: rest).dropWhile (!endsName ·) =
      c :: rest := List.takeWhile_append_dropWhile
  have hslice := slice_append f ((c :: rest).takeWhile (!endsName ·))
    ((c :: rest).dropWhile (!endsName ·))
  rw [hsplit, ← size_append] at hslice
  obtain ⟨taken, htaken, hassign, hmoves⟩ := assignmentAt_append
    (f ++ (c :: rest).takeWhile (!endsName ·)) ((c :: rest).dropWhile (!endsName ·))
  rw [List.append_assoc f (List.takeWhile _ _) (List.dropWhile _ _), hsplit] at hassign
  refine ⟨skipWhile_append agree_endsName.not f (c :: rest), hslice,
    (c :: rest).takeWhile (!endsName ·) ++ taken, ?_, ?_, ?_⟩
  · by_cases heq : c = '='
    · subst heq
      simp [hmoves rfl]
    · have hends := endsName_of_not_between hc heq
      rw [List.takeWhile_cons_of_pos (by simp [hends])]
      simp
  · rw [List.append_assoc, ← htaken, hsplit]
  · rw [hassign, List.append_assoc]

theorem attributesFrom_append (a b : List Char) :
    attributesFrom (a ++ b) (size a) = .ok (readAttributes b) := by
  induction hn : b.length using Nat.strong_induction_on generalizing a b with
  | _ n ih =>
    have hb : b.takeWhile isBetween ++ b.dropWhile isBetween = b := List.takeWhile_append_dropWhile
    have hskip := skipWhile_append agree_isBetween a b
    have htext : a ++ b = (a ++ b.takeWhile isBetween) ++ b.dropWhile isBetween := by
      rw [List.append_assoc, hb]
    rw [attributesFrom]
    simp only [hskip, length_utf8]
    cases hrest : b.dropWhile isBetween with
    | nil =>
      rw [hrest, List.append_nil] at htext
      rw [dif_neg (by rw [← htext]; omega), readAttributes_of_dropWhile_nil hrest]
      rfl
    | cons c rest =>
      have hc : isBetween c = false := by
        have := List.head?_dropWhile_not isBetween b
        rw [hrest] at this
        simpa using this
      rw [hrest] at htext hb
      have hlen : size a < size (a ++ b) ∧ size (a ++ b.takeWhile isBetween) < size (a ++ b) := by
        have hpos := c.utf8Size_pos
        rw [htext]
        simp only [size_append, size_cons]
        omega
      obtain ⟨hname, hslice, p, hp, hsplit, hassign⟩ :=
        nameAt_append (a ++ b.takeWhile isBetween) hc rest
      rw [← htext] at hname hslice hassign
      have hread := readAttributes_name hrest hc
      generalize (c :: rest).takeWhile (!endsName ·) = name at *
      generalize readAssignment ((c :: rest).dropWhile (!endsName ·)) = assigned at *
      have hplen : 0 < p.length := List.length_pos_iff.2 hp
      have hnext : size a < size (a ++ b.takeWhile isBetween ++ p) := by
        have := length_le_size p
        simp only [size_append]
        omega
      have hmore : attributesFrom (a ++ b) (size (a ++ b.takeWhile isBetween ++ p)) =
          .ok (readAttributes assigned.2) := by
        have hwhole : a ++ b.takeWhile isBetween ++ p ++ assigned.2 = a ++ b := by
          rw [htext, hsplit, List.append_assoc]
        have hshort : assigned.2.length < n := by
          have hlength := congrArg List.length hb
          have hlength' := congrArg List.length hsplit
          simp only [List.length_append] at hlength hlength'
          omega
        rw [← hwhole]
        exact ih _ hshort _ _ rfl
      rw [dif_pos hlen, hname, hslice, ok_bind, hassign, ok_bind]
      simp only [dif_pos hnext, hmore, hread]
      rw [ok_bind]
      rfl

end Cursor
end Markup
end ImportOrder
