import ImportOrder.Proofs.Markup.Cursor.Checked
import ImportOrder.Proofs.Markup.Region

/-!
# ImportOrder.Proofs.Markup.Cursor.Tags

The readers of tags at a cursor. Inside an opening tag the cursor goes byte by byte and also stops
within characters, at bytes that mean nothing there (`tagEnd_skip`).
-/

namespace ImportOrder
namespace Markup
namespace Cursor

open Text

/-! ## Tags -/

theorem getElem_of_getElem? {bytes : List UInt8} {pos : Nat} {b : UInt8}
    (h : bytes[pos]? = some b) : ∃ hlt : pos < bytes.length, bytes[pos] = b :=
  List.getElem?_eq_some_iff.1 h

theorem scriptTag?_eq (s : List Char) :
    scriptTag? s = if standsAt Char.toLower scriptWord s &&
      (s.drop scriptWord.length).head?.any endsTagName then some (s.drop scriptWord.length)
      else none := rfl

/-- Behind the name of a script the cursor looks at the next character. -/
theorem opensScript_named (f name tag : List Char)
    (hname : standsAt Char.toLower scriptWord (name ++ tag) = true)
    (hlength : name.length = scriptWord.length) :
    opensScript (utf8 (f ++ '<' :: (name ++ tag))) (size f) = .ok (tag.head?.any endsTagName) := by
  have hstart : size f + 1 = size (f ++ ['<']) := (size_concat (by decide)).symm
  have htext : f ++ '<' :: (name ++ tag) = (f ++ ['<']) ++ (name ++ tag) := by simp
  have htake : (name ++ tag).take scriptWord.length = name := by rw [← hlength, List.take_left]
  have hsize : size name = scriptWord.length := by
    rw [← htake]
    exact size_of_sameIgnoringCase hname
  have hend : size (f ++ ['<']) + scriptWord.length = size (f ++ ['<'] ++ name) := by
    rw [size_append (f ++ ['<']), hsize]
  rw [opensScript]
  simp only [hstart, htext, hend]
  cases tag with
  | nil =>
    rw [List.append_nil, length_utf8, if_neg (Nat.lt_irrefl _)]
    rfl
  | cons c tag =>
    have hbetween := between_append (f ++ ['<']) name (c :: tag)
    rw [← size_append] at hbetween
    have hfold : (utf8 name).map foldByte = (utf8 scriptWord).map foldByte := by
      have hsame := standsAt_iff.1 hname
      rw [htake] at hsame
      rw [folding_toLower.map_utf8, folding_toLower.map_utf8, hsame]
    obtain ⟨byte, bs, henc, hbyte⟩ := getElem?_append_cons (f ++ ['<'] ++ name) tag c
    rw [List.append_assoc _ name] at hbyte
    have hlt := (getElem_of_getElem? hbyte).1
    have hends : onByte endsTagName byte = endsTagName c :=
      agree_endsTagName c byte (by rw [henc]; exact List.mem_cons_self)
    rw [if_pos hlt, hbetween, ok_bind, hfold, beq_self_eq_true, if_pos rfl, byteAt, hbyte]
    rw [ok_bind, hends]
    rfl

theorem opensScript_unnamed (f s : List Char)
    (hname : standsAt Char.toLower scriptWord s = false) :
    opensScript (utf8 (f ++ '<' :: s)) (size f) = .ok false := by
  have hstart : size f + 1 = size (f ++ ['<']) := (size_concat (by decide)).symm
  have htext : f ++ '<' :: s = (f ++ ['<']) ++ s := by simp
  rw [opensScript]
  simp only [hstart, htext]
  split
  · rename_i hlt
    have hbetween : between (utf8 (f ++ ['<'] ++ s)) (size (f ++ ['<']))
        (size (f ++ ['<']) + scriptWord.length) = .ok ((utf8 s).take scriptWord.length) := by
      rw [between, if_pos ⟨Nat.le_add_right _ _, Nat.le_of_lt hlt⟩, Nat.add_sub_cancel_left,
        utf8_append (f ++ ['<']), ← length_utf8 (f ++ ['<']), List.drop_left]
    have hstands := standsAt_utf8 folding_toLower (w := scriptWord) (low_of_all rfl) s
    have hlength : (utf8 scriptWord).length = scriptWord.length := rfl
    rw [standsAt, hlength, hname] at hstands
    rw [hbetween, ok_bind, hstands]
    rfl
  · rfl

theorem opensScript_append (a s : List Char) :
    opensScript (utf8 (a ++ '<' :: s)) (size a) = .ok (scriptTag? s).isSome := by
  rw [scriptTag?_eq]
  cases hname : standsAt Char.toLower scriptWord s with
  | false => exact opensScript_unnamed a s hname
  | true =>
    have hsplit : s.take scriptWord.length ++ s.drop scriptWord.length = s :=
      List.take_append_drop _ _
    have hlength : (s.take scriptWord.length).length = scriptWord.length := by
      rw [List.length_take, Nat.min_eq_left (length_le_of_standsAt hname)]
    have hopens := opensScript_named a (s.take scriptWord.length) (s.drop scriptWord.length)
      (by rw [hsplit]; exact hname) hlength
    rw [hsplit] at hopens
    rw [hopens, Bool.true_and]
    cases (s.drop scriptWord.length).head?.any endsTagName <;> rfl

theorem tagEnd_of_getElem? {bytes : List UInt8} {pos : Nat} {b : UInt8}
    (h : bytes[pos]? = some b) :
    tagEnd bytes pos =
      if b == '>'.toUInt8 then .ok (some pos)
      else if isQuoteByte b then do
        let rest ← tailFrom bytes (pos + 1)
        match rest.findIdx? (· == b) with
        | none => .ok none
        | some i => tagEnd bytes (pos + 1 + i + 1)
      else tagEnd bytes (pos + 1) := by
  obtain ⟨hlt, hb⟩ := getElem_of_getElem? h
  rw [tagEnd, dif_pos hlt, hb]
  rfl

/-- Bytes that mean nothing in a tag are passed over one by one, also inside a character. -/
theorem tagEnd_skip {m : List UInt8}
    (hm : ∀ b ∈ m, (b == '>'.toUInt8) = false ∧ isQuoteByte b = false) (a b : List UInt8) :
    tagEnd (a ++ (m ++ b)) a.length = tagEnd (a ++ (m ++ b)) (a.length + m.length) := by
  induction m generalizing a with
  | nil => rfl
  | cons x m ih =>
    obtain ⟨hgt, hquote⟩ := hm x List.mem_cons_self
    have hx : (a ++ (x :: m ++ b))[a.length]? = some x := by simp
    have hmore := ih (fun y hy => hm y (List.mem_cons_of_mem x hy)) (a ++ [x])
    have htext : a ++ [x] ++ (m ++ b) = a ++ (x :: m ++ b) := by simp
    rw [htext, List.length_append, List.length_singleton] at hmore
    rw [tagEnd_of_getElem? hx, hgt, hquote, if_neg (by decide), if_neg (by decide), hmore,
      List.length_cons]
    congr 1
    omega

section Characters

variable {c : Char} (a b : List Char)

theorem tagEnd_quote (hc : c = '"' ∨ c = '\'') :
    tagEnd (utf8 (a ++ c :: b)) (size a) =
      (b.findIdx? (· == c)).elim (.ok none) fun i =>
        tagEnd (utf8 (a ++ c :: b)) (size a + 1 + size (b.take i) + 1) := by
  obtain ⟨byte, bs, henc, hbyte⟩ := getElem?_append_cons a b c
  have hlow : c.toNat < 128 := by rcases hc with rfl | rfl <;> decide
  rw [utf8EncodeChar_of_low hlow, List.cons.injEq] at henc
  have hgt : (c.toUInt8 == '>'.toUInt8) = false := by rcases hc with rfl | rfl <;> decide
  have hquote : isQuoteByte c.toUInt8 = true := by rcases hc with rfl | rfl <;> decide
  have htail : tailFrom (utf8 (a ++ c :: b)) (size a + 1) = .ok (utf8 b) := by
    have := tailFrom_append (a ++ [c]) b
    rwa [size_concat hlow, List.append_assoc, List.singleton_append] at this
  have hfind : (utf8 b).findIdx? (· == c.toUInt8) =
      (b.findIdx? (· == c)).map fun n => size (b.take n) :=
    findIdx?_utf8 (agree_beq hlow) b
  rw [tagEnd_of_getElem? hbyte, ← henc.1, hgt, hquote, if_neg (by decide), if_pos rfl, htail, ok_bind,
    hfind]
  cases b.findIdx? (· == c) with
  | none => rfl
  | some i => rfl

theorem tagEnd_unclosed (hc : c = '"' ∨ c = '\'') (hb : c ∉ b) :
    tagEnd (utf8 (a ++ c :: b)) (size a) = .ok none := by
  rw [tagEnd_quote a b hc, findIdx?_of_not_mem hb]
  rfl

theorem tagEnd_quoted (hc : c = '"' ∨ c = '\'') {v : List Char} (hv : c ∉ v) :
    tagEnd (utf8 (a ++ c :: (v ++ c :: b))) (size a) =
      tagEnd (utf8 (a ++ c :: (v ++ c :: b))) (size (a ++ c :: (v ++ [c]))) := by
  have hlow : c.toNat < 128 := by rcases hc with rfl | rfl <;> decide
  have hidx : (v ++ c :: b).findIdx? (· == c) = some v.length := by
    simp [List.findIdx?_append, findIdx?_of_not_mem hv, List.findIdx?_cons]
  have hpos : size a + 1 + size v + 1 = size (a ++ c :: (v ++ [c])) := by
    have hfirst := size_concat (a := a) hlow
    have hlast := size_concat (a := a ++ c :: v) hlow
    simp only [size_append, size_cons, size_nil, List.append_assoc, List.cons_append] at hfirst hlast ⊢
    omega
  rw [tagEnd_quote a _ hc, hidx, Option.elim_some, List.take_left, hpos]

theorem tagEnd_other (hgt : c ≠ '>') (hc : ¬(c = '"' ∨ c = '\'')) :
    tagEnd (utf8 (a ++ c :: b)) (size a) = tagEnd (utf8 (a ++ c :: b)) (size (a ++ [c])) := by
  have hm : ∀ y ∈ String.utf8EncodeChar c,
      (y == '>'.toUInt8) = false ∧ isQuoteByte y = false := by
    intro y hy
    have hclose : (y == '>'.toUInt8) = (c == '>') := agree_beq (by decide) c y hy
    have hquote : isQuoteByte y = (c == '"' || c == '\'') := agree_isQuote c y hy
    rw [hclose, hquote]
    exact ⟨by simpa using hgt, by simpa using hc⟩
  have hskip := tagEnd_skip hm (utf8 a) (utf8 b)
  rw [← utf8_cons, ← utf8_append, length_utf8, String.length_utf8EncodeChar] at hskip
  rw [hskip, size_append, size_cons, size_nil, Nat.add_zero]

end Characters

theorem tagEnd_append (a b : List Char) :
    tagEnd (utf8 (a ++ b)) (size a) =
      .ok ((splitTag? none b).map fun (text, _) => size (a ++ text)) := by
  induction hn : b.length using Nat.strong_induction_on generalizing a b with
  | _ n ih =>
    cases b with
    | nil =>
      rw [tagEnd, dif_neg (by rw [length_utf8, List.append_nil]; omega)]
      rfl
    | cons c b =>
      rw [List.length_cons] at hn
      by_cases hclose : c = '>'
      · subst hclose
        obtain ⟨byte, bs, henc, hbyte⟩ := getElem?_append_cons a b '>'
        rw [utf8EncodeChar_of_low (by decide), List.cons.injEq] at henc
        rw [tagEnd_of_getElem? hbyte, ← henc.1, beq_self_eq_true, if_pos rfl]
        simp [splitTag?]
      · by_cases hopens : c = '"' ∨ c = '\''
        · have hsplit : splitTag? none (c :: b) =
              (splitTag? (some c) b).map fun (text, rest) => (c :: text, rest) := by
            have hopens' : (c = '"' || c = '\'') = true := by
              rcases hopens with rfl | rfl <;> rfl
            rw [splitTag?]
            simp only [hclose, hopens', if_false, if_true]
          by_cases hin : c ∈ b
          · obtain ⟨v, back, hb, hv⟩ := List.eq_append_cons_of_mem hin
            have hmore := ih back.length (by rw [← hn, hb]; simp; omega)
              (a ++ c :: (v ++ [c])) back rfl
            have htext : a ++ c :: (v ++ [c]) ++ back = a ++ c :: (v ++ c :: back) := by simp
            rw [htext] at hmore
            rw [hsplit, hb, tagEnd_quoted a back hopens hv, hmore, splitTag?_quoted hv,
              Option.map_map, Option.map_map]
            congr 2
            funext p
            simp
          · rw [tagEnd_unclosed a b hopens hin, hsplit, splitTag?_unclosed hin]
            rfl
        · have hmore := ih b.length (by omega) (a ++ [c]) b rfl
          rw [List.append_assoc, List.singleton_append] at hmore
          have hplain := splitTag?_plain (p := [c]) (by simpa using ⟨hclose, not_or.1 hopens⟩) b
          rw [List.singleton_append] at hplain
          rw [tagEnd_other a b hclose hopens, hmore, hplain, Option.map_map]
          congr 2
          funext p
          simp

/-! ## The closing tag -/

/-- The search on bytes finds the first place of the word. -/
theorem findFolded_eq (first : UInt8) (word bytes : List UInt8) (pos : Nat) :
    findFolded first word bytes pos =
      .ok ((place? foldByte (first :: word) (bytes.drop pos)).map (pos + ·)) := by
  induction hn : bytes.length + 1 - pos using Nat.strong_induction_on generalizing pos with
  | _ n ih =>
    rw [findFolded]
    by_cases hle : pos + (word.length + 1) ≤ bytes.length
    · have htail : tailFrom bytes pos = .ok (bytes.drop pos) := by
        rw [tailFrom, if_pos (by omega)]
      rw [dif_pos hle, htail, ok_bind]
      cases hidx : (bytes.drop pos).findIdx? (foldByte · == foldByte first) with
      | none =>
        have hskip : ∀ b ∈ bytes.drop pos, foldByte b ≠ foldByte first := by
          intro b hb
          simpa using List.findIdx?_eq_none_iff.1 hidx b hb
        have hplace : place? foldByte (first :: word) (bytes.drop pos ++ []) = none :=
          place?_skip hskip []
        rw [List.append_nil] at hplace
        rw [hplace]
        rfl
      | some i =>
        obtain ⟨front, x, back, hsplit, hi, hx, hfront⟩ := findIdx?_eq_some_append hidx
        have hskip : ∀ b ∈ front, foldByte b ≠ foldByte first := by
          intro b hb
          simpa using hfront b hb
        have hdrop : bytes.drop (pos + i) = x :: back := by
          rw [← List.drop_drop, hsplit, ← hi, List.drop_left]
        have hlen : bytes.length = pos + i + (x :: back).length := by
          have := congrArg List.length hdrop
          rw [List.length_drop, List.length_cons] at this
          rw [List.length_cons]
          omega
        rw [hsplit, place?_skip hskip, hi, Option.map_map]
        simp only
        have hword : (first :: word).length = word.length + 1 := List.length_cons
        by_cases hshort : bytes.length < pos + i + (word.length + 1)
        · rw [if_pos hshort, place?_eq_none_of_length (by rw [hword]; omega)]
          rfl
        · have hbetween : between bytes (pos + i) (pos + i + (word.length + 1)) =
              .ok ((x :: back).take (first :: word).length) := by
            rw [between, if_pos (by omega), hdrop, Nat.add_sub_cancel_left]
            rfl
          rw [if_neg hshort, hbetween, ok_bind, place?, ← standsAt]
          by_cases hstands : standsAt foldByte (first :: word) (x :: back) = true
          · rw [if_pos hstands, if_pos hstands]
            rfl
          · have hmore := ih (bytes.length + 1 - (pos + i + 1)) (by omega) (pos + i + 1) rfl
            have hback : bytes.drop (pos + i + 1) = back := by
              rw [← List.drop_drop, hdrop]
              rfl
            rw [if_neg hstands, if_neg hstands, hmore, hback, Option.map_map]
            congr 2
            funext k
            simp only [Function.comp_apply]
            omega
    · rw [dif_neg hle, place?_eq_none_of_length (by rw [List.length_drop, List.length_cons]; omega)]
      rfl

end Cursor
end Markup
end ImportOrder
