import ImportOrder.Proofs.Text.Search
import ImportOrder.Text.Offset

/-!
# ImportOrder.Proofs.Text.Utf8

Texts and the bytes of their UTF-8 form. A byte below 128 stands only for itself, so a test that only
such characters pass can be made on bytes, and a word of such characters can be looked for in bytes:
`takeWhile_utf8` and `place?_utf8` say that the same is found, at the offsets of characters.
-/

namespace ImportOrder
namespace Text

/-- The bytes of a text. -/
def utf8 (s : List Char) : List UInt8 :=
  s.flatMap String.utf8EncodeChar

@[simp] theorem utf8_nil : utf8 [] = [] := rfl

theorem utf8_cons (c : Char) (s : List Char) : utf8 (c :: s) = String.utf8EncodeChar c ++ utf8 s :=
  List.flatMap_cons

theorem utf8_append (s t : List Char) : utf8 (s ++ t) = utf8 s ++ utf8 t :=
  List.flatMap_append

@[simp] theorem length_utf8 (s : List Char) : (utf8 s).length = size s := by
  induction s with
  | nil => rfl
  | cons c s ih => rw [utf8_cons, List.length_append, String.length_utf8EncodeChar, ih, size_cons]

theorem slice?_append (a m b : List Char) :
    slice? (size a) (size a + size m) (a ++ (m ++ b)) = some m := by
  rw [slice?, ← size_append, ← List.append_assoc, cut?_append]
  simp only [cut?_append, Option.map_some]

/-- A word of characters below 128, given character by character. -/
theorem low_of_all {w : List Char} (h : w.all (·.toNat < 128) = true) : ∀ c ∈ w, c.toNat < 128 := by
  simpa using h

/-- A character below 128 is its own byte; the bytes of any other are all above. -/
theorem utf8EncodeChar_cases (c : Char) :
    (c.toNat < 128 ∧ String.utf8EncodeChar c = [c.toUInt8]) ∨
      (128 ≤ c.toNat ∧ ∀ b ∈ String.utf8EncodeChar c, 128 ≤ b.toNat) := by
  have hval : c.val.toNat = c.toNat := rfl
  by_cases h : c.toNat ≤ 127
  · left
    refine ⟨by omega, ?_⟩
    refine String.utf8EncodeChar_eq_singleton (Char.utf8Size_eq_one_iff.2 ?_)
    exact UInt32.le_iff_toNat_le.2 h
  · right
    refine ⟨by omega, ?_⟩
    intro b hb
    rw [String.utf8EncodeChar, hval, if_neg h] at hb
    have hlead : ∀ n, n < 256 → 128 ≤ n → b = UInt8.ofNat n → 128 ≤ b.toNat := by
      rintro n hn hlow rfl
      rw [UInt8.toNat_ofNat_of_lt' hn]
      exact hlow
    split at hb
    · simp only [List.mem_cons, List.not_mem_nil, or_false] at hb
      rcases hb with hb | hb <;> exact hlead _ (by omega) (by omega) hb
    · split at hb
      · simp only [List.mem_cons, List.not_mem_nil, or_false] at hb
        rcases hb with hb | hb | hb <;> exact hlead _ (by omega) (by omega) hb
      · simp only [List.mem_cons, List.not_mem_nil, or_false] at hb
        rcases hb with hb | hb | hb | hb <;> exact hlead _ (by omega) (by omega) hb

theorem utf8EncodeChar_of_low {c : Char} (h : c.toNat < 128) :
    String.utf8EncodeChar c = [c.toUInt8] := by
  rcases utf8EncodeChar_cases c with ⟨-, henc⟩ | ⟨hhigh, -⟩
  · exact henc
  · omega

theorem exists_utf8EncodeChar (c : Char) : ∃ b bs, String.utf8EncodeChar c = b :: bs := by
  refine List.exists_cons_of_ne_nil ?_
  intro hnil
  have hlen := String.length_utf8EncodeChar c
  have := c.utf8Size_pos
  rw [hnil, List.length_nil] at hlen
  omega

theorem toNat_toUInt8 {c : Char} (h : c.toNat < 128) : c.toUInt8.toNat = c.toNat := by
  have hval : c.val.toNat = c.toNat := rfl
  rw [Char.toUInt8, UInt32.toNat_toUInt8, hval, Nat.mod_eq_of_lt (by omega)]

theorem ofUInt8_toUInt8 {c : Char} (h : c.toNat < 128) : Char.ofUInt8 c.toUInt8 = c := by
  apply Char.ext
  apply UInt32.toNat_inj.1
  have hval : c.val.toNat = c.toNat := rfl
  have hcode : (Char.ofUInt8 c.toUInt8).val = c.toUInt8.toUInt32 := rfl
  rw [hcode, UInt8.toNat_toUInt32, toNat_toUInt8 h, hval]

/-! ## Tests -/

/-- The test made on the character with the code of a byte. -/
def onByte (p : Char → Bool) (b : UInt8) : Bool :=
  p (Char.ofUInt8 b)

/-- Every byte of a character passes or fails as the character does. -/
def Agree (q : UInt8 → Bool) (p : Char → Bool) : Prop :=
  ∀ c, ∀ b ∈ String.utf8EncodeChar c, q b = p c

/-- A test that only characters below 128 pass agrees with itself on bytes. -/
theorem agree_onByte {p : Char → Bool} (hp : ∀ c, p c = true → c.toNat < 128) :
    Agree (onByte p) p := by
  intro c b hb
  rcases utf8EncodeChar_cases c with ⟨hlow, henc⟩ | ⟨hhigh, hbytes⟩
  · rw [henc, List.mem_singleton] at hb
    rw [hb, onByte, ofUInt8_toUInt8 hlow]
  · have hc : p c = false := by
      by_contra h
      have := hp c (by simpa using h)
      omega
    have hb' : p (Char.ofUInt8 b) = false := by
      by_contra h
      have hlow := hp _ (by simpa using h)
      have hcode : (Char.ofUInt8 b).toNat = b.toNat := UInt8.toNat_toUInt32 b
      have := hbytes b hb
      omega
    rw [onByte, hb', hc]

theorem Agree.not {q : UInt8 → Bool} {p : Char → Bool} (h : Agree q p) :
    Agree (fun b => !q b) (fun c => !p c) := by
  intro c b hb
  simp only [h c b hb]

theorem agree_beq {x : Char} (hx : x.toNat < 128) : Agree (· == x.toUInt8) (· == x) := by
  intro c b hb
  have hself : b = x.toUInt8 ↔ c = x := by
    rcases utf8EncodeChar_cases c with ⟨hlow, henc⟩ | ⟨hhigh, hbytes⟩
    · rw [henc, List.mem_singleton] at hb
      subst hb
      constructor
      · intro heq
        rw [← ofUInt8_toUInt8 hlow, heq, ofUInt8_toUInt8 hx]
      · rintro rfl
        rfl
    · have hb' := hbytes b hb
      constructor
      · rintro rfl
        rw [toNat_toUInt8 hx] at hb'
        omega
      · rintro rfl
        omega
  rw [Bool.eq_iff_iff, beq_iff_eq, beq_iff_eq, hself]

section Agree

variable {q : UInt8 → Bool} {p : Char → Bool} (h : Agree q p)

include h

theorem takeWhile_utf8 (s : List Char) : (utf8 s).takeWhile q = utf8 (s.takeWhile p) := by
  induction s with
  | nil => rfl
  | cons c s ih =>
    rw [utf8_cons]
    by_cases hc : p c = true
    · have hall : ∀ b ∈ String.utf8EncodeChar c, q b = true := by
        intro b hb
        rw [h c b hb, hc]
      rw [List.takeWhile_append_of_pos hall, ih, List.takeWhile_cons_of_pos hc, utf8_cons]
    · rw [List.takeWhile_cons_of_neg hc, utf8_nil]
      obtain ⟨b, bs, henc⟩ := exists_utf8EncodeChar c
      have hb : q b = p c := h c b (by rw [henc]; exact List.mem_cons_self)
      rw [henc, List.cons_append, List.takeWhile_cons_of_neg (by rw [hb]; exact hc)]

theorem length_takeWhile_utf8 (s : List Char) :
    ((utf8 s).takeWhile q).length = size (s.takeWhile p) := by
  rw [takeWhile_utf8 h, length_utf8]

/-- The first byte that passes is the first byte of the first character that passes. -/
theorem findIdx?_utf8 (s : List Char) :
    (utf8 s).findIdx? q = (s.findIdx? p).map fun n => size (s.take n) := by
  induction s with
  | nil => rfl
  | cons c s ih =>
    rw [utf8_cons, List.findIdx?_append, List.findIdx?_cons, ih]
    by_cases hc : p c = true
    · obtain ⟨b, bs, henc⟩ := exists_utf8EncodeChar c
      have hb : q b = p c := h c b (by rw [henc]; exact List.mem_cons_self)
      rw [henc, List.findIdx?_cons, hb, hc]
      rfl
    · have hnone : (String.utf8EncodeChar c).findIdx? q = none := by
        rw [List.findIdx?_eq_none_iff]
        intro x hx
        rw [h c x hx]
        simpa using hc
      rw [hnone, if_neg hc, Option.none_or, Option.map_map, Option.map_map,
        String.length_utf8EncodeChar]
      congr 1
      funext n
      simp only [Function.comp_apply, List.take_succ_cons, size_cons]
      omega

end Agree

/-! ## Words -/

/-- A word of characters below 128 stands at the start of the bytes of a text just where it stands at
the start of the text. -/
theorem utf8_isPrefix_iff {w s : List Char} (hw : ∀ c ∈ w, c.toNat < 128) :
    utf8 w <+: utf8 s ↔ w <+: s := by
  constructor
  · intro h
    induction w generalizing s with
    | nil => exact List.nil_prefix
    | cons x w ih =>
      have hx := hw x List.mem_cons_self
      rw [utf8_cons, utf8EncodeChar_of_low hx, List.singleton_append] at h
      cases s with
      | nil => exact absurd (List.prefix_nil.1 h) (by simp)
      | cons c s =>
        rw [utf8_cons] at h
        rcases utf8EncodeChar_cases c with ⟨hlow, hc⟩ | ⟨-, hbytes⟩
        · rw [hc, List.singleton_append, List.cons_prefix_cons] at h
          obtain ⟨hbyte, hrest⟩ := h
          have hxc : x = c := by rw [← ofUInt8_toUInt8 hx, hbyte, ofUInt8_toUInt8 hlow]
          rw [hxc]
          exact List.cons_prefix_cons.2
            ⟨rfl, ih (fun y hy => hw y (List.mem_cons_of_mem x hy)) hrest⟩
        · -- the first byte would be above 128
          obtain ⟨b, bs, hc⟩ := exists_utf8EncodeChar c
          rw [hc, List.cons_append, List.cons_prefix_cons] at h
          have hb := hbytes b (by rw [hc]; exact List.mem_cons_self)
          rw [← h.1, toNat_toUInt8 hx] at hb
          omega
  · rintro ⟨t, rfl⟩
    exact ⟨utf8 t, (utf8_append w t).symm⟩

/-- A folding of bytes does to the bytes of a character what a folding of characters does to it. -/
structure Folding (onBytes : UInt8 → UInt8) (onChars : Char → Char) : Prop where
  encode : ∀ c, (String.utf8EncodeChar c).map onBytes = String.utf8EncodeChar (onChars c)
  low_iff : ∀ c, (onChars c).toNat < 128 ↔ c.toNat < 128

theorem folding_id : Folding id id :=
  ⟨fun _ => List.map_id _, fun _ => Iff.rfl⟩

theorem foldByte_toNat (b : UInt8) :
    (foldByte b).toNat = if 65 ≤ b.toNat ∧ b.toNat ≤ 90 then b.toNat + 32 else b.toNat := by
  have hlow : (0x41 ≤ b) ↔ 65 ≤ b.toNat := UInt8.le_iff_toNat_le
  have hhigh : (b ≤ 0x5A) ↔ b.toNat ≤ 90 := UInt8.le_iff_toNat_le
  unfold foldByte
  by_cases h : 65 ≤ b.toNat ∧ b.toNat ≤ 90
  · have hcond : (decide (0x41 ≤ b) && decide (b ≤ 0x5A)) = true := by
      simp only [Bool.and_eq_true, decide_eq_true_eq]
      exact ⟨hlow.2 h.1, hhigh.2 h.2⟩
    rw [if_pos h, if_pos hcond, UInt8.toNat_add]
    have : (0x20 : UInt8).toNat = 32 := rfl
    omega
  · have hcond : ¬ (decide (0x41 ≤ b) && decide (b ≤ 0x5A)) = true := by
      simp only [Bool.and_eq_true, decide_eq_true_eq]
      exact fun hb => h ⟨hlow.1 hb.1, hhigh.1 hb.2⟩
    rw [if_neg h, if_neg hcond]

theorem toLower_toNat (c : Char) :
    c.toLower.toNat = if 65 ≤ c.toNat ∧ c.toNat ≤ 90 then c.toNat + 32 else c.toNat := by
  have hval : c.val.toNat = c.toNat := rfl
  have hlow : c.val ≥ 'A'.val ↔ 65 ≤ c.toNat := UInt32.le_iff_toNat_le
  have hhigh : c.val ≤ 'Z'.val ↔ c.toNat ≤ 90 := UInt32.le_iff_toNat_le
  by_cases h : 65 ≤ c.toNat ∧ c.toNat ≤ 90
  · have hcond : c.val ≥ 'A'.val ∧ c.val ≤ 'Z'.val := ⟨hlow.2 h.1, hhigh.2 h.2⟩
    have hlower : c.toLower.val = c.val + 32 := by
      delta Char.toLower
      rw [dif_pos hcond]
      rfl
    have hnat : c.toLower.toNat = (c.val + 32).toNat := by rw [← hlower]; rfl
    have h32 : (32 : UInt32).toNat = 32 := rfl
    rw [if_pos h, hnat, UInt32.toNat_add, hval, h32]
    omega
  · have hcond : ¬ (c.val ≥ 'A'.val ∧ c.val ≤ 'Z'.val) := fun hb => h ⟨hlow.1 hb.1, hhigh.1 hb.2⟩
    have hlower : c.toLower = c := by
      delta Char.toLower
      rw [dif_neg hcond]
    rw [if_neg h, hlower]

theorem folding_toLower : Folding foldByte Char.toLower where
  encode := by
    intro c
    have hlower := toLower_toNat c
    rcases utf8EncodeChar_cases c with ⟨hlow, henc⟩ | ⟨hhigh, hbytes⟩
    · have hlow' : c.toLower.toNat < 128 := by
        split at hlower <;> omega
      rw [henc, utf8EncodeChar_of_low hlow', List.map_singleton, List.singleton_inj]
      apply UInt8.toNat_inj.1
      rw [foldByte_toNat, toNat_toUInt8 hlow, toNat_toUInt8 hlow', hlower]
    · have hsame : c.toLower = c := by
        rw [if_neg (by omega)] at hlower
        exact Char.toNat_inj.1 hlower
      rw [hsame]
      refine (List.map_congr_left ?_).trans (List.map_id _)
      intro b hb
      apply UInt8.toNat_inj.1
      have := hbytes b hb
      rw [foldByte_toNat, if_neg (by omega), id_eq]
  low_iff := by
    intro c
    have hlower := toLower_toNat c
    split at hlower <;> omega

section Folding

variable {onBytes : UInt8 → UInt8} {onChars : Char → Char} (f : Folding onBytes onChars)

include f

theorem Folding.map_utf8 (s : List Char) : (utf8 s).map onBytes = utf8 (s.map onChars) := by
  induction s with
  | nil => rfl
  | cons c s ih => rw [utf8_cons, List.map_append, f.encode, ih, List.map_cons, utf8_cons]

theorem standsAt_utf8 {w : List Char} (hw : ∀ c ∈ w, c.toNat < 128) (s : List Char) :
    standsAt onBytes (utf8 w) (utf8 s) = standsAt onChars w s := by
  have hlow : ∀ c ∈ w.map onChars, c.toNat < 128 := by
    intro c hc
    obtain ⟨d, hd, rfl⟩ := List.mem_map.1 hc
    exact (f.low_iff d).2 (hw d hd)
  have hlen : ((utf8 w).map onBytes).length = (utf8 w).length := List.length_map _
  rw [Bool.eq_iff_iff, standsAt_iff, standsAt_iff, List.map_take, List.map_take]
  constructor
  · intro h
    rw [f.map_utf8, f.map_utf8, ← hlen, f.map_utf8] at h
    have hpre := (utf8_isPrefix_iff hlow).1 (List.prefix_iff_eq_take.2 h.symm)
    rw [List.prefix_iff_eq_take.1 hpre, List.length_map]
  · intro h
    have hpre : w.map onChars <+: s.map onChars := by
      rw [List.prefix_iff_eq_take, List.length_map]
      exact h.symm
    have hbytes := (utf8_isPrefix_iff hlow).2 hpre
    rw [f.map_utf8, ← hlen, f.map_utf8]
    exact (List.prefix_iff_eq_take.1 hbytes).symm

omit f in
/-- Places where the word can not start are passed over. -/
theorem place?_skip {first : UInt8} {word front : List UInt8}
    (hfront : ∀ b ∈ front, onBytes b ≠ onBytes first) (s : List UInt8) :
    place? onBytes (first :: word) (front ++ s) =
      (place? onBytes (first :: word) s).map (front.length + ·) := by
  induction front with
  | nil => simp
  | cons b front ih =>
    have hnot : ¬ standsAt onBytes (first :: word) (b :: (front ++ s)) = true := fun h =>
      hfront b List.mem_cons_self (standsAt_cons h)
    rw [List.cons_append, place?, if_neg hnot,
      ih fun x hx => hfront x (List.mem_cons_of_mem b hx), Option.map_map]
    congr 1
    funext n
    simp only [Function.comp_apply, List.length_cons]
    omega

/-- A word of characters below 128 is found in the bytes of a text where it is found in the text. -/
theorem place?_utf8 {w : List Char} (hne : w ≠ []) (hw : ∀ c ∈ w, c.toNat < 128) (s : List Char) :
    place? onBytes (utf8 w) (utf8 s) = (place? onChars w s).map fun n => size (s.take n) := by
  obtain ⟨x, w, rfl⟩ := List.exists_cons_of_ne_nil hne
  have hx : x.toNat < 128 := hw x List.mem_cons_self
  obtain ⟨first, word, hword, hfirst⟩ : ∃ first word, utf8 (x :: w) = first :: word ∧
      onBytes first = (onChars x).toUInt8 := by
    have henc := f.encode x
    rw [utf8EncodeChar_of_low hx, utf8EncodeChar_of_low ((f.low_iff x).2 hx), List.map_singleton,
      List.singleton_inj] at henc
    exact ⟨x.toUInt8, utf8 w, by rw [utf8_cons, utf8EncodeChar_of_low hx]; rfl, henc⟩
  induction s with
  | nil => rfl
  | cons c s ih =>
    obtain ⟨b, bs, hcb⟩ := exists_utf8EncodeChar c
    have hsize : bs.length + 1 = c.utf8Size := by
      rw [← String.length_utf8EncodeChar, hcb, List.length_cons]
    have hbytes : utf8 (c :: s) = b :: (bs ++ utf8 s) := by rw [utf8_cons, hcb]; rfl
    have hstands := standsAt_utf8 f hw (c :: s)
    rw [place?]
    by_cases hhere : standsAt onChars (x :: w) (c :: s) = true
    · rw [hhere, hbytes] at hstands
      rw [hbytes, place?, if_pos hstands, if_pos hhere]
      rfl
    · have hskip : ∀ y ∈ bs, onBytes y ≠ onBytes first := by
        -- behind the first byte of a character all bytes are above 128, and stay there
        intro y hy heq
        rcases utf8EncodeChar_cases c with ⟨-, hlow⟩ | ⟨hhigh, -⟩
        · rw [hcb, List.cons.injEq] at hlow
          rw [hlow.2] at hy
          exact List.not_mem_nil hy
        · have hmem : onBytes y ∈ String.utf8EncodeChar (onChars c) := by
            rw [← f.encode, hcb]
            exact List.mem_map_of_mem (List.mem_cons_of_mem b hy)
          have hhigh' : ¬ (onChars c).toNat < 128 := fun hlt => by
            have := (f.low_iff c).1 hlt
            omega
          rcases utf8EncodeChar_cases (onChars c) with ⟨hlow, -⟩ | ⟨-, hall⟩
          · exact hhigh' hlow
          · have h₁ := hall _ hmem
            have h₂ := (f.low_iff x).2 hx
            rw [heq, hfirst, toNat_toUInt8 h₂] at h₁
            omega
      rw [hbytes] at hstands
      rw [hbytes, place?, hstands, if_neg hhere, if_neg hhere, hword, place?_skip hskip, ← hword, ih,
        Option.map_map, Option.map_map, Option.map_map]
      congr 1
      funext n
      simp only [Function.comp_apply, List.take_succ_cons, size_cons]
      omega

end Folding

end Text
end ImportOrder
