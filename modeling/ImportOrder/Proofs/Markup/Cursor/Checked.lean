import ImportOrder.Markup.Region
import ImportOrder.Proofs.Text.Utf8

/-!
# ImportOrder.Proofs.Markup.Cursor.Checked

The search for regions on the bytes of a document, by cursors. Each access to the bytes and each
slice of the text is checked, and so is that a cursor of a loop moves on; `Fault` names what can go
wrong.

A cursor that stands between two characters is `size a` in `a ++ b`. What an access gives there is
told by the characters of `b`.
-/

namespace ImportOrder
namespace Markup
namespace Cursor

open Text

inductive Fault where
  /-- An access outside the bytes. -/
  | outOfRange
  /-- A slice that starts or ends inside a character. -/
  | insideCharacter
  /-- A loop whose cursor does not move on. -/
  | stuck
  deriving Repr, DecidableEq

/-! ## Checked accesses -/

def tailFrom (bytes : List UInt8) (pos : Nat) : Except Fault (List UInt8) :=
  if pos ≤ bytes.length then .ok (bytes.drop pos) else .error .outOfRange

def between (bytes : List UInt8) (start stop : Nat) : Except Fault (List UInt8) :=
  if start ≤ stop ∧ stop ≤ bytes.length then .ok ((bytes.drop start).take (stop - start))
  else .error .outOfRange

def byteAt (bytes : List UInt8) (pos : Nat) : Except Fault UInt8 :=
  match bytes[pos]? with
  | some b => .ok b
  | none => .error .outOfRange

def byteBefore (bytes : List UInt8) (pos : Nat) : Except Fault UInt8 :=
  if pos = 0 then .error .outOfRange else byteAt bytes (pos - 1)

def slice (source : List Char) (start stop : Nat) : Except Fault (List Char) :=
  if start ≤ stop ∧ stop ≤ size source then
    match slice? start stop source with
    | some s => .ok s
    | none => .error .insideCharacter
  else .error .outOfRange

/-! ## Readers -/

/-- The cursor behind the bytes that pass. -/
def skipWhile (q : UInt8 → Bool) (bytes : List UInt8) (pos : Nat) : Nat :=
  if h : pos < bytes.length then if q bytes[pos] then skipWhile q bytes (pos + 1) else pos
  else pos
termination_by bytes.length - pos

def isQuoteByte (b : UInt8) : Bool :=
  b == '"'.toUInt8 || b == '\''.toUInt8

/-- A value and the cursor behind it, from behind the equals sign on. -/
def valueAt (source : List Char) (pos : Nat) : Except Fault (List Char × Nat) :=
  let bytes := utf8 source
  let start := skipWhile (onByte isIndent) bytes pos
  match bytes[start]?.filter isQuoteByte with
  | some quote => do
    let rest ← tailFrom bytes (start + 1)
    let stop := (rest.findIdx? (· == quote)).elim bytes.length (start + 1 + ·)
    let value ← slice source (start + 1) stop
    return (value, min (stop + 1) bytes.length)
  | none => do
    let stop := skipWhile (onByte (!isAsciiBlank ·)) bytes start
    let value ← slice source start stop
    return (value, stop)

def assignmentAt (source : List Char) (pos : Nat) : Except Fault (List Char × Nat) :=
  let bytes := utf8 source
  let start := skipWhile (onByte isIndent) bytes pos
  if bytes[start]? = some '='.toUInt8 then valueAt source (start + 1) else .ok ([], start)

/-- The attributes in the order in which they are written. -/
def attributesFrom (source : List Char) (pos : Nat) : Except Fault (List Attribute) :=
  let bytes := utf8 source
  let start := skipWhile (onByte isBetween) bytes pos
  if _ : pos < bytes.length ∧ start < bytes.length then do
    let stop := skipWhile (onByte (!endsName ·)) bytes start
    let name ← slice source start stop
    let (value, next) ← assignmentAt source stop
    if _ : pos < next then
      let more ← attributesFrom source next
      return if name.isEmpty then more else ⟨name, value⟩ :: more
    else throw .stuck
  else return []
termination_by size source - pos
decreasing_by
  have : bytes.length = size source := length_utf8 source
  omega

/-- Whether the name of a script's opening tag follows the `<` at the cursor. -/
def opensScript (bytes : List UInt8) (pos : Nat) : Except Fault Bool :=
  let nameStart := pos + 1
  let nameEnd := nameStart + scriptWord.length
  if nameEnd < bytes.length then do
    let name ← between bytes nameStart nameEnd
    if name.map foldByte == (utf8 scriptWord).map foldByte then
      let b ← byteAt bytes nameEnd
      return onByte endsTagName b
    else return false
  else return false

/-- The cursor at the `>` of an opening tag. -/
def tagEnd (bytes : List UInt8) (pos : Nat) : Except Fault (Option Nat) :=
  if h : pos < bytes.length then
    if bytes[pos] == '>'.toUInt8 then return some pos
    else if isQuoteByte bytes[pos] then do
      let rest ← tailFrom bytes (pos + 1)
      match rest.findIdx? (· == bytes[pos]) with
      | none => return none
      | some i => tagEnd bytes (pos + 1 + i + 1)
    else tagEnd bytes (pos + 1)
  else return none
termination_by bytes.length - pos

/-- The cursor at the first place of `first :: word`, case apart. Only places whose first byte can
start the word are compared in full. -/
def findFolded (first : UInt8) (word bytes : List UInt8) (pos : Nat) : Except Fault (Option Nat) :=
  if _ : pos + (word.length + 1) ≤ bytes.length then do
    let rest ← tailFrom bytes pos
    match rest.findIdx? (foldByte · == foldByte first) with
    | none => return none
    | some found =>
      let candidate := pos + found
      if bytes.length < candidate + (word.length + 1) then return none
      else
        let here ← between bytes candidate (candidate + (word.length + 1))
        if here.map foldByte == (first :: word).map foldByte then return some candidate
        else findFolded first word bytes (candidate + 1)
  else return none
termination_by bytes.length + 1 - pos

inductive Move where
  | over
  | goOn (next : Nat)
  | found (r : Region) (next : Nat)

/-- The element whose attribute text stands between the two cursors. -/
def elementAt (document : List Char) (tagStart tagStop : Nat) : Except Fault Move := do
  let bytes := utf8 document
  let start := tagStop + 1
  match ← findFolded '<'.toUInt8 (utf8 ('/' :: scriptWord)) bytes start with
  | none => return .over
  | some stop =>
    let attributes ← slice document tagStart tagStop
    let read ← attributesFrom attributes 0
    let content ← slice document start stop
    let behind ← tailFrom bytes stop
    let next := (behind.findIdx? (· == '>'.toUInt8)).elim bytes.length (stop + · + 1)
    return .found ⟨content, start, trim attributes, lastValues read⟩ next

/-- The step at a `<` at the cursor. -/
def stepAt (document : List Char) (pos : Nat) : Except Fault Move := do
  let bytes := utf8 document
  let here ← tailFrom bytes pos
  if (utf8 ['<', '!', '-', '-']).isPrefixOf here then
    let inside ← tailFrom bytes (pos + 4)
    match find? id inside (utf8 commentEnd) 0 with
    | none => return .over
    | some stop => return .goOn (pos + 4 + stop + 3)
  else if !(← opensScript bytes pos) then return .goOn (pos + 1)
  else
    let tagStart := pos + 1 + scriptWord.length
    match ← tagEnd bytes tagStart with
    | none => return .over
    | some tagStop =>
      if (← byteBefore bytes tagStop) == '/'.toUInt8 then return .goOn (tagStop + 1)
      else elementAt document tagStart tagStop

def regionsFrom (document : List Char) (pos : Nat) : Except Fault (List Region) :=
  let bytes := utf8 document
  if _ : pos < bytes.length then do
    let rest ← tailFrom bytes pos
    match rest.findIdx? (· == '<'.toUInt8) with
    | none => return []
    | some skipped =>
      match ← stepAt document (pos + skipped) with
      | .over => return []
      | .goOn next =>
        if _ : pos < next then regionsFrom document next else throw .stuck
      | .found r next =>
        if _ : pos < next then
          let more ← regionsFrom document next
          return r :: more
        else throw .stuck
  else return []
termination_by size document - pos
decreasing_by
  all_goals
    have : bytes.length = size document := length_utf8 document
    omega

def regions (document : List Char) : Except Fault (List Region) :=
  regionsFrom document 0

/-! ## Accesses at characters -/

theorem ok_bind {α β : Type} (x : α) (f : α → Except Fault β) : (Except.ok x >>= f) = f x := rfl

theorem size_concat {a : List Char} {c : Char} (hc : c.toNat < 128) : size (a ++ [c]) = size a + 1 := by
  have hone : c.utf8Size = 1 := by
    rw [← String.length_utf8EncodeChar, utf8EncodeChar_of_low hc]
    rfl
  rw [size_append, size_cons, size_nil, hone]

theorem tailFrom_append (a b : List Char) : tailFrom (utf8 (a ++ b)) (size a) = .ok (utf8 b) := by
  have hle : size a ≤ (utf8 (a ++ b)).length := by
    rw [length_utf8, size_append]
    omega
  rw [tailFrom, if_pos hle, utf8_append, ← length_utf8 a, List.drop_left]

theorem between_append (a m b : List Char) :
    between (utf8 (a ++ (m ++ b))) (size a) (size a + size m) = .ok (utf8 m) := by
  have hle : size a ≤ size a + size m ∧ size a + size m ≤ (utf8 (a ++ (m ++ b))).length := by
    rw [length_utf8, size_append, size_append]
    omega
  rw [between, if_pos hle, Nat.add_sub_cancel_left, utf8_append, utf8_append, ← length_utf8 a,
    List.drop_left, ← length_utf8 m, List.take_left]

theorem slice_append (a m b : List Char) :
    slice (a ++ (m ++ b)) (size a) (size a + size m) = .ok m := by
  have hle : size a ≤ size a + size m ∧ size a + size m ≤ size (a ++ (m ++ b)) := by
    rw [size_append, size_append]
    omega
  rw [slice, if_pos hle, slice?_append]

theorem getElem?_append_cons (a b : List Char) (c : Char) :
    ∃ byte bs, String.utf8EncodeChar c = byte :: bs ∧
      (utf8 (a ++ c :: b))[size a]? = some byte := by
  obtain ⟨byte, bs, henc⟩ := exists_utf8EncodeChar c
  refine ⟨byte, bs, henc, ?_⟩
  rw [utf8_append, utf8_cons, henc, List.getElem?_append_right (by rw [length_utf8])]
  simp

/-- Whether a test holds at the cursor is told by the character there. -/
theorem getElem?_filter_append {q : UInt8 → Bool} {p : Char → Bool} (h : Agree q p)
    (a b : List Char) :
    ((utf8 (a ++ b))[size a]?.filter q).isSome = (b.head?.filter p).isSome := by
  cases b with
  | nil =>
    rw [List.append_nil, List.getElem?_eq_none (by rw [length_utf8])]
    rfl
  | cons c b =>
    obtain ⟨byte, bs, henc, hbyte⟩ := getElem?_append_cons a b c
    have hq : q byte = p c := h c byte (by rw [henc]; exact List.mem_cons_self)
    rw [hbyte, List.head?_cons, Option.filter_some, Option.filter_some, hq]
    split <;> rfl

theorem skipWhile_eq (q : UInt8 → Bool) (bytes : List UInt8) (pos : Nat) :
    skipWhile q bytes pos = pos + ((bytes.drop pos).takeWhile q).length := by
  fun_induction skipWhile q bytes pos with
  | case1 pos h hq ih =>
    rw [ih, List.drop_eq_getElem_cons h, List.takeWhile_cons_of_pos hq, List.length_cons]
    omega
  | case2 pos h hq =>
    rw [List.drop_eq_getElem_cons h, List.takeWhile_cons_of_neg hq]
    rfl
  | case3 pos h =>
    rw [List.drop_eq_nil_of_le (by omega)]
    rfl

theorem skipWhile_append {q : UInt8 → Bool} {p : Char → Bool} (h : Agree q p) (a b : List Char) :
    skipWhile q (utf8 (a ++ b)) (size a) = size (a ++ b.takeWhile p) := by
  rw [skipWhile_eq, utf8_append, ← length_utf8 a, List.drop_left, length_takeWhile_utf8 h,
    length_utf8, size_append]

/-! ## Tests on bytes -/

theorem isAsciiBlank_lt {c : Char} (h : isAsciiBlank c = true) : c.toNat < 128 := by
  simp only [isAsciiBlank, Bool.or_eq_true, beq_iff_eq] at h
  rcases h with (((rfl | rfl) | rfl) | rfl) | rfl <;> decide

theorem agree_isIndent : Agree (onByte isIndent) isIndent := by
  refine agree_onByte fun c h => ?_
  simp only [isIndent, Bool.or_eq_true, beq_iff_eq] at h
  rcases h with rfl | rfl <;> decide

theorem agree_isAsciiBlank : Agree (onByte isAsciiBlank) isAsciiBlank :=
  agree_onByte fun _ => isAsciiBlank_lt

theorem agree_isBetween : Agree (onByte isBetween) isBetween := by
  refine agree_onByte fun c h => ?_
  simp only [isBetween, Bool.or_eq_true, beq_iff_eq] at h
  rcases h with h | rfl
  · exact isAsciiBlank_lt h
  · decide

theorem agree_endsName : Agree (onByte endsName) endsName := by
  refine agree_onByte fun c h => ?_
  simp only [endsName, Bool.or_eq_true, beq_iff_eq] at h
  rcases h with ((((rfl | rfl) | rfl) | rfl) | rfl) | rfl <;> decide

theorem agree_endsTagName : Agree (onByte endsTagName) endsTagName := by
  refine agree_onByte fun c h => ?_
  simp only [endsTagName, Bool.or_eq_true, beq_iff_eq] at h
  rcases h with ((((rfl | rfl) | rfl) | rfl) | rfl) | rfl <;> decide

theorem agree_isQuote : Agree isQuoteByte (fun c => c == '"' || c == '\'') := by
  intro c b hb
  have hdouble : (b == '"'.toUInt8) = (c == '"') := agree_beq (by decide) c b hb
  have hsingle : (b == '\''.toUInt8) = (c == '\'') := agree_beq (by decide) c b hb
  rw [isQuoteByte, hdouble, hsingle]

/-! ## First places -/

theorem findIdx?_of_not_mem {c : Char} {s : List Char} (h : c ∉ s) : s.findIdx? (· == c) = none := by
  refine List.findIdx?_eq_none_iff.2 fun x hx => ?_
  rw [beq_eq_false_iff_ne]
  rintro rfl
  exact h hx

theorem findIdx?_eq_some_append {α : Type} {p : α → Bool} {s : List α} {n : Nat}
    (h : s.findIdx? p = some n) :
    ∃ front x back, s = front ++ x :: back ∧ front.length = n ∧ p x = true ∧
      ∀ y ∈ front, p y = false := by
  obtain ⟨hlt, hx, hfront⟩ := List.findIdx?_eq_some_iff_getElem.1 h
  refine ⟨s.take n, s[n], s.drop (n + 1), ?_, by simp; omega, hx, ?_⟩
  · rw [← List.drop_eq_getElem_cons hlt, List.take_append_drop]
  · intro y hy
    obtain ⟨i, hi, rfl⟩ := List.mem_iff_getElem.1 hy
    rw [List.length_take] at hi
    rw [List.getElem_take]
    simpa using hfront i (by omega)

end Cursor
end Markup
end ImportOrder
