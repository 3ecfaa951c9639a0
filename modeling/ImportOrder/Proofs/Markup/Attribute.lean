import ImportOrder.Markup.Attribute
import Mathlib.Data.List.Induction

/-!
# ImportOrder.Proofs.Markup.Attribute

Attributes written and read back. An attribute is written behind a blank, bare or with its value in
quotes; `readAttributes_written` says that a tag of such attributes is read as it was written, and
`mem_lastValues` that of several attributes of one name the last one counts.
-/

namespace ImportOrder
namespace Markup

open Text

/-! ## Written attributes -/

/-- A value as written: none, or a text between two quotes in which the quote does not stand. -/
inductive WrittenValue where
  | bare
  | quoted (quote : Char) (text : List Char) (isQuote : quote = '"' ∨ quote = '\'')
      (unquoted : quote ∉ text)

namespace WrittenValue

/-- The value; an attribute without one has the empty value. -/
def value : WrittenValue → List Char
  | .bare => []
  | .quoted _ text _ _ => text

def text : WrittenValue → List Char
  | .bare => []
  | .quoted quote text _ _ => '=' :: quote :: (text ++ [quote])

end WrittenValue

/-- An attribute as written. Its name holds nothing that ends a name, a value or the tag. -/
structure Written where
  name : List Char
  written : WrittenValue
  name_ne : name ≠ []
  name_plain : ∀ c ∈ name, isAsciiBlank c = false ∧ c ≠ '=' ∧ c ≠ '/' ∧ c ≠ '"' ∧ c ≠ '\'' ∧ c ≠ '>'

namespace Written

def toAttribute (w : Written) : Attribute :=
  ⟨w.name, w.written.value⟩

def text (w : Written) : List Char :=
  ' ' :: (w.name ++ w.written.text)

end Written

/-- The text of a tag behind its name. -/
def tagText (ws : List Written) : List Char :=
  ws.flatMap Written.text

theorem tagText_cons (w : Written) (ws : List Written) :
    tagText (w :: ws) = ' ' :: (w.name ++ (w.written.text ++ tagText ws)) := by
  simp [tagText, Written.text]

/-! ## Reading them -/

theorem readAttributes_of_dropWhile_nil {s : List Char} (h : s.dropWhile isBetween = []) :
    readAttributes s = [] := by
  rw [readAttributes]
  split
  · rfl
  · rename_i heq
    rw [h] at heq
    cases heq
  · rename_i heq
    rw [h] at heq
    cases heq

/-- Where a name begins, it is read with what is assigned to it. -/
theorem readAttributes_of_dropWhile {s rest : List Char} {c : Char}
    (h : s.dropWhile isBetween = c :: rest) (hc : c ≠ '=') :
    readAttributes s =
      ⟨c :: rest.takeWhile (!endsName ·), (readAssignment (rest.dropWhile (!endsName ·))).1⟩ ::
        readAttributes (readAssignment (rest.dropWhile (!endsName ·))).2 := by
  rw [readAttributes]
  split
  · rename_i heq
    rw [h] at heq
    cases heq
  · rename_i heq
    rw [h] at heq
    cases heq
    exact absurd rfl hc
  · rename_i heq
    rw [h] at heq
    cases heq
    rfl

/-- Where only an equals sign stands, what is assigned is passed over. -/
theorem readAttributes_of_dropWhile_equals {s rest : List Char}
    (h : s.dropWhile isBetween = '=' :: rest) :
    readAttributes s = readAttributes (readValue rest).2 := by
  rw [readAttributes]
  split
  · rename_i heq
    rw [h] at heq
    cases heq
  · rename_i heq
    rw [h] at heq
    cases heq
    rfl
  · rename_i hne heq
    rw [h] at heq
    cases heq
    exact absurd rfl hne

theorem Written.endsName_eq_false {w : Written} {c : Char} (hc : c ∈ w.name) :
    endsName c = false := by
  obtain ⟨hblank, heq, hslash, -⟩ := w.name_plain c hc
  simp only [isAsciiBlank, Bool.or_eq_false_iff] at hblank
  obtain ⟨⟨⟨⟨hspace, htab⟩, hline⟩, -⟩, hreturn⟩ := hblank
  simp only [endsName, hspace, htab, hline, hreturn, Bool.or_eq_false_iff, beq_eq_false_iff_ne]
  exact ⟨⟨⟨⟨⟨heq, trivial⟩, trivial⟩, trivial⟩, trivial⟩, hslash⟩

theorem Written.exists_cons (w : Written) :
    ∃ c rest, w.name = c :: rest ∧ c ≠ '=' ∧ isBetween c = false := by
  obtain ⟨c, rest, hname⟩ := List.exists_cons_of_ne_nil w.name_ne
  obtain ⟨hblank, heq, hslash, -⟩ := w.name_plain c (by rw [hname]; exact List.mem_cons_self)
  exact ⟨c, rest, hname, heq, by simp [isBetween, hblank, hslash]⟩

theorem dropWhile_isBetween_tagText (w : Written) (s : List Char) :
    (' ' :: (w.name ++ s)).dropWhile isBetween = w.name ++ s := by
  obtain ⟨c, rest, hname, -, hbetween⟩ := w.exists_cons
  have hspace : isBetween ' ' = true := rfl
  rw [List.dropWhile_cons_of_pos hspace, hname, List.cons_append,
    List.dropWhile_cons_of_neg (by simp [hbetween])]

theorem readValue_quoted {quote : Char} {v : List Char} (hquote : quote = '"' ∨ quote = '\'')
    (hv : quote ∉ v) (s : List Char) :
    readValue (quote :: (v ++ quote :: s)) = (v, s) := by
  have hall : ∀ c ∈ v, (c != quote) = true := by
    intro c hc
    rw [bne_iff_ne]
    rintro rfl
    exact hv hc
  have hdrop : (quote :: (v ++ quote :: s)).dropWhile isIndent = quote :: (v ++ quote :: s) := by
    refine List.dropWhile_cons_of_neg ?_
    rcases hquote with rfl | rfl <;> decide
  have htake : (v ++ quote :: s).takeWhile (· != quote) = v := by
    rw [List.takeWhile_append_of_pos hall, List.takeWhile_cons_of_neg (by simp), List.append_nil]
  have hrest : (v ++ quote :: s).dropWhile (· != quote) = quote :: s := by
    rw [List.dropWhile_append_of_pos hall, List.dropWhile_cons_of_neg (by simp)]
  have hcond : (quote = '"' || quote = '\'') = true := by
    rcases hquote with rfl | rfl <;> rfl
  simp only [readValue, hdrop, hcond, if_true, htake, hrest, List.drop_succ_cons, List.drop_zero]

/-- What is assigned to a name is its written value. Behind a bare name the blank before the next
attribute may be read too, which changes nothing. -/
theorem readAssignment_written (v : WrittenValue) (ws : List Written) :
    (readAssignment (v.text ++ tagText ws)).1 = v.value ∧
      readAttributes (readAssignment (v.text ++ tagText ws)).2 = readAttributes (tagText ws) := by
  cases v with
  | quoted quote text isQuote unquoted =>
    have heq : isIndent '=' = false := rfl
    have hread : readAssignment ('=' :: quote :: (text ++ [quote]) ++ tagText ws) =
        (text, tagText ws) := by
      rw [readAssignment, List.cons_append, List.dropWhile_cons_of_neg (by simp [heq])]
      simpa using readValue_quoted isQuote unquoted (tagText ws)
    rw [WrittenValue.text, hread]
    exact ⟨rfl, rfl⟩
  | bare =>
    rw [WrittenValue.text, List.nil_append]
    cases ws with
    | nil => exact ⟨rfl, rfl⟩
    | cons w ws =>
      obtain ⟨c, rest, hname, hne, hbetween⟩ := w.exists_cons
      have hindent : isIndent c = false := by
        rw [isBetween, Bool.or_eq_false_iff, isAsciiBlank] at hbetween
        simp only [Bool.or_eq_false_iff] at hbetween
        simp [isIndent, hbetween]
      have hspace : isIndent ' ' = true := rfl
      have hdrop : (tagText (w :: ws)).dropWhile isIndent =
          c :: (rest ++ (w.written.text ++ tagText ws)) := by
        rw [tagText_cons, List.dropWhile_cons_of_pos hspace, hname, List.cons_append,
          List.dropWhile_cons_of_neg (by simp [hindent])]
      have hread : readAssignment (tagText (w :: ws)) =
          ([], c :: (rest ++ (w.written.text ++ tagText ws))) := by
        rw [readAssignment, hdrop]
        split
        · rename_i heq
          cases heq
          exact absurd rfl hne
        · rfl
      rw [hread]
      refine ⟨rfl, ?_⟩
      have hhere : (c :: (rest ++ (w.written.text ++ tagText ws))).dropWhile isBetween =
          c :: (rest ++ (w.written.text ++ tagText ws)) :=
        List.dropWhile_cons_of_neg (by simp [hbetween])
      have hthere : (tagText (w :: ws)).dropWhile isBetween =
          c :: (rest ++ (w.written.text ++ tagText ws)) := by
        rw [tagText_cons, dropWhile_isBetween_tagText, hname, List.cons_append]
      rw [readAttributes_of_dropWhile hhere hne, readAttributes_of_dropWhile hthere hne]

theorem takeWhile_name (v : WrittenValue) (ws : List Written) :
    (v.text ++ tagText ws).takeWhile (!endsName ·) = [] ∧
      (v.text ++ tagText ws).dropWhile (!endsName ·) = v.text ++ tagText ws := by
  have hstops : ∀ c s, endsName c = true →
      (c :: s).takeWhile (!endsName ·) = [] ∧ (c :: s).dropWhile (!endsName ·) = c :: s := by
    intro c s hc
    exact ⟨List.takeWhile_cons_of_neg (by simp [hc]), List.dropWhile_cons_of_neg (by simp [hc])⟩
  cases v with
  | quoted quote text isQuote unquoted => exact hstops '=' _ rfl
  | bare =>
    cases ws with
    | nil => exact ⟨rfl, rfl⟩
    | cons w ws =>
      rw [WrittenValue.text, List.nil_append, tagText_cons]
      exact hstops ' ' _ rfl

/-- A tag of written attributes is read as it was written. -/
theorem readAttributes_written (ws : List Written) :
    readAttributes (tagText ws) = ws.map Written.toAttribute := by
  induction ws with
  | nil => exact readAttributes_of_dropWhile_nil rfl
  | cons w ws ih =>
    obtain ⟨c, rest, hname, hne, -⟩ := w.exists_cons
    have hplain : ∀ x ∈ rest, (!endsName x) = true := by
      intro x hx
      rw [w.endsName_eq_false (by rw [hname]; exact List.mem_cons_of_mem c hx)]
      rfl
    have hhere : (tagText (w :: ws)).dropWhile isBetween =
        c :: (rest ++ (w.written.text ++ tagText ws)) := by
      rw [tagText_cons, dropWhile_isBetween_tagText, hname, List.cons_append]
    obtain ⟨htake, hdrop⟩ := takeWhile_name w.written ws
    obtain ⟨hvalue, hmore⟩ := readAssignment_written w.written ws
    rw [readAttributes_of_dropWhile hhere hne, List.takeWhile_append_of_pos hplain, htake,
      List.append_nil, List.dropWhile_append_of_pos hplain, hdrop, hvalue, hmore, ih,
      List.map_cons, Written.toAttribute, hname]

/-! ## The attributes by name -/

/-- The value that counts of the attributes of a name: the last one's. -/
def valueOf? (attributes : List Attribute) (name : List Char) : Option (List Char) :=
  (attributes.reverse.find? (·.name == name)).map (·.value)

theorem lastValues_append_singleton (as : List Attribute) (a : Attribute) :
    lastValues (as ++ [a]) = (lastValues as).filter (·.name != a.name) ++ [a] := by
  rw [lastValues, List.foldl_append]
  rfl

theorem valueOf?_append_singleton (as : List Attribute) (a : Attribute) (name : List Char) :
    valueOf? (as ++ [a]) name = if a.name = name then some a.value else valueOf? as name := by
  rw [valueOf?, List.reverse_append, List.reverse_singleton, List.singleton_append,
    List.find?_cons]
  by_cases h : a.name = name
  · simp [h]
  · have hbeq : (a.name == name) = false := by simpa using h
    simp only [hbeq, if_neg h]
    rfl

theorem nodup_lastValues (as : List Attribute) : ((lastValues as).map (·.name)).Nodup := by
  induction as using List.reverseRecOn with
  | nil => exact List.nodup_nil
  | append_singleton as a ih =>
    have hkept : (((lastValues as).filter (·.name != a.name)).map (·.name)).Nodup :=
      ih.sublist (List.filter_sublist.map _)
    rw [lastValues_append_singleton, List.map_append, List.map_singleton]
    refine List.nodup_append.2 ⟨hkept, by simp, ?_⟩
    intro name hname last hlast
    obtain ⟨b, hb, rfl⟩ := List.mem_map.1 hname
    rw [List.mem_singleton.1 hlast]
    simpa using (List.mem_filter.1 hb).2

theorem mem_lastValues (as : List Attribute) (name value : List Char) :
    (⟨name, value⟩ : Attribute) ∈ lastValues as ↔ valueOf? as name = some value := by
  induction as using List.reverseRecOn with
  | nil => simp [lastValues, valueOf?]
  | append_singleton as a ih =>
    rw [lastValues_append_singleton, valueOf?_append_singleton, List.mem_append,
      List.mem_singleton, List.mem_filter, ih]
    by_cases h : a.name = name
    · subst h
      rw [if_pos rfl, Option.some.injEq]
      constructor
      · rintro (⟨-, hne⟩ | heq)
        · simp at hne
        · rw [← heq]
      · intro hvalue
        right
        rw [← hvalue]
    · rw [if_neg h]
      constructor
      · rintro (⟨hvalue, -⟩ | heq)
        · exact hvalue
        · rw [← heq] at h
          exact absurd rfl h
      · intro hvalue
        exact .inl ⟨hvalue, by simpa using Ne.symm h⟩

end Markup
end ImportOrder
