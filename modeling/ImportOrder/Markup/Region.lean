import ImportOrder.Markup.Attribute
import ImportOrder.Text.Lines
import ImportOrder.Text.Offset
import ImportOrder.Text.Search

/-!
# ImportOrder.Markup.Region

The script regions of a component: the contents of its `<script>` elements, in document order.

Tag names are read in either case, quoted attribute values may hold any character, and comments are
passed over. An element without a closing tag ends the search, and so does a comment or an opening
tag that is not closed.
-/

namespace ImportOrder
namespace Markup

open Text

/-- The scope that a script runs in: once for the module, or once for each instance. -/
inductive Role where
  | moduleLevel
  | instanceLevel
  deriving Repr, DecidableEq

structure Region where
  content : List Char
  /-- The byte offset of the content in the document. -/
  start : Nat
  /-- The attribute text of the opening tag, trimmed. -/
  attributeText : List Char
  /-- The attributes by name. -/
  attributes : List Attribute
  deriving Repr, DecidableEq

namespace Region

/-- The byte offset of the end of the content. -/
def stop (r : Region) : Nat :=
  r.start + size r.content

/-- The value of an attribute, whose name is looked up in either case. -/
def attribute? (r : Region) (name : List Char) : Option (List Char) :=
  (r.attributes.find? fun a => sameIgnoringCase a.name name).map (·.value)

def language? (r : Region) : Option (List Char) :=
  r.attribute? ['l', 'a', 'n', 'g']

/-- Whether an attribute puts a script at module level. -/
def isModuleMark (a : Attribute) : Bool :=
  let word := ['m', 'o', 'd', 'u', 'l', 'e']
  sameIgnoringCase a.name word ||
    (sameIgnoringCase a.name ['c', 'o', 'n', 't', 'e', 'x', 't'] &&
      sameIgnoringCase (trim a.value) word)

def role (r : Region) : Role :=
  if r.attributes.any isModuleMark then .moduleLevel else .instanceLevel

end Region

def scriptWord : List Char := ['s', 'c', 'r', 'i', 'p', 't']

/-- A closing tag up to its name. -/
def closingTag : List Char := '<' :: '/' :: scriptWord

/-- What stands inside a comment and behind it, from behind the `<` on. -/
def commentBody? (s : List Char) : Option (List Char) :=
  dropWord? ['!', '-', '-'] s

def commentEnd : List Char := ['-', '-', '>']

/-- A character that may follow the name in an opening tag. -/
def endsTagName (c : Char) : Bool :=
  c == ' ' || c == '\t' || c == '\n' || c == '\r' || c == '>' || c == '/'

/-- The text behind the name of a script's opening tag, from behind the `<` on. -/
def scriptTag? (s : List Char) : Option (List Char) :=
  if sameIgnoringCase (s.take scriptWord.length) scriptWord &&
      (s.drop scriptWord.length).head?.any endsTagName then
    some (s.drop scriptWord.length)
  else none

theorem length_scriptTag? {s tag : List Char} (h : scriptTag? s = some tag) :
    tag.length ≤ s.length := by
  unfold scriptTag? at h
  split at h
  · cases h; simp
  · cases h

/-- The attribute text of a tag and what follows its `>`. A `>` inside quotes does not count;
`quote` is the quote that is open. -/
def splitTag? (quote : Option Char) : List Char → Option (List Char × List Char)
  | [] => none
  | c :: s =>
    match quote with
    | some q =>
      (splitTag? (if c = q then none else some q) s).map fun (text, rest) => (c :: text, rest)
    | none =>
      if c = '>' then some ([], s)
      else
        (splitTag? (if c = '"' || c = '\'' then some c else none) s).map fun (text, rest) =>
          (c :: text, rest)

theorem splitTag?_eq_some {quote : Option Char} {s text rest : List Char}
    (h : splitTag? quote s = some (text, rest)) : s = text ++ '>' :: rest := by
  induction s generalizing quote text with
  | nil => simp [splitTag?] at h
  | cons c s ih =>
    unfold splitTag? at h
    split at h
    · obtain ⟨⟨t, r⟩, ht, heq⟩ := Option.map_eq_some_iff.1 h
      cases heq
      simpa using ih ht
    · split at h
      · rename_i hc
        cases h
        simp [hc]
      · obtain ⟨⟨t, r⟩, ht, heq⟩ := Option.map_eq_some_iff.1 h
        cases heq
        simpa using ih ht

/-- An element: its region and the text behind its closing tag, with the offset of that text. -/
structure Element where
  region : Region
  rest : List Char
  restStart : Nat
  deriving Repr, DecidableEq

/-- Reads an element from behind its opening tag on. A closing tag that is itself not closed takes
the rest of the document. -/
def element? (attributes : List Char) (start : Nat) (s : List Char) : Option Element :=
  match find? Char.toLower s closingTag 0 with
  | none => none
  | some n =>
    let content := s.take n
    let region : Region := ⟨content, start, trim attributes, lastValues (readAttributes attributes)⟩
    match splitAtChar? '>' (s.drop n) with
    | none => some ⟨region, [], start + size s⟩
    | some (closing, rest) => some ⟨region, rest, region.stop + size closing + 1⟩

theorem length_element?_rest {attributes s : List Char} {start : Nat} {e : Element}
    (h : element? attributes start s = some e) : e.rest.length ≤ s.length := by
  unfold element? at h
  split at h
  · cases h
  · split at h
    · cases h; simp
    · rename_i n _ _ closing rest hsplit
      cases h
      have := congrArg List.length (splitAtChar?_eq_some hsplit)
      simp only [List.length_drop, List.length_append, List.length_cons] at this
      simp only
      omega

/-- What the search finds at a `<`: that it is over, that it goes on at another place, or an
element. -/
inductive Step where
  | over
  | goOn (pos : Nat) (rest : List Char)
  | found (e : Element)
  deriving Repr, DecidableEq

/-- The step at a `<` at byte offset `pos` that `s` follows. A tag closed by `/>` has no content. -/
def stepAt (pos : Nat) (s : List Char) : Step :=
  match commentBody? s with
  | some inside =>
    match splitAtWord? commentEnd inside with
    | none => .over
    | some (body, rest) => .goOn (pos + 4 + size body + 3) rest
  | none =>
    match scriptTag? s with
    | none => .goOn (pos + 1) s
    | some tag =>
      match splitTag? none tag with
      | none => .over
      | some (attributes, rest) =>
        let start := pos + 7 + size attributes + 1
        if attributes.getLast? = some '/' then .goOn start rest
        else
          match element? attributes start rest with
          | none => .over
          | some e => .found e

/-- The text that the search goes on with. -/
def Step.rest : Step → List Char
  | .over => []
  | .goOn _ rest => rest
  | .found e => e.rest

theorem length_stepAt_rest (pos : Nat) (s : List Char) :
    (stepAt pos s).rest.length ≤ s.length := by
  unfold stepAt
  split
  · rename_i inside hbody
    have h₁ := (dropWord?_suffix hbody).length_le
    split
    · simp [Step.rest]
    · rename_i body rest hend
      have h₂ := congrArg List.length (splitAtWord?_eq_some hend)
      simp only [List.length_append] at h₂
      simp only [Step.rest]
      omega
  · split
    · simp [Step.rest]
    · rename_i tag htag
      have h₁ := length_scriptTag? htag
      split
      · simp [Step.rest]
      · rename_i attributes rest hattr
        have h₂ := congrArg List.length (splitTag?_eq_some hattr)
        simp only [List.length_append, List.length_cons] at h₂
        simp only
        split
        · simp only [Step.rest]
          omega
        · split
          · simp [Step.rest]
          · rename_i e helem
            have h₃ := length_element?_rest helem
            simp only [Step.rest]
            omega

/-- The regions of what is left of a document from byte offset `pos` on. -/
def regionsFrom (pos : Nat) : List Char → List Region
  | [] => []
  | c :: s =>
    if c != '<' then regionsFrom (pos + c.utf8Size) s
    else
      match _ : stepAt pos s with
      | .over => []
      | .goOn next rest => regionsFrom next rest
      | .found e => e.region :: regionsFrom e.restStart e.rest
termination_by s => s.length
decreasing_by
  · simp
  · have hle := length_stepAt_rest pos s
    rw [‹stepAt pos s = .goOn next rest›] at hle
    exact Nat.lt_succ_of_le hle
  · have hle := length_stepAt_rest pos s
    rw [‹stepAt pos s = .found e›] at hle
    exact Nat.lt_succ_of_le hle

def regions (document : List Char) : List Region :=
  regionsFrom 0 document

end Markup
end ImportOrder
