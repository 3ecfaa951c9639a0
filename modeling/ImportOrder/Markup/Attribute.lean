import ImportOrder.Text.Blank

/-!
# ImportOrder.Markup.Attribute

The attributes of an opening tag. An attribute without a value has the empty value; of several
attributes of one name the last counts.
-/

namespace ImportOrder
namespace Markup

open Text

/-- An attribute as written. -/
structure Attribute where
  name : List Char
  value : List Char
  deriving Repr, DecidableEq

/-- A character that ends an attribute's name. -/
def endsName (c : Char) : Bool :=
  c == '=' || c == ' ' || c == '\t' || c == '\n' || c == '\r' || c == '/'

/-- What stands between attributes. -/
def isBetween (c : Char) : Bool :=
  isAsciiBlank c || c == '/'

/-- Reads a value from behind the equals sign on. A value without quotes ends at a blank. -/
def readValue (s : List Char) : List Char × List Char :=
  match s.dropWhile isIndent with
  | [] => ([], [])
  | c :: rest =>
    if c = '"' || c = '\'' then (rest.takeWhile (· != c), (rest.dropWhile (· != c)).drop 1)
    else ((c :: rest).takeWhile (!isAsciiBlank ·), (c :: rest).dropWhile (!isAsciiBlank ·))

/-- Reads an equals sign and a value, if they follow. -/
def readAssignment (s : List Char) : List Char × List Char :=
  match s.dropWhile isIndent with
  | '=' :: rest => readValue rest
  | rest => ([], rest)

theorem length_readValue_le (s : List Char) : (readValue s).2.length ≤ s.length := by
  have drop (p : Char → Bool) (t : List Char) : (t.dropWhile p).length ≤ t.length :=
    (List.dropWhile_suffix p).length_le
  have hs := drop isIndent s
  unfold readValue
  split
  · simp
  · rename_i c rest heq
    rw [heq, List.length_cons] at hs
    split
    · have := drop (· != c) rest
      simp only [List.length_drop]
      omega
    · exact Nat.le_trans (drop (!isAsciiBlank ·) (c :: rest)) hs

theorem length_readAssignment_le (s : List Char) : (readAssignment s).2.length ≤ s.length := by
  have hs : (s.dropWhile isIndent).length ≤ s.length := (List.dropWhile_suffix _).length_le
  unfold readAssignment
  split
  · rename_i rest heq
    have := length_readValue_le rest
    rw [heq, List.length_cons] at hs
    omega
  · rename_i rest _
    exact hs

/-- The attributes in the order in which they are written. A value without a name is passed over. -/
def readAttributes (s : List Char) : List Attribute :=
  match _ : s.dropWhile isBetween with
  | [] => []
  | '=' :: rest => readAttributes (readValue rest).2
  | c :: rest =>
    let assigned := readAssignment (rest.dropWhile (!endsName ·))
    ⟨c :: rest.takeWhile (!endsName ·), assigned.1⟩ :: readAttributes assigned.2
termination_by s.length
decreasing_by
  · rename_i h
    have hs := congrArg List.length h
    have := (List.dropWhile_suffix isBetween (l := s)).length_le
    have := length_readValue_le rest
    rw [List.length_cons] at hs
    omega
  · rename_i h
    have hs := congrArg List.length h
    have := (List.dropWhile_suffix isBetween (l := s)).length_le
    have := length_readAssignment_le (rest.dropWhile (!endsName ·))
    have := (List.dropWhile_suffix (!endsName ·) (l := rest)).length_le
    rw [List.length_cons] at hs
    omega

/-- The attributes by name, each name once with its last value. -/
def lastValues (attributes : List Attribute) : List Attribute :=
  attributes.foldl (fun map a => map.filter (·.name != a.name) ++ [a]) []

end Markup
end ImportOrder
