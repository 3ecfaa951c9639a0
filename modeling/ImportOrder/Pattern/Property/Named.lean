import ImportOrder.Pattern.Property.Age
import ImportOrder.Pattern.Property.Segment

/-!
# ImportOrder.Pattern.Property.Named

Finding the characters of a property by the name that a pattern gives. Names are compared loosely:
case, blanks, hyphens and low lines do not count, nor do characters beyond ASCII, nor an `is` at
the start.
-/

namespace ImportOrder
namespace Pattern

open Text

/-- What a pattern asks for: a property that a character has or has not, a category or a script by
its name alone, or the value of a property. -/
inductive PropertyQuery where
  | name (name : List Char)
  | value (property value : List Char)
  deriving Repr, DecidableEq

/-- A name without the differences that do not count. A lone `c` behind an `is` keeps it, because
that is the short name of another property. -/
def looseName (name : List Char) : String :=
  let keep := fun s : List Char =>
    (s.filter fun c => c.toNat < 0x80 && !(c == ' ' || c == '_' || c == '-')).map Char.toLower
  match name with
  | i :: s :: rest =>
    if i.toLower == 'i' && s.toLower == 's' then
      let short := keep rest
      if short == ['c'] then "isc" else String.ofList short
    else String.ofList (keep name)
  | _ => String.ofList (keep name)

/-- The characters that a name stands for: first a property, then a category, then a script. -/
def named? (name : String) : Option CharSet :=
  match Binary.named? name with
  | some set => some set
  | none =>
    match Category.named? name with
    | some set => some set
    | none => (Script.find? name).map Script.set

/-- The characters for which the property of the given name has the value of the given name. -/
def valued? (property value : String) : Option CharSet :=
  match property with
  | "generalcategory" | "gc" => Category.named? value
  | "script" | "sc" => (Script.find? value).map Script.set
  | "scriptextensions" | "scx" => (Script.find? value).map Script.extended
  | "age" => ofAge? value
  | "graphemeclusterbreak" | "gcb" => Segment.cluster? value
  | "wordbreak" | "wb" => Segment.word? value
  | "sentencebreak" | "sb" => Segment.sentence? value
  | _ => none

/-- The characters that a query asks for, if it names something. -/
def PropertyQuery.find? : PropertyQuery → Option CharSet
  | .name n => named? (looseName n)
  | .value p v => valued? (looseName p) (looseName v)

/-- A query as it stands in braces: `name`, `property=value`, `property:value`, or with `!=` between
them for the other characters. Gives also whether the other characters are meant. -/
def PropertyQuery.read (text : List Char) : PropertyQuery × Bool :=
  match split? ['!', '='] text with
  | some (p, v) => (.value p v, true)
  | none =>
    match split? [':'] text with
    | some (p, v) => (.value p v, false)
    | none =>
      match split? ['='] text with
      | some (p, v) => (.value p v, false)
      | none => (.name text, false)
where
  split? (sign : List Char) : List Char → Option (List Char × List Char)
    | [] => none
    | c :: s =>
      match dropWord? sign (c :: s) with
      | some rest => some ([], rest)
      | none => (split? sign s).map fun (before, after) => (c :: before, after)

end Pattern
end ImportOrder
