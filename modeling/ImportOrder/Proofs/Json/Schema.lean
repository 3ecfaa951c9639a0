import ImportOrder.Json.Value
import Mathlib.Algebra.Group.Int.Defs
import Mathlib.Data.List.Basic

/-!
# ImportOrder.Proofs.Json.Schema

Which values a JSON Schema accepts. Of the keywords of draft 7 those count that the schema of the
configuration uses; the others it uses (`title`, `description`, `default`) ask for nothing.
-/

namespace ImportOrder
namespace Json

def items : Json → List Json
  | .array items => items
  | _ => []

def fields : Json → List (String × Json)
  | .object fields => fields
  | _ => []

def field? (v : Json) (name : String) : Option Json :=
  v.fields.lookup name

def hasType (type : String) : Json → Bool
  | .null => type = "null"
  | .bool _ => type = "boolean"
  | .number mantissa exponent =>
    type = "number" ||
      type = "integer" && (0 ≤ exponent || mantissa % 10 ^ exponent.natAbs = 0)
  | .string _ => type = "string"
  | .array _ => type = "array"
  | .object _ => type = "object"

mutual

/-- Whether the schema accepts the value. -/
def accepts : Json → Json → Bool
  | .bool b, _ => b
  | .object keywords, v =>
    acceptsAll ((keywords.lookup "properties").elim [] fun spec => spec.fields.map (·.1)) keywords v
  | _, _ => false

/-- Whether the value meets each keyword; `named` are the properties that have their own schema. -/
def acceptsAll (named : List String) : List (String × Json) → Json → Bool
  | [], _ => true
  | (keyword, spec) :: keywords, v =>
    (if keyword = "type" then
      match spec with
      | .string type => v.hasType type
      | _ => false
    else if keyword = "items" then v.items.all fun item => accepts spec item
    else if keyword = "properties" then
      match spec with
      | .object schemas => acceptsNamed schemas v
      | _ => false
    else if keyword = "additionalProperties" then
      v.fields.all fun field => named.contains field.1 || accepts spec field.2
    else true) && acceptsAll named keywords v

/-- Whether each property that has its own schema is accepted by it. -/
def acceptsNamed : List (String × Json) → Json → Bool
  | [], _ => true
  | (name, schema) :: schemas, v =>
    (v.fields.all fun field => field.1 != name || accepts schema field.2) && acceptsNamed schemas v

end

theorem acceptsNamed_iff {schemas : List (String × Json)} {v : Json} :
    acceptsNamed schemas v ↔
      ∀ p ∈ schemas, ∀ field ∈ v.fields, field.1 = p.1 → accepts p.2 field.2 := by
  induction schemas with
  | nil => simp [acceptsNamed]
  | cons p schemas ih =>
    rw [acceptsNamed, Bool.and_eq_true, ih, List.forall_mem_cons, List.all_eq_true]
    simp [Decidable.imp_iff_not_or]

/-- A schema of objects that allows no fields but those it names. -/
theorem accepts_closed_iff {reference title description v : Json}
    {schemas : List (String × Json)} :
    accepts (.object
      [("$schema", reference), ("title", title), ("description", description),
       ("type", .string "object"), ("properties", .object schemas),
       ("additionalProperties", .bool false)]) v ↔
      ∃ fields, v = .object fields ∧ ∀ field ∈ fields,
        field.1 ∈ schemas.map (·.1) ∧ ∀ p ∈ schemas, field.1 = p.1 → accepts p.2 field.2 := by
  rw [accepts, show List.lookup "properties" _ = some (.object schemas) from rfl, Option.elim_some]
  cases v with
  | object fields =>
    trans acceptsNamed schemas (.object fields) ∧
      ∀ field ∈ fields, (schemas.map (·.1)).contains field.1
    · simp [acceptsAll, accepts, hasType, Json.fields]
    · simp only [acceptsNamed_iff, List.contains_iff_mem, object.injEq, exists_eq_left',
        Json.fields]
      constructor
      · rintro ⟨hschemas, hnames⟩ field hfield
        exact ⟨hnames field hfield, fun p hp => hschemas p hp field hfield⟩
      · intro h
        exact ⟨fun p hp field hfield => (h field hfield).2 p hp,
          fun field hfield => (h field hfield).1⟩
  | _ => simp [acceptsAll, hasType]

/-- The default that a schema states for a property. -/
def advertised? (schema : Json) (name : String) : Option Json := do
  let properties ← schema.field? "properties"
  let property ← properties.field? name
  property.field? "default"

end Json
end ImportOrder
