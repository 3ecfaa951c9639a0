import ImportOrder.Json.Reader
import ImportOrder.Options

/-!
# ImportOrder.Config

The configuration file: a JSON object with the settings of a policy and a reference to its schema.

A wrong or repeated reference is reported where it stands. The settings are looked at when the whole
object has been read, so a fault of the text comes before a fault of a setting, unless it stands
behind the object.
-/

namespace ImportOrder

inductive ConfigFault where
  /-- The text is not JSON. -/
  | malformed
  /-- The text ends inside a value, or is blank. -/
  | ended
  /-- The text is JSON, but not a configuration. -/
  | wrongShape
  deriving Repr, DecidableEq

structure Config where
  /-- The reference to a schema. -/
  schema : Option String := none
  policy : Policy := .standard
  deriving Repr, DecidableEq, Inhabited

namespace Config

open Json

def faultOf : ReadFault → ConfigFault
  | .malformed => .malformed
  | .ended => .ended

/-- What has been read of a configuration: the reference, if it was given, and the other fields. -/
structure Draft where
  schema : Option (Option String)
  fields : List (String × Json)

def readReference (s : List Char) : Except ConfigFault (Option String × List Char) :=
  match skipSpace s with
  | '[' :: _ => .error .wrongShape
  | '\x7b' :: _ => .error .wrongShape
  | s =>
    match readScalar s with
    | .ok (.null, rest) => .ok (none, rest)
    | .ok (.string text, rest) => .ok (some text, rest)
    | .ok _ => .error .wrongShape
    | .error e => .error (faultOf e)

/-- A schema reference must not be given twice. -/
def acceptKey (draft : Draft) (name : String) : Except ConfigFault Unit :=
  if name = Options.schemaKey && draft.schema.isSome then .error .wrongShape else .ok ()

/-- Reads the fields of the configuration and its closing brace. Each step reads a field. -/
def readFields : Nat → Bool → Draft → List Char → Except ConfigFault (Draft × List Char)
  | 0, _, _, _ => .error .ended
  | fuel + 1, isFirst, draft, s =>
    match nextKey faultOf (acceptKey draft) isFirst s with
    | .error e => .error e
    | .ok (.inr rest) => .ok (draft, rest)
    | .ok (.inl (name, s)) =>
      if name = Options.schemaKey then
        match readReference s with
        | .error e => .error e
        | .ok (reference, s) => readFields fuel false { draft with schema := some reference } s
      else
        match readValue (fuelFor s) (depthLimit - 1) s with
        | .error e => .error (faultOf e)
        | .ok (value, s) =>
          readFields fuel false { draft with fields := draft.fields ++ [(name, value)] } s

def ofDraft (draft : Draft) : Except ConfigFault Config :=
  match Policy.ofFields? draft.fields with
  | some policy => .ok ⟨draft.schema.join, policy⟩
  | none => .error .wrongShape

def read (text : List Char) : Except ConfigFault Config :=
  match skipSpace text with
  | '\x7b' :: s =>
    match readFields (s.length + 1) true ⟨none, []⟩ s with
    | .error e => .error e
    | .ok (draft, rest) =>
      match ofDraft draft with
      | .error e => .error e
      | .ok config => if (skipSpace rest).isEmpty then .ok config else .error .malformed
  | '[' :: _ => .error .wrongShape
  | s =>
    match readScalar s with
    | .ok _ => .error .wrongShape
    | .error e => .error (faultOf e)

def toFields (c : Config) : List (String × Json) :=
  (c.schema.map fun reference => (Options.schemaKey, Json.string reference)).toList ++
    c.policy.toFields

def toJson (c : Config) : Json :=
  .object c.toFields

end Config
end ImportOrder
