import ImportOrder.Json.Value

/-!
# ImportOrder.Policy

The settings that imports are ordered by. Each setting has a name, a kind and a default; a policy
gives each a value. A policy is written as a JSON object with one field for each setting, or read
from an array with the values in the order of `Setting.all`.
-/

namespace ImportOrder

inductive Setting where
  | order
  | separation
  | ignoreCase
  | sortNames
  | groupNamespaces
  | parserPlugins
  | exclude
  deriving Repr, DecidableEq

namespace Setting

def all : List Setting :=
  [.order, .separation, .ignoreCase, .sortNames, .groupNamespaces, .parserPlugins, .exclude]

def name : Setting → String
  | .order => "importOrder"
  | .separation => "importOrderSeparation"
  | .ignoreCase => "importOrderCaseInsensitive"
  | .sortNames => "importOrderSortSpecifiers"
  | .groupNamespaces => "importOrderGroupNamespaceSpecifiers"
  | .parserPlugins => "importOrderParserPlugins"
  | .exclude => "importOrderExclude"

end Setting

/-- The values of all settings. -/
structure Policy where
  /-- The patterns of the groups, in the order of the groups. -/
  order : List String := []
  /-- Put a blank line between groups. -/
  separation : Bool := false
  ignoreCase : Bool := false
  sortNames : Bool := false
  groupNamespaces : Bool := false
  parserPlugins : List String := ["typescript", "jsx"]
  /-- Globs of the files to leave alone. -/
  exclude : List String := []
  deriving Repr, DecidableEq, Inhabited

namespace Policy

/-- The policy that holds without a configuration. -/
def standard : Policy := {}

/-- The values of the settings that a configuration does not give. -/
def absent : Policy where
  order := []
  separation := false
  ignoreCase := false
  sortNames := false
  groupNamespaces := false
  parserPlugins := ["typescript", "jsx"]
  exclude := []

def get (p : Policy) : Setting → Json
  | .order => .ofStrings p.order
  | .separation => .bool p.separation
  | .ignoreCase => .bool p.ignoreCase
  | .sortNames => .bool p.sortNames
  | .groupNamespaces => .bool p.groupNamespaces
  | .parserPlugins => .ofStrings p.parserPlugins
  | .exclude => .ofStrings p.exclude

/-- Sets a value; nothing if the value is not of the setting's kind. -/
def set? (p : Policy) (s : Setting) (v : Json) : Option Policy :=
  match s with
  | .order => v.strings?.map fun x => { p with order := x }
  | .separation => v.bool?.map fun x => { p with separation := x }
  | .ignoreCase => v.bool?.map fun x => { p with ignoreCase := x }
  | .sortNames => v.bool?.map fun x => { p with sortNames := x }
  | .groupNamespaces => v.bool?.map fun x => { p with groupNamespaces := x }
  | .parserPlugins => v.strings?.map fun x => { p with parserPlugins := x }
  | .exclude => v.strings?.map fun x => { p with exclude := x }

/-- The fields of the JSON object of a policy. -/
def toFields (p : Policy) : List (String × Json) :=
  Setting.all.map fun s => (s.name, p.get s)

/-- Reads the settings from the fields of an object. A setting that is missing has its default, and
fields with other names do not count; a setting must not be given twice. -/
def ofFields? (fields : List (String × Json)) : Option Policy :=
  Setting.all.foldlM (fun p s =>
    match fields.filter (·.1 == s.name) with
    | [] => some p
    | [(_, v)] => p.set? s v
    | _ => none) absent

/-- Reads the settings from a list of values, which may be shorter than the list of settings. -/
def ofValues? (values : List Json) : Option Policy :=
  if Setting.all.length < values.length then none
  else (Setting.all.zip values).foldlM (fun p (s, v) => p.set? s v) absent

def ofJson? : Json → Option Policy
  | .object fields => ofFields? fields
  | .array values => ofValues? values
  | _ => none

end Policy
end ImportOrder
