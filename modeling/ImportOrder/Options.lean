import ImportOrder.Policy

/-!
# ImportOrder.Options

The settings as a host program registers them, and the JSON Schema of the configuration file.
-/

namespace ImportOrder

inductive OptionKind where
  | boolean
  /-- A list of texts. -/
  | path
  deriving Repr, DecidableEq

namespace OptionKind

def name : OptionKind → String
  | .boolean => "boolean"
  | .path => "path"

def isArray : OptionKind → Bool
  | .boolean => false
  | .path => true

/-- The part of a schema that says which values are of the kind. -/
def schemaFields : OptionKind → List (String × Json)
  | .boolean => [("type", .string "boolean")]
  | .path => [("items", .object [("type", .string "string")]), ("type", .string "array")]

end OptionKind

/-- A setting as a host program registers it. -/
structure HostOption where
  name : String
  kind : OptionKind
  /-- The value that the setting has if it is not given. -/
  default : Json
  description : String

namespace HostOption

def boolean (name description : String) : HostOption :=
  ⟨name, .boolean, .bool false, description⟩

def paths (name : String) (default : List String) (description : String) : HostOption :=
  ⟨name, .path, .ofStrings default, description⟩

/-- An option in the form in which the host takes it. -/
def descriptor (o : HostOption) : Json :=
  .object
    [("name", .string o.name),
     ("type", .string o.kind.name),
     ("category", .string "Global"),
     ("array", .bool o.kind.isArray),
     ("default", o.default),
     ("description", .string o.description)]

/-- The schema of one setting. -/
def schema (o : HostOption) : Json :=
  .object (o.kind.schemaFields ++
    [("default", o.default), ("description", .string o.description)])

end HostOption

namespace Options

open HostOption

def all : List HostOption :=
  [paths "importOrder" Policy.standard.order
     "Provide an order to sort imports. Use regex patterns to match import paths.",
   boolean "importOrderSeparation" "Should imports be separated by blank lines between groups?",
   boolean "importOrderCaseInsensitive" "Should import sorting be case insensitive?",
   boolean "importOrderSortSpecifiers" "Should import specifiers be sorted alphabetically?",
   boolean "importOrderGroupNamespaceSpecifiers"
     "Should namespace imports (import * as) be grouped at the top?",
   paths "importOrderParserPlugins" Policy.standard.parserPlugins
     "Parser plugins for special syntax (e.g., typescript, jsx)",
   paths "importOrderExclude" Policy.standard.exclude
     "File patterns to exclude from import sorting"]

def descriptors : Json :=
  .array (all.map descriptor)

/-- The name of the field by which a configuration refers to its schema. -/
def schemaKey : String := "$schema"

/-- The schema of the configuration file. -/
def schema : Json :=
  .object
    [(schemaKey, .string "http://json-schema.org/draft-07/schema#"),
     ("title", .string "ordo configuration"),
     ("description", .string "Import ordering options for ordo"),
     ("type", .string "object"),
     ("properties", .object
       ((schemaKey, .object
          [("type", .string "string"), ("description", .string "JSON Schema reference")]) ::
        all.map fun o => (o.name, o.schema))),
     ("additionalProperties", .bool false)]

end Options
end ImportOrder
