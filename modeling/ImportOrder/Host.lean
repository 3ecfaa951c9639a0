import ImportOrder.Component
import ImportOrder.Path
import ImportOrder.Pattern.Glob
import ImportOrder.Text.Hidden

/-!
# ImportOrder.Host

The integration into a host formatter. Before the host parses a component, its imports are sorted;
parsing itself is left to a companion, which may also have a step of its own behind the sorting.
-/

namespace ImportOrder

inductive HostError where
  | missingCompanion
  | companion (reason : String)
  | badExclude (pattern : String) (fault : Pattern.GlobFault)
  deriving Repr, DecidableEq

def HostError.message : HostError → String
  | .missingCompanion =>
    "prettier-plugin-svelte is required but not found. " ++
      "Please install it: npm install -D prettier-plugin-svelte"
  | .companion reason => "Companion plugin failed: " ++ reason
  | .badExclude pattern fault =>
    "Invalid exclude pattern `" ++ pattern ++ "`: " ++ fault.message

namespace Exclude

/-- Reads the globs of excluded files, up to the first that is wrong. -/
def readGlobs (patterns : List String) : Except HostError (List Pattern.Glob) :=
  patterns.mapM fun pattern =>
    match Pattern.Glob.read pattern.toList with
    | .ok glob => .ok glob
    | .error e => .error (.badExclude pattern e.fault)

/-- Whether a glob fits the path. All globs have to be right for an answer. -/
def excludes (patterns : List String) (path : List Char) : Except HostError Bool :=
  (readGlobs patterns).map fun globs => globs.any (·.matchesPath path)

end Exclude

namespace Host

/-- What the host tells about a document. -/
structure Context where
  /-- The path of the file, if the host knows it. -/
  filepath : Option (List Char)
  policy : Policy
  deriving Repr, DecidableEq

/-- The companion that parses components. `Ast` is what it parses them to. -/
structure Companion (Ast : Type) where
  name : String
  /-- The companion's step between sorting and parsing. -/
  preprocess : Context → List Char → Except HostError (List Char) := fun _ text => .ok text
  parse : Context → List Char → Except HostError Ast

/-- The integration, with its companion if there is one. -/
structure Plugin (Ast : Type) where
  companion : Option (Companion Ast)

namespace Plugin

variable {Ast : Type}

def withoutCompanion : Plugin Ast :=
  ⟨none⟩

/-- Whether the file of a context is left alone. A list with a wrong glob excludes nothing. -/
def leavesAlone (policy : Policy) (path : List Char) : Bool :=
  match Exclude.excludes policy.exclude path with
  | .ok excluded => excluded
  | .error _ => false

/-- Sorts the imports of a component before the host parses it. Text without a path, excluded files
and other kinds of file stay as they are. -/
def preprocess (p : Plugin Ast) (ctx : Context) (source : List Char) :
    Except HostError (List Char) :=
  match ctx.filepath with
  | none => .ok source
  | some path =>
    if leavesAlone ctx.policy path then .ok source
    else if !Path.isComponent path then .ok source
    else
      let sorted := (Component.sort (.ofPolicy ctx.policy) source).code
      match p.companion with
      | some companion => companion.preprocess ctx sorted
      | none => .ok sorted

/-- Parses a document, which only a companion can do. -/
def parse (p : Plugin Ast) (ctx : Context) (text : List Char) : Except HostError Ast :=
  match p.companion with
  | some companion => companion.parse ctx text
  | none => .error .missingCompanion

end Plugin

/-- A parser as it is registered with the host. -/
structure ParserEntry where
  name : String
  astFormat : String
  /-- The name of the companion behind it. -/
  companion : Option String
  deriving Repr, DecidableEq

namespace ParserEntry

def display (e : ParserEntry) : String :=
  let quote := fun s : String => String.ofList (Text.quoted s.toList)
  let companion := match e.companion with
    | some name => "Some(" ++ quote name ++ ")"
    | none => "None"
  "ParserDescriptor \x7b name: " ++ quote e.name ++ ", ast_format: " ++ quote e.astFormat ++
    ", companion: " ++ companion ++ " \x7d"

end ParserEntry

namespace Plugin

variable {Ast : Type}

def parserName : String := "svelte"

def parser? (p : Plugin Ast) (name : String) : Option ParserEntry :=
  if name = parserName then some ⟨parserName, "svelte-ast", p.companion.map (·.name)⟩ else none

def parsers (p : Plugin Ast) : List ParserEntry :=
  (p.parser? parserName).toList

end Plugin
end Host
end ImportOrder
