import ImportOrder.Command.Arguments
import ImportOrder.Command.Report
import ImportOrder.Command.Workspace
import ImportOrder.Config
import ImportOrder.Json.Printer

/-!
# ImportOrder.Command.Run

What the commands do, as a function of the arguments and the workspace: an exit code, printed text,
a report and the files written.
-/

namespace ImportOrder
namespace Command

structure Written where
  path : String
  text : String
  deriving Repr, DecidableEq

structure Outcome where
  exitCode : Nat
  stdout : String := ""
  report : List Notice := []
  written : List Written := []
  deriving Repr, DecidableEq

/-! ### Configuration -/

def configName : String := "ordo.config.json"

/-- The configuration of a run and what is to be said about it. An explicit path has to exist; any
configuration that cannot be read counts as the standard one. -/
def configOf (w : Workspace) (path : Option String) : Config × List Notice :=
  let shown := path.getD (Workspace.join w.directory configName)
  match w.lookup (path.getD configName) with
  | .nothing => ({}, if path.isSome then [.configMissing shown] else [])
  | .directory => ({}, [.configUnreadable shown .isDirectory])
  | .file ⟨_, none⟩ => ({}, [.configUnreadable shown .notText])
  | .file ⟨_, some text⟩ =>
    match Config.read text.toList with
    | .ok config => (config, [])
    | .error _ => ({}, [.configUnparsable shown])

/-- The policy of the configuration, with what the arguments switch on. -/
def policyOf (config : Config) (args : SortRequest) : Policy :=
  { config.policy with
    separation := config.policy.separation || args.separation
    sortNames := config.policy.sortNames || args.sortNames }

/-! ### Selecting files -/

/-- A pattern without a `./` at its start. -/
def relativePattern (pattern : String) : String :=
  match Text.dropWord? ['.', '/'] pattern.toList with
  | some rest => String.ofList rest
  | none => pattern

/-- Reads the patterns of files, up to the first that is wrong. -/
def readPatterns (patterns : List String) : Except Notice (List Pattern.Glob) :=
  patterns.mapM fun pattern =>
    match Pattern.Glob.read (relativePattern pattern).toList with
    | .ok glob => .ok glob
    | .error e => .error (.badPattern (relativePattern pattern) e)

/-- Whether a file is to be sorted. Without patterns every sortable file is. -/
def isSelected (globs : List Pattern.Glob) (f : File) : Bool :=
  let path := f.path.toList
  Path.mayHoldImports path && (globs.isEmpty || globs.any (·.matchesPath path))

/-! ### Sorting files -/

inductive FileResult where
  | changed (code : String)
  | unchanged
  | failed (reason : FileFailure)
  deriving Repr, DecidableEq

/-- The text of a file after sorting; an excluded file keeps its text. A script takes a wrong glob
for an error. -/
def sortText (s : Sorter) (path : List Char) (source : List Char) :
    Except HostError (List Char) :=
  let plugin : Host.Plugin Unit := .withoutCompanion
  if Path.isComponent path then plugin.preprocess ⟨some path, s.policy⟩ source
  else
    match Exclude.excludes s.policy.exclude path with
    | .error e => .error e
    | .ok true => .ok source
    | .ok false => .ok (s.sort source).code

def sortFile (s : Sorter) (f : File) : FileResult :=
  match f.text? with
  | none => .failed (.unreadable .notText)
  | some text =>
    match sortText s f.path.toList text.toList with
    | .error e => .failed (.host e)
    | .ok code => if code = text.toList then .unchanged else .changed (String.ofList code)

/-- A path as a report shows it. -/
def shownPath (f : File) : String :=
  "./" ++ f.path

def Mode.ofArgs (args : SortRequest) : Mode :=
  if args.check then .check else if args.write then .write else .dryRun

namespace FileResult

def notices (mode : Mode) (f : File) : FileResult → List Notice
  | .changed _ => if mode = .write then [.sorted (shownPath f)] else [.wouldSort (shownPath f)]
  | .unchanged => []
  | .failed reason => [.notSorted (shownPath f) reason]

def written (mode : Mode) (f : File) : FileResult → List Written
  | .changed code => if mode = .write then [⟨f.path, code⟩] else []
  | _ => []

def count (t : Counts) : FileResult → Counts
  | .changed _ => { t with changed := t.changed + 1 }
  | .unchanged => { t with unchanged := t.unchanged + 1 }
  | .failed _ => { t with failed := t.failed + 1 }

end FileResult

def sortFiles (s : Sorter) (mode : Mode) (files : List File) : Outcome :=
  let results := files.map fun f => (f, sortFile s f)
  let counts := results.foldl (fun t (_, r) => r.count t) {}
  { exitCode := if counts.failsRun mode then 1 else 0
    report := .found files.length :: (results.flatMap fun (f, r) => r.notices mode f) ++
      .blank :: counts.notices mode files.length
    written := results.flatMap fun (f, r) => r.written mode f }

/-- The command that sorts files. Patterns that are wrong end it before any file is looked at. -/
def runSort (w : Workspace) (args : SortRequest) : Outcome :=
  let (config, warnings) := configOf w args.config
  let policy := policyOf config args
  match Exclude.readGlobs policy.exclude with
  | .error e => { exitCode := 1, report := warnings ++ [.hostError e] }
  | .ok _ =>
    match readPatterns args.patterns with
    | .error notice => { exitCode := 1, report := warnings ++ [notice] }
    | .ok globs =>
      match w.files.filter (isSelected globs) with
      | [] => { exitCode := 0, report := warnings ++ [.nothingFound] }
      | files =>
        let outcome := sortFiles (.ofPolicy policy) (.ofArgs args) files
        { outcome with report := warnings ++ outcome.report }

/-! ### The schema -/

def schemaText : String :=
  Options.schema.pretty

/-- The command that prints the schema of the configuration, or writes it below the modules of a
project. -/
def runSchema (w : Workspace) (args : SchemaRequest) : Outcome :=
  if args.write then
    let shown := Workspace.join (args.dir.getD w.directory)
      "node_modules/.ordo/ordo.config.schema.json"
    match w.target? (args.dir.getD ".") ["node_modules", ".ordo"] "ordo.config.schema.json" with
    | some path => { exitCode := 0, report := [.wrote shown], written := [⟨path, schemaText⟩] }
    | none => { exitCode := 1, report := [.writeFailed shown] }
  else { exitCode := 0, stdout := schemaText ++ "\n" }

/-! ### The program -/

def versionText : String := "ordo 0.3.0"

/-- Runs the program. Arguments that are not accepted give exit code 2. -/
def run (w : Workspace) (args : List String) : Outcome :=
  match readRequest args with
  | none => { exitCode := 2 }
  | some .help => { exitCode := 0 }
  | some .version => { exitCode := 0, stdout := versionText ++ "\n" }
  | some (.sort args) => runSort w args
  | some (.schema args) => runSchema w args

end Command
end ImportOrder
