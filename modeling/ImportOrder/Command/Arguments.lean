/-!
# ImportOrder.Command.Arguments

The arguments of the command line.

A flag may stand anywhere, a short flag together with others; only `-v` may be repeated. A value
follows its option, or stands in the same argument. Behind `--` everything is a pattern.
-/

namespace ImportOrder
namespace Command

structure SortRequest where
  patterns : List String := []
  check : Bool := false
  write : Bool := false
  config : Option String := none
  separation : Bool := false
  sortNames : Bool := false
  deriving Repr, DecidableEq

structure SchemaRequest where
  write : Bool := false
  dir : Option String := none
  deriving Repr, DecidableEq

inductive Request where
  | sort (args : SortRequest)
  | schema (args : SchemaRequest)
  | version
  | help
  deriving Repr, DecidableEq

/-- What an option does to the arguments read so far. -/
inductive Effect (σ : Type) where
  /-- Another argument; nothing if it was given before. -/
  | flag (set : σ → Option σ)
  /-- An argument with a value; nothing if it was given before. -/
  | value (set : σ → String → Option σ)
  /-- The end of reading. -/
  | answer (request : Request)

/-- The options and patterns that a command takes. -/
structure Grammar (σ : Type) where
  long? : String → Option (Effect σ)
  short? : Char → Option (Effect σ)
  /-- What an argument that is no option does. -/
  positional : σ → String → Option σ

/-- Reading a list of arguments: it is over, or has brought the arguments together. -/
inductive Parsed (σ : Type) where
  | answer (request : Request)
  | done (args : σ)

section Read

variable {σ : Type} (g : Grammar σ)

/-- Sets a value, which must not be empty. -/
def setValue (set : σ → String → Option σ) (args : σ) (value : String) : Option σ :=
  if value.isEmpty then none else set args value

/-- An argument that can be the value of an option: it is no option itself. -/
def isValue (arg : String) : Bool :=
  !arg.startsWith "-" || arg == "-"

/-- The effects of a bundle of short flags. The value of an option takes the rest of the bundle; an
empty rest means that the value is the next argument. -/
inductive Bundle (σ : Type) where
  | answer (request : Request)
  | done (args : σ)
  | wantsValue (args : σ) (set : σ → String → Option σ)

def readBundle (args : σ) : List Char → Option (Bundle σ)
  | [] => some (.done args)
  | c :: rest =>
    match g.short? c with
    | none => none
    | some (.answer request) => some (.answer request)
    | some (.flag set) => set args >>= fun args => readBundle args rest
    | some (.value set) =>
      match rest with
      | [] => some (.wantsValue args set)
      | '=' :: value => (setValue set args (String.ofList value)).map .done
      | value => (setValue set args (String.ofList value)).map .done

/-- A long option's name, and its value if that stands in the same argument. -/
def splitLong (body : String) : String × Option String :=
  let cs := body.toList
  let name := cs.takeWhile (· != '=')
  match cs.dropWhile (· != '=') with
  | _ :: value => (String.ofList name, some (String.ofList value))
  | [] => (body, none)

/-- Reads arguments to the end. `pending` waits for its value. Nothing is returned for arguments
that are not accepted. -/
def readArgs (args : σ) (pending : Option (σ → String → Option σ)) :
    List String → Option (Parsed σ)
  | [] => if pending.isSome then none else some (.done args)
  | arg :: more =>
    match pending with
    | some set =>
      if isValue arg then setValue set args arg >>= fun args => readArgs args none more else none
    | none =>
      if arg = "--" then (more.foldlM g.positional args).map .done
      else if arg.startsWith "--" then
        let (name, value) := splitLong (String.ofList (arg.toList.drop 2))
        match g.long? name, value with
        | some (.answer request), none => some (.answer request)
        | some (.flag set), none => set args >>= fun args => readArgs args none more
        | some (.value set), some v => setValue set args v >>= fun args => readArgs args none more
        | some (.value set), none => readArgs args (some set) more
        | _, _ => none
      else if isValue arg then g.positional args arg >>= fun args => readArgs args none more
      else
        match readBundle g args (arg.toList.drop 1) with
        | none => none
        | some (.answer request) => some (.answer request)
        | some (.done args) => readArgs args none more
        | some (.wantsValue args set) => readArgs args (some set) more

end Read

/-- Verbosity only adds log lines, so it leaves the arguments alone. -/
def verbose {σ : Type} : Effect σ :=
  .flag some

def sortGrammar : Grammar SortRequest where
  long?
    | "check" => some check
    | "write" => some write
    | "config" => some config
    | "separation" =>
      some (.flag fun a => if a.separation then none else some { a with separation := true })
    | "sort-specifiers" =>
      some (.flag fun a => if a.sortNames then none else some { a with sortNames := true })
    | "verbose" => some verbose
    | "help" => some (.answer .help)
    | _ => none
  short?
    | 'w' => some write
    | 'c' => some config
    | 'v' => some verbose
    | 'h' => some (.answer .help)
    | _ => none
  positional a pattern := some { a with patterns := a.patterns ++ [pattern] }
where
  check : Effect SortRequest :=
    .flag fun a => if a.check then none else some { a with check := true }
  write : Effect SortRequest :=
    .flag fun a => if a.write then none else some { a with write := true }
  config : Effect SortRequest :=
    .value fun a v => if a.config.isSome then none else some { a with config := some v }

def schemaGrammar : Grammar SchemaRequest where
  long?
    | "write" => some write
    | "dir" => some (.value fun a v => if a.dir.isSome then none else some { a with dir := some v })
    | "verbose" => some verbose
    | "help" => some (.answer .help)
    | _ => none
  short?
    | 'w' => some write
    | 'v' => some verbose
    | 'h' => some (.answer .help)
    | _ => none
  positional _ _ := none
where
  write : Effect SchemaRequest :=
    .flag fun a => if a.write then none else some { a with write := true }

/-- The options before a command; they hold nothing. -/
def topGrammar : Grammar Unit where
  long?
    | "verbose" => some verbose
    | "version" => some (.answer .version)
    | "help" => some (.answer .help)
    | _ => none
  short?
    | 'v' => some verbose
    | 'V' => some (.answer .version)
    | 'h' => some (.answer .help)
    | _ => none
  positional _ _ := none

def commandNames : List String := ["sort", "schema", "help"]

/-- Help is given for commands only, and commands have none of their own. -/
def readHelp (topics : List String) : Option Request :=
  match topics with
  | [] => some .help
  | [topic] => if commandNames.contains topic then some .help else none
  | _ => none

def readCommand (name : String) (args : List String) : Option Request :=
  match name with
  | "sort" => (readArgs sortGrammar {} none args).map fun
    | .answer request => request
    | .done args => .sort args
  | "schema" => (readArgs schemaGrammar {} none args).map fun
    | .answer request => request
    | .done args => .schema args
  | "help" => readHelp args
  | _ => none

/-- Reads a command line. The options before the command come first; without a command, everything
is sorted. -/
def readRequest (args : List String) : Option Request :=
  let isOption := fun arg : String => !isValue arg && arg != "--"
  match readArgs topGrammar () none (args.takeWhile isOption) with
  | none => none
  | some (.answer request) => some request
  | some (.done ()) =>
    match args.dropWhile isOption with
    | [] => some (.sort {})
    | ["--"] => some (.sort {})
    | name :: more => readCommand name more

end Command
end ImportOrder
