import ImportOrder.Host

/-!
# ImportOrder.Command.Report

What a command tells its user, line by line.
-/

namespace ImportOrder
namespace Command

/-- How a run treats the files that it sorts. Checking wins over writing. -/
inductive Mode where
  | check
  | write
  | dryRun
  deriving Repr, DecidableEq

/-- How the files of a run came out. -/
structure Counts where
  changed : Nat := 0
  unchanged : Nat := 0
  failed : Nat := 0
  deriving Repr, DecidableEq

inductive ReadFailure where
  | notText
  | isDirectory
  deriving Repr, DecidableEq

def ReadFailure.message : ReadFailure → String
  | .notText => "stream did not contain valid UTF-8"
  | .isDirectory => "Is a directory (os error 21)"

inductive FileFailure where
  | unreadable (reason : ReadFailure)
  | host (e : HostError)
  deriving Repr, DecidableEq

def FileFailure.message : FileFailure → String
  | .unreadable reason => "Failed to read file: " ++ reason.message
  | .host e => e.message

inductive Notice where
  | configMissing (path : String)
  | configUnparsable (path : String)
  | configUnreadable (path : String) (reason : ReadFailure)
  | hostError (e : HostError)
  | badPattern (pattern : String) (e : Pattern.GlobError)
  | nothingFound
  | found (count : Nat)
  | sorted (path : String)
  | wouldSort (path : String)
  | notSorted (path : String) (reason : FileFailure)
  | blank
  | headline (mode : Mode) (total : Nat)
  | count (n : Nat) (what : String)
  | wrote (path : String)
  | writeFailed (path : String)
  deriving Repr, DecidableEq

namespace Notice

/-- A line about a single file; their order is not fixed. -/
def isAboutFile : Notice → Bool
  | .sorted _ | .wouldSort _ | .notSorted _ _ => true
  | _ => false

def files (n : Nat) : String :=
  toString n ++ " file(s)"

def text : Notice → String
  | .configMissing path => "Warning: Config file " ++ path ++ " not found, using defaults"
  | .configUnparsable path => "Warning: Failed to parse " ++ path
  | .configUnreadable path reason =>
    "Warning: Failed to read " ++ path ++ ": " ++ reason.message
  | .hostError e => e.message
  | .badPattern pattern e => "Invalid glob pattern `" ++ pattern ++ "`: " ++ e.message
  | .nothingFound => "No script or .svelte files found matching the patterns"
  | .found n => "Found " ++ files n
  | .sorted path => "Sorted: " ++ path
  | .wouldSort path => "Would sort: " ++ path
  | .notSorted path reason => "Error sorting " ++ path ++ ": " ++ reason.message
  | .blank => ""
  | .headline .check total => "Checked " ++ files total
  | .headline .write total => "Sorted " ++ files total
  | .headline .dryRun total => "Checked " ++ files total ++ " (use --write to apply changes)"
  | .count n what => "  " ++ files n ++ " " ++ what
  | .wrote path => "Wrote " ++ path
  | .writeFailed path => "Failed to write " ++ path

end Notice

namespace Mode

def changedLabel : Mode → String
  | .check => "have unsorted imports"
  | .write => "rewritten"
  | .dryRun => "would be rewritten"

/-- A dry run does not count the files that stay. -/
def unchangedLabel? : Mode → Option String
  | .check => some "already in order"
  | .write => some "left as is"
  | .dryRun => none

end Mode

namespace Counts

/-- A line for a count that is not zero. -/
def countLine (n : Nat) (label : Option String) : List Notice :=
  match label with
  | some what => if n = 0 then [] else [.count n what]
  | none => []

def notices (t : Counts) (mode : Mode) (total : Nat) : List Notice :=
  .headline mode total ::
    (countLine t.changed mode.changedLabel ++ countLine t.unchanged mode.unchangedLabel? ++
      countLine t.failed "could not be sorted")

/-- A file that failed fails the run; a file that would change fails a check. -/
def failsRun (t : Counts) (mode : Mode) : Bool :=
  0 < t.failed || (mode == .check && 0 < t.changed)

end Counts
end Command
end ImportOrder
