import ImportOrder.Path

/-!
# ImportOrder.Command.Workspace

The directory that a command runs in: the files that a walk through it yields, by their path from
there. Which files ignore rules take out is up to the walk, so what holds of every workspace holds of
every walk. A file whose bytes are not UTF-8 has no text.
-/

namespace ImportOrder
namespace Command

structure File where
  path : String
  /-- The text, or nothing if the bytes are not UTF-8. -/
  text? : Option String
  deriving Repr, DecidableEq

structure Workspace where
  /-- How the directory is shown. -/
  directory : String
  /-- The files that the walk yields. -/
  files : List File
  /-- Files elsewhere, by the path that the arguments give. -/
  outside : List File := []
  deriving Repr, DecidableEq

/-- What a path leads to. -/
inductive Place where
  | nothing
  | directory
  | file (f : File)
  deriving Repr, DecidableEq

namespace Workspace

/-- What a list of components leads to. -/
def placeAt (w : Workspace) (components : List (List Char)) : Place :=
  match w.files.find? fun f => Path.components f.path.toList == components with
  | some f => .file f
  | none =>
    if components.isEmpty ||
        w.files.any fun f => components.isPrefixOf (Path.components f.path.toList) then .directory
    else .nothing

/-- The components of a path without steps upward. Nothing, if it leaves the workspace or leads
through something that is no directory. -/
def normalize? (w : Workspace) (path : String) : Option (List (List Char)) :=
  if path.startsWith "/" then none
  else
    (Path.components path.toList).foldlM (fun here step =>
      match w.placeAt here with
      | .directory =>
        if step = ['.', '.'] then if here.isEmpty then none else some here.dropLast
        else some (here ++ [step])
      | _ => none) []

def lookup (w : Workspace) (path : String) : Place :=
  match w.normalize? path with
  | none => (w.outside.find? (·.path == path)).elim .nothing .file
  | some components =>
    match w.placeAt components with
    | .file f => if path.endsWith "/" || path.endsWith "/." then .nothing else .file f
    | place => place

/-- A path below a directory, as it is shown. -/
def join (directory : String) (below : String) : String :=
  if directory.endsWith "/" then directory ++ below else directory ++ "/" ++ below

/-- Goes down a path from the top of the workspace and makes the directories that are missing.
Nothing, if a file is in the way. A way out of the workspace is kept as written. -/
def makeDirectories? (w : Workspace) (path : List (List Char)) : Option (List (List Char)) :=
  path.foldlM (fun here step =>
    if step = up then
      if here.all (· == up) then some (here ++ [step]) else some here.dropLast
    else
      match w.placeAt (here ++ [step]) with
      | .file _ => none
      | _ => some (here ++ [step])) []
where
  up : List Char := ['.', '.']

/-- The path of a file to be written below a directory, if nothing is in its way. Directories that
are missing on the way are made. -/
def target? (w : Workspace) (directory : String) (below : List String) (name : String) :
    Option String :=
  if directory.startsWith "/" then some (join directory ("/".intercalate (below ++ [name])))
  else do
    let here ← w.makeDirectories? (Path.components directory.toList ++ below.map String.toList)
    let file := here ++ [name.toList]
    if w.placeAt file = .directory then none
    else return String.ofList (['/'].intercalate file)

end Workspace
end Command
end ImportOrder
