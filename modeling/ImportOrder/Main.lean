import ImportOrder.Command.Run

/-!
# ImportOrder.Main

The program: reads the files of the current directory, runs the command, and carries out what it
decided.
-/

namespace ImportOrder

/-- The text of a file's bytes, if they are UTF-8. -/
def textOf (bytes : ByteArray) : Option String :=
  String.fromUTF8? bytes

/-- The files below a directory, whose path from the workspace is `under`. Only files that are
wanted are read. -/
partial def filesBelow (wanted : String → Bool) (under : String)
    (entries : Array IO.FS.DirEntry) : IO (List Command.File) := do
  let mut files := []
  for entry in entries do
    let path := under ++ entry.fileName
    if ← entry.path.isDir then
      files := files ++ (← filesBelow wanted (path ++ "/") (← entry.path.readDir))
    else if wanted path then
      files := files ++ [⟨path, textOf (← IO.FS.readBinFile entry.path)⟩]
    else
      files := files ++ [⟨path, none⟩]
  return files

/-- The configuration that a request names, if it lies outside the current directory. -/
def outsideFiles (config : Option String) : IO (List Command.File) := do
  match config with
  | none => return []
  | some path =>
    try
      return [⟨path, textOf (← IO.FS.readBinFile path)⟩]
    catch _ =>
      return []

def configPath? : Command.Request → Option String
  | .sort args => args.config
  | _ => none

/-- The workspace of a request in the current directory. -/
def workspaceFor (request : Command.Request) : IO Command.Workspace := do
  let directory ← IO.currentDir
  let config := configPath? request
  let configFile := Path.fileName? (config.getD Command.configName).toList
  let wanted := fun path : String =>
    Path.mayHoldImports path.toList || Path.fileName? path.toList == configFile
  return {
    directory := directory.toString
    files := ← filesBelow wanted "" (← directory.readDir)
    outside := ← outsideFiles config }

def usage : String :=
  "Usage: ordo [-v] [sort [--check] [-w] [-c FILE] [--separation] [--sort-specifiers]\n" ++
  "                       [PATTERN]...]\n" ++
  "       ordo [-v] schema [-w] [--dir DIR]"

def carryOut (outcome : Command.Outcome) : IO UInt32 := do
  IO.print outcome.stdout
  for notice in outcome.report do
    IO.eprintln notice.text
  for file in outcome.written do
    let directory := (← IO.currentDir) / file.path
    if let some parent := directory.parent then
      IO.FS.createDirAll parent
    IO.FS.writeFile directory file.text
  return outcome.exitCode.toUInt32

def runProgram (args : List String) : IO UInt32 := do
  match Command.readRequest args with
  | none =>
    IO.eprintln usage
    carryOut (Command.run { directory := "", files := [] } args)
  | some .help =>
    IO.println usage
    return 0
  | some request => carryOut (Command.run (← workspaceFor request) args)

end ImportOrder

def main (args : List String) : IO UInt32 :=
  ImportOrder.runProgram args
