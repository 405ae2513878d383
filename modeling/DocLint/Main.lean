import DocLint.Command.Run
import DocLint.Files.Tree

/-!
# The program

The program takes a snapshot of the files that a command line can reach, does on it what the command line asks
for, and carries out the answer. Files for globs to select from are named on the standard input, one path a
line, as seen from the directory of the configuration. No other program is run from here, so to the rules
there is no ESLint.
-/

namespace DocLint.Program

set_option autoImplicit false

/-- Reads the lines of the standard input, at most so many. -/
def readLines (input : IO.FS.Stream) : Nat → IO (List String)
  | 0 => return []
  | n + 1 => do
    let line ← input.getLine
    if line.isEmpty then
      return []
    let rest ← readLines input n
    return (splitLines line).take 1 ++ rest

/-- How many lines of the standard input are read. -/
def maxLines : Nat := 10000000

/-- Adds the files that can be read at some paths. -/
def addFiles (cwd : List String) : List String → FileTree → IO FileTree
  | [], tree => return tree
  | path :: rest, tree => do
    let bytes : Option ByteArray ← try
        let bytes ← IO.FS.readBinFile path
        pure (some bytes)
      catch _ => pure none
    match bytes with
    | some bytes => addFiles cwd rest (tree.addFile cwd path bytes.toList)
    | none => addFiles cwd rest tree

/-- Adds the files from which patterns select. -/
def addSelected (cwd : List String) (config : Option String) (patterns : List String) (tree : FileTree) :
    IO FileTree := do
  let base := match Command.loadConfig (tree.system cwd) config with
    | .ok c => c.baseDir.getD "."
    | .error _ => "."
  let tree ← addFiles cwd (patterns.map (Path.join base)) tree
  if (Finder.unnamed (tree.system cwd) base patterns).isEmpty then
    return tree
  let names ← readLines (← IO.getStdin) maxLines
  addFiles cwd (names.map (Path.join base)) tree

/-- The files that a command line can reach. -/
def snapshot (cwd arguments : List String) : IO FileTree := do
  let bare := FileTree.put (.directory []) cwd (.directory [])
  match Arguments.parse arguments with
  | .run command config =>
    let tree ← addFiles cwd (Command.configPaths config ++ [Command.newConfigPath]) bare
    match command with
    | .lint patterns _ _ => addSelected cwd config patterns tree
    | _ => return tree
  | _ => return bare

/-- The runner of programs where there are none. -/
def noPrograms : ProgramRunner :=
  fun _ => .error FileFault.notFound.message

end DocLint.Program

open DocLint in
/-- Does what the command line asks for. -/
def main (arguments : List String) : IO UInt32 := do
  let cwd := FileTree.place [] (toString (← IO.currentDir))
  let tree ← Program.snapshot cwd arguments
  let result := runArguments ⟨tree.system cwd, Program.noPrograms⟩ arguments
  for (path, text) in result.writes do
    try IO.FS.writeFile path text
    catch e =>
      IO.eprintln e
      return 2
  for line in result.stdout do
    IO.println line
  for line in result.stderr do
    IO.eprintln line
  return UInt32.ofNat result.code
