import DocLint.Files.Glob
import DocLint.Files.Path
import DocLint.Files.System
import DocLint.LintError

/-!
# Finding files

Patterns select files below a directory. A pattern that names a file stands for that file, any other one
is a glob. Files are filtered by what the configuration includes and excludes.
-/

namespace DocLint

set_option autoImplicit false

/-- What is included and excluded. Where nothing is included by name, everything is. -/
structure Finder where
  includes : List Glob
  excludes : List Glob
  deriving Repr

namespace Finder

/-- Reads globs in order. -/
def readGlobs : List String → Except LintError (List Glob)
  | [] => .ok []
  | pattern :: rest => do
    let g ← (Glob.parse pattern).mapError fun f => .config (Glob.faultMessage pattern f)
    let gs ← readGlobs rest
    return g :: gs

/-- A finder for patterns of what is included and excluded. -/
def ofPatterns (includes excludes : List String) : Except LintError Finder := do
  let includes ← readGlobs includes
  let excludes ← readGlobs excludes
  return ⟨includes, excludes⟩

def anyMatch (globs : List Glob) (path : String) : Bool :=
  globs.any fun g => g.isMatch path

/-- Whether a path is filtered out. -/
def ignores (f : Finder) (path : String) : Bool :=
  anyMatch f.excludes path || (!f.includes.isEmpty && !anyMatch f.includes path)

/-- The patterns that name files below a directory and are not filtered out. -/
def named (f : Finder) (fs : FileSystem) (base : String) (patterns : List String) : List String :=
  (patterns.filter fun p => fs.isFile (Path.join base p) && !f.ignores p).map fun p =>
    Path.withoutDot (Path.join base p)

/-- The patterns that name no files. -/
def unnamed (fs : FileSystem) (base : String) (patterns : List String) : List String :=
  patterns.filter fun p => !fs.isFile (Path.join base p)

/-- The files below a directory that one of some globs matches and that are not filtered out. -/
def matching (f : Finder) (fs : FileSystem) (base : String) (globs : List Glob) : List String :=
  if globs.isEmpty then []
  else
    ((fs.walk base).filter fun names =>
      let path := Path.joinPieces names
      anyMatch globs path && !f.ignores path).map fun names =>
        Path.withoutDot (names.foldl Path.join base)

/-- The files that patterns select below a directory: sorted, each once. -/
def discover (f : Finder) (fs : FileSystem) (patterns : List String) (base : String) :
    Except LintError (List String) := do
  let globs ← readGlobs (unnamed fs base patterns)
  let found := f.named fs base patterns ++ f.matching fs base globs
  return Path.dedup (found.mergeSort Path.le)

end Finder

end DocLint
