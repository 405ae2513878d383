import DocLint.Files.Path
import DocLint.Files.System

/-!
# Trees of files

A tree of files in memory, with directories and symbolic links. A path is resolved from the working
directory; a link on its way is replaced by its target.
-/

namespace DocLint

set_option autoImplicit false

/-- A file, a symbolic link, or a directory. -/
inductive FileTree where
  | file (bytes : List UInt8)
  | link (target : String)
  | directory (entries : List (String × FileTree))
  deriving Repr

namespace FileTree

/-- What is at a list of names, no link being followed. -/
def at? (tree : FileTree) : List String → Option FileTree
  | [] => some tree
  | n :: rest =>
    match tree with
    | .directory entries => (entries.lookup n).bind fun t => t.at? rest
    | _ => none

/-- Where the resolution of a path has come. -/
inductive Progress where
  /-- At its end. -/
  | found (names : List String)
  /-- At a link: the directory from which to go on, and the pieces of the path that are left. -/
  | follow (names pieces : List String)
  deriving Repr

/-- How the end of a path is treated. -/
structure Resolution where
  /-- Whether a link at the end is followed. -/
  followLast : Bool
  /-- Whether the last name may be missing. -/
  mayMiss : Bool

/-- The most bytes of a name. -/
def maxNameSize : Nat := 255

/-- The most bytes of a path. -/
def maxPathSize : Nat := 4095

/-- Goes on along the pieces of a path, from a directory, up to its end or the next link. -/
def advance (tree : FileTree) (how : Resolution) (names : List String) :
    List String → Except FileFault Progress
  | [] => .ok (.found names)
  | piece :: rest =>
    match tree.at? names with
    | some (.directory entries) =>
      if Path.isIdle piece then advance tree how names rest
      else if piece == ".." then advance tree how names.dropLast rest
      else if piece.utf8ByteSize > maxNameSize then .error .nameTooLong
      else
        match entries.lookup piece with
        | some (.link target) =>
          if rest.isEmpty && !how.followLast then .ok (.found (names ++ [piece]))
          else
            let start := if Path.isAbsolute target then [] else names
            .ok (.follow start (Path.pieces target ++ rest))
        | some _ => advance tree how (names ++ [piece]) rest
        | none => if rest.isEmpty && how.mayMiss then .ok (.found (names ++ [piece])) else .error .notFound
    | some _ => .error .notDirectory
    | none => .error .notFound

/-- Resolves the pieces of a path from a directory; at most so many links are followed. -/
def resolvePieces (tree : FileTree) (how : Resolution) :
    Nat → List String → List String → Except FileFault (List String)
  | 0, _, _ => .error .tooManyLinks
  | links + 1, names, pieces => do
    match ← advance tree how names pieces with
    | .found names => return names
    | .follow names pieces => resolvePieces tree how links names pieces

/-- How many links may be followed. -/
def maxLinks : Nat := 40

/-- Resolves a path from the working directory to the names that lead to it from the root. -/
def resolve (tree : FileTree) (how : Resolution) (cwd : List String) (path : String) :
    Except FileFault (List String) :=
  if path.toList.any (· == '\x00') then .error .nulInPath
  else if path == "" then .error .notFound
  else if path.utf8ByteSize > maxPathSize then .error .nameTooLong
  else
    let start := if Path.isAbsolute path then [] else cwd
    resolvePieces tree how (maxLinks + 1) start (Path.pieces path)

/-- Follows links, and requires that there is something. -/
def following : Resolution := ⟨true, false⟩

/-- What a path leads to. -/
def find (tree : FileTree) (cwd : List String) (path : String) : Except FileFault FileTree := do
  let names ← tree.resolve following cwd path
  match tree.at? names with
  | some t => return t
  | none => throw .notFound

/-- The content of a file. -/
def readFile (tree : FileTree) (cwd : List String) (path : String) :
    Except FileFault (List UInt8) := do
  match ← tree.find cwd path with
  | .file bytes => return bytes
  | _ => throw .isDirectory

/-- Whether a path leads to a regular file. -/
def isFile (tree : FileTree) (cwd : List String) (path : String) : Bool :=
  match tree.find cwd path with
  | .ok (.file _) => true
  | _ => false

/-- Whether there is anything at a path. -/
def occupied (tree : FileTree) (cwd : List String) (path : String) : Bool :=
  match tree.resolve ⟨false, false⟩ cwd path with
  | .ok names => (tree.at? names).isSome
  | .error _ => false

mutual

/-- The regular files of a tree, each with the names that lead to it. -/
def files : FileTree → List (List String)
  | .file _ => [[]]
  | .link _ => []
  | .directory entries => filesOf entries

/-- The regular files of the entries of a directory. -/
def filesOf : List (String × FileTree) → List (List String)
  | [] => []
  | (n, t) :: rest => (files t).map (n :: ·) ++ filesOf rest

end

/-- The regular files at and below a path. Of links, one at the begin to a directory is followed. -/
def walk (tree : FileTree) (cwd : List String) (path : String) : List (List String) :=
  match tree.resolve ⟨false, false⟩ cwd path with
  | .error _ => []
  | .ok names =>
    match tree.at? names with
    | some (.link _) =>
      match tree.find cwd path with
      | .ok (.directory entries) => filesOf entries
      | _ => []
    | some t => t.files
    | none => []

/-- Replaces or adds an entry of a directory. -/
def setEntry (name : String) (t : FileTree) : List (String × FileTree) → List (String × FileTree)
  | [] => [(name, t)]
  | (n, old) :: rest => if n == name then (n, t) :: rest else (n, old) :: setEntry name t rest

/-- Puts something at a list of names; directories on the way are made. -/
def put (t : FileTree) : List String → FileTree → FileTree
  | [], _ => t
  | n :: rest, .directory entries =>
    .directory (setEntry n (put t rest ((entries.lookup n).getD (.directory []))) entries)
  | n :: rest, _ => .directory [(n, put t rest (.directory []))]

/-- The names that lead to a path from the root if there are no links. -/
def place (cwd : List String) (path : String) : List String :=
  (Path.pieces path).foldl
    (fun names piece =>
      if Path.isIdle piece then names
      else if piece == ".." then names.dropLast
      else names ++ [piece])
    (if Path.isAbsolute path then [] else cwd)

/-- Adds a file, and the directories on its way. -/
def addFile (tree : FileTree) (cwd : List String) (path : String) (bytes : List UInt8) : FileTree :=
  put (.file bytes) (place cwd path) tree

/-- Writes a file, following links. -/
def writeFile (tree : FileTree) (cwd : List String) (path : String) (bytes : List UInt8) :
    Except FileFault FileTree := do
  let names ← tree.resolve ⟨true, true⟩ cwd path
  match tree.at? names with
  | some (.directory _) => throw .isDirectory
  | _ => return put (.file bytes) names tree

/-- Why a file cannot be written, if it cannot. -/
def writeFault (tree : FileTree) (cwd : List String) (path : String) : Option FileFault :=
  match tree.writeFile cwd path [] with
  | .error f => some f
  | .ok _ => none

/-- The tree as a file system, seen from a working directory. -/
def system (tree : FileTree) (cwd : List String) : FileSystem where
  isFile := tree.isFile cwd
  occupied := tree.occupied cwd
  read := tree.readFile cwd
  writeFault := tree.writeFault cwd
  walk := tree.walk cwd

end FileTree

end DocLint
