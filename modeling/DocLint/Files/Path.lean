import DocLint.Text.Utf8

/-!
# Paths

A path is a text that names a file. Its components are separated by slashes; empty ones and single dots
are passed over, except for a dot at the very begin. Paths are compared by their components.
-/

namespace DocLint.Path

set_option autoImplicit false

inductive Component where
  | root
  | current
  | parent
  | name (s : String)
  deriving DecidableEq, Repr

/-- What a path begins with. -/
inductive Head where
  | absolute
  /-- A single dot. -/
  | dot
  | relative
  deriving DecidableEq, Repr

/-- A path cut at its slashes. -/
structure Parts where
  head : Head
  body : List String
  deriving DecidableEq, Repr

/-- Cuts characters at slashes; `pending` are those of the current piece, newest first. -/
def splitFrom (pending : List Char) : List Char → List String
  | [] => [String.ofList pending.reverse]
  | '/' :: rest => String.ofList pending.reverse :: splitFrom [] rest
  | c :: rest => splitFrom (c :: pending) rest

/-- The pieces of a path between its slashes. -/
def pieces (path : String) : List String :=
  splitFrom [] path.toList

/-- A path cut at its slashes. -/
def parts (path : String) : Parts :=
  match path.toList, pieces path with
  | '/' :: _, _ :: body => ⟨.absolute, body⟩
  | _, "." :: body => ⟨.dot, body⟩
  | _, body => ⟨.relative, body⟩

/-- Whether a piece says nothing. -/
def isIdle (piece : String) : Bool :=
  piece == "" || piece == "."

/-- Drops pieces at the end that say nothing. -/
def trimEnd (body : List String) : List String :=
  (body.reverse.dropWhile isIdle).reverse

/-- The component that a piece stands for. -/
def componentOf (piece : String) : Component :=
  if piece == ".." then .parent else .name piece

def components (path : String) : List Component :=
  let p := parts path
  (match p.head with
    | .absolute => [Component.root]
    | .dot => [Component.current]
    | .relative => []) ++ (p.body.filter fun piece => !isIdle piece).map componentOf

/-- Joins pieces by slashes. -/
def joinPieces (body : List String) : String :=
  "/".intercalate body

/-- The text of a path that is cut at its slashes. -/
def Parts.text (p : Parts) : String :=
  match p.head with
  | .absolute => "/" ++ joinPieces p.body
  | .dot => joinPieces ("." :: p.body)
  | .relative => joinPieces p.body

/-- Whether a path begins at the root. -/
def isAbsolute (path : String) : Bool :=
  path.toList.head? == some '/'

/-- A path seen from a directory. An absolute path stays as it is. -/
def join (directory path : String) : String :=
  if isAbsolute path || directory == "" then path
  else if directory.toList.getLast? == some '/' then directory ++ path
  else directory ++ "/" ++ path

/-- The path without its last component; the root and the empty path have none. -/
def parent? (path : String) : Option String :=
  let p := parts path
  match trimEnd p.body, p.head with
  | [], .dot => some ""
  | [], _ => none
  | body, head => some (Parts.text ⟨head, trimEnd body.dropLast⟩)

/-- Removes a single dot from the begin of a path, unless nothing would be left. -/
def withoutDot (path : String) : String :=
  let p := parts path
  match p.head, trimEnd (p.body.dropWhile isIdle) with
  | .dot, [] => path
  | .dot, body => joinPieces body
  | _, _ => path

/-- Whether a component stands before another one. -/
def Component.lt : Component → Component → Bool
  | .name a, .name b => Text.bytesLt a b
  | .name _, _ => false
  | .parent, .name _ => true
  | .parent, _ => false
  | .current, .root => false
  | .current, .current => false
  | .current, _ => true
  | .root, .root => false
  | .root, _ => true

/-- Whether one list of components stands before another one or is equal to it. -/
def leComponents : List Component → List Component → Bool
  | [], _ => true
  | _ :: _, [] => false
  | a :: as, b :: bs => a.lt b || (a == b && leComponents as bs)

/-- Whether a path stands before another one or has the same components. -/
def le (a b : String) : Bool :=
  leComponents (components a) (components b)

/-- Whether two paths have the same components. -/
def same (a b : String) : Bool :=
  components a == components b

/-- Drops each path that has the same components as the one before it. -/
def dedup : List String → List String
  | [] => []
  | p :: rest =>
    match dedup rest with
    | [] => [p]
    | q :: kept => if same p q then p :: kept else p :: q :: kept

end DocLint.Path
