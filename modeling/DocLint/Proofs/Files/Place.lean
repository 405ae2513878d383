import DocLint.Files.Tree
import DocLint.Proofs.Files.Path
import Mathlib.Data.List.DropRight

/-!
# Where a path leads

Apart from links, a path leads from where it starts up some directories and then down along some names. How far
up and along which names is a matter of the path alone. So a relative path leads from two directories to the
same place exactly if it climbs to where they agree.
-/

namespace DocLint

set_option autoImplicit false

namespace Path

/-- The way that a path takes from where it starts. -/
structure Course where
  /-- How many directories it leads up. -/
  up : Nat
  /-- The names along which it then leads down. -/
  down : List String
  deriving DecidableEq, Repr

namespace Course

/-- The way that ends where it starts. -/
def still : Course :=
  ⟨0, []⟩

/-- Goes on along a piece of a path. Climbing takes back the last name of the way down, if there is one. -/
def step (c : Course) (piece : String) : Course :=
  if isIdle piece then c
  else if piece == ".." then ⟨if c.down.isEmpty then c.up + 1 else c.up, c.down.dropLast⟩
  else ⟨c.up, c.down ++ [piece]⟩

/-- Where the way ends that starts in a directory. Nothing is above the root. -/
def target (c : Course) (start : List String) : List String :=
  start.rdrop c.up ++ c.down

@[simp] theorem target_still (start : List String) : still.target start = start := by
  simp [target, still]

theorem dropLast_rdrop (names : List String) (k : Nat) : (names.rdrop k).dropLast = names.rdrop (k + 1) := by
  have hlast (xs : List String) : xs.dropLast = xs.rdrop 1 := by
    rw [List.dropLast_eq_take, List.rdrop]
  rw [hlast, List.rdrop_add]

theorem target_step (c : Course) (start : List String) (piece : String) :
    (c.step piece).target start =
      if isIdle piece then c.target start
      else if piece == ".." then (c.target start).dropLast
      else c.target start ++ [piece] := by
  unfold step target
  split
  · rfl
  · split
    · cases hdown : c.down with
      | nil => simp [dropLast_rdrop]
      | cons n rest =>
        rw [List.dropLast_append_of_ne_nil (List.cons_ne_nil n rest)]
        rfl
    · simp

end Course

def course (path : String) : Course :=
  (pieces path).foldl Course.step .still

end Path

namespace FileTree

theorem place_eq (cwd : List String) (path : String) :
    place cwd path = (Path.course path).target (if Path.isAbsolute path then [] else cwd) := by
  unfold place Path.course
  generalize (if Path.isAbsolute path then [] else cwd) = start
  conv_lhs => rw [← Path.Course.target_still start]
  refine List.foldl_hom (fun c : Path.Course => c.target start) ?_
  intro c piece
  exact (c.target_step start piece).symm

/-- A path leads from two directories to the same place if it begins at the root, or if the directories agree
above so many of their last names as it climbs. -/
theorem place_eq_place_iff {cwd other : List String} {path : String} :
    place cwd path = place other path ↔
      Path.isAbsolute path = true ∨ cwd.rdrop (Path.course path).up = other.rdrop (Path.course path).up := by
  rw [place_eq, place_eq]
  by_cases habsolute : Path.isAbsolute path = true
  · simp [habsolute]
  · simp [habsolute, Path.Course.target]

end FileTree

end DocLint
