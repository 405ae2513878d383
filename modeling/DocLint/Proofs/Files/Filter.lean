import DocLint.Files.Finder
import DocLint.Files.Tree
import DocLint.Proofs.Except
import DocLint.Proofs.Files.PathOrder

/-!
# What the filter lets through

The files that a directory is searched for are filtered by how they are seen from this directory. A pattern
that names a file is filtered as it is spelled. So what is found passes the filter as seen from the
directory if and only if the names of files do, and they do when they are spelled without dots and empty
pieces.
-/

namespace DocLint

set_option autoImplicit false

namespace Finder

variable {f : Finder} {fs : FileSystem} {base : String} {patterns files : List String}

/-- No exclude glob matches a path, and if something is included by name, this path is. -/
def Passes (f : Finder) (path : String) : Prop :=
  (∀ g ∈ f.excludes, g.isMatch path = false) ∧ (f.includes ≠ [] → ∃ g ∈ f.includes, g.isMatch path = true)

/-- A path passes the filter as it is seen from a directory, if it lies below this directory. -/
def PassesBelow (f : Finder) (base path : String) : Prop :=
  ∀ seen, Path.below? base path = some seen → f.Passes seen

theorem anyMatch_eq_true_iff {globs : List Glob} {path : String} :
    anyMatch globs path = true ↔ ∃ g ∈ globs, g.isMatch path = true := by
  simp [anyMatch]

theorem ignores_eq_false_iff {path : String} : f.ignores path = false ↔ f.Passes path := by
  have hexcludes : anyMatch f.excludes path = false ↔ ∀ g ∈ f.excludes, g.isMatch path = false := by
    simp [anyMatch]
  rw [ignores, Bool.or_eq_false_iff, hexcludes, Passes, ← anyMatch_eq_true_iff]
  simp

theorem mem_named {file : String} : file ∈ f.named fs base patterns ↔
    ∃ p ∈ patterns, fs.isFile (Path.join base p) = true ∧ f.Passes p ∧
      Path.withoutDot (Path.join base p) = file := by
  simp [named, ignores_eq_false_iff, and_assoc]

theorem mem_matching {globs : List Glob} {file : String} : file ∈ f.matching fs base globs ↔
    ∃ names ∈ fs.walk base, anyMatch globs (Path.joinPieces names) = true ∧ f.Passes (Path.joinPieces names) ∧
      Path.withoutDot (names.foldl Path.join base) = file := by
  unfold matching
  split
  · next hnone =>
    -- no glob matches a path if there are none
    rw [List.isEmpty_iff.mp hnone]
    simp [anyMatch]
  · simp [ignores_eq_false_iff, and_assoc]

theorem discover_eq_ok_iff : f.discover fs patterns base = .ok files ↔
    ∃ globs, readGlobs (unnamed fs base patterns) = .ok globs ∧
      Path.dedup ((f.named fs base patterns ++ f.matching fs base globs).mergeSort Path.le) = files := by
  simp only [discover, bind_eq_ok_iff, pure, Except.pure, Except.ok.injEq]

theorem discover_of_readGlobs_nil (h : readGlobs (unnamed fs base patterns) = .ok []) :
    f.discover fs patterns base = .ok (Path.dedup ((f.named fs base patterns).mergeSort Path.le)) := by
  refine discover_eq_ok_iff.mpr ⟨[], h, ?_⟩
  rw [matching, List.isEmpty_nil, if_pos rfl, List.append_nil]

/-- What is found below a directory that is given from the root is given from the root. -/
theorem isAbsolute_of_mem_discover (h : f.discover fs patterns base = .ok files)
    (hbase : Path.isAbsolute base = true) {file : String} (hfile : file ∈ files) :
    Path.isAbsolute file = true := by
  obtain ⟨globs, -, rfl⟩ := discover_eq_ok_iff.mp h
  have hfound := Path.mem_of_mem_dedup hfile
  rw [List.mem_mergeSort, List.mem_append] at hfound
  rcases hfound with hnamed | hmatching
  · obtain ⟨p, -, -, -, rfl⟩ := mem_named.mp hnamed
    rw [(Path.solid_withoutDot _).2, Path.isAbsolute_join, hbase, Bool.or_true]
  · obtain ⟨names, -, -, -, rfl⟩ := mem_matching.mp hmatching
    rw [(Path.solid_withoutDot _).2]
    exact Path.isAbsolute_foldl_join hbase names

/-- How a file is spelled makes no difference for how it is seen from a directory. -/
theorem passesBelow_of_components {p q : String} (h : Path.components p = Path.components q) :
    f.PassesBelow base p ↔ f.PassesBelow base q := by
  obtain ⟨hsolid, habsolute⟩ := Path.solid_of_components_eq h
  rw [PassesBelow, PassesBelow, Path.below?_congr hsolid habsolute]

theorem passesBelow_withoutDot {p : String} :
    f.PassesBelow base (Path.withoutDot p) ↔ f.PassesBelow base p := by
  rw [PassesBelow, PassesBelow, Path.below?_withoutDot]

/-- What a search of the directory finds passes the filter as it is seen from there. -/
theorem passesBelow_of_mem_matching (hnames : ∀ names ∈ fs.walk base, ∀ n ∈ names, Path.IsName n)
    {globs : List Glob} {file : String} (h : file ∈ f.matching fs base globs) : f.PassesBelow base file := by
  obtain ⟨names, hwalk, -, hpasses, rfl⟩ := mem_matching.mp h
  rw [passesBelow_withoutDot]
  intro seen hseen
  rw [Path.below?_foldl_join (hnames names hwalk), Option.some.injEq] at hseen
  exact hseen ▸ hpasses

/-- What is found is a file that a pattern names, or passes the filter as it is seen from the directory. -/
theorem named_or_passesBelow (hnames : ∀ names ∈ fs.walk base, ∀ n ∈ names, Path.IsName n)
    (h : f.discover fs patterns base = .ok files) {file : String} (hfile : file ∈ files) :
    file ∈ f.named fs base patterns ∨ f.PassesBelow base file := by
  obtain ⟨globs, -, rfl⟩ := discover_eq_ok_iff.mp h
  have hfound := Path.mem_of_mem_dedup hfile
  rw [List.mem_mergeSort, List.mem_append] at hfound
  exact hfound.imp_right (passesBelow_of_mem_matching hnames)

/-- A file that a pattern names is found, perhaps under another spelling. -/
theorem exists_found_of_named (h : f.discover fs patterns base = .ok files) {file : String}
    (hfile : file ∈ f.named fs base patterns) :
    ∃ q ∈ files, Path.components q = Path.components file := by
  obtain ⟨globs, -, rfl⟩ := discover_eq_ok_iff.mp h
  refine Path.exists_mem_dedup ?_
  rw [List.mem_mergeSort, List.mem_append]
  exact .inl hfile

/-- The files that are found pass the filter as they are seen from the directory if and only if each pattern
that names a file and passes as it is spelled does so as it is seen from there. -/
theorem discover_passesBelow_iff (hnames : ∀ names ∈ fs.walk base, ∀ n ∈ names, Path.IsName n)
    (h : f.discover fs patterns base = .ok files) :
    (∀ file ∈ files, f.PassesBelow base file) ↔
      ∀ p ∈ patterns, fs.isFile (Path.join base p) = true → f.Passes p →
        f.PassesBelow base (Path.join base p) := by
  constructor
  · intro hfiles p hp hfile hpasses
    obtain ⟨q, hq, heq⟩ := exists_found_of_named h (mem_named.mpr ⟨p, hp, hfile, hpasses, rfl⟩)
    have hbelow := hfiles q hq
    rwa [passesBelow_of_components heq, passesBelow_withoutDot] at hbelow
  · intro hpatterns file hfile
    rcases named_or_passesBelow hnames h hfile with hnamed | hbelow
    · obtain ⟨p, hp, hisFile, hpasses, rfl⟩ := mem_named.mp hnamed
      exact passesBelow_withoutDot.mpr (hpatterns p hp hisFile hpasses)
    · exact hbelow

/-- With relative patterns that are spelled plainly, everything that is found passes the filter. -/
theorem discover_passesBelow_of_plain (hnames : ∀ names ∈ fs.walk base, ∀ n ∈ names, Path.IsName n)
    (h : f.discover fs patterns base = .ok files)
    (hplain : ∀ p ∈ patterns, Path.isAbsolute p = false ∧ Path.joinPieces (Path.solid p) = p) :
    ∀ file ∈ files, f.PassesBelow base file := by
  intro file hfile
  rcases named_or_passesBelow hnames h hfile with hnamed | hbelow
  · obtain ⟨p, hp, -, hpasses, rfl⟩ := mem_named.mp hnamed
    obtain ⟨hrelative, hspelled⟩ := hplain p hp
    rw [passesBelow_withoutDot]
    intro seen hseen
    rw [Path.below?_join hrelative, hspelled, Option.some.injEq] at hseen
    exact hseen ▸ hpasses
  · exact hbelow

section Dot

/-- A directory with two files. -/
def twoFiles : FileSystem :=
  (FileTree.directory [("a.md", .file []), ("b.md", .file [])]).system []

/-- Excludes one of the files. -/
def withoutFirst : Finder :=
  ⟨[], [⟨[.literal 'a', .literal '.', .literal 'm', .literal 'd']⟩]⟩

theorem isName_of_mem_twoFiles : ∀ names ∈ twoFiles.walk ".", ∀ n ∈ names, Path.IsName n := by
  have hwalk : twoFiles.walk "." = [["a.md"], ["b.md"]] := by decide +kernel
  rw [hwalk]
  simp only [Path.IsName]
  decide

/-- With a dot in front, a file is found that is excluded. -/
theorem not_passesBelow_of_dot :
    ofPatterns [] ["a.md"] = .ok withoutFirst ∧
      withoutFirst.discover twoFiles ["./a.md"] "." = .ok ["a.md"] ∧
      ¬ withoutFirst.PassesBelow "." "a.md" := by
  refine ⟨rfl, ?_, ?_⟩
  · have hglobs : readGlobs (unnamed twoFiles "." ["./a.md"]) = .ok [] := by rfl
    have hnamed : withoutFirst.named twoFiles "." ["./a.md"] = ["a.md"] := by decide +kernel
    rw [discover_of_readGlobs_nil hglobs, hnamed]
    simp [Path.dedup]
  · intro hpasses
    have hexcluded := (hpasses "a.md" (by decide +kernel)).1 _ List.mem_cons_self
    revert hexcluded
    decide +kernel

/-- The other file is found and passes. -/
theorem passesBelow_of_dot :
    withoutFirst.discover twoFiles ["./b.md"] "." = .ok ["b.md"] ∧
      ∀ file ∈ ["b.md"], withoutFirst.PassesBelow "." file := by
  have hdiscover : withoutFirst.discover twoFiles ["./b.md"] "." = .ok ["b.md"] := by
    have hglobs : readGlobs (unnamed twoFiles "." ["./b.md"]) = .ok [] := by rfl
    have hnamed : withoutFirst.named twoFiles "." ["./b.md"] = ["b.md"] := by decide +kernel
    rw [discover_of_readGlobs_nil hglobs, hnamed]
    simp [Path.dedup]
  refine ⟨hdiscover, (discover_passesBelow_iff isName_of_mem_twoFiles hdiscover).mpr ?_⟩
  intro p hp _ _ seen hseen
  have hbelow : Path.below? "." (Path.join "." "./b.md") = some "b.md" := by decide +kernel
  rw [List.mem_singleton.mp hp, hbelow, Option.some.injEq] at hseen
  rw [← hseen, ← ignores_eq_false_iff]
  decide +kernel

end Dot

end Finder

end DocLint
