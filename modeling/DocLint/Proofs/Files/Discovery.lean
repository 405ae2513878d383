import DocLint.Proofs.Files.Filter

/-!
# What patterns select

Patterns that cannot be read as globs are refused. Otherwise a search finds the files that patterns name and those
that they match, each once and in the order of paths, and nothing else. Neither the order of the patterns nor how
often they are repeated makes a difference.
-/

namespace DocLint.Finder

set_option autoImplicit false

/-- A pattern that can be read. -/
def IsGlob (pattern : String) : Prop :=
  ∃ g, Glob.parse pattern = .ok g

/-- A pattern is read as a glob that matches a path. -/
def Matches (pattern path : String) : Prop :=
  ∃ g, Glob.parse pattern = .ok g ∧ g.isMatch path = true

/-- No exclude pattern matches a path, and one of the include patterns does if there are any. -/
def Admits (includes excludes : List String) (path : String) : Prop :=
  (∀ p ∈ excludes, ¬ Matches p path) ∧ (includes ≠ [] → ∃ p ∈ includes, Matches p path)

/-- Why a file is selected: it is named by a pattern that is admitted as it is spelled, or it is reached from the
directory by names that a pattern matches and that are admitted. -/
inductive Selects (includes excludes : List String) (fs : FileSystem) (base : String) (patterns : List String) :
    String → Prop where
  | named {p : String} : p ∈ patterns → fs.isFile (Path.join base p) = true → Admits includes excludes p →
    Selects includes excludes fs base patterns (Path.join base p)
  | matched {p : String} {names : List String} : p ∈ patterns → fs.isFile (Path.join base p) = false →
    names ∈ fs.walk base → Matches p (Path.joinPieces names) →
    Admits includes excludes (Path.joinPieces names) →
    Selects includes excludes fs base patterns (names.foldl Path.join base)

/-- The files that are selected, without dots in front, in the order of paths. -/
structure Finds (includes excludes : List String) (fs : FileSystem) (base : String) (patterns files : List String) :
    Prop where
  increasing : files.Pairwise Path.Before
  complete : ∀ path, Selects includes excludes fs base patterns path →
    ∃ file ∈ files, Path.components file = Path.plain (Path.components path)
  sound : ∀ file ∈ files, ∃ path, Selects includes excludes fs base patterns path ∧ Path.withoutDot path = file
  undotted : ∀ file ∈ files, (Path.components file).head? = some .current → Path.components file = [.current]

/-- A search by patterns, with a filter that is given by patterns too. -/
def search (includes excludes : List String) (fs : FileSystem) (base : String) (patterns : List String) :
    Except LintError (List String) := do
  let f ← ofPatterns includes excludes
  f.discover fs patterns base

section Reading
variable {patterns includes excludes : List String} {globs : List Glob} {f : Finder} {path : String}

theorem readGlobs_eq_ok_iff :
    readGlobs patterns = .ok globs ↔ List.Forall₂ (fun p g => Glob.parse p = .ok g) patterns globs := by
  induction patterns generalizing globs with
  | nil => rw [readGlobs, Except.ok.injEq, List.forall₂_nil_left_iff, eq_comm]
  | cons p rest ih =>
    rw [List.forall₂_cons_left_iff]
    simp only [readGlobs, bind_eq_ok_iff, mapError_eq_ok_iff, pure, Except.pure, Except.ok.injEq, ih]
    constructor
    · rintro ⟨g, hg, gs, hgs, rfl⟩
      exact ⟨g, gs, hg, hgs, rfl⟩
    · rintro ⟨g, gs, hg, hgs, rfl⟩
      exact ⟨g, hg, gs, hgs, rfl⟩

theorem exists_readGlobs_iff : (∃ globs, readGlobs patterns = .ok globs) ↔ ∀ p ∈ patterns, IsGlob p := by
  simp only [readGlobs_eq_ok_iff]
  exact exists_forall₂_iff

/-- The only reason to refuse patterns is their form. -/
theorem config_of_readGlobs {e : LintError} (h : readGlobs patterns = .error e) : ∃ m, e = .config m := by
  induction patterns with
  | nil => cases h
  | cons p rest ih =>
    rw [readGlobs] at h
    cases hparse : Glob.parse p with
    | error fault =>
      rw [hparse] at h
      cases h
      exact ⟨_, rfl⟩
    | ok g =>
      rw [hparse] at h
      exact ih (bind_pure_eq_error_iff.mp h)

theorem anyMatch_iff_matches (h : readGlobs patterns = .ok globs) (path : String) :
    anyMatch globs path = true ↔ ∃ p ∈ patterns, Matches p path := by
  have hread := readGlobs_eq_ok_iff.mp h
  rw [anyMatch_eq_true_iff]
  constructor
  · rintro ⟨g, hg, hmatch⟩
    obtain ⟨p, hp, hparse⟩ := exists_of_mem_forall₂ hread hg
    exact ⟨p, hp, g, hparse, hmatch⟩
  · rintro ⟨p, hp, g, hparse, hmatch⟩
    obtain ⟨g', hg', hparse'⟩ := exists_of_mem_forall₂ hread.flip hp
    obtain rfl := Except.ok.inj (hparse.symm.trans hparse')
    exact ⟨g, hg', hmatch⟩

theorem ofPatterns_eq_ok_iff :
    ofPatterns includes excludes = .ok f ↔
      readGlobs includes = .ok f.includes ∧ readGlobs excludes = .ok f.excludes := by
  simp only [ofPatterns, bind_eq_ok_iff, pure, Except.pure, Except.ok.injEq]
  constructor
  · rintro ⟨_, hincludes, _, hexcludes, rfl⟩
    exact ⟨hincludes, hexcludes⟩
  · rintro ⟨hincludes, hexcludes⟩
    exact ⟨_, hincludes, _, hexcludes, rfl⟩

theorem passes_iff_admits (h : ofPatterns includes excludes = .ok f) :
    f.Passes path ↔ Admits includes excludes path := by
  obtain ⟨hincludes, hexcludes⟩ := ofPatterns_eq_ok_iff.mp h
  have hsome : f.includes ≠ [] ↔ includes ≠ [] := by
    rw [ne_eq, ne_eq, ← List.length_eq_zero_iff, ← List.length_eq_zero_iff,
      (readGlobs_eq_ok_iff.mp hincludes).length_eq]
  have hnone : (∀ g ∈ f.excludes, g.isMatch path = false) ↔ ∀ p ∈ excludes, ¬ Matches p path := by
    have hany := not_congr (anyMatch_iff_matches hexcludes path)
    rw [anyMatch_eq_true_iff] at hany
    simpa using hany
  rw [Passes, Admits, hsome, hnone, ← anyMatch_eq_true_iff,
    anyMatch_iff_matches hincludes]

end Reading

section Search
variable {fs : FileSystem} {base : String} {includes excludes patterns files : List String} {f : Finder}

theorem mem_found_iff {globs : List Glob} (hf : ofPatterns includes excludes = .ok f)
    (hglobs : readGlobs (unnamed fs base patterns) = .ok globs) {file : String} :
    file ∈ f.named fs base patterns ++ f.matching fs base globs ↔
      ∃ path, Selects includes excludes fs base patterns path ∧ Path.withoutDot path = file := by
  rw [List.mem_append, mem_named, mem_matching]
  simp only [passes_iff_admits hf, anyMatch_iff_matches hglobs]
  constructor
  · rintro (⟨p, hp, hfile, hadmits, rfl⟩ | ⟨names, hnames, ⟨p, hp, hmatches⟩, hadmits, rfl⟩)
    · exact ⟨_, .named hp hfile hadmits, rfl⟩
    · rw [unnamed, List.mem_filter, Bool.not_eq_true'] at hp
      exact ⟨_, .matched hp.1 hp.2 hnames hmatches hadmits, rfl⟩
  · rintro ⟨path, hselects, rfl⟩
    cases hselects with
    | named hp hfile hadmits => exact .inl ⟨_, hp, hfile, hadmits, rfl⟩
    | matched hp hfile hnames hmatches hadmits =>
      have hunnamed : _ ∈ unnamed fs base patterns := List.mem_filter.mpr ⟨hp, by simpa using hfile⟩
      exact .inr ⟨_, hnames, ⟨_, hunnamed, hmatches⟩, hadmits, rfl⟩

theorem search_eq_ok_iff : search includes excludes fs base patterns = .ok files ↔
    ∃ f, ofPatterns includes excludes = .ok f ∧ f.discover fs patterns base = .ok files :=
  bind_eq_ok_iff

theorem finds_of_search (h : search includes excludes fs base patterns = .ok files) :
    Finds includes excludes fs base patterns files := by
  obtain ⟨f, hf, hdiscover⟩ := search_eq_ok_iff.mp h
  obtain ⟨globs, hglobs, rfl⟩ := discover_eq_ok_iff.mp hdiscover
  have hsound {file : String}
      (hfile : file ∈ Path.dedup ((f.named fs base patterns ++ f.matching fs base globs).mergeSort Path.le)) :
      ∃ path, Selects includes excludes fs base patterns path ∧ Path.withoutDot path = file :=
    (mem_found_iff hf hglobs).mp (List.mem_mergeSort.mp (Path.mem_of_mem_dedup hfile))
  refine ⟨Path.pairwise_dedup (Path.pairwise_mergeSort_le _), ?complete, fun _ => hsound, ?undotted⟩
  case complete =>
    intro path hselects
    have hfound := (mem_found_iff hf hglobs).mpr ⟨path, hselects, rfl⟩
    obtain ⟨file, hfile, hsame⟩ := Path.exists_mem_dedup (List.mem_mergeSort.mpr hfound)
    exact ⟨file, hfile, hsame.trans (Path.components_withoutDot path)⟩
  case undotted =>
    intro file hfile hdot
    obtain ⟨path, -, rfl⟩ := hsound hfile
    exact Path.components_withoutDot_of_head? hdot

theorem exists_search_iff : (∃ files, search includes excludes fs base patterns = .ok files) ↔
    ∀ p ∈ includes ++ excludes ++ unnamed fs base patterns, IsGlob p := by
  simp only [List.forall_mem_append, ← exists_readGlobs_iff, search_eq_ok_iff, ofPatterns_eq_ok_iff,
    discover_eq_ok_iff]
  constructor
  · rintro ⟨_, f, ⟨hincludes, hexcludes⟩, globs, hglobs, -⟩
    exact ⟨⟨⟨_, hincludes⟩, ⟨_, hexcludes⟩⟩, globs, hglobs⟩
  · rintro ⟨⟨⟨_, hincludes⟩, ⟨_, hexcludes⟩⟩, globs, hglobs⟩
    exact ⟨_, ⟨_, _⟩, ⟨hincludes, hexcludes⟩, globs, hglobs, rfl⟩

theorem config_of_search {e : LintError} (h : search includes excludes fs base patterns = .error e) :
    ∃ m, e = .config m := by
  rcases bind_eq_error_iff.mp h with hfilter | ⟨f, -, hdiscover⟩
  · rcases bind_eq_error_iff.mp hfilter with hincludes | ⟨_, -, hexcludes⟩
    · exact config_of_readGlobs hincludes
    · exact config_of_readGlobs (bind_pure_eq_error_iff.mp hexcludes)
  · exact config_of_readGlobs (bind_pure_eq_error_iff.mp hdiscover)

end Search

section Rearranged
variable {fs : FileSystem} {base path : String} {includes excludes patterns includes' excludes' patterns' : List String}

theorem Admits.congr (hincludes : ∀ p, p ∈ includes ↔ p ∈ includes')
    (hexcludes : ∀ p, p ∈ excludes ↔ p ∈ excludes') :
    Admits includes excludes path ↔ Admits includes' excludes' path := by
  have hsome : includes ≠ [] ↔ includes' ≠ [] := by
    simp only [ne_eq, List.eq_nil_iff_forall_not_mem, hincludes]
  simp only [Admits, hsome, hincludes, hexcludes]

theorem Selects.mono (hincludes : ∀ p, p ∈ includes ↔ p ∈ includes')
    (hexcludes : ∀ p, p ∈ excludes ↔ p ∈ excludes')
    (hpatterns : ∀ p ∈ patterns, p ∈ patterns') (h : Selects includes excludes fs base patterns path) :
    Selects includes' excludes' fs base patterns' path := by
  cases h with
  | named hp hfile hadmits => exact .named (hpatterns _ hp) hfile ((Admits.congr hincludes hexcludes).mp hadmits)
  | matched hp hfile hnames hmatches hadmits =>
    exact .matched (hpatterns _ hp) hfile hnames hmatches ((Admits.congr hincludes hexcludes).mp hadmits)

theorem Finds.mem_components {files : List String} (h : Finds includes excludes fs base patterns files)
    (cs : List Path.Component) : cs ∈ files.map Path.components ↔
      ∃ path, Selects includes excludes fs base patterns path ∧ Path.plain (Path.components path) = cs := by
  rw [List.mem_map]
  constructor
  · rintro ⟨file, hfile, rfl⟩
    obtain ⟨path, hselects, rfl⟩ := h.sound file hfile
    exact ⟨path, hselects, (Path.components_withoutDot path).symm⟩
  · rintro ⟨path, hselects, rfl⟩
    exact h.complete path hselects

/-- Searches by the same patterns find the same paths. -/
theorem components_of_search {files files' : List String} (hincludes : ∀ p, p ∈ includes ↔ p ∈ includes')
    (hexcludes : ∀ p, p ∈ excludes ↔ p ∈ excludes') (hpatterns : ∀ p, p ∈ patterns ↔ p ∈ patterns')
    (h : search includes excludes fs base patterns = .ok files)
    (h' : search includes' excludes' fs base patterns' = .ok files') :
    files'.map Path.components = files.map Path.components := by
  have hfinds := finds_of_search h
  have hfinds' := finds_of_search h'
  apply Path.components_eq_of_pairwise hfinds'.increasing hfinds.increasing
  intro cs
  rw [hfinds.mem_components, hfinds'.mem_components]
  constructor
  · rintro ⟨path, hselects, hcs⟩
    refine ⟨path, hselects.mono ?_ ?_ fun p hp => (hpatterns p).mpr hp, hcs⟩
    · exact fun p => (hincludes p).symm
    · exact fun p => (hexcludes p).symm
  · rintro ⟨path, hselects, hcs⟩
    exact ⟨path, hselects.mono hincludes hexcludes fun p hp => (hpatterns p).mp hp, hcs⟩

end Rearranged

/-- A search by patterns is refused if one of them that has to be a glob is none. Otherwise it finds what the
patterns select, and a search by the same patterns, in whatever order and however often, finds the same paths. -/
theorem search_finds_selected (fs : FileSystem) (base : String) (includes excludes patterns : List String) :
    ((∃ p ∈ includes ++ excludes ++ unnamed fs base patterns, ¬ IsGlob p) →
      ∃ m, search includes excludes fs base patterns = .error (.config m)) ∧
    ((∀ p ∈ includes ++ excludes ++ unnamed fs base patterns, IsGlob p) →
      ∃ files, search includes excludes fs base patterns = .ok files ∧
        Finds includes excludes fs base patterns files ∧
        ∀ includes' excludes' patterns' : List String, (∀ p, p ∈ includes ↔ p ∈ includes') →
          (∀ p, p ∈ excludes ↔ p ∈ excludes') → (∀ p, p ∈ patterns ↔ p ∈ patterns') →
          ∃ files', search includes' excludes' fs base patterns' = .ok files' ∧
            files'.map Path.components = files.map Path.components) := by
  constructor
  · rintro ⟨p, hp, hno⟩
    cases hsearch : search includes excludes fs base patterns with
    | error e =>
      obtain ⟨m, rfl⟩ := config_of_search hsearch
      exact ⟨m, rfl⟩
    | ok files => exact absurd (exists_search_iff.mp ⟨files, hsearch⟩ p hp) hno
  · intro hglobs
    obtain ⟨files, hsearch⟩ := exists_search_iff.mpr hglobs
    refine ⟨files, hsearch, finds_of_search hsearch, ?_⟩
    intro includes' excludes' patterns' hincludes hexcludes hpatterns
    have hglobs' : ∀ p ∈ includes' ++ excludes' ++ unnamed fs base patterns', IsGlob p := by
      intro p hp
      apply hglobs p
      simpa only [unnamed, List.mem_append, List.mem_filter, hincludes, hexcludes, hpatterns] using hp
    obtain ⟨files', hsearch'⟩ := exists_search_iff.mpr hglobs'
    exact ⟨files', hsearch', components_of_search hincludes hexcludes hpatterns hsearch hsearch'⟩

end DocLint.Finder
