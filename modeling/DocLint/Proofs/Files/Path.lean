import DocLint.Files.Path

/-!
# The pieces of a path

What a path says is whether it begins at the root, and its pieces other than empty ones and single dots. Joining
paths appends these pieces, and a dot in front is none of them. A path that lies below a directory has the
pieces of the directory in front.
-/

namespace DocLint.Path

set_option autoImplicit false

/-- The pieces of a path that say something. -/
def solid (path : String) : List String :=
  (pieces path).filter fun piece => !isIdle piece

/-- The path from a directory to a file below it, without dots. -/
def below? (directory path : String) : Option String :=
  if isAbsolute directory = isAbsolute path ∧ solid directory <+: solid path then
    some (joinPieces ((solid path).drop (solid directory).length))
  else
    none

/-- What an entry of a directory may be called. -/
def IsName (s : String) : Prop :=
  isIdle s = false ∧ s ≠ ".." ∧ '/' ∉ s.toList

section Split

theorem splitFrom_append (pending xs ys : List Char) :
    splitFrom pending (xs ++ '/' :: ys) = splitFrom pending xs ++ splitFrom [] ys := by
  induction xs generalizing pending with
  | nil => simp [splitFrom]
  | cons c rest ih =>
    by_cases hc : c = '/'
    · subst hc
      simp [splitFrom, ih]
    · rw [List.cons_append, splitFrom, splitFrom, ih]
      · exact hc
      · exact hc

theorem splitFrom_of_not_mem (pending : List Char) {xs : List Char} (h : '/' ∉ xs) :
    splitFrom pending xs = [String.ofList (pending.reverse ++ xs)] := by
  induction xs generalizing pending with
  | nil => simp [splitFrom]
  | cons c rest ih =>
    simp only [List.mem_cons, not_or] at h
    rw [splitFrom, ih (c :: pending) h.2]
    · simp
    · exact Ne.symm h.1

theorem not_mem_of_mem_splitFrom {pending xs : List Char} (hpending : '/' ∉ pending) {piece : String}
    (h : piece ∈ splitFrom pending xs) : '/' ∉ piece.toList := by
  induction xs generalizing pending with
  | nil =>
    rw [splitFrom, List.mem_singleton] at h
    simpa [h] using hpending
  | cons c rest ih =>
    by_cases hc : c = '/'
    · subst hc
      rw [splitFrom, List.mem_cons] at h
      rcases h with rfl | h
      · simpa using hpending
      · exact ih List.not_mem_nil h
    · rw [splitFrom] at h
      · refine ih ?_ h
        simp only [List.mem_cons, not_or]
        exact ⟨Ne.symm hc, hpending⟩
      · exact hc

theorem pieces_append_slash (a b : String) : pieces (a ++ "/" ++ b) = pieces a ++ pieces b := by
  simp [pieces, splitFrom_append]

theorem pieces_of_not_mem {s : String} (h : '/' ∉ s.toList) : pieces s = [s] := by
  rw [pieces, splitFrom_of_not_mem [] h]
  simp

theorem pieces_joinPieces {body : List String} (hne : body ≠ []) (hslash : ∀ s ∈ body, '/' ∉ s.toList) :
    pieces (joinPieces body) = body := by
  induction body with
  | nil => exact absurd rfl hne
  | cons s rest ih =>
    have hs := hslash s List.mem_cons_self
    cases rest with
    | nil => simpa [joinPieces] using pieces_of_not_mem hs
    | cons t more =>
      have hrest := ih (List.cons_ne_nil t more) fun u hu => hslash u (List.mem_cons_of_mem s hu)
      rw [joinPieces, String.intercalate_cons_cons, pieces_append_slash, pieces_of_not_mem hs]
      exact congrArg (s :: ·) hrest

end Split

section Join
variable (directory path : String)

@[simp] theorem isIdle_empty : isIdle "" = true := rfl

@[simp] theorem isIdle_dot : isIdle "." = true := rfl

theorem solid_append_slash (a b : String) : solid (a ++ "/" ++ b) = solid a ++ solid b := by
  rw [solid, pieces_append_slash, List.filter_append]
  rfl

theorem isAbsolute_append {a b : String} (ha : a ≠ "") : isAbsolute (a ++ b) = isAbsolute a := by
  obtain ⟨c, rest, hcons⟩ := List.exists_cons_of_ne_nil (mt String.toList_eq_nil_iff.mp ha)
  simp [isAbsolute, hcons]

/-- A slash at the end of a directory makes no difference. -/
theorem solid_append_of_getLast {a b : String} (hslash : a.toList.getLast? = some '/') :
    solid (a ++ b) = solid a ++ solid b := by
  obtain ⟨xs, hxs⟩ := List.getLast?_eq_some_iff.mp hslash
  have ha : a = String.ofList xs ++ "/" ++ "" := by
    apply String.toList_injective
    simp [hxs]
  have hab : a ++ b = String.ofList xs ++ "/" ++ b := by
    apply String.toList_injective
    simp [hxs]
  rw [hab, solid_append_slash, ha, solid_append_slash]
  simp [solid, pieces, splitFrom]

theorem solid_join :
    solid (join directory path) = if isAbsolute path then solid path else solid directory ++ solid path := by
  unfold join
  by_cases hpath : isAbsolute path = true
  · simp [hpath]
  · by_cases hempty : directory = ""
    · simp [hempty, solid, pieces, splitFrom]
    · simp only [hpath, hempty, beq_iff_eq, Bool.false_or, if_false, Bool.false_eq_true]
      split
      · next hslash => exact solid_append_of_getLast hslash
      · exact solid_append_slash directory path

theorem isAbsolute_join : isAbsolute (join directory path) = (isAbsolute path || isAbsolute directory) := by
  unfold join
  by_cases hpath : isAbsolute path = true
  · simp [hpath]
  · by_cases hempty : directory = ""
    · simp [hempty, isAbsolute]
    · simp only [hpath, hempty, beq_iff_eq, Bool.false_or, if_false]
      split
      · exact isAbsolute_append hempty
      · rw [String.append_assoc]
        exact isAbsolute_append hempty

theorem solid_joinPieces {body : List String} (hslash : ∀ s ∈ body, '/' ∉ s.toList) :
    solid (joinPieces body) = body.filter fun piece => !isIdle piece := by
  cases body with
  | nil => simp [joinPieces, solid, pieces, splitFrom]
  | cons s rest => rw [solid, pieces_joinPieces (List.cons_ne_nil s rest) hslash]

theorem isAbsolute_joinPieces {s : String} (rest : List String) (hs : isIdle s = false)
    (hslash : '/' ∉ s.toList) : isAbsolute (joinPieces (s :: rest)) = false := by
  have hne : s ≠ "" := by
    rintro rfl
    simp at hs
  have hfirst : isAbsolute s = false := by
    obtain ⟨c, more, hcons⟩ := List.exists_cons_of_ne_nil (mt String.toList_eq_nil_iff.mp hne)
    simp only [hcons, List.mem_cons, not_or] at hslash
    simpa [isAbsolute, hcons] using Ne.symm hslash.1
  cases rest with
  | nil => simpa [joinPieces] using hfirst
  | cons t more =>
    rw [joinPieces, String.intercalate_cons_cons, String.append_assoc, isAbsolute_append hne]
    exact hfirst

/-- Entries of directories are pieces that say something. -/
theorem solid_foldl_join {names : List String} (hnames : ∀ n ∈ names, IsName n) :
    solid (names.foldl join directory) = solid directory ++ names ∧
      isAbsolute (names.foldl join directory) = isAbsolute directory := by
  induction names generalizing directory with
  | nil => simp
  | cons n rest ih =>
    obtain ⟨hidle, -, hslash⟩ := hnames n List.mem_cons_self
    have hrelative : isAbsolute n = false := by
      simpa [joinPieces] using isAbsolute_joinPieces [] hidle hslash
    have hsolid : solid n = [n] := by simp [solid, pieces_of_not_mem hslash, hidle]
    obtain ⟨hrest, habsolute⟩ := ih (join directory n) fun m hm => hnames m (List.mem_cons_of_mem n hm)
    rw [List.foldl_cons, hrest, habsolute, solid_join, isAbsolute_join, hsolid, hrelative]
    simp

theorem isAbsolute_foldl_join {directory : String} (hdirectory : isAbsolute directory = true)
    (names : List String) : isAbsolute (names.foldl join directory) = true := by
  induction names generalizing directory with
  | nil => exact hdirectory
  | cons n rest ih =>
    refine ih ?_
    rw [isAbsolute_join, hdirectory, Bool.or_true]

end Join

section WithoutDot

theorem filter_dropWhile_idle (body : List String) :
    (body.dropWhile isIdle).filter (fun piece => !isIdle piece) =
      body.filter fun piece => !isIdle piece := by
  induction body with
  | nil => rfl
  | cons s rest ih =>
    cases hs : isIdle s with
    | true => simpa [hs] using ih
    | false => simp [hs]

theorem filter_trimEnd (body : List String) :
    (trimEnd body).filter (fun piece => !isIdle piece) = body.filter fun piece => !isIdle piece := by
  rw [trimEnd, List.filter_reverse, filter_dropWhile_idle, List.filter_reverse, List.reverse_reverse]

theorem trimEnd_isPrefix (body : List String) : trimEnd body <+: body := by
  have hsuffix : body.reverse.dropWhile isIdle <:+ body.reverse := List.dropWhile_suffix isIdle
  simpa [trimEnd] using List.reverse_prefix.mpr hsuffix

theorem pieces_of_dot {path : String} (h : (parts path).head = .dot) :
    pieces path = "." :: (parts path).body ∧ isAbsolute path = false := by
  unfold isAbsolute
  unfold parts at h ⊢
  generalize path.toList = cs at h ⊢
  generalize pieces path = ps at h ⊢
  split at h
  · simp at h
  · next body hslash =>
    cases cs with
    | nil => simp
    | cons c rest =>
      have hc : c ≠ '/' := by
        rintro rfl
        exact hslash rest rfl
      simp [hc]
  · simp at h

/-- What follows a dot in front begins with a piece that says something, if it is not empty. -/
theorem pieces_after_dot {path s : String} {rest : List String} (hhead : (parts path).head = .dot)
    (hbody : trimEnd ((parts path).body.dropWhile isIdle) = s :: rest) :
    isIdle s = false ∧ ∀ t ∈ s :: rest, '/' ∉ t.toList := by
  obtain ⟨more, hmore⟩ := trimEnd_isPrefix ((parts path).body.dropWhile isIdle)
  rw [hbody] at hmore
  constructor
  · have hfirst := List.head?_dropWhile_not isIdle (parts path).body
    rw [← hmore] at hfirst
    simpa using hfirst
  · intro t ht
    have hbelow : t ∈ (parts path).body.dropWhile isIdle := hmore ▸ List.mem_append_left more ht
    have hmem : t ∈ pieces path := by
      rw [(pieces_of_dot hhead).1]
      exact List.mem_cons_of_mem _ ((List.dropWhile_suffix isIdle).subset hbelow)
    exact not_mem_of_mem_splitFrom List.not_mem_nil hmem

/-- Taking away a dot in front changes nothing of what a path says. -/
theorem solid_withoutDot (path : String) :
    solid (withoutDot path) = solid path ∧ isAbsolute (withoutDot path) = isAbsolute path := by
  unfold withoutDot
  simp only []
  split
  · exact ⟨rfl, rfl⟩
  · next _ _ hhead hne =>
    obtain ⟨hpieces, habsolute⟩ := pieces_of_dot hhead
    obtain ⟨s, rest, hbody⟩ := List.exists_cons_of_ne_nil hne
    obtain ⟨hs, hslash⟩ := pieces_after_dot hhead hbody
    have hfilter := filter_trimEnd ((parts path).body.dropWhile isIdle)
    rw [hbody, filter_dropWhile_idle] at hfilter
    rw [hbody, habsolute]
    refine ⟨?_, isAbsolute_joinPieces rest hs (hslash s List.mem_cons_self)⟩
    rw [solid_joinPieces hslash, hfilter, solid, hpieces]
    rfl
  · exact ⟨rfl, rfl⟩

end WithoutDot

section Below
variable {directory path other : String}

theorem below?_congr (hsolid : solid path = solid other) (habsolute : isAbsolute path = isAbsolute other) :
    below? directory path = below? directory other := by
  rw [below?, below?, hsolid, habsolute]

theorem below?_withoutDot : below? directory (withoutDot path) = below? directory path := by
  obtain ⟨hsolid, habsolute⟩ := solid_withoutDot path
  exact below?_congr hsolid habsolute

/-- The file that some names lead to from a directory is seen from there as these names. -/
theorem below?_foldl_join {names : List String} (hnames : ∀ n ∈ names, IsName n) :
    below? directory (names.foldl join directory) = some (joinPieces names) := by
  obtain ⟨hsolid, habsolute⟩ := solid_foldl_join directory hnames
  rw [below?, hsolid, habsolute, if_pos ⟨rfl, List.prefix_append _ _⟩, List.drop_left]

/-- A relative path, joined to a directory, is seen from there as it is spelled, apart from what says
nothing. -/
theorem below?_join (hrelative : isAbsolute path = false) :
    below? directory (join directory path) = some (joinPieces (solid path)) := by
  rw [below?, solid_join, isAbsolute_join, hrelative]
  simp

theorem componentOf_injective {s t : String} (h : componentOf s = componentOf t) : s = t := by
  unfold componentOf at h
  split at h
  · next hs =>
    split at h
    · next ht => exact (eq_of_beq hs).trans (eq_of_beq ht).symm
    · simp at h
  · split at h
    · simp at h
    · simpa using h

theorem mem_map_componentOf {c : Component} {body : List String} (h : c ∈ body.map componentOf) :
    c ≠ .root ∧ c ≠ .current := by
  obtain ⟨s, -, rfl⟩ := List.mem_map.mp h
  unfold componentOf
  split <;> simp

theorem solid_eq_body (path : String) :
    solid path = (parts path).body.filter (fun piece => !isIdle piece) ∧
      (isAbsolute path = true ↔ (parts path).head = .absolute) := by
  have hslash : isAbsolute path = true → ∃ body, pieces path = "" :: body := by
    intro habsolute
    have hfirst : path.toList.head? = some '/' := by simpa [isAbsolute] using habsolute
    obtain ⟨rest, hrest⟩ := List.head?_eq_some_iff.mp hfirst
    exact ⟨splitFrom [] rest, by simp [pieces, hrest, splitFrom]⟩
  unfold solid parts
  split
  · next first body hchars hpieces =>
    have habsolute : isAbsolute path = true := by simp [isAbsolute, hchars]
    obtain ⟨body', hbody'⟩ := hslash habsolute
    obtain ⟨rfl, rfl⟩ := List.cons.inj (hpieces.symm.trans hbody')
    simp [hpieces, habsolute]
  · next body hpieces _ =>
    have hrelative : isAbsolute path ≠ true := by
      intro habsolute
      obtain ⟨body', hbody'⟩ := hslash habsolute
      rw [hpieces] at hbody'
      exact absurd (List.cons.inj hbody').1 (by decide)
    simp [hpieces, hrelative]
  · next hno =>
    have hrelative : isAbsolute path ≠ true := by
      intro habsolute
      obtain ⟨body', hbody'⟩ := hslash habsolute
      have hfirst : path.toList.head? = some '/' := by simpa [isAbsolute] using habsolute
      obtain ⟨rest, hrest⟩ := List.head?_eq_some_iff.mp hfirst
      exact hno rest "" body' hrest hbody'
    simp [hrelative]

/-- Paths with the same components say the same. -/
theorem solid_of_components_eq (h : components path = components other) :
    solid path = solid other ∧ isAbsolute path = isAbsolute other := by
  obtain ⟨hpath, habsolute⟩ := solid_eq_body path
  obtain ⟨hother, habsolute'⟩ := solid_eq_body other
  rw [Bool.eq_iff_iff, habsolute, habsolute', hpath, hother]
  unfold components at h
  simp only [] at h
  generalize (parts path).body.filter _ = body at h ⊢
  generalize (parts other).body.filter _ = body' at h ⊢
  generalize (parts path).head = head at h ⊢
  generalize (parts other).head = head' at h ⊢
  have hinjective : body.map componentOf = body'.map componentOf → body = body' := by
    intro hmap
    exact (List.map_inj_right fun _ _ => componentOf_injective).mp hmap
  -- neither the root nor a dot in front is the component of a piece
  have hplain {c : Component} {xs : List Component} {ys : List String} (hc : c = .root ∨ c = .current) :
      c :: xs ≠ ys.map componentOf := by
    intro heq
    obtain ⟨hroot, hcurrent⟩ := mem_map_componentOf (heq ▸ List.mem_cons_self)
    rcases hc with hc | hc
    · exact hroot hc
    · exact hcurrent hc
  cases head <;> cases head' <;> simp at h ⊢
  all_goals first
    | exact hinjective h
    | exact absurd h (hplain (.inl rfl))
    | exact absurd h (hplain (.inr rfl))
    | exact absurd h.symm (hplain (.inl rfl))
    | exact absurd h.symm (hplain (.inr rfl))

end Below

end DocLint.Path
