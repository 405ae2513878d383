import DocLint.Pass
import DocLint.Proofs.Except

/-!
# What a pass reads

Every parser that some rule needs reads the source once. Which document a rule sees, and how many lines it
has, is a matter of the parsers and the source: it does not depend on which other rules there are.
-/

namespace DocLint

set_option autoImplicit false

namespace Parser

/-- The tokens that the parser makes are marked with its own kind. -/
def Faithful (p : Parser) : Prop :=
  ∀ source stream, p.parse source = .ok stream → stream.parser = p.kind

theorem faithful_of_mem_builtin {p : Parser} (hp : p ∈ builtin) : p.Faithful := by
  intro source stream h
  rcases List.mem_pair.mp hp with rfl | rfl
  all_goals
    simp only [markdown, plainText, bind_eq_ok_iff, pure, Except.pure, Except.ok.injEq] at h ⊢
    obtain ⟨_, -, rfl⟩ := h
    rfl

end Parser

namespace Pass
variable {name source : String} {parsers : List Parser} {documents : List Document}

/-- What one parser makes of a source. -/
def readOne (name source : String) (p : Parser) : Except LintError Document := do
  let stream ← (p.parse source).mapError .parse
  return .ofSource name source stream

theorem readAll_eq_mapM : readAll name source parsers = parsers.mapM (readOne name source) := by
  induction parsers with
  | nil => rfl
  | cons p rest ih => rw [List.mapM_cons, readAll, ih]; simp [readOne]

theorem readOne_eq_ok_iff {p : Parser} {d : Document} :
    readOne name source p = .ok d ↔ ∃ stream, p.parse source = .ok stream ∧ d = .ofSource name source stream := by
  simp only [readOne, bind_eq_ok_iff, mapError_eq_ok_iff, pure, Except.pure, Except.ok.injEq]
  exact exists_congr fun _ => and_congr_right fun _ => eq_comm

theorem readOne_eq_error_iff {p : Parser} {e : LintError} :
    readOne name source p = .error e ↔ ∃ cause, p.parse source = .error cause ∧ e = .parse cause := by
  rw [readOne, bind_pure_eq_error_iff, mapError_eq_error_iff]
  exact exists_congr fun _ => and_congr_right fun _ => eq_comm

/-- A source is read when every parser accepts it, into one document for each of them. -/
theorem readAll_eq_ok_iff :
    readAll name source parsers = .ok documents ↔
      List.Forall₂ (fun p d => ∃ stream, p.parse source = .ok stream ∧ d = .ofSource name source stream)
        parsers documents := by
  rw [readAll_eq_mapM, mapM_eq_ok_iff]
  simp only [readOne_eq_ok_iff]

theorem exists_readAll_iff :
    (∃ documents, readAll name source parsers = .ok documents) ↔
      ∀ p ∈ parsers, ∃ stream, p.parse source = .ok stream := by
  simp only [readAll_eq_ok_iff, exists_forall₂_iff]
  constructor
  · intro h p hp
    obtain ⟨d, stream, hstream, -⟩ := h p hp
    exact ⟨stream, hstream⟩
  · intro h p hp
    obtain ⟨stream, hstream⟩ := h p hp
    exact ⟨_, stream, hstream, rfl⟩

/-- A source is not read when some parser rejects it. The first one that does tells why. -/
theorem readAll_eq_error_iff {e : LintError} :
    readAll name source parsers = .error e ↔
      ∃ before p after cause, parsers = before ++ p :: after ∧
        (∀ q ∈ before, ∃ stream, q.parse source = .ok stream) ∧ p.parse source = .error cause ∧
        e = .parse cause := by
  have haccepts (q : Parser) :
      (∃ d, readOne name source q = .ok d) ↔ ∃ stream, q.parse source = .ok stream := by
    simp only [readOne_eq_ok_iff]
    constructor
    · rintro ⟨_, stream, hstream, -⟩
      exact ⟨stream, hstream⟩
    · rintro ⟨stream, hstream⟩
      exact ⟨_, stream, hstream, rfl⟩
  rw [readAll_eq_mapM, mapM_eq_error_iff]
  simp only [haccepts, readOne_eq_error_iff]
  constructor
  · rintro ⟨before, p, after, hsplit, hbefore, cause, hp, he⟩
    exact ⟨before, p, after, cause, hsplit, hbefore, hp, he⟩
  · rintro ⟨before, p, after, cause, hsplit, hbefore, hp, he⟩
    exact ⟨before, p, after, hsplit, hbefore, cause, hp, he⟩

/-- However many parsers read a source, and whichever they are, it has the lines that it has. -/
theorem lineBound_eq (h : readAll name source parsers = .ok documents) :
    lineBound documents source = (physicalLines source).length := by
  rw [readAll_eq_ok_iff] at h
  cases h with
  | nil => simp [lineBound, splitLines]
  | cons hd _ =>
    obtain ⟨stream, -, rfl⟩ := hd
    simp [lineBound, Document.lineCount, Document.ofSource, splitLines]

theorem kind_of_findParser {kind : ParserKind} {p : Parser} (h : findParser parsers kind = some p) :
    p.kind = kind := by
  simpa using List.find?_some h

theorem mem_neededParsers {invs : List Invocation} {p : Parser} :
    p ∈ neededParsers parsers invs ↔ ∃ inv ∈ invs, findParser parsers inv.parser = some p := by
  simp only [neededParsers, List.mem_filterMap, Option.ite_none_right_eq_some, List.any_eq_true,
    decide_eq_true_eq]
  constructor
  · rintro ⟨kind, -, ⟨inv, hinv, rfl⟩, hfind⟩
    exact ⟨inv, hinv, hfind⟩
  · rintro ⟨inv, hinv, hfind⟩
    exact ⟨inv.parser, by cases inv.parser <;> simp, ⟨inv, hinv, rfl⟩, hfind⟩

theorem find?_neededParsers {invs : List Invocation} {inv : Invocation} (hinv : inv ∈ invs) :
    ((neededParsers parsers invs).find? fun p => p.kind = inv.parser) = findParser parsers inv.parser := by
  let needed (kind : ParserKind) : Option Parser :=
    if invs.any fun inv => inv.parser = kind then findParser parsers kind else none
  have hneeded : needed inv.parser = findParser parsers inv.parser := by
    simp only [needed, List.any_eq_true, decide_eq_true_eq]
    rw [if_pos ⟨inv, hinv, rfl⟩]
  have hkind (kind : ParserKind) (p : Parser) (h : needed kind = some p) : p.kind = kind := by
    simp only [needed, Option.ite_none_right_eq_some] at h
    exact kind_of_findParser h.2
  have hany (kind : ParserKind) : ((needed kind).any fun p => p.kind = inv.parser) =
      (decide (kind = inv.parser) && (needed kind).isSome) := by
    cases hp : needed kind with
    | none => simp
    | some p => simp [hkind kind p hp]
  have hfilter : neededParsers parsers invs = [ParserKind.markdown, .text].filterMap needed := rfl
  rw [hfilter, List.find?_filterMap, ← hneeded]
  simp only [hany]
  cases inv.parser with
  | markdown => cases hfound : needed .markdown <;> simp [hfound]
  | text => cases hfound : needed .text <;> simp [hfound]

/-- The document that rules with a kind of parser see. -/
def documentFor (parsers : List Parser) (name source : String) (kind : ParserKind) : Option Document :=
  (findParser parsers kind).bind fun p => (p.parse source).toOption.map (.ofSource name source)

/-- Which document a rule sees does not depend on the other rules. -/
theorem find?_document {invs : List Invocation} {inv : Invocation}
    (hfaithful : ∀ p ∈ parsers, p.Faithful)
    (hread : readAll name source (neededParsers parsers invs) = .ok documents) (hinv : inv ∈ invs) :
    (documents.find? fun d => d.parser = inv.parser) = documentFor parsers name source inv.parser := by
  have hneeded : ∀ p ∈ neededParsers parsers invs, p.Faithful := by
    intro p hp
    obtain ⟨inv, -, hfind⟩ := mem_neededParsers.mp hp
    exact hfaithful p (List.mem_of_find?_eq_some hfind)
  rw [documentFor, ← find?_neededParsers hinv]
  rw [readAll_eq_ok_iff] at hread
  generalize neededParsers parsers invs = needed at hread hneeded
  induction hread with
  | nil => rfl
  | @cons p d ps ds hd _ ih =>
    obtain ⟨stream, hstream, rfl⟩ := hd
    have hkind : stream.parser = p.kind := hneeded p List.mem_cons_self source stream hstream
    have hrest := ih fun q hq => hneeded q (List.mem_cons_of_mem _ hq)
    by_cases hp : p.kind = inv.parser
    · simp [Document.ofSource, hkind, hp, hstream, Except.toOption]
    · simpa [Document.ofSource, hkind, hp] using hrest

end Pass

end DocLint
