import DocLint.Document
import DocLint.Proofs.LineIndex
import Mathlib.Data.List.Forall2

/-!
# Tokens by their lines

The contour of a token is what can be said of it in terms of lines: its type, its first and last line, the lines of
what it holds, and the contours of the tokens inside it. Which block covers a line can be read off the contours.
-/

namespace DocLint

set_option autoImplicit false

structure Contour where
  type : TokenType
  line : Nat
  endLine : Nat
  /-- The lines of the content. -/
  lines : List String
  children : List Contour

/-- The contours of the tokens of a forest. -/
def contours : List Token → List Contour
  | [] => []
  | ⟨type, line, endLine, _, content, _, children⟩ :: rest =>
    ⟨type, line, endLine, splitLines content, contours children⟩ :: contours rest

def Token.contour (t : Token) : Contour :=
  ⟨t.type, t.line, t.endLine, splitLines t.content, contours t.children⟩

/-- Two records of a line that differ in the bytes of the block alone: what they hold stands at the same address. -/
structure SameRecord (tokens tokens' : List Token) (r r' : LineRecord) : Prop where
  number : r.number = r'.number
  text : r.text = r'.text
  kind : r.kind = r'.kind
  token : r.token = none ∧ r'.token = none ∨
    ∃ a t t', tokenAt? tokens a = some t ∧ tokenAt? tokens' a = some t' ∧ r.token = some t ∧ r'.token = some t'

/-- Two documents that differ in the bytes of their tokens alone. -/
structure SameLayout (d d' : Document) : Prop where
  name : d.name = d'.name
  parser : d.parser = d'.parser
  lines : d.lines = d'.lines
  contours : contours d.tokens = contours d'.tokens
  records : List.Forall₂ (SameRecord d.tokens d'.tokens) d.index.records d'.index.records

section Contours
variable {tokens tokens' : List Token} {n : Nat}

theorem contours_cons (t : Token) (rest : List Token) : contours (t :: rest) = t.contour :: contours rest := by
  cases t
  rw [contours]
  rfl

theorem contours_eq_map (tokens : List Token) : contours tokens = tokens.map Token.contour := by
  induction tokens with
  | nil => rw [contours, List.map_nil]
  | cons t rest ih => rw [contours_cons, ih, List.map_cons]

/-- The places of the tokens and their contours are known from the contours. -/
theorem map_placesFrom_eq (i : Nat) (h : contours tokens = contours tokens') :
    (placesFrom i tokens).map (fun p => (p.1, p.2.contour)) =
      (placesFrom i tokens').map fun p => (p.1, p.2.contour) := by
  fun_induction placesFrom i tokens generalizing tokens' with
  | case1 =>
    cases tokens' with
    | nil => rw [placesFrom_nil]
    | cons t' rest' =>
      rw [contours, contours_cons] at h
      cases h
  | case2 i type line endLine span content info children rest ihchildren ihrest =>
    cases tokens' with
    | nil =>
      rw [contours_cons, contours] at h
      cases h
    | cons t' rest' =>
      rw [contours_cons, contours_cons] at h
      obtain ⟨hfirst, hrest⟩ := List.cons.inj h
      have hchildren : contours children = contours t'.children := congrArg Contour.children hfirst
      have hinner := congrArg (List.map fun q : List Nat × Contour => (i :: q.1, q.2)) (ihchildren hchildren)
      rw [List.map_map, List.map_map] at hinner
      rw [placesFrom_cons, List.map_cons, List.map_cons, List.map_append, List.map_append, List.map_map, List.map_map,
        ihrest hrest, hfirst]
      exact congrArg (fun l => (([i], t'.contour) : List Nat × Contour) :: (l ++ _)) hinner

/-- The place of the last block that covers a line. -/
def lastPlace (tokens : List Token) (n : Nat) : Option (List Nat × Token) :=
  ((places tokens).filter fun p => p.2.type.isBlock && p.2.coversLine n).getLast?

theorem lastBlock_eq (tokens : List Token) (n : Nat) : lastBlock tokens n = (lastPlace tokens n).map Prod.snd := by
  rw [lastPlace, ← List.getLast?_map, lastBlock, ← map_snd_places, List.filter_map]
  rfl

theorem tokenAt?_of_lastPlace {p : List Nat × Token} (h : lastPlace tokens n = some p) :
    tokenAt? tokens p.1 = some p.2 :=
  mem_places_iff.mp (List.mem_filter.mp (List.mem_of_getLast? h)).1

theorem map_lastPlace_eq (h : contours tokens = contours tokens') (n : Nat) :
    (lastPlace tokens n).map (fun p => (p.1, p.2.contour)) =
      (lastPlace tokens' n).map fun p => (p.1, p.2.contour) := by
  -- whether a token is a block that covers the line is known from its contour
  let covers (q : List Nat × Contour) : Bool :=
    q.2.type.isBlock && (decide (q.2.line ≤ n) && decide (n ≤ q.2.endLine))
  have hread (tokens : List Token) : (lastPlace tokens n).map (fun p => (p.1, p.2.contour)) =
      (((places tokens).map fun p => (p.1, p.2.contour)).filter covers).getLast? := by
    rw [List.filter_map, List.getLast?_map]
    rfl
  rw [hread, hread, places, places, map_placesFrom_eq 0 h]

theorem sameRecord_of_contours (h : contours tokens = contours tokens') (text : String) :
    SameRecord tokens tokens' (.ofBlock n text (lastBlock tokens n)) (.ofBlock n text (lastBlock tokens' n)) := by
  have hplaces := map_lastPlace_eq h n
  rw [lastBlock_eq, lastBlock_eq]
  cases hp : lastPlace tokens n with
  | none =>
    rw [hp, Option.map_none, eq_comm, Option.map_eq_none_iff] at hplaces
    rw [hplaces]
    exact ⟨rfl, rfl, rfl, .inl ⟨rfl, rfl⟩⟩
  | some p =>
    rw [hp, Option.map_some, eq_comm, Option.map_eq_some_iff] at hplaces
    obtain ⟨p', hp', heq⟩ := hplaces
    obtain ⟨haddress, hcontour⟩ := Prod.mk.inj heq
    have htype : p.2.type = p'.2.type := congrArg Contour.type hcontour.symm
    have hat' := tokenAt?_of_lastPlace hp'
    rw [haddress] at hat'
    rw [hp']
    refine ⟨rfl, rfl, ?_, .inr ⟨p.1, p.2, p'.2, tokenAt?_of_lastPlace hp, hat', rfl, rfl⟩⟩
    exact congrArg LineKind.ofType htype

/-- Lines and contours are enough for the layout. -/
theorem sameLayout_of_contours {d d' : Document} (hname : d.name = d'.name) (hparser : d.parser = d'.parser)
    (hlines : d.lines = d'.lines) (hcontours : contours d.tokens = contours d'.tokens) : SameLayout d d' := by
  refine ⟨hname, hparser, hlines, hcontours, ?_⟩
  rw [Document.index, Document.index, LineIndex.records_build, LineIndex.records_build, hlines]
  apply List.forall₂_iff_get.mpr
  constructor
  · rw [List.length_mapIdx, List.length_mapIdx]
  · intro i hi hi'
    rw [List.get_eq_getElem, List.get_eq_getElem, List.getElem_mapIdx, List.getElem_mapIdx]
    exact sameRecord_of_contours hcontours _

end Contours

end DocLint
