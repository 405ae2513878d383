import DocLint.Token.Basic

/-!
# Walking over tokens

Tokens are visited in the order in which they begin in the document: a token before its children, and
these before its next sibling.
-/

namespace DocLint

set_option autoImplicit false

/-- All tokens of a forest, parents before children. -/
def preorder : List Token → List Token
  | [] => []
  | ⟨type, line, endLine, span, content, info, children⟩ :: rest =>
    ⟨type, line, endLine, span, content, info, children⟩ :: (preorder children ++ preorder rest)

@[simp] theorem preorder_nil : preorder [] = [] := by
  rw [preorder]

@[simp] theorem preorder_cons (t : Token) (rest : List Token) :
    preorder (t :: rest) = t :: (preorder t.children ++ preorder rest) := by
  cases t
  rw [preorder]

/-- Whether a walk goes on after a token. -/
inductive Flow where
  | goOn
  | stop
  deriving DecidableEq, Repr

/-- Visits the tokens of a forest with a state, until a visit stops the walk. -/
def walk {σ : Type} (visit : Token → σ → Flow × σ) : List Token → σ → Flow × σ
  | [], s => (.goOn, s)
  | ⟨type, line, endLine, span, content, info, children⟩ :: rest, s =>
    match visit ⟨type, line, endLine, span, content, info, children⟩ s with
    | (.stop, s) => (.stop, s)
    | (.goOn, s) =>
      match walk visit children s with
      | (.stop, s) => (.stop, s)
      | (.goOn, s) => walk visit rest s

/-- A place in a walk: the tokens that are still to be visited, of the innermost forest first. -/
structure TokenCursor where
  forests : List (List Token)

namespace TokenCursor

/-- The begin of a walk. -/
def ofTokens (tokens : List Token) : TokenCursor :=
  ⟨[tokens]⟩

/-- The first token of some forests, those that are used up being passed over, and the place after it. -/
def nextFrom : List (List Token) → Option Token × TokenCursor
  | [] => (none, ⟨[]⟩)
  | [] :: rest => nextFrom rest
  | (t :: more) :: rest =>
    (some t, ⟨if t.children.isEmpty then more :: rest else t.children :: more :: rest⟩)

/-- The next token, if there is one, and the place after it. -/
def next (c : TokenCursor) : Option Token × TokenCursor :=
  nextFrom c.forests

/-- What a cursor gives when it is asked for the next token so many times. -/
def read (c : TokenCursor) : Nat → List (Option Token)
  | 0 => []
  | n + 1 =>
    let (t, c) := c.next
    t :: read c n

/-- The tokens that are still to be visited, at most `n` of them. -/
def take (c : TokenCursor) : Nat → List Token
  | 0 => []
  | n + 1 =>
    match c.next with
    | (none, _) => []
    | (some t, c) => t :: take c n

/-- What the forests still hold, which is what is still to be visited. -/
def pending (c : TokenCursor) : List Token :=
  c.forests.flatMap preorder

theorem pending_nextFrom {forests : List (List Token)} {t : Token} {c : TokenCursor}
    (h : nextFrom forests = (some t, c)) : forests.flatMap preorder = t :: c.pending := by
  fun_induction nextFrom forests with
  | case1 => cases h
  | case2 rest ih => simpa using ih h
  | case3 t more rest =>
    cases h
    by_cases hleaf : t.children = []
    · simp [pending, hleaf]
    · simp [pending, hleaf]

/-- All tokens that are still to be visited. -/
def toList (c : TokenCursor) : List Token :=
  match hnext : c.next with
  | (none, _) => []
  | (some t, c') =>
    have _ : c.pending = t :: c'.pending := pending_nextFrom hnext
    t :: c'.toList
termination_by c.pending.length
decreasing_by
  rw [‹c.pending = t :: c'.pending›]
  exact Nat.lt_succ_self _

end TokenCursor

/-- Visits tokens with a state, one after the other, and collects the results. -/
def visitEach {α σ : Type} (visit : Token → σ → α × σ) : List Token → σ → List α × σ
  | [], s => ([], s)
  | t :: rest, s =>
    let (a, s) := visit t s
    let (more, s) := visitEach visit rest s
    (a :: more, s)

/-- Visits the tokens of one type with a state, and collects the results. -/
def filterVisits {α σ : Type} (tokens : List Token) (type : TokenType) (visit : Token → σ → α × σ)
    (s : σ) : List α × σ :=
  visitEach visit ((TokenCursor.ofTokens tokens).toList.filter (·.type = type)) s

/-- The results of visiting the tokens of one type. -/
def filterTokens {α : Type} (tokens : List Token) (type : TokenType) (visit : Token → α) : List α :=
  (filterVisits tokens type (fun t s => (visit t, s)) ()).1

end DocLint
