import DocLint.Proofs.Token.Address

/-!
# Three walks in one order

A cursor keeps the forests that it has entered and not left. What they still hold is what it will give, so it
gives the tokens in preorder. The recursive walk and the filter by type call their visitors in the same order.
-/

namespace DocLint

set_option autoImplicit false

namespace TokenCursor
variable {forests : List (List Token)}

theorem pending_ofTokens (tokens : List Token) : (ofTokens tokens).pending = preorder tokens := by
  simp [pending, ofTokens]

theorem pending_nextFrom_of_done {c : TokenCursor} (h : nextFrom forests = (none, c)) :
    forests.flatMap preorder = [] ∧ c.pending = [] := by
  fun_induction nextFrom forests with
  | case1 =>
    cases h
    exact ⟨rfl, rfl⟩
  | case2 rest ih => simpa using ih h
  | case3 => cases h

theorem next_eq (c : TokenCursor) : c.next.1 = c.pending.head? ∧ c.next.2.pending = c.pending.tail := by
  rcases hnext : c.next with ⟨_ | t, c'⟩
  · obtain ⟨hdone, hdone'⟩ := pending_nextFrom_of_done hnext
    rw [hdone', pending, hdone]
    exact ⟨rfl, rfl⟩
  · rw [pending, pending_nextFrom hnext]
    exact ⟨rfl, rfl⟩

theorem read_eq (c : TokenCursor) (n : Nat) : c.read n = (List.range n).map fun k => c.pending[k]? := by
  induction n generalizing c with
  | zero => rfl
  | succ n ih =>
    obtain ⟨hhead, htail⟩ := c.next_eq
    rw [read, List.range_succ_eq_map]
    simp [ih, hhead, htail, List.head?_eq_getElem?]

theorem toList_eq (c : TokenCursor) : c.toList = c.pending := by
  fun_induction toList c with
  | case1 c c' hnext => exact (pending_nextFrom_of_done hnext).1.symm
  | case2 c t c' hnext hpending ih => rw [ih, hpending]

theorem toList_ofTokens (tokens : List Token) : (ofTokens tokens).toList = preorder tokens := by
  rw [toList_eq, pending_ofTokens]

end TokenCursor

section Visits
variable {α β σ : Type}

/-- A visitor that also keeps what it is called on. -/
def logged (visit : Token → σ → β × σ) (t : Token) (s : List Token × σ) : β × (List Token × σ) :=
  ((visit t s.2).1, s.1 ++ [t], (visit t s.2).2)

/-- How visits of some tokens, one after the other, answer and lead from one state to another. -/
inductive Visits (visit : Token → σ → β × σ) : List Token → σ → List β → σ → Prop where
  | nil (s : σ) : Visits visit [] s [] s
  | cons {t : Token} {rest : List Token} {s s₁ s₂ : σ} {b : β} {more : List β} :
    visit t s = (b, s₁) → Visits visit rest s₁ more s₂ → Visits visit (t :: rest) s (b :: more) s₂

/-- A walk over a list of tokens that has no structure. -/
def walkList (visit : Token → σ → Flow × σ) : List Token → σ → Flow × σ
  | [], s => (.goOn, s)
  | t :: rest, s =>
    match visit t s with
    | (.stop, s) => (.stop, s)
    | (.goOn, s) => walkList visit rest s

theorem walkList_append (visit : Token → σ → Flow × σ) (a b : List Token) (s : σ) :
    walkList visit (a ++ b) s =
      match walkList visit a s with
      | (.stop, s) => (.stop, s)
      | (.goOn, s) => walkList visit b s := by
  fun_induction walkList visit a s with
  | case1 => rfl
  | case2 s t rest s' hvisit => simp [walkList, hvisit]
  | case3 s t rest s' hvisit ih => simp [walkList, hvisit, ih]

theorem walk_eq_walkList (visit : Token → σ → Flow × σ) (tokens : List Token) (s : σ) :
    walk visit tokens s = walkList visit (preorder tokens) s := by
  fun_induction walk visit tokens s with
  | case1 => simp [walkList]
  | case2 => simp_all [walkList]
  | case3 => simp_all [walkList, walkList_append]
  | case4 => simp_all [walkList, walkList_append]

/-- Where a walk over a list ends: behind its last token, or behind the first one that stops it. -/
theorem visits_walkList (visit : Token → σ → Flow × σ) (tokens done : List Token) (s : σ) :
    ∃ flow called s', walkList visit tokens s = (flow, s') ∧
      walkList (logged visit) tokens (done, s) = (flow, done ++ called, s') ∧ called <+: tokens ∧
      (flow = .goOn → called = tokens ∧
        Visits visit called s (List.replicate called.length .goOn) s') ∧
      (flow = .stop → ∃ k, Visits visit called s (List.replicate k .goOn ++ [.stop]) s') := by
  induction tokens generalizing done s with
  | nil => exact ⟨.goOn, [], s, rfl, by simp [walkList], List.nil_prefix, fun _ => ⟨rfl, .nil s⟩, nofun⟩
  | cons t rest ih =>
    cases hvisit : visit t s with
    | mk answer s₁ =>
      have hlogged : logged visit t (done, s) = (answer, done ++ [t], s₁) := by simp [logged, hvisit]
      cases answer with
      | stop =>
        refine ⟨.stop, [t], s₁, by simp [walkList, hvisit], by simp [walkList, hlogged], ?_, nofun, ?_⟩
        · exact List.cons_prefix_cons.mpr ⟨rfl, List.nil_prefix⟩
        · exact fun _ => ⟨0, .cons hvisit (.nil s₁)⟩
      | goOn =>
        obtain ⟨flow, called, s', hwalk, hlog, hprefix, hon, hstop⟩ := ih (done ++ [t]) s₁
        refine ⟨flow, t :: called, s', by simp [walkList, hvisit, hwalk], ?_,
          List.cons_prefix_cons.mpr ⟨rfl, hprefix⟩, ?_, ?_⟩
        · simp [walkList, hlogged, hlog]
        · intro hflow
          obtain ⟨rfl, hvisits⟩ := hon hflow
          exact ⟨rfl, .cons hvisit hvisits⟩
        · intro hflow
          obtain ⟨k, hvisits⟩ := hstop hflow
          exact ⟨k + 1, .cons hvisit hvisits⟩

/-- Visiting each of some tokens calls the visitor on them and nothing else. -/
theorem visits_visitEach (visit : Token → σ → α × σ) (tokens done : List Token) (s : σ) :
    (visitEach (logged visit) tokens (done, s)).2.1 = done ++ tokens ∧
      (visitEach (logged visit) tokens (done, s)).1 = (visitEach visit tokens s).1 ∧
      (visitEach (logged visit) tokens (done, s)).2.2 = (visitEach visit tokens s).2 ∧
      Visits visit tokens s (visitEach visit tokens s).1 (visitEach visit tokens s).2 := by
  induction tokens generalizing done s with
  | nil => exact ⟨by simp [visitEach], rfl, rfl, .nil s⟩
  | cons t rest ih =>
    obtain ⟨hcalled, hresults, hstate, hvisits⟩ := ih (done ++ [t]) (visit t s).2
    refine ⟨?_, ?_, hstate, .cons rfl hvisits⟩
    · simpa [visitEach, logged] using hcalled
    · simpa [visitEach, logged] using hresults

theorem visitEach_pure (visit : Token → α) (tokens : List Token) :
    (visitEach (fun t (s : Unit) => (visit t, s)) tokens ()).1 = tokens.map visit := by
  induction tokens with
  | nil => rfl
  | cons t rest ih => simpa [visitEach] using ih

theorem filterTokens_eq (tokens : List Token) (type : TokenType) (visit : Token → α) :
    filterTokens tokens type visit = ((preorder tokens).filter (·.type = type)).map visit := by
  rw [filterTokens, filterVisits, visitEach_pure, TokenCursor.toList_ofTokens]

end Visits

section Types

/-- Sorted by keys that are all different, the members of a list with one of these keys are still there. -/
theorem flatMap_filter_perm {α β : Type} [DecidableEq β] (key : α → β) (l : List α) {keys : List β}
    (hkeys : keys.Nodup) : (keys.flatMap fun k => l.filter (key · = k)).Perm (l.filter (key · ∈ keys)) := by
  induction keys with
  | nil => simp
  | cons k rest ih =>
    obtain ⟨hk, hrest⟩ := List.nodup_cons.mp hkeys
    have hfirst : (l.filter (key · ∈ k :: rest)).filter (key · = k) = l.filter (key · = k) := by
      rw [List.filter_filter]
      exact List.filter_congr fun x _ => by simp +contextual
    have hothers : (l.filter (key · ∈ k :: rest)).filter (fun x => !decide (key x = k)) =
        l.filter (key · ∈ rest) := by
      rw [List.filter_filter]
      refine List.filter_congr fun x _ => ?_
      by_cases hx : key x = k
      · simp [hx, hk]
      · simp [hx]
    rw [List.flatMap_cons]
    refine ((ih hrest).append_left _).trans ?_
    rw [← hfirst, ← hothers]
    exact List.filter_append_perm _ _

theorem filterTokens_all_perm (tokens : List Token) :
    (TokenType.all.flatMap fun type => filterTokens tokens type id).Perm (preorder tokens) := by
  have hnodup : TokenType.all.Nodup := by decide
  have hall : (preorder tokens).filter (·.type ∈ TokenType.all) = preorder tokens :=
    List.filter_eq_self.mpr fun t _ => decide_eq_true t.type.mem_all
  have hperm := flatMap_filter_perm Token.type (preorder tokens) hnodup
  simpa only [filterTokens_eq, List.map_id, hall] using hperm

end Types

/-- A cursor gives the tokens in the order of their addresses, and then nothing, however often it is asked
again. A walk calls its visitor on the first of these, up to the one that stops it. Visiting one type calls the
visitor on the tokens of this type, and over all types every token is visited once. -/
theorem visits_in_address_order (tokens : List Token) :
    InAddressOrder tokens (preorder tokens) ∧
      (TokenCursor.ofTokens tokens).toList = preorder tokens ∧
      (∀ n, (TokenCursor.ofTokens tokens).read n = (List.range n).map fun k => (preorder tokens)[k]?) ∧
      (∀ {σ : Type} (visit : Token → σ → Flow × σ) (s : σ), ∃ flow called s',
        walk visit tokens s = (flow, s') ∧ walk (logged visit) tokens ([], s) = (flow, called, s') ∧
          called <+: preorder tokens ∧
          (flow = .goOn → called = preorder tokens ∧
            Visits visit called s (List.replicate called.length .goOn) s') ∧
          (flow = .stop → ∃ k, Visits visit called s (List.replicate k .goOn ++ [.stop]) s')) ∧
      (∀ {α σ : Type} (type : TokenType) (visit : Token → σ → α × σ) (s : σ), ∃ results s',
        filterVisits tokens type visit s = (results, s') ∧
          filterVisits tokens type (logged visit) ([], s) =
            (results, (preorder tokens).filter (·.type = type), s') ∧
          Visits visit ((preorder tokens).filter (·.type = type)) s results s') ∧
      (TokenType.all.flatMap fun type => filterTokens tokens type id).Perm (preorder tokens) := by
  refine ⟨inAddressOrder_preorder tokens, TokenCursor.toList_ofTokens tokens, ?read, ?walk, ?filter,
    filterTokens_all_perm tokens⟩
  case read =>
    intro n
    rw [TokenCursor.read_eq, TokenCursor.pending_ofTokens]
  case walk =>
    intro σ visit s
    simp only [walk_eq_walkList]
    exact visits_walkList visit (preorder tokens) [] s
  case filter =>
    intro α σ type visit s
    obtain ⟨hcalled, hresults, hstate, hvisits⟩ :=
      visits_visitEach visit ((preorder tokens).filter (·.type = type)) [] s
    simp only [filterVisits, TokenCursor.toList_ofTokens]
    exact ⟨_, _, rfl, Prod.ext hresults (Prod.ext hcalled hstate), hvisits⟩

end DocLint
