import DocLint.Pass
import DocLint.Proofs.StableSort
import DocLint.Proofs.Text.ByteOrder
import Mathlib.Data.List.Lex
import Mathlib.Data.Prod.Lex

/-!
# The order of violations

Violations are put in order by a stable sort, after duplicates have been dropped if so configured. Leaving
out the violations of some rules before or after that makes no difference.
-/

namespace DocLint

set_option autoImplicit false

namespace Violation

/-- By what violations are ordered: the line, then the bytes of the rule's primary name. -/
def sortKey (v : Violation) : Nat ×ₗ List Nat :=
  toLex (v.line, Text.bytes v.ruleName)

theorem before_iff (v w : Violation) : v.before w = true ↔ v.sortKey ≤ w.sortKey := by
  have hname : (!Text.bytesLt w.ruleName v.ruleName) = true ↔
      Text.bytes v.ruleName ≤ Text.bytes w.ruleName := by
    rw [Bool.not_eq_true', ← Bool.not_eq_true, Text.bytesLt_iff, not_lt]
  simp only [before, sortKey, Bool.or_eq_true, Bool.and_eq_true, decide_eq_true_eq, beq_iff_eq, hname,
    Prod.Lex.toLex_le_toLex]

end Violation

namespace Pass

theorem isStableSort_arrange (config : Config) (all : List Violation) :
    IsStableSort Violation.sortKey (if config.deduplicate then dedup [] all else all)
      (arrange config all) :=
  isStableSort_mergeSort _ Violation.before_iff _

section Filter
variable {p : Violation → Bool} {q : Violation.Key → Bool}

/-- Whether a violation is dropped as a duplicate depends on those of its own key only. So it is all the same
what is remembered of the keys that are left out. -/
theorem dedup_filter (hpq : ∀ v, p v = q v.key) (all : List Violation) {seen seen' : List Violation.Key}
    (hseen : ∀ k, q k = true → (k ∈ seen ↔ k ∈ seen')) :
    (dedup seen all).filter p = dedup seen' (all.filter p) := by
  induction all generalizing seen seen' with
  | nil => rfl
  | cons v rest ih =>
    simp only [dedup, List.contains_iff_mem]
    by_cases hv : q v.key = true
    · have hp : p v = true := by rw [hpq, hv]
      rw [List.filter_cons_of_pos hp]
      simp only [dedup, List.contains_iff_mem, ← hseen v.key hv]
      split
      · exact ih hseen
      · rw [List.filter_cons_of_pos hp]
        congr 1
        apply ih
        intro k hk
        rw [List.mem_cons, List.mem_cons, hseen k hk]
    -- the key of a violation that is left out is remembered on the left only
    · have hp : ¬ p v = true := by rwa [hpq]
      rw [List.filter_cons_of_neg hp]
      split
      · exact ih hseen
      · rw [List.filter_cons_of_neg hp]
        apply ih
        intro k hk
        have hne : k ≠ v.key := fun heq => hv (heq ▸ hk)
        rw [List.mem_cons, or_iff_right hne, hseen k hk]

/-- Leaving out violations by their keys commutes with putting them in order. -/
theorem arrange_filter (hpq : ∀ v, p v = q v.key) (config : Config) (all : List Violation) :
    (arrange config all).filter p = arrange config (all.filter p) := by
  have hsort := (isStableSort_arrange config all).filter p
  have hbase : (if config.deduplicate then dedup [] all else all).filter p =
      if config.deduplicate then dedup [] (all.filter p) else all.filter p := by
    split
    · exact dedup_filter hpq all fun _ _ => Iff.rfl
    · rfl
  rw [hbase] at hsort
  exact hsort.unique (isStableSort_arrange config _)

end Filter

end Pass

end DocLint
