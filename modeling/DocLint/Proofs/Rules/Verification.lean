import DocLint.Proofs.Rules.LintJavascript
import DocLint.Proofs.Rules.OptionValues
import DocLint.Proofs.Token.Walk

/-!
# What the analyzer is asked, and what is reported

Without fences in the configured languages the analyzer is not asked at all. Else it is asked once for the
configuration, and if it has one, once for every fence. Whatever the order is in which the fences end, the calls
and the reports are in the order of the document.
-/

namespace DocLint.LintJavascript

set_option autoImplicit false

/-- A fence of code in one of the languages, in any case. -/
def Options.Selects (o : Options) (t : Token) : Prop :=
  t.type = .fence ∧ ∃ language, t.language? = some language ∧
    ∃ l ∈ o.languages, Text.eqIgnoreCase l language = true

namespace Options
variable {o : Options} {t : Token}

theorem covers_iff :
    o.covers t = true ↔
      ∃ language, t.language? = some language ∧ ∃ l ∈ o.languages, Text.eqIgnoreCase l language = true := by
  cases hlanguage : t.language? with
  | none => simp [covers, hlanguage]
  | some language => simp [covers, hlanguage]

instance (o : Options) : DecidablePred o.Selects := fun t =>
  decidable_of_iff (t.type = .fence ∧ o.covers t = true) (and_congr_right fun _ => covers_iff)

theorem selects_iff : o.Selects t ↔ t.type = .fence ∧ o.covers t = true :=
  and_congr_right fun _ => covers_iff.symm

end Options

theorem fences_eq (o : Options) (document : Document) :
    fences o document = (preorder document.tokens).filter fun t => o.Selects t := by
  rw [fences, filterTokens_eq, List.map_id, List.filter_filter]
  apply List.filter_congr
  intro t _
  rw [Bool.eq_iff_iff]
  simp [Options.selects_iff, and_comm]

theorem callsOf_map_report (reports : List Report) : Trace.callsOf (reports.map .report) = [] := by
  induction reports with
  | nil => rfl
  | cons r rest ih => simpa using ih

/-- All fences have been started when all have ended, so every one has been asked for, once. -/
theorem calls_verifyAll (analyzer : Analyzer) (order : List Nat) (document : Document)
    (config : AnalyzerConfig) (fences : List Token) :
    Trace.callsOf (verifyAll analyzer order document config fences) =
      fences.map fun fence => .verify fence.content config := by
  obtain ⟨w, hrun, hend, -⟩ := run_events order fences.length
  obtain ⟨k, -, hstarted, hcalls⟩ := calls_of_stands config hrun.stands
  have hall := hrun.stands.inOrder
  rw [hend.1, List.append_nil, hstarted] at hall
  have hk : k = fences.length := by simpa using congrArg List.length hall
  rw [hk, List.take_length] at hcalls
  rw [verifyAll, Trace.callsOf_append, hcalls, callsOf_map_report, List.append_nil]

theorem callsOf_asked (name : String) (actions : List Action) :
    Trace.callsOf ([.call (.resolve name), .pause] ++ actions) =
      .resolve name :: Trace.callsOf actions := rfl

/-- An analyzer that finds something in `x` and cannot verify anything else. -/
def findsX : Analyzer where
  resolve _ := .ok .empty
  verify snippet _ := if snippet = "x" then .ok [⟨1, "found", none⟩] else .error (.io "")

end DocLint.LintJavascript
