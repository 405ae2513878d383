import DocLint.Main
import DocLint.Proofs.Analyzer.Filtering
import DocLint.Proofs.Command.ExitStatus
import DocLint.Proofs.Config.Decoding
import DocLint.Proofs.Config.Resolution
import DocLint.Proofs.Config.Spelling
import DocLint.Proofs.Files.Discovery
import DocLint.Proofs.LineIndex
import DocLint.Proofs.Linter.Batch
import DocLint.Proofs.Pass.Checks
import DocLint.Proofs.Pass.Duplicates
import DocLint.Proofs.Pass.Interference
import DocLint.Proofs.Pass.Parsing
import DocLint.Proofs.Pass.Terminators
import DocLint.Proofs.PlainText
import DocLint.Proofs.Registry
import DocLint.Proofs.Rules.EveryNLines
import DocLint.Proofs.Rules.LintJavascript
import DocLint.Proofs.Rules.Options
import DocLint.Proofs.Rules.SnippetLines
import DocLint.Proofs.Rules.Verification
import DocLint.Proofs.Text.LineReader
import DocLint.Proofs.Token.Mirror
import DocLint.Proofs.Token.Walk
