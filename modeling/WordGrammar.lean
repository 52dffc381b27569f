import WordGrammar.CommandLine.Run
import WordGrammar.FileTree
import WordGrammar.Generator
import WordGrammar.Main
import WordGrammar.Random.KeyStream
import WordGrammar.Shell.Highlight
import WordGrammar.Trace.Line
import WordGrammar.Proofs.Pattern.Reading
import WordGrammar.Proofs.Pattern.Words
import WordGrammar.Proofs.RuleTable.Order
import WordGrammar.Proofs.RuleTable.Compile
import WordGrammar.Proofs.RuleTable.Run
import WordGrammar.Proofs.RuleTable.History
import WordGrammar.Proofs.Generation.Language
import WordGrammar.Proofs.Generation.SelfReference
import WordGrammar.Proofs.RuleTable.Confluence
import WordGrammar.Proofs.Session
import WordGrammar.Proofs.Declaration.Print
import WordGrammar.Proofs.Declaration.Context
import WordGrammar.Proofs.Generation.Options
import WordGrammar.Proofs.Shell.Noninterference
import WordGrammar.Proofs.RuleTable.Compiled
import WordGrammar.Proofs.RuleTable.Ranking
import WordGrammar.Proofs.Grammar.Redeclaration
import WordGrammar.Proofs.CommandLine.Words
import WordGrammar.Proofs.Shell.Words
import WordGrammar.Proofs.Pattern.RoundTrip
import WordGrammar.Proofs.Token.Tiling
import WordGrammar.Proofs.Morphology.Template
import WordGrammar.Proofs.Morphology.Marker
import WordGrammar.Proofs.Morphology.Derivation
import WordGrammar.Proofs.Grammar.Events
import WordGrammar.Proofs.RuleTable.Refusal
import WordGrammar.Proofs.Token.Slice
import WordGrammar.Proofs.Declaration.Span
import WordGrammar.Proofs.Shell.Highlight
import WordGrammar.Proofs.Trace.Filing
import WordGrammar.Proofs.Session.Trace
import WordGrammar.Proofs.Trace.Window
import WordGrammar.Proofs.Trace.NewestWord
