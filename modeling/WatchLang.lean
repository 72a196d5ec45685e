import WatchLang.Main
import WatchLang.Program.Calls
import WatchLang.Program.Grammar
import WatchLang.Program.Nodes
import WatchLang.Program.WellFormed
import WatchLang.Proofs.BlankSeams
import WatchLang.Proofs.Concatenation
import WatchLang.Proofs.ConditionsInRules
import WatchLang.Proofs.DistinctMessages
import WatchLang.Proofs.EarliestRefusal
import WatchLang.Proofs.EqualViews
import WatchLang.Proofs.FirstRefusal
import WatchLang.Proofs.FormattedLines
import WatchLang.Proofs.HeardStatements
import WatchLang.Proofs.Lexing
import WatchLang.Proofs.MatchedPrefixes
import WatchLang.Proofs.Recognition
import WatchLang.Proofs.RenamedReading
import WatchLang.Proofs.ReportedPlaces
import WatchLang.Proofs.RoundTrip
import WatchLang.Proofs.Separators
import WatchLang.Proofs.Standing
import WatchLang.Proofs.TokenKeeping
import WatchLang.Proofs.TokenPlaces
import WatchLang.Proofs.TrimmedEnd
import WatchLang.Proofs.Truncation
import WatchLang.Proofs.UnderstoodSymbols
import WatchLang.Proofs.VisitedNodes
import WatchLang.Reader.Steps
import WatchLang.Relocation
import WatchLang.Token.Longest
import WatchLang.Trace
