import TextGrammar.Session
import TextGrammar.Proofs.DepthLimit
import TextGrammar.Proofs.OrderedChoice
import TextGrammar.Proofs.Matched
import TextGrammar.Proofs.ValueText
import TextGrammar.Proofs.Tiling
import TextGrammar.Proofs.Derivation
import TextGrammar.Proofs.LineBreaks
import TextGrammar.Proofs.SplitBreaks
import TextGrammar.Proofs.Compiling
import TextGrammar.Proofs.Rereading
import TextGrammar.Proofs.ByteOrder
import TextGrammar.Proofs.Dependence
import TextGrammar.Proofs.Reload
import TextGrammar.Proofs.Collapsing
import TextGrammar.Proofs.FailureOrigins
import TextGrammar.Proofs.LeftRecursion
import TextGrammar.Proofs.Consistency
import TextGrammar.Proofs.Attribution
import TextGrammar.Proofs.Translation
import TextGrammar.Proofs.Reachability
import TextGrammar.Proofs.CollapsedRules
import TextGrammar.Proofs.PositionOrder
import TextGrammar.Proofs.RootMatch
import TextGrammar.Proofs.Frontier
import TextGrammar.Proofs.FirstProblem
import TextGrammar.Proofs.DescriptionLanguage
import TextGrammar.Proofs.NormalValues
import TextGrammar.Proofs.Quoting
import TextGrammar.Proofs.UniqueRendering
import TextGrammar.Proofs.CountedBreaks
import TextGrammar.Proofs.SeparatedLists
import TextGrammar.Proofs.EnclosingRules
import TextGrammar.Proofs.NodePaths
import TextGrammar.Proofs.SerializedValues
