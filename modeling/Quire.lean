import Quire.Describe
import Quire.Main
import Quire.View
import Quire.Proofs.Expansion
import Quire.Proofs.Numbering
import Quire.Proofs.DepthLimit
import Quire.Proofs.Siblings
import Quire.Proofs.Markup.NormalForm
import Quire.Proofs.Markup.Reading
import Quire.Proofs.Markup.Faithfulness
import Quire.Proofs.Registries
import Quire.Proofs.Resolution
import Quire.Proofs.PlainComponents
import Quire.Proofs.TextContent
import Quire.Proofs.Progress
import Quire.Proofs.Handles
import Quire.Proofs.Attributes
import Quire.Proofs.BundledPage
import Quire.Proofs.ProviderChains
import Quire.Proofs.KnownNames
import Quire.Proofs.Markup.StartTags
import Quire.Proofs.RoutingProps
import Quire.Proofs.PageRegistry
import Quire.Proofs.Merging
import Quire.Proofs.CyclicComponents
import Quire.Proofs.AbortedRenders
import Quire.Proofs.Disk
import Quire.Proofs.CommandRuns
import Quire.Proofs.Dispatch
import Quire.Proofs.MergeAlgebra
import Quire.Proofs.AttributeNames
import Quire.Proofs.Simplification
import Quire.Proofs.Equality
import Quire.Proofs.QualifiedNames
import Quire.Proofs.Invocations
import Quire.Proofs.Markup.LineBreaks
import Quire.Proofs.Numbers.Rounding
import Quire.Proofs.Numbers.ShortestDigits
import Quire.Proofs.Outlines
import Quire.Proofs.TypeHints
import Quire.Proofs.WriteHistories
import Quire.Proofs.Numbers.NearestNumber
import Quire.Proofs.Numbers.Numerals
import Quire.Proofs.Numbers.Texts
