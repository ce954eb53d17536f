import CallAtlas.Symbol.Extract
import CallAtlas.Project.Path
import CallAtlas.Text.LetterCase
import CallAtlas.Text.Alphanumeric
import CallAtlas.Symbol.Table
import CallAtlas.Settings.Load
import CallAtlas.Project.Roots
import CallAtlas.Resolver.Calls
import CallAtlas.Resolver.Index
import CallAtlas.Traversal.Focus
import CallAtlas.Graph.Build
import CallAtlas.Layout.Apply
import CallAtlas.Run.Bench
import CallAtlas.Service.Application
import CallAtlas.Main
import CallAtlas.Proofs.CallersMap
import CallAtlas.Proofs.Expansion
import CallAtlas.Proofs.Focus
import CallAtlas.Proofs.Findings
import CallAtlas.Proofs.Extraction
import CallAtlas.Proofs.Mentions
import CallAtlas.Proofs.GraphBuild
import CallAtlas.Proofs.Supervision
import CallAtlas.Proofs.Outcome
import CallAtlas.Proofs.GraphStore
import CallAtlas.Proofs.GraphHistory
import CallAtlas.Proofs.GraphOrder
import CallAtlas.Proofs.IndexClosed
import CallAtlas.Proofs.Chains
import CallAtlas.Proofs.Scopes
import CallAtlas.Proofs.DeliveryOrder
import CallAtlas.Proofs.Pooling
import CallAtlas.Proofs.AllOrNothing
import CallAtlas.Proofs.Duality
import CallAtlas.Proofs.Computation
import CallAtlas.Proofs.Paths
import CallAtlas.Proofs.Enumeration
import CallAtlas.Proofs.Loading
import CallAtlas.Proofs.SettingsBounds
import CallAtlas.Proofs.SettingsText
import CallAtlas.Proofs.SettingsFaults
import CallAtlas.Proofs.Surroundings
import CallAtlas.Proofs.Interruption
import CallAtlas.Proofs.LayoutText
import CallAtlas.Proofs.Numerals
import CallAtlas.Layout.InPlace
import CallAtlas.Proofs.PlainLayout
import CallAtlas.Proofs.LayoutInPlace
import CallAtlas.Proofs.DefinedNames
import CallAtlas.Proofs.Resolution
import CallAtlas.Proofs.OwnDefinitions
import CallAtlas.Proofs.ResolutionLocality
import CallAtlas.Proofs.WholeNumbers
import CallAtlas.Proofs.LayoutAnswers
import CallAtlas.Proofs.LayoutRoundTrip
import CallAtlas.Proofs.AmbiguousNames
import CallAtlas.Proofs.Exclusion
import CallAtlas.Proofs.ModuleScopes
import CallAtlas.Proofs.DirectoryScopes
import CallAtlas.Proofs.TestFiles
import CallAtlas.Proofs.WrittenSelections
import CallAtlas.CallersMap.InPlace
import CallAtlas.Proofs.MapAlgebra
import CallAtlas.Proofs.UnusableDirectories
import CallAtlas.Proofs.ParameterLists
import CallAtlas.Proofs.Signatures
import CallAtlas.Source.Signature.Stepwise
import CallAtlas.Proofs.TextStreams
import CallAtlas.Proofs.Benches
