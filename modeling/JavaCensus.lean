import JavaCensus.Interchange.MetricsTree
import JavaCensus.Interchange.SyntaxTree
import JavaCensus.Interchange.Value
import JavaCensus.Main
import JavaCensus.Proofs.Runs
import JavaCensus.Proofs.Claims
import JavaCensus.Proofs.Conservation
import JavaCensus.Proofs.Placed
import JavaCensus.Proofs.Reads
import JavaCensus.Proofs.Reader
import JavaCensus.Proofs.Bare
import JavaCensus.Proofs.SourceComments
import JavaCensus.Proofs.Lineage
import JavaCensus.Proofs.Rows
import JavaCensus.Proofs.Ownership
import JavaCensus.Proofs.Declarations
import JavaCensus.Proofs.Statements
import JavaCensus.Proofs.Shape
import JavaCensus.Proofs.Growth
import JavaCensus.Proofs.Calls
import JavaCensus.Proofs.Capacities
import JavaCensus.Proofs.Progress
import JavaCensus.Proofs.Delivery
import JavaCensus.Proofs.Attribution
import JavaCensus.Proofs.Responsible
import JavaCensus.Proofs.Sharding
import JavaCensus.Proofs.Origins
import JavaCensus.Proofs.Equations
import JavaCensus.Proofs.Features
import JavaCensus.Proofs.Recast
import JavaCensus.Proofs.Stripped
import JavaCensus.Proofs.Agreement
import JavaCensus.Proofs.Translation
import JavaCensus.Proofs.Views
import JavaCensus.Proofs.Rereading
import JavaCensus.Proofs.Erasure
import JavaCensus.Proofs.Indifference
import JavaCensus.Proofs.Coverage
import JavaCensus.Proofs.HeldCode
import JavaCensus.Proofs.Levels
import JavaCensus.Proofs.SizeLimits
import JavaCensus.Proofs.Completeness
import JavaCensus.Proofs.Surveys
import JavaCensus.Proofs.PackageNames
import JavaCensus.Proofs.Passes
import JavaCensus.Proofs.Settlement
import JavaCensus.Proofs.StatementWalk
import JavaCensus.Proofs.Adjacency
import JavaCensus.Proofs.LinesAbove
import JavaCensus.Proofs.Books
import JavaCensus.Proofs.Merging
import JavaCensus.Proofs.FlatTotals
import JavaCensus.Proofs.Layout
import JavaCensus.Proofs.TypeNames
import JavaCensus.Proofs.SwitchEntries
import JavaCensus.Proofs.Nesting
import JavaCensus.Proofs.Documents
import JavaCensus.Proofs.Searches
import JavaCensus.Proofs.Tables
import JavaCensus.Proofs.Layering
import JavaCensus.Proofs.Concordance
import JavaCensus.Proofs.Outlines
import JavaCensus.Proofs.Traversals
