import WikiGraph.Document.PageWriter
import WikiGraph.Document.SettingsReader
import WikiGraph.Main
import WikiGraph.Proofs.Cypher.QuotedReading
import WikiGraph.Proofs.Query.Segments
import WikiGraph.Proofs.Server.Sent
import WikiGraph.Proofs.Sync.Discipline
import WikiGraph.Proofs.Sync.Idempotence
import WikiGraph.Proofs.Sync.Upkeep
import WikiGraph.Proofs.Query.Surroundings
import WikiGraph.Proofs.Query.Disguise
import WikiGraph.Proofs.Query.LineEnds
import WikiGraph.Proofs.Graph.Integrity
import WikiGraph.Proofs.Sync.Independence
import WikiGraph.Proofs.Sync.Convergence
import WikiGraph.Proofs.Sync.Restoration
import WikiGraph.Proofs.Sync.Surplus
import WikiGraph.Proofs.Server.Finished
import WikiGraph.Proofs.Query.Layers
import WikiGraph.Proofs.Server.EdgeCodec
import WikiGraph.Proofs.Sync.Repetition
import WikiGraph.Proofs.Sync.Plan
import WikiGraph.Proofs.Server.Labels
import WikiGraph.Proofs.Binary64.Finite
import WikiGraph.Proofs.Document.Floats
import WikiGraph.Proofs.Document.RoundTrip
import WikiGraph.Proofs.Query.Continuation
import WikiGraph.Proofs.Graph.PageDeletion
import WikiGraph.Proofs.Graph.Counter
import WikiGraph.Proofs.Sync.SaveAccount
import WikiGraph.Proofs.Page.Statements
import WikiGraph.Proofs.Page.Relations
import WikiGraph.Proofs.Sync.NodeProperties
import WikiGraph.Proofs.Query.LetterCase
import WikiGraph.Proofs.Config.Override
import WikiGraph.Proofs.Calendar.PageTimes
import WikiGraph.Proofs.Binary64.Value
import WikiGraph.Proofs.Calendar.WrittenDates
import WikiGraph.Proofs.Graph.Denial
