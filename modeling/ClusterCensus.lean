import ClusterCensus.Binary64.Basic
import ClusterCensus.Binary64.Rounding
import ClusterCensus.Binary64.Shortest
import ClusterCensus.Census.Nodes
import ClusterCensus.Census.Usage
import ClusterCensus.Cluster.Node
import ClusterCensus.Cluster.Pod
import ClusterCensus.Cycle.Collector
import ClusterCensus.Cycle.Script
import ClusterCensus.Fault
import ClusterCensus.Gateway.Basic
import ClusterCensus.Gateway.Metrics
import ClusterCensus.Note
import ClusterCensus.Numeral.Basic
import ClusterCensus.Observe.Node
import ClusterCensus.Observe.Pod
import ClusterCensus.Proofs.Binary64.Bounds
import ClusterCensus.Proofs.Binary64.Grid
import ClusterCensus.Proofs.Binary64.Order
import ClusterCensus.Proofs.Binary64.Product
import ClusterCensus.Proofs.Census.Buckets
import ClusterCensus.Proofs.Census.Declarations
import ClusterCensus.Proofs.Census.Index
import ClusterCensus.Proofs.Census.Join
import ClusterCensus.Proofs.Census.Listing
import ClusterCensus.Proofs.Census.Observable
import ClusterCensus.Proofs.Census.Order
import ClusterCensus.Proofs.Census.Pairing
import ClusterCensus.Proofs.Census.Scan
import ClusterCensus.Proofs.Census.Usage
import ClusterCensus.Proofs.Cycle.Blame
import ClusterCensus.Proofs.Cycle.Books
import ClusterCensus.Proofs.Cycle.Calm
import ClusterCensus.Proofs.Cycle.Commands
import ClusterCensus.Proofs.Cycle.Controllers
import ClusterCensus.Proofs.Cycle.Counts
import ClusterCensus.Proofs.Cycle.History
import ClusterCensus.Proofs.Cycle.Leak
import ClusterCensus.Proofs.Cycle.Ledger
import ClusterCensus.Proofs.Cycle.Malformed
import ClusterCensus.Proofs.Cycle.Nodes
import ClusterCensus.Proofs.Cycle.Order
import ClusterCensus.Proofs.Cycle.Partial
import ClusterCensus.Proofs.Cycle.Readable
import ClusterCensus.Proofs.Cycle.Refusal
import ClusterCensus.Proofs.Cycle.Script
import ClusterCensus.Proofs.Cycle.Stages
import ClusterCensus.Proofs.Cycle.Watch
import ClusterCensus.Proofs.Gateway.Fetches
import ClusterCensus.Proofs.Gateway.Malformed
import ClusterCensus.Proofs.Gateway.Readable
import ClusterCensus.Proofs.Gateway.Response
import ClusterCensus.Proofs.Numeral.Spelling
import ClusterCensus.Proofs.Observe.Capacity
import ClusterCensus.Proofs.Observe.Image
import ClusterCensus.Proofs.Observe.Lifecycle
import ClusterCensus.Proofs.Quantity.Bytes
import ClusterCensus.Proofs.Quantity.Count
import ClusterCensus.Proofs.Quantity.Fraction
import ClusterCensus.Proofs.Quantity.Modest
import ClusterCensus.Proofs.Quantity.Range
import ClusterCensus.Proofs.Quantity.Whole
import ClusterCensus.Proofs.Record.Decode
import ClusterCensus.Proofs.Record.Fields
import ClusterCensus.Proofs.Record.Growth
import ClusterCensus.Proofs.Record.Line
import ClusterCensus.Proofs.Service.Report
import ClusterCensus.Proofs.Table
import ClusterCensus.Proofs.Tally
import ClusterCensus.Proofs.Text
import ClusterCensus.Proofs.Time.Age
import ClusterCensus.Proofs.Trace
import ClusterCensus.Proofs.Value.Integers
import ClusterCensus.Proofs.Value.Printed
import ClusterCensus.Proofs.Value.RoundTrip
import ClusterCensus.Proofs.Value.Strings
import ClusterCensus.Quantity.Count
import ClusterCensus.Quantity.Parts
import ClusterCensus.Record.Container
import ClusterCensus.Record.Node
import ClusterCensus.Record.Tally
import ClusterCensus.Service.Report
import ClusterCensus.Service.Routes
import ClusterCensus.Service.Startup
import ClusterCensus.Table
import ClusterCensus.Text.Basic
import ClusterCensus.Text.Case
import ClusterCensus.Text.Letter
import ClusterCensus.Text.Quoted
import ClusterCensus.Time.Calendar
import ClusterCensus.Time.Moment
import ClusterCensus.Trace
import ClusterCensus.Value.Basic
import ClusterCensus.Value.Display
import ClusterCensus.Value.Line
import ClusterCensus.Value.Reading
