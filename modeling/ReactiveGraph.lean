import ReactiveGraph.Config.Format
import ReactiveGraph.Container
import ReactiveGraph.Script
import ReactiveGraph.Summary
import ReactiveGraph.Topology.Dot
import ReactiveGraph.Topology.Format
import ReactiveGraph.Proofs.Log
import ReactiveGraph.Proofs.Sequencing
import ReactiveGraph.Proofs.Registry
import ReactiveGraph.Proofs.Wiring
import ReactiveGraph.Proofs.Arrangement
import ReactiveGraph.Proofs.Order
import ReactiveGraph.Proofs.Calls
import ReactiveGraph.Proofs.Pass
import ReactiveGraph.Proofs.Delivery
import ReactiveGraph.Proofs.Settling
import ReactiveGraph.Proofs.History
import ReactiveGraph.Proofs.Coherence
import ReactiveGraph.Proofs.ExactlyOnce
import ReactiveGraph.Proofs.Lagging
import ReactiveGraph.Proofs.Fifo
import ReactiveGraph.Proofs.Spreading
import ReactiveGraph.Proofs.Feedback
import ReactiveGraph.Proofs.Limit
import ReactiveGraph.Proofs.Leftovers
import ReactiveGraph.Proofs.Firing
import ReactiveGraph.Proofs.Volley
import ReactiveGraph.Proofs.Uses
import ReactiveGraph.Proofs.LifeCycle
import ReactiveGraph.Proofs.Cadence
import ReactiveGraph.Proofs.Usage
import ReactiveGraph.Proofs.Publishing
import ReactiveGraph.Proofs.Freshness
import ReactiveGraph.Proofs.Failures
import ReactiveGraph.Proofs.Provenance
import ReactiveGraph.Proofs.Registration
import ReactiveGraph.Proofs.Newcomers
import ReactiveGraph.Proofs.Numbering
import ReactiveGraph.Proofs.Precedence
import ReactiveGraph.Proofs.Cycles
import ReactiveGraph.Proofs.LeastOrder
import ReactiveGraph.Proofs.Sealing
import ReactiveGraph.Proofs.Rollback
import ReactiveGraph.Proofs.Dispatch
import ReactiveGraph.Proofs.Silence
import ReactiveGraph.Proofs.Rest
import ReactiveGraph.Proofs.Outbox
import ReactiveGraph.Proofs.Topology
import ReactiveGraph.Proofs.Viewing
import ReactiveGraph.Proofs.Observation
import ReactiveGraph.Proofs.Stalling
import ReactiveGraph.Proofs.Capabilities
import ReactiveGraph.Proofs.Drawing
import ReactiveGraph.Proofs.ShortNames
import ReactiveGraph.Proofs.Deadlines
import ReactiveGraph.Proofs.Spelling
import ReactiveGraph.Proofs.Reading
import ReactiveGraph.Proofs.Strictness
import ReactiveGraph.Proofs.Records
import ReactiveGraph.Proofs.RoundTrip
import ReactiveGraph.Proofs.Overlay
