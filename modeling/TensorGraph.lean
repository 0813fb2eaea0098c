import TensorGraph.Graph.Call
import TensorGraph.Json.Reader
import TensorGraph.Proofs.Acceptance
import TensorGraph.Proofs.Addressable
import TensorGraph.Proofs.Atomicity
import TensorGraph.Proofs.Bare
import TensorGraph.Proofs.Changes
import TensorGraph.Proofs.Codec.Basic
import TensorGraph.Proofs.Codec.Graph
import TensorGraph.Proofs.Codec.Nodes
import TensorGraph.Proofs.Consistent
import TensorGraph.Proofs.Effects
import TensorGraph.Proofs.FreshIds
import TensorGraph.Proofs.Guards
import TensorGraph.Proofs.Interface
import TensorGraph.Proofs.Journal.Reader
import TensorGraph.Proofs.Journal.Replay
import TensorGraph.Proofs.Obtainable
import TensorGraph.Proofs.OrderHistory
import TensorGraph.Proofs.Reorder
import TensorGraph.Proofs.Roles
import TensorGraph.Proofs.Rules.Binding
import TensorGraph.Proofs.Rules.Calls
import TensorGraph.Proofs.Rules.Lifecycle
import TensorGraph.Proofs.Rules.Metadata
import TensorGraph.Proofs.Runs
import TensorGraph.Proofs.Sketch.Basic
import TensorGraph.Proofs.Sketch.Refinement
import TensorGraph.Proofs.Step
import TensorGraph.Proofs.Topology
import TensorGraph.Proofs.Writes
import TensorGraph.Proofs.Attempts
import TensorGraph.Proofs.Replacement
import TensorGraph.Proofs.Detachment
import TensorGraph.Proofs.Undo
import TensorGraph.Proofs.Draining
import TensorGraph.Proofs.Renaming
import TensorGraph.Proofs.Rewiring
import TensorGraph.Proofs.Requests
import TensorGraph.Proofs.Retyping
import TensorGraph.Proofs.Teardown
import TensorGraph.Proofs.Walk
import TensorGraph.Proofs.Relayout
import TensorGraph.Proofs.ByteCheck
import TensorGraph.Proofs.SizesByAxis
import TensorGraph.Proofs.Spelling
