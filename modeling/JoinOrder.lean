import JoinOrder.Word
import JoinOrder.ClosedForm
import JoinOrder.Error
import JoinOrder.Text.Blank
import JoinOrder.Text.Alphanumeric
import JoinOrder.Text.Quoted
import JoinOrder.Json.Value
import JoinOrder.Json.Writer
import JoinOrder.Json.Reader
import JoinOrder.Json.Fields
import JoinOrder.Tree.Basic
import JoinOrder.Tree.Digest
import JoinOrder.Tree.Way
import JoinOrder.Tree.Instantiate
import JoinOrder.SearchSpace.LeafOrder
import JoinOrder.SearchSpace.Row
import JoinOrder.SearchSpace.Template
import JoinOrder.Graph.Registry
import JoinOrder.Graph.Condition
import JoinOrder.Graph.Basic
import JoinOrder.Graph.EdgeText
import JoinOrder.Graph.Spec
import JoinOrder.Graph.Topology
import JoinOrder.Content
import JoinOrder.Settings
import JoinOrder.Connectivity.Basic
import JoinOrder.Connectivity.Memo
import JoinOrder.Connectivity.Checker
import JoinOrder.Regex.Basic
import JoinOrder.Regex.Escape
import JoinOrder.Regex.ClassReader
import JoinOrder.Regex.Reader
import JoinOrder.Log.Event
import JoinOrder.Log.Pattern
import JoinOrder.Log.Filter
import JoinOrder.Enumeration.Progress
import JoinOrder.Enumeration.Statistics
import JoinOrder.Enumeration.Count
import JoinOrder.Enumeration.Preparation
import JoinOrder.Command.Scan
import JoinOrder.Command.Invocation
import JoinOrder.Command.Outcome
import JoinOrder.Main
import JoinOrder.Proofs.Connectivity.Walk
import JoinOrder.Proofs.Connectivity.Memo
import JoinOrder.Proofs.Connectivity.Session
import JoinOrder.Proofs.SearchSpace.LeafOrder
import JoinOrder.Proofs.SearchSpace.Template
import JoinOrder.Proofs.SearchSpace.Plan
import JoinOrder.Proofs.Counting.Plan
import JoinOrder.Proofs.Counting.Pair
import JoinOrder.Proofs.Counting.Sweep
import JoinOrder.Proofs.ClosedForm
import JoinOrder.Proofs.Counting.Cut
import JoinOrder.Proofs.Topology.Build
import JoinOrder.Proofs.Topology.Chain
import JoinOrder.Proofs.Topology.Star
import JoinOrder.Proofs.Counting.Connected
import JoinOrder.Proofs.Counting.Evaluation
import JoinOrder.Proofs.Connectivity.Interference
import JoinOrder.Proofs.Connectivity.Footprint
import JoinOrder.Proofs.Counting.Renaming
import JoinOrder.Proofs.Enumeration.Progress
import JoinOrder.Proofs.Counting.Figures
import JoinOrder.Proofs.Counting.Isomorphic
import JoinOrder.Enumeration.Schedule
import JoinOrder.Proofs.Enumeration.Schedule
import JoinOrder.Proofs.Counting.Growth
import JoinOrder.Proofs.Counting.Remembered
import JoinOrder.Proofs.Counting.Monotone
import JoinOrder.Proofs.Counting.WholeSpace
import JoinOrder.Proofs.Topology.Clique
import JoinOrder.Proofs.Counting.Bridge
import JoinOrder.Proofs.Graph.Removal
import JoinOrder.Proofs.Graph.Component
import JoinOrder.Proofs.Counting.TreeShaped
import JoinOrder.Graph.Draft
import JoinOrder.Proofs.Graph.Registration
import JoinOrder.Proofs.Tree.Comparison
import JoinOrder.Proofs.Enumeration.Statistics
import JoinOrder.Proofs.Json.Literal
import JoinOrder.Proofs.Json.RoundTrip
import JoinOrder.Proofs.Settings
import JoinOrder.Proofs.Topology.Exactness
import JoinOrder.Proofs.SearchSpace.OrderSearch
import JoinOrder.Proofs.SearchSpace.TemplateSearch
import JoinOrder.Proofs.Json.Records
import JoinOrder.Proofs.Counting.Mirror
import JoinOrder.Proofs.Connectivity.Residue
import JoinOrder.Proofs.Graph.Specification
import JoinOrder.Proofs.Json.Reading
import JoinOrder.Proofs.Json.Fields
import JoinOrder.Proofs.Settings.Partial
import JoinOrder.Proofs.Json.Recognition
import JoinOrder.Proofs.Graph.EdgeText
import JoinOrder.Proofs.Tree.Instantiation
import JoinOrder.Enumeration.SharedProgress
import JoinOrder.Proofs.Enumeration.Reports
import JoinOrder.Proofs.Graph.Rearrangement
import JoinOrder.Proofs.Command.CountLine
import JoinOrder.Proofs.Command.EdgeSet
import JoinOrder.Proofs.ClosedForm.CatalanLoop
import JoinOrder.Proofs.Settings.Environment
import JoinOrder.Proofs.Topology.Links
import JoinOrder.Proofs.Tree.Traversal
