import BpmnAudit.Audit.Misfit
import BpmnAudit.Audit.NodeRule
import BpmnAudit.Audit.ProcessRule
import BpmnAudit.Audit.Run
import BpmnAudit.Audit.Scope
import BpmnAudit.Audit.Validator
import BpmnAudit.Audit.Walk
import BpmnAudit.CommandLine.Arguments
import BpmnAudit.CommandLine.Folder
import BpmnAudit.CommandLine.Program
import BpmnAudit.Decimal.Binary64
import BpmnAudit.Decimal.Reading
import BpmnAudit.Decimal.Shortest
import BpmnAudit.Document.Codec
import BpmnAudit.Document.Elements
import BpmnAudit.Document.Fault
import BpmnAudit.Document.FlowElements
import BpmnAudit.Document.Layout
import BpmnAudit.Document.Text
import BpmnAudit.Finding.Problem
import BpmnAudit.Finding.Report
import BpmnAudit.Json.Basic
import BpmnAudit.Json.Display
import BpmnAudit.Json.Parser
import BpmnAudit.Json.Printer
import BpmnAudit.Json.Token
import BpmnAudit.Log
import BpmnAudit.Main
import BpmnAudit.Model.Access
import BpmnAudit.Model.Attributes
import BpmnAudit.Model.Element
import BpmnAudit.Model.Kind
import BpmnAudit.Model.Tree
import BpmnAudit.Proofs.CommandLine.Orders
import BpmnAudit.Proofs.CommandLine.Output
import BpmnAudit.Proofs.CommandLine.Status
import BpmnAudit.Proofs.CommandLine.Verdict
import BpmnAudit.Proofs.Decimal.Nearest
import BpmnAudit.Proofs.Decimal.Special
import BpmnAudit.Proofs.Document.Edits
import BpmnAudit.Proofs.Document.Explained
import BpmnAudit.Proofs.Document.Faults
import BpmnAudit.Proofs.Document.Fields
import BpmnAudit.Proofs.Document.Frank
import BpmnAudit.Proofs.Document.Lawful
import BpmnAudit.Proofs.Document.Layouts
import BpmnAudit.Proofs.Document.Nested
import BpmnAudit.Proofs.Document.Parts
import BpmnAudit.Proofs.Document.RoundTrip
import BpmnAudit.Proofs.Document.Shapes
import BpmnAudit.Proofs.Document.TaggedLists
import BpmnAudit.Proofs.Document.Trees
import BpmnAudit.Proofs.Document.Ways
import BpmnAudit.Proofs.Finding.Accounts
import BpmnAudit.Proofs.Groups
import BpmnAudit.Proofs.Json.Depth
import BpmnAudit.Proofs.Json.RoundTrip
import BpmnAudit.Proofs.Json.Scan
import BpmnAudit.Proofs.Keys
import BpmnAudit.Proofs.Rules.Alike
import BpmnAudit.Proofs.Rules.Blocks
import BpmnAudit.Proofs.Rules.Findings
import BpmnAudit.Proofs.Rules.Unnoticed
import BpmnAudit.Proofs.Run.AdHoc
import BpmnAudit.Proofs.Run.Audit
import BpmnAudit.Proofs.Run.EventDefinitions
import BpmnAudit.Proofs.Run.FlowLookup
import BpmnAudit.Proofs.Run.Histories
import BpmnAudit.Proofs.Run.Independence
import BpmnAudit.Proofs.Run.Leniency
import BpmnAudit.Proofs.Run.Locations
import BpmnAudit.Proofs.Run.Naming
import BpmnAudit.Proofs.Run.Ownership
import BpmnAudit.Proofs.Run.Probabilities
import BpmnAudit.Proofs.Run.Reachable
import BpmnAudit.Proofs.Run.Reads
import BpmnAudit.Proofs.Run.Records
import BpmnAudit.Proofs.Run.Recursion
import BpmnAudit.Proofs.Run.Reordered
import BpmnAudit.Proofs.Run.Reports
import BpmnAudit.Proofs.Run.Rules
import BpmnAudit.Proofs.Run.Single
import BpmnAudit.Proofs.Run.Steps
import BpmnAudit.Proofs.Run.Strictness
import BpmnAudit.Proofs.Run.Trace
import BpmnAudit.Proofs.Run.Traversals
import BpmnAudit.Proofs.Run.Unnoticed
import BpmnAudit.Proofs.Run.Walk
import BpmnAudit.Proofs.Telemetry.Conservation
import BpmnAudit.Proofs.Telemetry.Managers
import BpmnAudit.Proofs.Telemetry.Points
import BpmnAudit.Proofs.Text.Blank
import BpmnAudit.Proofs.Text.Names
import BpmnAudit.Proofs.Tree.Documents
import BpmnAudit.Proofs.Tree.Lookup
import BpmnAudit.Proofs.Tree.Owners
import BpmnAudit.Proofs.Tree.Reordered
import BpmnAudit.Proofs.Tree.Segments
import BpmnAudit.Proofs.Tree.Visits
import BpmnAudit.Proofs.WellFormed.Audit
import BpmnAudit.Proofs.WellFormed.Basic
import BpmnAudit.Proofs.WellFormed.Rules
import BpmnAudit.Settings
import BpmnAudit.Telemetry.AttributeSet
import BpmnAudit.Telemetry.Emission
import BpmnAudit.Telemetry.Host
import BpmnAudit.Telemetry.Line
import BpmnAudit.Text.Case
import BpmnAudit.Text.Predicates
import BpmnAudit.Text.Quoted
import BpmnAudit.Text.Similar
import BpmnAudit.Text.Terminal
import BpmnAudit.Text.Utf8
