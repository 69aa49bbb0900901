import BpmnAudit.Decimal.Reading
import BpmnAudit.Finding.Problem
import BpmnAudit.Model.Tree
import BpmnAudit.Proofs.Run.Audit
import BpmnAudit.Proofs.Text.Blank

/-!
# Well-formed documents

What a document has to be like for an audit to find nothing wrong with it, said of the document
itself and kind by kind, without rules, walks or runs.

`Owns es siblings e` says that `e` stands at some depth below the elements `es`, and that
`siblings` are the elements of the container that itself owns it. An element is judged by its
siblings, by whether its process is ad hoc and by whether simulation data are read.
-/

namespace BpmnAudit

open Text (Says)

/-- An element somewhere below some elements, and the elements that it stands among. -/
inductive Owns : (es siblings : List FlowElement) → FlowElement → Prop
  | own {es : List FlowElement} {e : FlowElement} (h : e ∈ es) : Owns es es e
  | inner {es siblings : List FlowElement} {e : FlowElement} {node : FlowNode}
    {inside : List FlowElement} {triggered : Bool} (h : .subProcess node inside triggered ∈ es)
    (below : Owns inside siblings e) : Owns es siblings e

/-! ## Nodes -/

/-- A node has connections both ways, unless its process is ad hoc. -/
def FlowNode.Connected (adHoc : Bool) (node : FlowNode) : Prop :=
  adHoc = true ∨ node.outgoing ≠ [] ∧ node.incoming ≠ []

/-- A parameter that simulation data give: the first value of its name, if data are read at all
and it is not blank. -/
def BaseElement.Gives (strict : Bool) (base : BaseElement) (name : String) : Prop :=
  strict = true ∧ Says (blockValue? base.blocks name)

/-- A task has no simulation data, or all that its distribution needs. -/
def BaseElement.Simulates (strict : Bool) (base : BaseElement) : Prop :=
  base.blocks = [] ∨
    base.Gives strict "distributionType" ∧ base.Gives strict "duration" ∧
      base.Gives strict "timeUnits" ∧
      (blockValue? base.blocks "distributionType" ∈ [some "random", some "uniform"] →
        base.Gives strict "range") ∧
      (blockValue? base.blocks "distributionType" = some "normal" →
        base.Gives strict "standardDeviation")

/-- A user task has no simulation data, or a staff availability. -/
def BaseElement.Staffed (strict : Bool) (base : BaseElement) : Prop :=
  base.blocks = [] ∨ base.Gives strict "staffAvailability"

/-! ## Events -/

namespace EventDefinition

/-- What an event definition refers to is there; a timer refers to nothing. -/
def Refers : EventDefinition → Prop
  | timer _ => True
  | signal d => Says d.signalRef
  | error d => ∃ e, d.errorRef = some e ∧ Says e.errorCode
  | conditional d => ∃ x, d.condition = some x ∧ Says x.body
  | escalation d => Says d.escalationRef
  | message d => Says d.messageRef
  | compensate d => Says d.activityRef

/-- An event can wait for it: a timer has a date, a duration or a cycle. -/
def Catchable : EventDefinition → Prop
  | timer d => Says d.timeDate ∨ Says d.timeDuration ∨ Says d.timeCycle
  | d => d.Refers

/-- An event can set it off: a timer has a date and a duration and no cycle. -/
def Throwable : EventDefinition → Prop
  | timer d => Says d.timeDate ∧ Says d.timeDuration ∧ ¬ Says d.timeCycle
  | d => d.Refers

end EventDefinition

/-! ## Gateways -/

/-- The direction suits the kind of gateway. -/
def GatewayKind.Directed : GatewayKind → Option GatewayDirection → Prop
  | exclusive, d | parallel, d | complex, d => d = some .diverging ∨ d = some .converging
  | eventBased, d | inclusive, d => d = some .diverging

/-- The sequence flow of an id among siblings: the last one that has it. -/
def lastFlow? (siblings : List FlowElement) (id : String) : Option FlowElement :=
  siblings.reverse.find? (·.flowId? == some id)

/-- The probability of the sequence flow of an id, if it has one and that is a number. -/
def weight? (siblings : List FlowElement) (id : String) : Option Float :=
  (lastFlow? siblings id).bind fun flow =>
    (blockValue? flow.base.blocks "probability").bind Decimal.readNumber

/-- Outgoing sequence flows with simulation data have probabilities, and in a strict run the sum of
those that are numbers, if there are any, is not found to miss one hundred. It is added up from left
to right in doubles and may be off by a billionth; a sum that is not a number is never found to
miss, since no comparison with it holds. -/
def Weighted (strict : Bool) (siblings : List FlowElement) (outgoing : List String) : Prop :=
  (∀ id ∈ outgoing, ∀ flow, lastFlow? siblings id = some flow → flow.base.blocks ≠ [] →
    (blockValue? flow.base.blocks "probability").isSome) ∧
  (strict = true → outgoing.filterMap (weight? siblings) ≠ [] →
    ¬ ((outgoing.filterMap (weight? siblings)).foldl (· + ·) 0 - 100).abs > 1e-9)

/-! ## Elements by kind -/

/-- A task that is well connected and can be simulated. -/
def Task.WellFormed (strict adHoc : Bool) (t : Task) : Prop :=
  t.toFlowNode.Connected adHoc ∧ t.toBaseElement.Simulates strict

/-- A gateway of a kind that is well connected and has a direction that suits its kind. -/
def Gateway.WellFormed (adHoc : Bool) (kind : GatewayKind) (g : Gateway) : Prop :=
  g.toFlowNode.Connected adHoc ∧ kind.Directed g.direction

/-- A flow element without flow elements that suits its siblings. -/
def FlowLeaf.WellFormed (strict adHoc : Bool) (siblings : List FlowElement) : FlowLeaf → Prop
  | task t | manualTask t => t.WellFormed strict adHoc
  | serviceTask t => t.toTask.WellFormed strict adHoc
  | receiveTask t => t.toTask.WellFormed strict adHoc
  | userTask t =>
    t.toTask.WellFormed strict adHoc ∧ Says (t.attributes.get? "taskName") ∧
      t.toBaseElement.Staffed strict
  | scriptTask t => t.toTask.WellFormed strict adHoc ∧ Says t.script ∧ Says t.scriptFormat
  | sendTask t => t.toTask.WellFormed strict adHoc ∧ Says t.operationRef ∧ Says t.messageRef
  | businessRuleTask t =>
    t.WellFormed strict adHoc ∧ Says (t.attributes.get? "ruleFlowGroup")
  | startEvent e => e.outgoing ≠ [] ∧ ∀ d ∈ e.definitions, d.Catchable
  | endEvent e => e.incoming ≠ [] ∧ ∀ d ∈ e.definitions, d.Throwable
  | intermediateCatchEvent e => e.toFlowNode.Connected adHoc ∧ ∀ d ∈ e.definitions, d.Catchable
  | boundaryEvent e => e.toFlowNode.Connected adHoc ∧ ∀ d ∈ e.definitions, d.Catchable
  | intermediateThrowEvent e => e.toFlowNode.Connected adHoc ∧ ∀ d ∈ e.definitions, d.Throwable
  | exclusiveGateway g =>
    g.toGateway.WellFormed adHoc .exclusive ∧ Weighted strict siblings g.outgoing
  | inclusiveGateway g =>
    g.toGateway.WellFormed adHoc .inclusive ∧ Weighted strict siblings g.outgoing
  | eventBasedGateway g =>
    g.toGateway.WellFormed adHoc .eventBased ∧ Weighted strict siblings g.outgoing
  | complexGateway g =>
    g.toGateway.WellFormed adHoc .complex ∧ Weighted strict siblings g.outgoing
  | parallelGateway g => g.WellFormed adHoc .parallel
  | callActivity a => a.toFlowNode.Connected adHoc ∧ Says a.calledElementRef
  | flowNode n => n.toFlowNode.Connected adHoc
  | sequenceFlow f => Says f.sourceRef ∧ Says f.targetRef
  | dataObject d =>
    Says d.name ∧ ∀ s, d.name = some s → ∀ c ∈ s.toList, Text.isSpace c = false

/-- A flow element that suits its siblings. What a subprocess owns is judged on its own. -/
def FlowElement.WellFormed (strict adHoc : Bool) (siblings : List FlowElement) :
    FlowElement → Prop
  | .leaf l => l.WellFormed strict adHoc siblings
  | .subProcess node _ _ => node.Connected adHoc

/-! ## Processes and documents -/

/-- A process that is well formed as a whole and in all that it owns. -/
structure Process.WellFormed (strict : Bool) (p : Process) : Prop where
  id : Text.isNcName p.id = true
  packageName : Says (p.attributes.get? "packageName")
  name : Says p.name
  startEnd : p.isAdHoc = true ∨
    (∃ e ∈ p.flowElements, e.kind = .startEvent) ∧ ∃ e ∈ p.flowElements, e.kind = .endEvent
  elements : ∀ siblings e, Owns p.flowElements siblings e →
    e.WellFormed strict p.isAdHoc siblings

/-- A document whose processes are well formed. -/
def Definitions.WellFormed (strict : Bool) (d : Definitions) : Prop :=
  ∀ p, .process p ∈ d.rootElements → p.WellFormed strict

end BpmnAudit
