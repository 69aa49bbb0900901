import BpmnAudit.Model.Element

/-!
# What elements have in common

The kind of an element and the fields that it shares with others, whatever its own kind. A field
that an element does not have is absent.
-/

namespace BpmnAudit

namespace FlowLeaf

def kind : FlowLeaf → FlowKind
  | task _ => .task
  | serviceTask _ => .serviceTask
  | userTask _ => .userTask
  | manualTask _ => .manualTask
  | scriptTask _ => .scriptTask
  | sendTask _ => .sendTask
  | receiveTask _ => .receiveTask
  | businessRuleTask _ => .businessRuleTask
  | startEvent _ => .startEvent
  | endEvent _ => .endEvent
  | intermediateCatchEvent _ => .intermediateCatchEvent
  | intermediateThrowEvent _ => .intermediateThrowEvent
  | boundaryEvent _ => .boundaryEvent
  | exclusiveGateway _ => .exclusiveGateway
  | inclusiveGateway _ => .inclusiveGateway
  | parallelGateway _ => .parallelGateway
  | eventBasedGateway _ => .eventBasedGateway
  | complexGateway _ => .complexGateway
  | callActivity _ => .callActivity
  | flowNode _ => .flowNode
  | sequenceFlow _ => .sequenceFlow
  | dataObject _ => .dataObject

/-- The node, of elements that sequence flows connect. -/
def node? : FlowLeaf → Option FlowNode
  | task t => some t.toFlowNode
  | serviceTask t => some t.toFlowNode
  | userTask t => some t.toFlowNode
  | manualTask t => some t.toFlowNode
  | scriptTask t => some t.toFlowNode
  | sendTask t => some t.toFlowNode
  | receiveTask t => some t.toFlowNode
  | businessRuleTask t => some t.toFlowNode
  | startEvent e => some e.toFlowNode
  | endEvent e => some e.toFlowNode
  | intermediateCatchEvent e => some e.toFlowNode
  | intermediateThrowEvent e => some e.toFlowNode
  | boundaryEvent e => some e.toFlowNode
  | exclusiveGateway g => some g.toFlowNode
  | inclusiveGateway g => some g.toFlowNode
  | parallelGateway g => some g.toFlowNode
  | eventBasedGateway g => some g.toFlowNode
  | complexGateway g => some g.toFlowNode
  | callActivity a => some a.toFlowNode
  | flowNode n => some n.toFlowNode
  | sequenceFlow _ => none
  | dataObject _ => none

def base : FlowLeaf → BaseElement
  | task t => t.toBaseElement
  | serviceTask t => t.toBaseElement
  | userTask t => t.toBaseElement
  | manualTask t => t.toBaseElement
  | scriptTask t => t.toBaseElement
  | sendTask t => t.toBaseElement
  | receiveTask t => t.toBaseElement
  | businessRuleTask t => t.toBaseElement
  | startEvent e => e.toBaseElement
  | endEvent e => e.toBaseElement
  | intermediateCatchEvent e => e.toBaseElement
  | intermediateThrowEvent e => e.toBaseElement
  | boundaryEvent e => e.toBaseElement
  | exclusiveGateway g => g.toBaseElement
  | inclusiveGateway g => g.toBaseElement
  | parallelGateway g => g.toBaseElement
  | eventBasedGateway g => g.toBaseElement
  | complexGateway g => g.toBaseElement
  | callActivity a => a.toBaseElement
  | flowNode n => n.toBaseElement
  | sequenceFlow f => f.toBaseElement
  | dataObject d => d.toBaseElement

/-- The event definitions, of events. -/
def eventDefinitions? : FlowLeaf → Option (List EventDefinition)
  | startEvent e => some e.definitions
  | endEvent e => some e.definitions
  | intermediateCatchEvent e => some e.definitions
  | intermediateThrowEvent e => some e.definitions
  | boundaryEvent e => some e.definitions
  | _ => none

def gateway? : FlowLeaf → Option Gateway
  | exclusiveGateway g => some g.toGateway
  | inclusiveGateway g => some g.toGateway
  | parallelGateway g => some g
  | eventBasedGateway g => some g.toGateway
  | complexGateway g => some g.toGateway
  | _ => none

end FlowLeaf

namespace FlowElement

def kind : FlowElement → FlowKind
  | leaf l => l.kind
  | subProcess .. => .subProcess

def base : FlowElement → BaseElement
  | leaf l => l.base
  | subProcess node .. => node.toBaseElement

def id (e : FlowElement) : Option String := e.base.id

/-- The node, of elements that sequence flows connect. -/
def node? : FlowElement → Option FlowNode
  | leaf l => l.node?
  | subProcess node .. => some node

/-- The flow elements that an element owns; none of a leaf. -/
def flowElements : FlowElement → List FlowElement
  | leaf _ => []
  | subProcess _ es _ => es

/-- The sequence flow, of sequence flows. -/
def sequenceFlow? : FlowElement → Option SequenceFlow
  | leaf (.sequenceFlow flow) => some flow
  | _ => none

end FlowElement

namespace RootElement

def kind : RootElement → RootKind
  | process _ => .process
  | message _ => .message
  | signal _ => .signal
  | error _ => .error
  | escalation _ => .escalation
  | operation _ => .operation

def base : RootElement → BaseElement
  | process p => p.toBaseElement
  | message m => m.toBaseElement
  | signal s => s
  | error e => e.toBaseElement
  | escalation e => e.toBaseElement
  | operation o => o.toBaseElement

def process? : RootElement → Option Process
  | process p => some p
  | _ => none

end RootElement

namespace EventDefinition

def kind : EventDefinition → TriggerKind
  | timer _ => .timer
  | signal _ => .signal
  | error _ => .error
  | conditional _ => .conditional
  | escalation _ => .escalation
  | message _ => .message
  | compensate _ => .compensate

def base : EventDefinition → BaseElement
  | timer d => d.toBaseElement
  | signal d => d.toBaseElement
  | error d => d.toBaseElement
  | conditional d => d.toBaseElement
  | escalation d => d.toBaseElement
  | message d => d.toBaseElement
  | compensate d => d.toBaseElement

end EventDefinition

namespace Outline

def base : Outline → BaseElement
  | element base => base
  | flowElement _ base => base
  | flowNode _ node => node.toBaseElement
  | event _ e => e.toBaseElement
  | gateway _ g => g.toBaseElement
  | container base _ => base
  | eventDefinition _ base => base

/-- The kind that the tag gives. -/
def kind? : Outline → Option ElementKind
  | flowElement tag _ | flowNode tag _ | event tag _ | gateway tag _ => some tag
  | element _ | container .. | eventDefinition .. => none

def group : Outline → OutlineKind
  | element _ => .element
  | flowElement .. => .flowElement
  | flowNode .. => .flowNode
  | event .. => .event
  | gateway .. => .gateway
  | container .. => .container
  | eventDefinition .. => .eventDefinition

end Outline

namespace Element

/-- The fields of every element; an expression has none of them. -/
def base? : Element → Option BaseElement
  | definitions d => some d.toBaseElement
  | root r => some r.base
  | flow e => some e.base
  | eventDefinition d => some d.base
  | expression _ => none
  | outline o => some o.base

def id (e : Element) : Option String := e.base?.bind (·.id)

/-- The kind; event definitions and expressions bear no element tag. -/
def kind? : Element → Option ElementKind
  | definitions _ => some .definitions
  | root r => some (.root r.kind)
  | flow e => some (.flow e.kind)
  | eventDefinition _ => none
  | expression _ => none
  | outline o => o.kind?

/-- The element tag, if there is one. -/
def typeTag (e : Element) : Option String := e.kind?.map (·.tag)

/-- What the element can be read as. -/
def shape : Element → Shape
  | definitions _ => .element .definitions
  | root r => .element (.root r.kind)
  | flow e => .element (.flow e.kind)
  | eventDefinition d => .eventDefinition d.kind
  | expression _ => .expression
  | outline o => .outline o.group

/-- The name of what the element is in log records. -/
def label (e : Element) : String := e.shape.label

/-- The node, of elements that sequence flows connect. -/
def node? : Element → Option FlowNode
  | flow e => e.node?
  | outline (.flowNode _ node) => some node
  | outline (.event _ event) => some event.toFlowNode
  | outline (.gateway _ gateway) => some gateway.toFlowNode
  | _ => none

/-- The event definitions, of events. -/
def eventDefinitions? : Element → Option (List EventDefinition)
  | flow (.leaf l) => l.eventDefinitions?
  | outline (.event _ event) => some event.definitions
  | _ => none

def gateway? : Element → Option Gateway
  | flow (.leaf l) => l.gateway?
  | outline (.gateway _ gateway) => some gateway
  | _ => none

/-- The script task, of script tasks. -/
def scriptTask? : Element → Option ScriptTask
  | flow (.leaf (.scriptTask t)) => some t
  | _ => none

/-- The operation, of tasks that may name one. -/
def operationRef? : Element → Option (Option String)
  | flow (.leaf (.serviceTask t)) => some t.operationRef
  | flow (.leaf (.sendTask t)) => some t.operationRef
  | _ => none

/-- The message, of tasks that may name one. -/
def messageRef? : Element → Option (Option String)
  | flow (.leaf (.sendTask t)) => some t.messageRef
  | flow (.leaf (.receiveTask t)) => some t.messageRef
  | _ => none

/-- The call activity, of call activities. -/
def callActivity? : Element → Option CallActivity
  | flow (.leaf (.callActivity a)) => some a
  | _ => none

/-- The sequence flow, of sequence flows. -/
def sequenceFlow? : Element → Option SequenceFlow
  | flow e => e.sequenceFlow?
  | _ => none

/-- The flow elements, of elements that own some. -/
def flowElements? : Element → Option (List FlowElement)
  | root (.process p) => some p.flowElements
  | flow (.subProcess _ es _) => some es
  | outline (.container _ es) => some es
  | _ => none

/-- Whether the element is a flow element of some kind, be it in outline. -/
def isFlowElement : Element → Bool
  | flow _ => true
  | outline (.flowElement ..) | outline (.flowNode ..) | outline (.event ..)
  | outline (.gateway ..) => true
  | _ => false

end Element

end BpmnAudit
