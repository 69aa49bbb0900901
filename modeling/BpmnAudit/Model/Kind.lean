/-!
# Kinds of elements

The kinds that the model tells apart, each with the tag that documents write (`BPMNElementType`,
`EventDefinitionType`, `GatewayDirection`). Flow elements are owned by a process or a subprocess,
root elements by the definitions; event definitions have triggers, and gateways directions.
-/

namespace BpmnAudit

/-- The kinds of flow elements. -/
inductive FlowKind where
  | task
  | serviceTask
  | userTask
  | manualTask
  | scriptTask
  | sendTask
  | receiveTask
  | businessRuleTask
  | startEvent
  | endEvent
  | intermediateCatchEvent
  | intermediateThrowEvent
  | boundaryEvent
  | exclusiveGateway
  | inclusiveGateway
  | parallelGateway
  | eventBasedGateway
  | complexGateway
  | subProcess
  | callActivity
  | flowNode
  | sequenceFlow
  | dataObject
  deriving DecidableEq, Repr

/-- The kinds of root elements. -/
inductive RootKind where
  | process
  | message
  | signal
  | error
  | escalation
  | operation
  deriving DecidableEq, Repr

/-- The kinds of elements that bear an element tag. -/
inductive ElementKind where
  | definitions
  | root (kind : RootKind)
  | flow (kind : FlowKind)
  deriving DecidableEq, Repr

/-- What sets an event off. -/
inductive TriggerKind where
  | timer
  | signal
  | error
  | conditional
  | escalation
  | message
  | compensate
  deriving DecidableEq, Repr

/-- The groups of kinds that share fields. -/
inductive OutlineKind where
  | element
  | flowElement
  | flowNode
  | event
  | gateway
  | container
  | eventDefinition
  deriving DecidableEq, Repr

/-- All that a document can be read as: an element of a kind, an event definition, an expression,
or an element in outline, of which only the fields of a group are known. -/
inductive Shape where
  | element (kind : ElementKind)
  | eventDefinition (kind : TriggerKind)
  | expression
  | outline (kind : OutlineKind)
  deriving DecidableEq, Repr

/-- How a gateway branches. -/
inductive GatewayDirection where
  | unspecified
  | converging
  | diverging
  | mixed
  deriving DecidableEq, Repr

namespace FlowKind

def tag : FlowKind → String
  | task => "task"
  | serviceTask => "serviceTask"
  | userTask => "userTask"
  | manualTask => "manualTask"
  | scriptTask => "scriptTask"
  | sendTask => "sendTask"
  | receiveTask => "receiveTask"
  | businessRuleTask => "businessRuleTask"
  | startEvent => "startEvent"
  | endEvent => "endEvent"
  | intermediateCatchEvent => "intermediateCatchEvent"
  | intermediateThrowEvent => "intermediateThrowEvent"
  | boundaryEvent => "boundaryEvent"
  | exclusiveGateway => "exclusiveGateway"
  | inclusiveGateway => "inclusiveGateway"
  | parallelGateway => "parallelGateway"
  | eventBasedGateway => "eventBasedGateway"
  | complexGateway => "complexGateway"
  | subProcess => "subProcess"
  | callActivity => "callActivity"
  | flowNode => "flowNode"
  | sequenceFlow => "sequenceFlow"
  | dataObject => "dataObject"

/-- The name of the kind in log records. -/
def label : FlowKind → String
  | task => "Task"
  | serviceTask => "ServiceTask"
  | userTask => "UserTask"
  | manualTask => "ManualTask"
  | scriptTask => "ScriptTask"
  | sendTask => "SendTask"
  | receiveTask => "ReceiveTask"
  | businessRuleTask => "BusinessRuleTask"
  | startEvent => "StartEvent"
  | endEvent => "EndEvent"
  | intermediateCatchEvent => "IntermediateCatchEvent"
  | intermediateThrowEvent => "IntermediateThrowEvent"
  | boundaryEvent => "BoundaryEvent"
  | exclusiveGateway => "ExclusiveGateway"
  | inclusiveGateway => "InclusiveGateway"
  | parallelGateway => "ParallelGateway"
  | eventBasedGateway => "EventBasedGateway"
  | complexGateway => "ComplexGateway"
  | subProcess => "SubProcess"
  | callActivity => "CallActivity"
  | flowNode => "GenericFlowNode"
  | sequenceFlow => "SequenceFlow"
  | dataObject => "DataObject"

/-- Every kind, in the order of the catalog. -/
def all : List FlowKind :=
  [task, serviceTask, userTask, manualTask, scriptTask, sendTask, receiveTask, businessRuleTask,
    startEvent, endEvent, intermediateCatchEvent, intermediateThrowEvent, boundaryEvent,
    exclusiveGateway, inclusiveGateway, parallelGateway, eventBasedGateway, complexGateway,
    subProcess, callActivity, flowNode, sequenceFlow, dataObject]

/-- Every kind, in the order in which messages list the tags of flow elements. -/
def listed : List FlowKind :=
  [task, serviceTask, userTask, manualTask, scriptTask, sendTask, receiveTask, businessRuleTask,
    callActivity, startEvent, endEvent, intermediateCatchEvent, intermediateThrowEvent,
    boundaryEvent, exclusiveGateway, inclusiveGateway, parallelGateway, eventBasedGateway,
    complexGateway, subProcess, sequenceFlow, dataObject, flowNode]

def ofTag? (s : String) : Option FlowKind := all.find? (·.tag == s)

def isTask : FlowKind → Bool
  | task | serviceTask | userTask | manualTask | scriptTask | sendTask | receiveTask
  | businessRuleTask => true
  | _ => false

/-- Events that wait for a trigger. -/
def isCatchEvent : FlowKind → Bool
  | startEvent | intermediateCatchEvent | boundaryEvent => true
  | _ => false

def isThrowEvent : FlowKind → Bool
  | endEvent | intermediateThrowEvent => true
  | _ => false

def isGateway : FlowKind → Bool
  | exclusiveGateway | inclusiveGateway | parallelGateway | eventBasedGateway | complexGateway =>
    true
  | _ => false

/-- Elements that sequence flows connect. -/
def isFlowNode (kind : FlowKind) : Bool :=
  kind.isTask || kind.isCatchEvent || kind.isThrowEvent || kind.isGateway ||
    kind == callActivity || kind == subProcess || kind == flowNode

/-- Flow elements that own flow elements. -/
def isContainer (kind : FlowKind) : Bool := kind == subProcess

end FlowKind

namespace RootKind

def tag : RootKind → String
  | process => "process"
  | message => "message"
  | signal => "signal"
  | error => "error"
  | escalation => "escalation"
  | operation => "operation"

/-- The name of the kind in log records. -/
def label : RootKind → String
  | process => "Process"
  | message => "Message"
  | signal => "Signal"
  | error => "ErrorReference"
  | escalation => "Escalation"
  | operation => "Operation"

def all : List RootKind := [process, message, signal, error, escalation, operation]

/-- Every kind, in the order in which messages list the tags of root elements. -/
def listed : List RootKind := [process, message, signal, escalation, error, operation]

def ofTag? (s : String) : Option RootKind := all.find? (·.tag == s)

end RootKind

namespace ElementKind

def tag : ElementKind → String
  | definitions => "definitions"
  | root kind => kind.tag
  | flow kind => kind.tag

/-- The name of the kind in log records. -/
def label : ElementKind → String
  | definitions => "Definitions"
  | root kind => kind.label
  | flow kind => kind.label

/-- Every kind: the definitions, the root elements, the flow elements. -/
def all : List ElementKind :=
  definitions :: RootKind.all.map root ++ FlowKind.all.map flow

def ofTag? (s : String) : Option ElementKind := all.find? (·.tag == s)

/-- The kind of flow element, if it is one. -/
def flow? : ElementKind → Option FlowKind
  | flow kind => some kind
  | _ => none

/-- Whether elements of the kind own flow elements. -/
def isContainer : ElementKind → Bool
  | root .process => true
  | flow kind => kind.isContainer
  | _ => false

end ElementKind

namespace TriggerKind

def tag : TriggerKind → String
  | timer => "timer"
  | signal => "signal"
  | error => "error"
  | conditional => "conditional"
  | escalation => "escalation"
  | message => "message"
  | compensate => "compensate"

/-- The name of the event definition in log records. -/
def label : TriggerKind → String
  | timer => "TimerEventDefinition"
  | signal => "SignalEventDefinition"
  | error => "ErrorEventDefinition"
  | conditional => "ConditionalEventDefinition"
  | escalation => "EscalationEventDefinition"
  | message => "MessageEventDefinition"
  | compensate => "CompensateEventDefinition"

/-- Every kind, in the order in which messages list their tags. -/
def all : List TriggerKind :=
  [timer, signal, error, conditional, escalation, message, compensate]

def ofTag? (s : String) : Option TriggerKind := all.find? (·.tag == s)

end TriggerKind

namespace OutlineKind

/-- The name of the group in log records. -/
def label : OutlineKind → String
  | element => "BaseElement"
  | flowElement => "FlowElement"
  | flowNode => "FlowNode"
  | event => "Event"
  | gateway => "Gateway"
  | container => "FlowElementsContainer"
  | eventDefinition => "EventDefinition"

def all : List OutlineKind :=
  [element, flowElement, flowNode, event, gateway, container, eventDefinition]

end OutlineKind

namespace Shape

/-- The name of the shape in log records and reports. -/
def label : Shape → String
  | element kind => kind.label
  | eventDefinition kind => kind.label
  | expression => "FormalExpression"
  | outline kind => kind.label

def all : List Shape :=
  ElementKind.all.map element ++ TriggerKind.all.map eventDefinition ++ [expression] ++
    OutlineKind.all.map outline

def ofLabel? (s : String) : Option Shape := all.find? (·.label == s)

end Shape

namespace GatewayDirection

def tag : GatewayDirection → String
  | unspecified => "unspecified"
  | converging => "converging"
  | diverging => "diverging"
  | mixed => "mixed"

/-- Every direction, in the order in which messages list them. -/
def all : List GatewayDirection := [unspecified, converging, diverging, mixed]

def ofTag? (s : String) : Option GatewayDirection := all.find? (·.tag == s)

end GatewayDirection

end BpmnAudit
