import BpmnAudit.Model.Attributes
import BpmnAudit.Model.Kind

/-!
# Elements

The elements of a model, each as what its kind says of it. The structures extend one another as
the kinds do: every element has the fields of `BaseElement`, a task those of `FlowNode`, and so
on. A subprocess owns flow elements, so `FlowElement` is a tree.
-/

namespace BpmnAudit

/-- What every element has. -/
structure BaseElement where
  id : Option String := none
  name : Option String := none
  documentation : Option String := none
  attributes : Attributes := {}
  blocks : List Attributes := []
  deriving DecidableEq

/-- An expression of a condition. -/
structure Expression where
  body : Option String := none
  language : Option String := none
  deriving DecidableEq

/-! ## Root elements without flow elements -/

structure Message extends BaseElement where
  itemRef : Option String := none
  deriving DecidableEq

structure Escalation extends BaseElement where
  escalationCode : Option String := none
  deriving DecidableEq

structure Operation extends BaseElement where
  inputMessage : Option String := none
  outputMessage : Option String := none
  deriving DecidableEq

structure ErrorElement extends BaseElement where
  errorCode : Option String := none
  deriving DecidableEq

/-! ## Event definitions -/

structure TimerDefinition extends BaseElement where
  timeDate : Option String := none
  timeDuration : Option String := none
  timeCycle : Option String := none
  deriving DecidableEq

structure SignalDefinition extends BaseElement where
  signalRef : Option String := none
  deriving DecidableEq

structure ErrorDefinition extends BaseElement where
  errorRef : Option ErrorElement := none
  deriving DecidableEq

structure ConditionalDefinition extends BaseElement where
  condition : Option Expression := none
  deriving DecidableEq

structure EscalationDefinition extends BaseElement where
  escalationRef : Option String := none
  deriving DecidableEq

structure MessageDefinition extends BaseElement where
  messageRef : Option String := none
  deriving DecidableEq

structure CompensateDefinition extends BaseElement where
  activityRef : Option String := none
  waitForCompletion : Bool := true
  deriving DecidableEq

/-- What an event waits for or sets off. -/
inductive EventDefinition where
  | timer (definition : TimerDefinition)
  | signal (definition : SignalDefinition)
  | error (definition : ErrorDefinition)
  | conditional (definition : ConditionalDefinition)
  | escalation (definition : EscalationDefinition)
  | message (definition : MessageDefinition)
  | compensate (definition : CompensateDefinition)
  deriving DecidableEq

/-! ## Flow nodes -/

structure FlowNode extends BaseElement where
  incoming : List String := []
  outgoing : List String := []
  deriving DecidableEq

structure Task extends FlowNode where
  isForCompensation : Bool := false
  implementation : Option String := none
  deriving DecidableEq

structure ServiceTask extends Task where
  operationRef : Option String := none
  deriving DecidableEq

structure UserTask extends Task where
  rendering : Option String := none
  deriving DecidableEq

structure ScriptTask extends Task where
  scriptFormat : Option String := none
  script : Option String := none
  deriving DecidableEq

structure SendTask extends Task where
  operationRef : Option String := none
  messageRef : Option String := none
  deriving DecidableEq

structure ReceiveTask extends Task where
  messageRef : Option String := none
  instantiate : Bool := false
  deriving DecidableEq

structure CallActivity extends FlowNode where
  calledElementRef : Option String := none
  deriving DecidableEq

structure Event extends FlowNode where
  definitions : List EventDefinition := []
  deriving DecidableEq

structure StartEvent extends Event where
  isInterrupting : Bool := true
  deriving DecidableEq

structure BoundaryEvent extends Event where
  attachedToRef : Option String := none
  cancelActivity : Bool := true
  deriving DecidableEq

structure Gateway extends FlowNode where
  direction : Option GatewayDirection := none
  deriving DecidableEq

/-- An exclusive or inclusive gateway, which may name the flow taken by default. -/
structure ChoiceGateway extends Gateway where
  defaultFlow : Option String := none
  deriving DecidableEq

structure EventBasedGateway extends Gateway where
  instantiate : Bool := false
  deriving DecidableEq

structure ComplexGateway extends Gateway where
  activationCondition : Option Expression := none
  deriving DecidableEq

/-- A node of a kind that the model does not tell apart. -/
structure GenericNode extends FlowNode where
  nodeType : Option String := none
  deriving DecidableEq

/-! ## Edges and data -/

structure SequenceFlow extends BaseElement where
  sourceRef : Option String := none
  targetRef : Option String := none
  conditionExpression : Option Expression := none
  deriving DecidableEq

structure DataObject extends BaseElement where
  itemSubjectRef : Option String := none
  isCollection : Bool := false
  deriving DecidableEq

/-! ## The tree -/

/-- A flow element that owns no flow elements. -/
inductive FlowLeaf where
  | task (task : Task)
  | serviceTask (task : ServiceTask)
  | userTask (task : UserTask)
  | manualTask (task : Task)
  | scriptTask (task : ScriptTask)
  | sendTask (task : SendTask)
  | receiveTask (task : ReceiveTask)
  | businessRuleTask (task : Task)
  | startEvent (event : StartEvent)
  | endEvent (event : Event)
  | intermediateCatchEvent (event : Event)
  | intermediateThrowEvent (event : Event)
  | boundaryEvent (event : BoundaryEvent)
  | exclusiveGateway (gateway : ChoiceGateway)
  | inclusiveGateway (gateway : ChoiceGateway)
  | parallelGateway (gateway : Gateway)
  | eventBasedGateway (gateway : EventBasedGateway)
  | complexGateway (gateway : ComplexGateway)
  | callActivity (activity : CallActivity)
  | flowNode (node : GenericNode)
  | sequenceFlow (flow : SequenceFlow)
  | dataObject (data : DataObject)
  deriving DecidableEq

/-- A flow element: what a process or a subprocess owns. -/
inductive FlowElement where
  | leaf (leaf : FlowLeaf)
  | subProcess (node : FlowNode) (flowElements : List FlowElement) (triggeredByEvent : Bool)

mutual

/-- Equality of flow elements, decided along the tree. -/
def FlowElement.decEq : (a b : FlowElement) → Decidable (a = b)
  | .leaf a, .leaf b => decidable_of_iff (a = b) (by simp)
  | .leaf _, .subProcess .. => isFalse (by simp)
  | .subProcess .., .leaf _ => isFalse (by simp)
  | .subProcess node es triggered, .subProcess node' es' triggered' =>
    match FlowElement.decEqList es es' with
    | isTrue h => decidable_of_iff (node = node' ∧ triggered = triggered') (by simp [h])
    | isFalse h => isFalse (by simp [h])

/-- Equality of lists of flow elements. -/
def FlowElement.decEqList : (as bs : List FlowElement) → Decidable (as = bs)
  | [], [] => isTrue rfl
  | [], _ :: _ => isFalse (by simp)
  | _ :: _, [] => isFalse (by simp)
  | a :: as, b :: bs =>
    match FlowElement.decEq a b with
    | isTrue h =>
      match FlowElement.decEqList as bs with
      | isTrue hs => isTrue (by rw [h, hs])
      | isFalse hs => isFalse (by simp [hs])
    | isFalse h => isFalse (by simp [h])

end

instance : DecidableEq FlowElement := FlowElement.decEq

structure Process extends BaseElement where
  flowElements : List FlowElement := []
  isExecutable : Bool := true
  processType : String := "private"
  deriving DecidableEq

/-- A root element: what the definitions own. -/
inductive RootElement where
  | process (process : Process)
  | message (message : Message)
  | signal (signal : BaseElement)
  | error (error : ErrorElement)
  | escalation (escalation : Escalation)
  | operation (operation : Operation)
  deriving DecidableEq

/-- A whole document. -/
structure Definitions extends BaseElement where
  targetNamespace : String := "http://www.omg.org/bpmn20"
  rootElements : List RootElement := []
  deriving DecidableEq

/-! ## Elements known in outline -/

/-- An element of which a document gives the kind by a tag alone, and the fields of a group of
kinds that it belongs to. -/
inductive Outline where
  | element (base : BaseElement)
  | flowElement (tag : ElementKind) (base : BaseElement)
  | flowNode (tag : ElementKind) (node : FlowNode)
  | event (tag : ElementKind) (event : Event)
  | gateway (tag : ElementKind) (gateway : Gateway)
  | container (base : BaseElement) (flowElements : List FlowElement)
  | eventDefinition (tag : TriggerKind) (base : BaseElement)
  deriving DecidableEq

/-- Anything that a document can describe. -/
inductive Element where
  | definitions (definitions : Definitions)
  | root (element : RootElement)
  | flow (element : FlowElement)
  | eventDefinition (definition : EventDefinition)
  | expression (expression : Expression)
  | outline (outline : Outline)
  deriving DecidableEq

end BpmnAudit
