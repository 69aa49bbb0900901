import BpmnAudit.Document.Codec
import BpmnAudit.Model.Access

/-!
# Layouts of elements

The layout of each kind of element (`BaseElement` and all that extend it): the names of its fields
in documents, in the order in which they are written and their faults reported. Layouts are built as
the structures are: that of a task starts with that of a flow node, that of a flow node with that of
every element.
-/

namespace BpmnAudit

def elementTagName : String := "element_type"

/-- The field that tags event definitions. -/
def triggerTagName : String := "definition_type"

namespace Layout

variable {χ ω α τ : Type}

/-! ## Parts shared by kinds -/

def base (get : ω → BaseElement) : Codec χ ω BaseElement :=
  BaseElement.mk
    <$> .field (.optionalText "id") (fun w => (get w).id)
    <*> .field (.optionalText "name") (fun w => (get w).name)
    <*> .field (.optionalText "documentation") (fun w => (get w).documentation)
    <*> .field (.attributes "extension_attributes") (fun w => (get w).attributes)
    <*> .field (.blocks "extension_values") (fun w => (get w).blocks)

def tag (word : String) : Codec χ ω Unit :=
  .field (.constant elementTagName word) fun _ => ()

/-- The tag of an element in outline. -/
def outlineTag (get : ω → ElementKind) : Codec χ ω ElementKind :=
  .field (.word elementTagName (ElementKind.all.map ElementKind.tag) ElementKind.ofTag?
    ElementKind.tag none) get

/-- The fields of a flow node, with its tag after those of every element. -/
def nodeWith (make : τ → FlowNode → α) (tag : Codec χ ω τ) (get : ω → FlowNode) : Codec χ ω α :=
  (fun base tag incoming outgoing => make tag { toBaseElement := base, incoming, outgoing })
    <$> base (fun w => (get w).toBaseElement)
    <*> tag
    <*> .field (.texts "incoming") (fun w => (get w).incoming)
    <*> .field (.texts "outgoing") (fun w => (get w).outgoing)

def node (word : String) (get : ω → FlowNode) : Codec χ ω FlowNode :=
  nodeWith (fun _ node => node) (tag word) get

def task (word : String) (get : ω → Task) : Codec χ ω Task :=
  (fun node isForCompensation implementation =>
      { toFlowNode := node, isForCompensation, implementation })
    <$> node word (fun w => (get w).toFlowNode)
    <*> .field (.flag "is_for_compensation" false) (fun w => (get w).isForCompensation)
    <*> .field (.optionalText "implementation") (fun w => (get w).implementation)

def expression : Codec χ Expression Expression :=
  Expression.mk
    <$> .field (.optionalText "body") (·.body)
    <*> .field (.optionalText "language") (·.language)

/-! ## Root elements -/

def message : Codec χ Message Message :=
  (fun base _ itemRef => { toBaseElement := base, itemRef })
    <$> base (·.toBaseElement)
    <*> tag RootKind.message.tag
    <*> .field (.optionalText "item_ref") (·.itemRef)

def signal : Codec χ BaseElement BaseElement :=
  (fun base _ => base) <$> base id <*> tag RootKind.signal.tag

def escalation : Codec χ Escalation Escalation :=
  (fun base _ escalationCode => { toBaseElement := base, escalationCode })
    <$> base (·.toBaseElement)
    <*> tag RootKind.escalation.tag
    <*> .field (.optionalText "escalation_code") (·.escalationCode)

def operation : Codec χ Operation Operation :=
  (fun base _ inputMessage outputMessage =>
      { toBaseElement := base, inputMessage, outputMessage })
    <$> base (·.toBaseElement)
    <*> tag RootKind.operation.tag
    <*> .field (.optionalText "input_message") (·.inputMessage)
    <*> .field (.optionalText "output_message") (·.outputMessage)

def error : Codec χ ErrorElement ErrorElement :=
  (fun base _ errorCode => { toBaseElement := base, errorCode })
    <$> base (·.toBaseElement)
    <*> tag RootKind.error.tag
    <*> .field (.optionalText "error_code") (·.errorCode)

/-! ## Event definitions -/

/-- The tag of a kind of event definition. -/
def triggerTag (kind : TriggerKind) : Codec χ ω Unit :=
  .field (.constant triggerTagName kind.tag) fun _ => ()

def timer : Codec χ TimerDefinition TimerDefinition :=
  (fun base _ timeDate timeDuration timeCycle =>
      { toBaseElement := base, timeDate, timeDuration, timeCycle })
    <$> base (·.toBaseElement)
    <*> triggerTag .timer
    <*> .field (.optionalText "time_date") (·.timeDate)
    <*> .field (.optionalText "time_duration") (·.timeDuration)
    <*> .field (.optionalText "time_cycle") (·.timeCycle)

/-- A signal to wait for or to send. -/
def signalTrigger : Codec χ SignalDefinition SignalDefinition :=
  (fun base _ signalRef => { toBaseElement := base, signalRef })
    <$> base (·.toBaseElement)
    <*> triggerTag .signal
    <*> .field (.optionalText "signal_ref") (·.signalRef)

def errorTrigger : Codec χ ErrorDefinition ErrorDefinition :=
  (fun base _ errorRef => { toBaseElement := base, errorRef })
    <$> base (·.toBaseElement)
    <*> triggerTag .error
    <*> .field (.optionalObject "error_ref" error) (·.errorRef)

def conditional : Codec χ ConditionalDefinition ConditionalDefinition :=
  (fun base _ condition => { toBaseElement := base, condition })
    <$> base (·.toBaseElement)
    <*> triggerTag .conditional
    <*> .field (.optionalObject "condition" expression) (·.condition)

/-- An escalation to catch or to raise. -/
def escalationTrigger : Codec χ EscalationDefinition EscalationDefinition :=
  (fun base _ escalationRef => { toBaseElement := base, escalationRef })
    <$> base (·.toBaseElement)
    <*> triggerTag .escalation
    <*> .field (.optionalText "escalation_ref") (·.escalationRef)

/-- A message to wait for or to send. -/
def messageTrigger : Codec χ MessageDefinition MessageDefinition :=
  (fun base _ messageRef => { toBaseElement := base, messageRef })
    <$> base (·.toBaseElement)
    <*> triggerTag .message
    <*> .field (.optionalText "message_ref") (·.messageRef)

def compensate : Codec χ CompensateDefinition CompensateDefinition :=
  (fun base _ activityRef waitForCompletion =>
      { toBaseElement := base, activityRef, waitForCompletion })
    <$> base (·.toBaseElement)
    <*> triggerTag .compensate
    <*> .field (.optionalText "activity_ref") (·.activityRef)
    <*> .field (.flag "wait_for_completion" true) (·.waitForCompletion)

/-- The form of a kind of event definition. -/
def trigger : TriggerKind → Form Unit EventDefinition
  | .timer => ⟨_, timer, .timer⟩
  | .signal => ⟨_, signalTrigger, .signal⟩
  | .error => ⟨_, errorTrigger, .error⟩
  | .conditional => ⟨_, conditional, .conditional⟩
  | .escalation => ⟨_, escalationTrigger, .escalation⟩
  | .message => ⟨_, messageTrigger, .message⟩
  | .compensate => ⟨_, compensate, .compensate⟩

end Layout

/-- The members of an event definition's object. -/
def EventDefinition.members : EventDefinition → Json.Members
  | timer d => Codec.write (χ := Unit) d .null Layout.timer
  | signal d => Codec.write (χ := Unit) d .null Layout.signalTrigger
  | error d => Codec.write (χ := Unit) d .null Layout.errorTrigger
  | conditional d => Codec.write (χ := Unit) d .null Layout.conditional
  | escalation d => Codec.write (χ := Unit) d .null Layout.escalationTrigger
  | message d => Codec.write (χ := Unit) d .null Layout.messageTrigger
  | compensate d => Codec.write (χ := Unit) d .null Layout.compensate

/-- Reads an event definition of a list. -/
def readEventDefinition : Json → Outcome EventDefinition
  | .object members =>
    readTagged triggerTagName (TriggerKind.all.map TriggerKind.tag) TriggerKind.ofTag?
      (fun kind => (Layout.trigger kind).read members (.ok ())) members
  | _ => .fault .notObject

namespace Layout

variable {χ ω α τ : Type}

/-- The event definitions of an event. -/
def eventDefinitions (get : ω → List EventDefinition) : Codec χ ω (List EventDefinition) :=
  .field ⟨"event_definitions", readList readEventDefinition,
    fun ds => .array (ds.map fun d => .object d.members), some []⟩ get

/-! ## Flow elements -/

/-- A task that says where its work is done. -/
def serviceTask : Codec χ ServiceTask ServiceTask :=
  (fun task operationRef => { toTask := task, operationRef })
    <$> task FlowKind.serviceTask.tag (·.toTask)
    <*> .field (.optionalText "operation_ref") (·.operationRef)

def userTask : Codec χ UserTask UserTask :=
  (fun task rendering => { toTask := task, rendering })
    <$> task FlowKind.userTask.tag (·.toTask)
    <*> .field (.optionalText "rendering") (·.rendering)

def scriptTask : Codec χ ScriptTask ScriptTask :=
  (fun task scriptFormat script => { toTask := task, scriptFormat, script })
    <$> task FlowKind.scriptTask.tag (·.toTask)
    <*> .field (.optionalText "script_format") (·.scriptFormat)
    <*> .field (.optionalText "script") (·.script)

def sendTask : Codec χ SendTask SendTask :=
  (fun task operationRef messageRef => { toTask := task, operationRef, messageRef })
    <$> task FlowKind.sendTask.tag (·.toTask)
    <*> .field (.optionalText "operation_ref") (·.operationRef)
    <*> .field (.optionalText "message_ref") (·.messageRef)

/-- A task that waits for a message. -/
def receiveTask : Codec χ ReceiveTask ReceiveTask :=
  (fun task messageRef instantiate => { toTask := task, messageRef, instantiate })
    <$> task FlowKind.receiveTask.tag (·.toTask)
    <*> .field (.optionalText "message_ref") (·.messageRef)
    <*> .field (.flag "instantiate" false) (·.instantiate)

def callActivity : Codec χ CallActivity CallActivity :=
  (fun node calledElementRef => { toFlowNode := node, calledElementRef })
    <$> node FlowKind.callActivity.tag (·.toFlowNode)
    <*> .field (.optionalText "called_element_ref") (·.calledElementRef)

def event (word : String) (get : ω → Event) : Codec χ ω Event :=
  (fun node definitions => { toFlowNode := node, definitions })
    <$> node word (fun w => (get w).toFlowNode)
    <*> eventDefinitions (fun w => (get w).definitions)

def startEvent : Codec χ StartEvent StartEvent :=
  (fun event isInterrupting => { toEvent := event, isInterrupting })
    <$> event FlowKind.startEvent.tag (·.toEvent)
    <*> .field (.flag "is_interrupting" true) (·.isInterrupting)

def boundaryEvent : Codec χ BoundaryEvent BoundaryEvent :=
  (fun event attachedToRef cancelActivity => { toEvent := event, attachedToRef, cancelActivity })
    <$> event FlowKind.boundaryEvent.tag (·.toEvent)
    <*> .field (.optionalText "attached_to_ref") (·.attachedToRef)
    <*> .field (.flag "cancel_activity" true) (·.cancelActivity)

def direction (get : ω → Option GatewayDirection) : Codec χ ω (Option GatewayDirection) :=
  .field (.optionalWord "gateway_direction" (GatewayDirection.all.map GatewayDirection.tag)
    GatewayDirection.ofTag? GatewayDirection.tag) get

def gateway (word : String) (get : ω → Gateway) : Codec χ ω Gateway :=
  (fun node direction => { toFlowNode := node, direction })
    <$> node word (fun w => (get w).toFlowNode)
    <*> direction (fun w => (get w).direction)

/-- A gateway that may name the flow taken by default. -/
def choiceGateway (word : String) : Codec χ ChoiceGateway ChoiceGateway :=
  (fun gateway defaultFlow => { toGateway := gateway, defaultFlow })
    <$> gateway word (·.toGateway)
    <*> .field (.optionalText "default_flow") (·.defaultFlow)

def eventBasedGateway : Codec χ EventBasedGateway EventBasedGateway :=
  (fun gateway instantiate => { toGateway := gateway, instantiate })
    <$> gateway FlowKind.eventBasedGateway.tag (·.toGateway)
    <*> .field (.flag "instantiate" false) (·.instantiate)

def complexGateway : Codec χ ComplexGateway ComplexGateway :=
  (fun gateway activationCondition => { toGateway := gateway, activationCondition })
    <$> gateway FlowKind.complexGateway.tag (·.toGateway)
    <*> .field (.optionalObject "activation_condition" expression) (·.activationCondition)

/-- A node of a kind that the model does not tell apart. -/
def genericNode : Codec χ GenericNode GenericNode :=
  (fun node nodeType => { toFlowNode := node, nodeType })
    <$> node FlowKind.flowNode.tag (·.toFlowNode)
    <*> .field (.optionalText "node_type") (·.nodeType)

def sequenceFlow : Codec χ SequenceFlow SequenceFlow :=
  (fun base _ sourceRef targetRef conditionExpression =>
      { toBaseElement := base, sourceRef, targetRef, conditionExpression })
    <$> base (·.toBaseElement)
    <*> tag FlowKind.sequenceFlow.tag
    <*> .field (.optionalText "source_ref") (·.sourceRef)
    <*> .field (.optionalText "target_ref") (·.targetRef)
    <*> .field (.optionalObject "condition_expression" expression) (·.conditionExpression)

def dataObject : Codec χ DataObject DataObject :=
  (fun base _ itemSubjectRef isCollection =>
      { toBaseElement := base, itemSubjectRef, isCollection })
    <$> base (·.toBaseElement)
    <*> tag FlowKind.dataObject.tag
    <*> .field (.optionalText "item_subject_ref") (·.itemSubjectRef)
    <*> .field (.flag "is_collection" false) (·.isCollection)

/-- The parts of a subprocess. -/
structure SubProcessParts where
  node : FlowNode
  flowElements : List FlowElement
  triggeredByEvent : Bool

/-- A subprocess, with what it owns before its tag. -/
def subProcess : Codec (List FlowElement) SubProcessParts SubProcessParts :=
  (fun base flowElements _ incoming outgoing triggeredByEvent =>
      ⟨{ toBaseElement := base, incoming, outgoing }, flowElements, triggeredByEvent⟩)
    <$> base (·.node.toBaseElement)
    <*> .children (·.flowElements)
    <*> tag FlowKind.subProcess.tag
    <*> .field (.texts "incoming") (·.node.incoming)
    <*> .field (.texts "outgoing") (·.node.outgoing)
    <*> .field (.flag "triggered_by_event" false) (·.triggeredByEvent)

/-- The form of a kind of flow element. -/
def flow : FlowKind → Form (List FlowElement) FlowElement
  | .task => ⟨_, task FlowKind.task.tag id, fun t => .leaf (.task t)⟩
  | .serviceTask => ⟨_, serviceTask, fun t => .leaf (.serviceTask t)⟩
  | .userTask => ⟨_, userTask, fun t => .leaf (.userTask t)⟩
  | .manualTask => ⟨_, task FlowKind.manualTask.tag id, fun t => .leaf (.manualTask t)⟩
  | .scriptTask => ⟨_, scriptTask, fun t => .leaf (.scriptTask t)⟩
  | .sendTask => ⟨_, sendTask, fun t => .leaf (.sendTask t)⟩
  | .receiveTask => ⟨_, receiveTask, fun t => .leaf (.receiveTask t)⟩
  | .businessRuleTask =>
    ⟨_, task FlowKind.businessRuleTask.tag id, fun t => .leaf (.businessRuleTask t)⟩
  | .startEvent => ⟨_, startEvent, fun e => .leaf (.startEvent e)⟩
  | .endEvent => ⟨_, event FlowKind.endEvent.tag id, fun e => .leaf (.endEvent e)⟩
  | .intermediateCatchEvent =>
    ⟨_, event FlowKind.intermediateCatchEvent.tag id, fun e => .leaf (.intermediateCatchEvent e)⟩
  | .intermediateThrowEvent =>
    ⟨_, event FlowKind.intermediateThrowEvent.tag id, fun e => .leaf (.intermediateThrowEvent e)⟩
  | .boundaryEvent => ⟨_, boundaryEvent, fun e => .leaf (.boundaryEvent e)⟩
  | .exclusiveGateway =>
    ⟨_, choiceGateway FlowKind.exclusiveGateway.tag, fun g => .leaf (.exclusiveGateway g)⟩
  | .inclusiveGateway =>
    ⟨_, choiceGateway FlowKind.inclusiveGateway.tag, fun g => .leaf (.inclusiveGateway g)⟩
  | .parallelGateway =>
    ⟨_, gateway FlowKind.parallelGateway.tag id, fun g => .leaf (.parallelGateway g)⟩
  | .eventBasedGateway => ⟨_, eventBasedGateway, fun g => .leaf (.eventBasedGateway g)⟩
  | .complexGateway => ⟨_, complexGateway, fun g => .leaf (.complexGateway g)⟩
  | .subProcess =>
    ⟨_, subProcess, fun s => .subProcess s.node s.flowElements s.triggeredByEvent⟩
  | .callActivity => ⟨_, callActivity, fun a => .leaf (.callActivity a)⟩
  | .flowNode => ⟨_, genericNode, fun n => .leaf (.flowNode n)⟩
  | .sequenceFlow => ⟨_, sequenceFlow, fun f => .leaf (.sequenceFlow f)⟩
  | .dataObject => ⟨_, dataObject, fun d => .leaf (.dataObject d)⟩

/-! ## Containers -/

def process : Codec (List FlowElement) Process Process :=
  (fun base flowElements _ isExecutable processType =>
      { toBaseElement := base, flowElements, isExecutable, processType })
    <$> base (·.toBaseElement)
    <*> .children (·.flowElements)
    <*> tag RootKind.process.tag
    <*> .field (.flag "is_executable" true) (·.isExecutable)
    <*> .field (.text "process_type" "private") (·.processType)

/-- The form of a kind of root element. -/
def root : RootKind → Form (List FlowElement) RootElement
  | .process => ⟨_, process, .process⟩
  | .message => ⟨_, message, .message⟩
  | .signal => ⟨_, signal, .signal⟩
  | .error => ⟨_, error, .error⟩
  | .escalation => ⟨_, escalation, .escalation⟩
  | .operation => ⟨_, operation, .operation⟩

end Layout

end BpmnAudit
