import BpmnAudit.Model.Kind

/-!
# Problems

What an audit can find wrong with a model, and the wording of it.
-/

namespace BpmnAudit

/-- The kinds of gateways. -/
inductive GatewayKind where
  | exclusive
  | eventBased
  | parallel
  | inclusive
  | complex
  deriving DecidableEq, Repr

/-- The kind of gateway of a flow element's kind, if it is one. -/
def FlowKind.gateway? : FlowKind → Option GatewayKind
  | exclusiveGateway => some .exclusive
  | eventBasedGateway => some .eventBased
  | parallelGateway => some .parallel
  | inclusiveGateway => some .inclusive
  | complexGateway => some .complex
  | _ => none

/-- What an event definition can lack. -/
inductive EventDetail where
  | timeDate
  | timeDuration
  | timeCycle
  | signalRef
  | errorRef
  | condition
  | escalationRef
  | messageRef
  | activityRef
  deriving DecidableEq, Repr

inductive Problem where
  | noProcessId
  | invalidProcessId
  | noPackageName
  | noProcessName
  | noStartNode
  | noEndNode
  | startWithoutOutgoing
  | endWithoutIncoming
  | nodeWithoutOutgoing
  | nodeWithoutIncoming
  | noRuleFlowGroup
  | noScript
  | noScriptFormat
  | noOperation
  | noMessage
  | noTaskName
  | noStaffAvailability
  | noDistributionType
  | noDuration
  | noTimeUnits
  | noRange
  | noStandardDeviation
  | catchWithout (detail : EventDetail)
  | throwWithout (detail : EventDetail)
  | noSource
  | noTarget
  | noDirection
  | wrongDirection (kind : GatewayKind)
  | noProbability
  | probabilitySum
  | noCalledElement
  | noDataName
  | spaceInDataName
  /-- A problem that the caller states in words of its own. -/
  | stated (text : String)
  deriving DecidableEq, Repr

/-- What a catch event's message calls a detail. -/
def EventDetail.caught : EventDetail → String
  | timeDate => "timedate"
  | timeDuration => "timeduration"
  | timeCycle => "timecycle"
  | signalRef => "signalref"
  | errorRef => "errorref"
  | condition => "condition expression"
  | escalationRef => "escalationref"
  | messageRef => "messageref"
  | activityRef => "activityref"

/-- What a throw event's message calls a detail. -/
def EventDetail.thrown : EventDetail → String
  | timeDate => "timedate"
  | timeDuration => "timeduration"
  | timeCycle => "timecycle"
  | signalRef => "signalref"
  | errorRef => "errorref"
  | condition => "conditional expression"
  | escalationRef => "conditional escalationref"
  | messageRef => "conditional messageref"
  | activityRef => "conditional activityref"

/-- What a message says of the directions that a kind of gateway may have. -/
def GatewayKind.directionMessage : GatewayKind → String
  | exclusive =>
    "Invalid Gateway direction for Exclusing Gateway. It should be 'Converging' or 'Diverging'."
  | eventBased => "Invalid Gateway direction for EventBased Gateway. It should be 'Diverging'."
  | parallel =>
    "Invalid Gateway direction for Parallel Gateway. It should be 'Converging' or 'Diverging'."
  | inclusive => "Invalid Gateway direction for Inclusive Gateway. It should be 'Diverging'."
  | complex =>
    "Invalid Gateway direction for Complex Gateway. It should be 'Converging' or 'Diverging'."

def Problem.message : Problem → String
  | noProcessId => "Process has no id."
  | invalidProcessId =>
    "Invalid process id. See http://www.w3.org/TR/REC-xml-names/#NT-NCName for more info."
  | noPackageName => "Process has no package name."
  | noProcessName => "Process has no name."
  | noStartNode => "Process has no start node."
  | noEndNode => "Process has no end node."
  | startWithoutOutgoing => "Start node has no outgoing connections"
  | endWithoutIncoming => "End node has no incoming connections"
  | nodeWithoutOutgoing => "Node has no outgoing connections"
  | nodeWithoutIncoming => "Node has no incoming connections"
  | noRuleFlowGroup => "Business Rule Task has no ruleflow-group."
  | noScript => "Script Task has no script."
  | noScriptFormat => "Script Task has no script format."
  | noOperation => "Send Task has no operation."
  | noMessage => "Send Task has no message."
  | noTaskName => "User Task has no task name."
  | noStaffAvailability => "User Task has no staff availability defined."
  | noDistributionType => "Task has no distribution type defined."
  | noDuration => "Task has no duration defined."
  | noTimeUnits => "Task has no Time Units defined."
  | noRange => "Task has no Range defined."
  | noStandardDeviation => "Task has no Standard Deviation defined."
  | catchWithout detail => "Catch Event has no " ++ detail.caught ++ "."
  | throwWithout detail => "Throw Event has no " ++ detail.thrown ++ "."
  | noSource => "An Edge must have a source node."
  | noTarget => "An Edge must have a target node."
  | noDirection => "Gateway does not specify a valid direction."
  | wrongDirection kind => kind.directionMessage
  | noProbability => "Sequence Flow has no probability defined."
  | probabilitySum =>
    "The sum of probability values of all outgoing Sequence Flows must be equal 100."
  | noCalledElement => "Reusable Subprocess has no called element specified."
  | noDataName => "Data Object has no name defined."
  | spaceInDataName => "Data Object name contains white spaces."
  | stated text => text

end BpmnAudit
