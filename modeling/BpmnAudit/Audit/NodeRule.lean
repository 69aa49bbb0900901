import BpmnAudit.Audit.Scope
import BpmnAudit.Decimal.Reading
import BpmnAudit.Text.Predicates

/-!
# Rules for flow elements

Each rule (`check_start_event` and so on) looks at one aspect of one flow element. Several rules may
apply to an element (`rules_for`); each says all it has to say, whatever the others say. A rule
stops at a field that the element does not have; flow elements of a kind of their own have every
field that the rules for the kind ask for.
-/

namespace BpmnAudit

/-! ## Simulation data -/

/-- The simulation data that rules read: outside of strict runs none, else the merged blocks
without the names whose value is blank. -/
def simulationData (strict : Bool) (base : BaseElement) : List (String × String) :=
  if strict then (mergeBlocks base.blocks).filter fun (_, value) => !Text.isBlank (some value)
  else []

/-- What a user task's simulation data lack. -/
def userTaskDataProblems (strict : Bool) (base : BaseElement) : List Problem :=
  if base.blocks.isEmpty then []
  else
    Problem.noStaffAvailability.when
      ((simulationData strict base).lookup "staffAvailability").isNone

/-- What a task's simulation data lack; the distribution decides what else is needed. -/
def taskDataProblems (strict : Bool) (base : BaseElement) : List Problem :=
  if base.blocks.isEmpty then []
  else
    let data := simulationData strict base
    let distribution := data.lookup "distributionType"
    Problem.noDistributionType.when distribution.isNone ++
      Problem.noDuration.when (data.lookup "duration").isNone ++
      Problem.noTimeUnits.when (data.lookup "timeUnits").isNone ++
      Problem.noRange.when
        ((distribution == some "random" || distribution == some "uniform") &&
          (data.lookup "range").isNone) ++
      Problem.noStandardDeviation.when
        (distribution == some "normal" && (data.lookup "standardDeviation").isNone)

/-! ## Event definitions -/

namespace EventDefinition

/-- The reference that an event definition lacks; timers need none. -/
def missing? : EventDefinition → Option EventDetail
  | timer _ => none
  | signal d => if Text.isBlank d.signalRef then some .signalRef else none
  | error d => if Text.isBlank (d.errorRef.bind (·.errorCode)) then some .errorRef else none
  | conditional d => if Text.isBlank (d.condition.bind (·.body)) then some .condition else none
  | escalation d => if Text.isBlank d.escalationRef then some .escalationRef else none
  | message d => if Text.isBlank d.messageRef then some .messageRef else none
  | compensate d => if Text.isBlank d.activityRef then some .activityRef else none

/-- What an event definition to wait for lacks. A timer needs any one of its three texts. -/
def catchProblems : EventDefinition → List Problem
  | timer d =>
    if Text.isBlank d.timeDate && Text.isBlank d.timeDuration && Text.isBlank d.timeCycle then
      [.catchWithout .timeDate, .catchWithout .timeDuration, .catchWithout .timeCycle]
    else []
  | d => d.missing?.toList.map .catchWithout

/-- What an event definition to set off lacks. A timer needs a date and a duration, and it is its
cycle that must be missing. -/
def throwProblems : EventDefinition → List Problem
  | timer d =>
    (Problem.throwWithout .timeDate).when (Text.isBlank d.timeDate) ++
      (Problem.throwWithout .timeDuration).when (Text.isBlank d.timeDuration) ++
      (Problem.throwWithout .timeCycle).when (!Text.isBlank d.timeCycle)
  | d => d.missing?.toList.map .throwWithout

end EventDefinition

/-! ## Gateways -/

/-- The directions that a kind of gateway may have. -/
def GatewayKind.directions : GatewayKind → List GatewayDirection
  | exclusive | parallel | complex => [.diverging, .converging]
  | eventBased | inclusive => [.diverging]

/-- Whether a gateway has no direction. -/
def Gateway.isUndirected (gateway : Gateway) : Bool :=
  gateway.direction == none || gateway.direction == some .unspecified

/-- Whether a kind of gateway may have a direction. -/
def GatewayKind.allows (kind : GatewayKind) : Option GatewayDirection → Bool
  | none => false
  | some direction => kind.directions.contains direction

/-- What an outgoing sequence flow contributes to the probabilities of a gateway. -/
inductive Branch where
  /-- Nothing: there is no such flow, or it has no simulation data, or they are not read. -/
  | silent
  | unweighted (flow : Placed)
  | odd (flow : Placed) (text : String)
  | weighted (probability : Float)

namespace Branch

/-- What the outgoing sequence flow of an id contributes. -/
def ofId (scope : Scope) (id : String) : Branch :=
  match scope.flow? id with
  | none => silent
  | some flow =>
    let blocks := flow.element.base.blocks
    if blocks.isEmpty then silent
    else
      match blockValue? blocks "probability" with
      | none => unweighted flow
      | some text =>
        if scope.strict then
          match Decimal.readNumber text with
          | some x => weighted x
          | none => odd flow text
        else silent

def remarks : Branch → List Remark
  | silent => []
  | unweighted flow => [.problem .noProbability (some flow.located)]
  | odd flow text => [.oddProbability flow text]
  | weighted _ => []

def probability? : Branch → Option Float
  | weighted x => some x
  | _ => none

end Branch

/-- Whether probabilities, added from left to right, miss one hundred. -/
def missesHundred (probabilities : List Float) : Bool :=
  (probabilities.foldl (· + ·) 0 - 100).abs > 1e-9

/-- What the rule says of a gateway's branches. -/
def probabilityRemarks (scope : Scope) (l : Located) (outgoing : List String) : List Remark :=
  let branches := outgoing.map (Branch.ofId scope)
  let probabilities := branches.filterMap Branch.probability?
  branches.flatMap Branch.remarks ++
    l.remarks (Problem.probabilitySum.when (!probabilities.isEmpty && missesHundred probabilities))

/-- The same where sequence flows may be out of reach; only a branch needs one. -/
def probabilityProgress (scope : Scope) (l : Located) (outgoing : List String) :
    Progress (List Remark) :=
  match scope.noFlows with
  | some misfit => if outgoing.isEmpty then ⟨[], none⟩ else ⟨[], some misfit⟩
  | none => ⟨probabilityRemarks scope l outgoing, none⟩

/-! ## The rules -/

/-- A rule for flow elements. -/
inductive NodeRule where
  | startEvent
  | endEvent
  | nodeConnections
  | businessRuleTask
  | scriptTask
  | sendTask
  | userTask
  | userTaskSimulation
  | taskSimulation
  | catchEvent
  | throwEvent
  | sequenceFlow
  | gatewayDirection
  | gatewayKindDirection
  | gatewayProbabilities
  | callActivity
  | dataObject
  deriving DecidableEq, Repr

namespace NodeRule

def tag : NodeRule → String
  | startEvent => "check_start_event"
  | endEvent => "check_end_event"
  | nodeConnections => "check_node_connections"
  | businessRuleTask => "check_business_rule_task"
  | scriptTask => "check_script_task"
  | sendTask => "check_send_task"
  | userTask => "check_user_task"
  | userTaskSimulation => "check_user_task_simulation"
  | taskSimulation => "check_task_simulation"
  | catchEvent => "check_catch_event"
  | throwEvent => "check_throw_event"
  | sequenceFlow => "check_sequence_flow"
  | gatewayDirection => "check_gateway_direction"
  | gatewayKindDirection => "check_gateway_kind_direction"
  | gatewayProbabilities => "check_gateway_probabilities"
  | callActivity => "check_call_activity"
  | dataObject => "check_data_object"

/-- Every rule, in the order in which the rules for an element are applied. -/
def all : List NodeRule :=
  [startEvent, endEvent, nodeConnections, businessRuleTask, scriptTask, sendTask, userTask,
    userTaskSimulation, taskSimulation, catchEvent, throwEvent, sequenceFlow, gatewayDirection,
    gatewayKindDirection, gatewayProbabilities, callActivity, dataObject]

/-- Whether a rule is for elements of a kind. -/
def appliesTo : NodeRule → FlowKind → Bool
  | startEvent, kind => kind == .startEvent
  | endEvent, kind => kind == .endEvent
  | nodeConnections, kind => kind.isFlowNode && kind != .startEvent && kind != .endEvent
  | businessRuleTask, kind => kind == .businessRuleTask
  | scriptTask, kind => kind == .scriptTask
  | sendTask, kind => kind == .sendTask
  | userTask, kind => kind == .userTask
  | userTaskSimulation, kind => kind == .userTask
  | taskSimulation, kind => kind.isTask
  | catchEvent, kind => kind.isCatchEvent
  | throwEvent, kind => kind.isThrowEvent
  | sequenceFlow, kind => kind == .sequenceFlow
  | gatewayDirection, kind => kind.isGateway
  | gatewayKindDirection, kind => kind.isGateway
  | gatewayProbabilities, kind => kind.isGateway && kind != .parallelGateway
  | callActivity, kind => kind == .callActivity
  | dataObject, kind => kind == .dataObject

/-- What a rule finds wrong with an element, as far as its siblings do not matter. -/
def problems (strict adHoc : Bool) (e : Element) : NodeRule → Progress (List Problem)
  | startEvent =>
    e.judge "outgoing" e.node? fun n => Problem.startWithoutOutgoing.when n.outgoing.isEmpty
  | endEvent =>
    e.judge "incoming" e.node? fun n => Problem.endWithoutIncoming.when n.incoming.isEmpty
  | nodeConnections =>
    e.judge "outgoing" e.node? fun n =>
      Problem.nodeWithoutOutgoing.when (n.outgoing.isEmpty && !adHoc) ++
        Problem.nodeWithoutIncoming.when (n.incoming.isEmpty && !adHoc)
  | businessRuleTask =>
    e.judge "extension_attributes" e.base? fun b =>
      Problem.noRuleFlowGroup.when (Text.isBlank (b.attributes.get? "ruleFlowGroup"))
  | scriptTask =>
    e.judge "script" e.scriptTask? fun t =>
      Problem.noScript.when (Text.isBlank t.script) ++
        Problem.noScriptFormat.when (Text.isBlank t.scriptFormat)
  | sendTask =>
    (e.judge "operation_ref" e.operationRef? fun ref =>
      Problem.noOperation.when (Text.isBlank ref)).append
    (e.judge "message_ref" e.messageRef? fun ref => Problem.noMessage.when (Text.isBlank ref))
  | userTask =>
    e.judge "extension_attributes" e.base? fun b =>
      Problem.noTaskName.when (Text.isBlank (b.attributes.get? "taskName"))
  | userTaskSimulation => e.judge "extension_values" e.base? (userTaskDataProblems strict)
  | taskSimulation => e.judge "extension_values" e.base? (taskDataProblems strict)
  | catchEvent =>
    e.judge "event_definitions" e.eventDefinitions? (·.flatMap EventDefinition.catchProblems)
  | throwEvent =>
    e.judge "event_definitions" e.eventDefinitions? (·.flatMap EventDefinition.throwProblems)
  | sequenceFlow =>
    e.judge "source_ref" e.sequenceFlow? fun f =>
      Problem.noSource.when (Text.isBlank f.sourceRef) ++
        Problem.noTarget.when (Text.isBlank f.targetRef)
  | gatewayDirection =>
    e.judge "gateway_direction" e.gateway? fun g => Problem.noDirection.when g.isUndirected
  | gatewayKindDirection =>
    match (e.kind?.bind ElementKind.flow?).bind FlowKind.gateway? with
    | none => ⟨[], some (.noDirections e.kind?)⟩
    | some kind =>
      e.judge "gateway_direction" e.gateway? fun g =>
        (Problem.wrongDirection kind).when !(kind.allows g.direction)
  | gatewayProbabilities => e.judge "outgoing" e.node? fun _ => []
  | callActivity =>
    e.judge "called_element_ref" e.callActivity? fun a =>
      Problem.noCalledElement.when (Text.isBlank a.calledElementRef)
  | dataObject =>
    e.judge "name" e.base? fun b =>
      Problem.noDataName.when (Text.isBlank b.name) ++
        Problem.spaceInDataName.when (Text.hasSpace b.name)

/-- Whether a rule looks up sequence flows. -/
def readsFlows (rule : NodeRule) : Bool := rule == gatewayProbabilities

/-- Whether a rule looks up sequence flows for an element. It does for each one that the element
names, so for none if there are none. -/
def looksUp (rule : NodeRule) (e : Element) : Bool :=
  rule.readsFlows && !((e.node?.map (·.outgoing)).getD []).isEmpty

/-- What a rule says of an element. -/
def remarks (scope : Scope) (l : Located) (rule : NodeRule) : Progress (List Remark) :=
  let own := (rule.problems scope.strict scope.adHoc l.element).map l.remarks
  if rule.readsFlows then
    own.append (probabilityProgress scope l ((l.element.node?.map (·.outgoing)).getD []))
  else own

end NodeRule

/-- The rules for elements of a kind, in the order in which they are applied. -/
def FlowKind.rules (kind : FlowKind) : List NodeRule := NodeRule.all.filter (·.appliesTo kind)

/-- The rules for an element; none unless its tag is that of a flow element. -/
def Element.rules (e : Element) : List NodeRule :=
  ((e.kind?.bind ElementKind.flow?).map FlowKind.rules).getD []

/-- The kinds that some rule is for, each with its rules. -/
def catalog : List (FlowKind × List NodeRule) :=
  (FlowKind.all.map fun kind => (kind, kind.rules)).filter fun (_, rules) => !rules.isEmpty

/-! ## No rule stops at an element of a kind that it is for -/

/-- An element of a kind of its own has every field that the rules for the kind ask for. -/
theorem NodeRule.misfit_problems (strict adHoc : Bool) {e : FlowElement} {rule : NodeRule} :
    rule.appliesTo e.kind = true → (rule.problems strict adHoc (.flow e)).misfit = none := by
  cases e with
  | leaf l => cases l <;> cases rule <;> first | exact fun _ => rfl | exact nofun
  | subProcess node es triggered => cases rule <;> first | exact fun _ => rfl | exact nofun

theorem NodeRule.misfit_remarks {scope : Scope} (h : scope.noFlows = none) {p : Placed}
    {rule : NodeRule} (hr : rule.appliesTo p.element.kind = true) :
    (rule.remarks scope p.located).misfit = none := by
  have own := rule.misfit_problems scope.strict scope.adHoc hr
  unfold remarks
  split <;>
    simp [Progress.map, Progress.append, Progress.andThen, probabilityProgress, own, h,
      Placed.located]

theorem NodeRule.mem_rules {e : FlowElement} {rule : NodeRule}
    (h : rule ∈ (Element.flow e).rules) : rule.appliesTo e.kind = true :=
  (List.mem_filter.mp h).2

end BpmnAudit
