import BpmnAudit.Proofs.Rules.Blocks
import BpmnAudit.Proofs.Rules.Findings
import BpmnAudit.Proofs.WellFormed.Basic

/-!
# What rules ask

`NodeRule.Asks` says rule by rule what `FlowElement.WellFormed` says kind by kind. A rule for an
element's kind finds nothing wrong with the element exactly when the element is as the rule asks
(`Visit.findings_rule_eq_nil_iff`); the lemmas before it say the same of the single checks that
rules are made of.
-/

namespace BpmnAudit

open Text (Says)

/-- What a rule asks of a flow element among its siblings. -/
def NodeRule.Asks (strict adHoc : Bool) (siblings : List FlowElement) (e : FlowElement) :
    NodeRule → Prop
  | startEvent => ∀ n, e.node? = some n → n.outgoing ≠ []
  | endEvent => ∀ n, e.node? = some n → n.incoming ≠ []
  | nodeConnections => ∀ n, e.node? = some n → n.Connected adHoc
  | businessRuleTask => Says (e.base.attributes.get? "ruleFlowGroup")
  | scriptTask =>
    ∀ t, (Element.flow e).scriptTask? = some t → Says t.script ∧ Says t.scriptFormat
  | sendTask => ∀ t, e = .leaf (.sendTask t) → Says t.operationRef ∧ Says t.messageRef
  | userTask => Says (e.base.attributes.get? "taskName")
  | userTaskSimulation => e.base.Staffed strict
  | taskSimulation => e.base.Simulates strict
  | catchEvent => ∀ ds, (Element.flow e).eventDefinitions? = some ds → ∀ d ∈ ds, d.Catchable
  | throwEvent => ∀ ds, (Element.flow e).eventDefinitions? = some ds → ∀ d ∈ ds, d.Throwable
  | sequenceFlow => ∀ f, e.sequenceFlow? = some f → Says f.sourceRef ∧ Says f.targetRef
  | gatewayDirection =>
    ∀ g, (Element.flow e).gateway? = some g → g.isUndirected = false
  | gatewayKindDirection =>
    ∀ kind, e.kind.gateway? = some kind → ∀ g, (Element.flow e).gateway? = some g →
      kind.Directed g.direction
  | gatewayProbabilities => ∀ n, e.node? = some n → Weighted strict siblings n.outgoing
  | callActivity =>
    ∀ a, (Element.flow e).callActivity? = some a → Says a.calledElementRef
  | dataObject =>
    Says e.base.name ∧ ∀ s, e.base.name = some s → ∀ c ∈ s.toList, Text.isSpace c = false

/-! ## Checks -/

theorem Problem.when_eq_nil_iff {p : Problem} {condition : Bool} :
    p.when condition = [] ↔ condition = false := by
  cases condition <;> simp [Problem.when]

theorem Problem.when_isBlank_eq_nil_iff {p : Problem} {text : Option String} :
    p.when (Text.isBlank text) = [] ↔ Says text := by
  rw [Problem.when_eq_nil_iff, Text.isBlank_eq_false_iff]

theorem Element.judge_eq_nil_iff {α : Type} {e : Element} {field : String} {value : Option α}
    {problems : α → List Problem} :
    (e.judge field value problems).result = [] ↔ ∀ a, value = some a → problems a = [] := by
  cases value <;> simp [Element.judge]

theorem Text.hasSpace_eq_false_iff {text : Option String} :
    Text.hasSpace text = false ↔ ∀ s, text = some s → ∀ c ∈ s.toList, Text.isSpace c = false := by
  cases text <;> simp [Text.hasSpace]

theorem FlowNode.connected_iff {adHoc : Bool} {node : FlowNode} :
    node.Connected adHoc ↔
      (node.outgoing.isEmpty && !adHoc) = false ∧ (node.incoming.isEmpty && !adHoc) = false := by
  cases adHoc <;> simp [FlowNode.Connected]

/-! ## Simulation data -/

theorem lookup_simulationData_isSome_iff {strict : Bool} {base : BaseElement} {name : String} :
    ((simulationData strict base).lookup name).isNone = false ↔ base.Gives strict name := by
  rw [lookup_simulationData]
  unfold BaseElement.Gives
  cases strict with
  | false => simp
  | true =>
    cases hv : blockValue? base.blocks name with
    | none => simp [Says]
    | some v =>
      rw [if_pos rfl, ← Text.isBlank_eq_false_iff]
      cases hb : Text.isBlank (some v) <;> simp [Option.filter, hb]

theorem lookup_simulationData_of_gives {strict : Bool} {base : BaseElement} {name : String}
    (h : base.Gives strict name) :
    (simulationData strict base).lookup name = blockValue? base.blocks name := by
  obtain ⟨hs, hsays⟩ := h
  obtain ⟨v, hv, -⟩ := id hsays
  rw [hv, ← Text.isBlank_eq_false_iff] at hsays
  rw [lookup_simulationData, hs, if_pos rfl, hv]
  simp [Option.filter, hsays]

theorem userTaskDataProblems_eq_nil_iff {strict : Bool} {base : BaseElement} :
    userTaskDataProblems strict base = [] ↔ base.Staffed strict := by
  unfold userTaskDataProblems BaseElement.Staffed
  cases hb : base.blocks with
  | nil => simp
  | cons block blocks =>
    rw [← lookup_simulationData_isSome_iff]
    simp [Problem.when_eq_nil_iff]

/-- The distribution is looked at once data give it; what it needs is asked for after that. -/
theorem taskDataProblems_eq_nil_iff {strict : Bool} {base : BaseElement} :
    taskDataProblems strict base = [] ↔ base.Simulates strict := by
  unfold taskDataProblems BaseElement.Simulates
  by_cases hb : base.blocks = []
  · simp [hb]
  · rw [if_neg (by simpa using hb)]
    simp only [hb, false_or, List.append_eq_nil_iff, Problem.when_eq_nil_iff,
      lookup_simulationData_isSome_iff, and_assoc]
    refine and_congr_right fun hd => and_congr_right fun _ => and_congr_right fun _ => ?_
    rw [lookup_simulationData_of_gives hd, Bool.and_eq_false_imp, Bool.and_eq_false_imp,
      lookup_simulationData_isSome_iff, lookup_simulationData_isSome_iff]
    simp

/-! ## Event definitions -/

namespace EventDefinition

theorem missing?_eq_none_iff {d : EventDefinition} : d.missing? = none ↔ d.Refers := by
  have blank : ∀ {text : Option String} {detail : EventDetail},
      (if Text.isBlank text then some detail else none) = none ↔ Says text := by
    intro text detail
    rw [← Text.isBlank_eq_false_iff]
    simp
  cases d with
  | timer d => simp [missing?, Refers]
  | error d =>
    unfold missing? Refers
    rw [blank]
    cases h : d.errorRef <;> simp [h, Says]
  | conditional d =>
    unfold missing? Refers
    rw [blank]
    cases h : d.condition <;> simp [h, Says]
  | _ => exact blank

theorem catchProblems_eq_nil_iff {d : EventDefinition} : d.catchProblems = [] ↔ d.Catchable := by
  cases d with
  | timer d =>
    simp only [catchProblems, Catchable, ← Text.isBlank_eq_false_iff]
    cases Text.isBlank d.timeDate <;> cases Text.isBlank d.timeDuration <;>
      cases Text.isBlank d.timeCycle <;> simp
  | _ =>
    simp only [catchProblems, Catchable, List.map_eq_nil_iff, Option.toList_eq_nil_iff,
      missing?_eq_none_iff]

theorem throwProblems_eq_nil_iff {d : EventDefinition} : d.throwProblems = [] ↔ d.Throwable := by
  cases d with
  | timer d =>
    simp only [throwProblems, Throwable, List.append_eq_nil_iff, Problem.when_eq_nil_iff,
      ← Text.isBlank_eq_false_iff, and_assoc, Bool.not_eq_false', Bool.not_eq_false]
  | _ =>
    simp only [throwProblems, Throwable, List.map_eq_nil_iff, Option.toList_eq_nil_iff,
      missing?_eq_none_iff]

end EventDefinition

/-! ## Gateways -/

theorem GatewayKind.allows_iff {kind : GatewayKind} {direction : Option GatewayDirection} :
    kind.allows direction = true ↔ kind.Directed direction := by
  cases direction with
  | none => cases kind <;> simp [allows, Directed]
  | some direction => cases kind <;> cases direction <;> simp [allows, Directed, directions]

theorem GatewayKind.Directed.isUndirected {kind : GatewayKind} {g : Gateway}
    (h : kind.Directed g.direction) : g.isUndirected = false := by
  unfold Gateway.isUndirected
  cases hd : g.direction with
  | none => cases kind <;> simp [hd, Directed] at h
  | some direction => cases direction <;> cases kind <;> simp_all [Directed]

/-- Of the two rules for directions, the one for the kind asks for more. -/
theorem GatewayKind.directed_iff {kind : GatewayKind} {g : Gateway} :
    g.isUndirected = false ∧ kind.Directed g.direction ↔ kind.Directed g.direction :=
  and_iff_right_of_imp Directed.isUndirected

theorem GatewayKind.directed_and_iff {kind : GatewayKind} {g : Gateway} {P : Prop} :
    g.isUndirected = false ∧ kind.Directed g.direction ∧ P ↔ kind.Directed g.direction ∧ P := by
  rw [← and_assoc, directed_iff]

/-! ## Probabilities -/

theorem Surroundings.map_element_flow? (owner : Owner) (id : String) :
    ((Surroundings.owner owner).flow? id).map (·.element) = lastFlow? owner.elements id := by
  have hchildren : owner.children.map (·.element) = owner.elements := by
    unfold Owner.children
    rw [List.map_map]
    exact List.zipIdx_map_fst 0 owner.elements
  show ((sequenceFlowsById owner.children).lookup id).map (·.element) = _
  rw [lookup_sequenceFlowsById, lastFlow?, ← hchildren, ← List.map_reverse, List.find?_map]
  rfl

section Branch

variable {scope : Scope} {siblings : List FlowElement} {id : String}

/-- A branch is wrong only if its sequence flow has simulation data without a probability. -/
theorem Branch.diagnostics_ofId_eq_nil_iff
    (h : (scope.flow? id).map (·.element) = lastFlow? siblings id) :
    (Branch.ofId scope id).remarks.filterMap Remark.diagnostic? = [] ↔
      ∀ flow, lastFlow? siblings id = some flow → flow.base.blocks ≠ [] →
        (blockValue? flow.base.blocks "probability").isSome := by
  rw [diagnostics_ofId, ← h]
  cases scope.flow? id with
  | none => simp
  | some flow => simp [Option.isSome_iff_ne_none]

theorem Branch.probability?_eq_weight?
    (h : (scope.flow? id).map (·.element) = lastFlow? siblings id) :
    (Branch.ofId scope id).probability? = if scope.strict then weight? siblings id else none := by
  rw [probability?_ofId, weight?, ← h, Option.bind_map]
  rfl

end Branch

theorem probabilityRemarks_eq_nil_iff {scope : Scope} {siblings : List FlowElement} {l : Located}
    {outgoing : List String}
    (h : ∀ id, (scope.flow? id).map (·.element) = lastFlow? siblings id) :
    (probabilityRemarks scope l outgoing).filterMap Remark.diagnostic? = [] ↔
      Weighted scope.strict siblings outgoing := by
  have weights : (outgoing.map (Branch.ofId scope)).filterMap Branch.probability? =
      if scope.strict then outgoing.filterMap (weight? siblings) else [] := by
    rw [List.filterMap_map, show Branch.probability? ∘ Branch.ofId scope =
      fun id => if scope.strict then weight? siblings id else none from
        funext fun id => Branch.probability?_eq_weight? (h id)]
    cases scope.strict <;> simp
  simp only [probabilityRemarks, Weighted, weights, List.filterMap_append,
    Located.diagnostics_remarks, List.append_eq_nil_iff]
  refine and_congr ?_ ?_
  · rw [List.filterMap_flatMap, List.flatMap_map, List.flatMap_eq_nil_iff]
    exact forall₂_congr fun id _ => Branch.diagnostics_ofId_eq_nil_iff (h id)
  · rw [List.map_eq_nil_iff, Problem.when_eq_nil_iff, Bool.and_eq_false_imp]
    cases scope.strict with
    | false => simp
    | true => simp [missesHundred]

/-! ## Rules -/

theorem FlowElement.eq_sendTask {e : FlowElement} (h : e.kind = .sendTask) :
    ∃ t, e = .leaf (.sendTask t) := by
  cases e with
  | leaf l => cases l <;> first | exact ⟨_, rfl⟩ | cases h
  | subProcess => cases h

namespace NodeRule

/-- A rule for an element's kind finds no problem of the element's own exactly when the element
is as the rule asks. -/
theorem problems_eq_nil_iff {strict adHoc : Bool} {siblings : List FlowElement} {e : FlowElement}
    {rule : NodeRule} (hf : rule.readsFlows = false) (h : rule.appliesTo e.kind = true) :
    (rule.problems strict adHoc (.flow e)).result = [] ↔ rule.Asks strict adHoc siblings e := by
  cases rule with
  | gatewayProbabilities => cases hf
  | startEvent | endEvent =>
    refine Element.judge_eq_nil_iff.trans (forall₂_congr fun n _ => ?_)
    simp [Problem.when_eq_nil_iff]
  | nodeConnections =>
    refine Element.judge_eq_nil_iff.trans (forall₂_congr fun n _ => ?_)
    rw [FlowNode.connected_iff, List.append_eq_nil_iff, Problem.when_eq_nil_iff,
      Problem.when_eq_nil_iff]
  | businessRuleTask | userTask => exact Problem.when_isBlank_eq_nil_iff
  | userTaskSimulation => exact userTaskDataProblems_eq_nil_iff
  | taskSimulation => exact taskDataProblems_eq_nil_iff
  | scriptTask =>
    refine Element.judge_eq_nil_iff.trans (forall₂_congr fun t _ => ?_)
    rw [List.append_eq_nil_iff, Problem.when_isBlank_eq_nil_iff, Problem.when_isBlank_eq_nil_iff]
  | sendTask =>
    -- the second field is looked at only where the first is there: not of any element
    obtain ⟨t, rfl⟩ := FlowElement.eq_sendTask (eq_of_beq h)
    show Problem.when _ _ ++ Problem.when _ _ = [] ↔ _
    rw [List.append_eq_nil_iff, Problem.when_isBlank_eq_nil_iff, Problem.when_isBlank_eq_nil_iff]
    simp [Asks]
  | catchEvent =>
    refine Element.judge_eq_nil_iff.trans (forall₂_congr fun ds _ => ?_)
    rw [List.flatMap_eq_nil_iff]
    exact forall₂_congr fun d _ => EventDefinition.catchProblems_eq_nil_iff
  | throwEvent =>
    refine Element.judge_eq_nil_iff.trans (forall₂_congr fun ds _ => ?_)
    rw [List.flatMap_eq_nil_iff]
    exact forall₂_congr fun d _ => EventDefinition.throwProblems_eq_nil_iff
  | sequenceFlow =>
    refine Element.judge_eq_nil_iff.trans (forall₂_congr fun f _ => ?_)
    rw [List.append_eq_nil_iff, Problem.when_isBlank_eq_nil_iff, Problem.when_isBlank_eq_nil_iff]
  | gatewayDirection =>
    exact Element.judge_eq_nil_iff.trans (forall₂_congr fun g _ => Problem.when_eq_nil_iff)
  | gatewayKindDirection =>
    have hk : ((Element.flow e).kind?.bind ElementKind.flow?).bind FlowKind.gateway? =
        e.kind.gateway? := rfl
    rw [problems, hk]
    unfold Asks
    cases e.kind.gateway? with
    | none => simp
    | some kind =>
      rw [Element.judge_eq_nil_iff]
      simp [Problem.when_eq_nil_iff, GatewayKind.allows_iff]
  | callActivity =>
    exact Element.judge_eq_nil_iff.trans (forall₂_congr fun a _ => Problem.when_isBlank_eq_nil_iff)
  | dataObject =>
    show Problem.when _ _ ++ Problem.when _ _ = [] ↔ _
    rw [List.append_eq_nil_iff, Problem.when_isBlank_eq_nil_iff, Problem.when_eq_nil_iff,
      Text.hasSpace_eq_false_iff]
    rfl

end NodeRule

theorem Visit.branchFindings_eq_nil_iff (settings : Settings) (adHoc : Bool) (v : Visit) :
    v.placed.located.branchFindings (.inside settings adHoc (.owner v.owner)) = [] ↔
      ∀ n, v.placed.element.node? = some n →
        Weighted settings.strictSimulation v.owner.elements n.outgoing := by
  unfold Located.branchFindings
  rw [probabilityRemarks_eq_nil_iff (Surroundings.map_element_flow? v.owner)]
  show Weighted settings.strictSimulation _ ((v.placed.element.node?.map _).getD []) ↔ _
  cases v.placed.element.node? with
  | none => simp [Weighted]
  | some n => simp

/-- A rule for a visited element's kind finds nothing exactly when the element is as the rule asks
among the elements of its owner. -/
theorem Visit.findings_rule_eq_nil_iff (settings : Settings) (adHoc : Bool) {v : Visit}
    {rule : NodeRule} (h : rule.appliesTo v.placed.element.kind = true) :
    rule.findings (.inside settings adHoc (.owner v.owner)) v.placed.located = [] ↔
      rule.Asks settings.strictSimulation adHoc v.owner.elements v.placed.element := by
  rw [NodeRule.findings_eq_append rfl h, List.append_eq_nil_iff, List.map_eq_nil_iff]
  by_cases hf : rule.readsFlows = true
  · obtain rfl : rule = .gatewayProbabilities := eq_of_beq hf
    rw [if_pos hf, v.branchFindings_eq_nil_iff]
    exact and_iff_right (Element.judge_eq_nil_iff.mpr fun _ _ => rfl)
  · rw [if_neg hf]
    exact (and_iff_left rfl).trans (NodeRule.problems_eq_nil_iff (by simpa using hf) h)

end BpmnAudit
