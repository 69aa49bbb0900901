import BpmnAudit.Proofs.Rules.Branches
import BpmnAudit.Proofs.Rules.Wordings
import BpmnAudit.Proofs.Run.Walk
import BpmnAudit.Proofs.Tree.Lookup

/-!
# What rules find

What a rule finds are the element's own problems, and for the rule that looks up sequence flows
what is wrong with the branches (`NodeRule.findings_eq_append`). Every problem is found by one rule
at most (`Problem.rule?`, `Problem.processRule?`). Whatever is found at a visit is found with the
visited element or with a sequence flow next to it (`Visit.mem_findings`), so with something that
the same container owns (`Visit.place_of_mem_findings`). An ad hoc process takes back the problems
of connections that are not there, and no other ones (`Visit.findings_adHoc`).
-/

namespace BpmnAudit

/-! ## What a rule finds -/

/-- What is found with the outgoing branches of an element, if there are any. -/
def Located.branchFindings (scope : Scope) (l : Located) : List Diagnostic :=
  (probabilityRemarks scope l ((l.element.node?.map (·.outgoing)).getD [])).filterMap
    Remark.diagnostic?

/-- A rule finds an element's own problems, and what is wrong with its branches if the rule looks
up sequence flows. -/
theorem NodeRule.findings_eq_append {scope : Scope} {p : Placed} {rule : NodeRule}
    (hs : scope.noFlows = none) (h : rule.appliesTo p.element.kind = true) :
    rule.findings scope p.located =
      ((rule.problems scope.strict scope.adHoc (.flow p.element)).result.map
        fun problem => ⟨.error, problem, some p.located⟩) ++
      if rule.readsFlows then p.located.branchFindings scope else [] := by
  have own : ((rule.problems scope.strict scope.adHoc p.located.element).map
      p.located.remarks).misfit = none := misfit_problems scope.strict scope.adHoc h
  unfold findings remarks
  rw [← Located.diagnostics_remarks]
  cases rule.readsFlows with
  | false => exact (List.append_nil _).symm
  | true =>
    simp only [if_true, Progress.append, Progress.andThen, own, probabilityProgress, hs]
    exact List.filterMap_append

theorem Located.mem_branchFindings {scope : Scope} {l : Located} {x : Diagnostic}
    (h : x ∈ l.branchFindings scope) :
    x = ⟨.error, .probabilitySum, some l⟩ ∨ ∃ id flow, scope.flow? id = some flow ∧
      x = ⟨.error, .noProbability, some flow.located⟩ := by
  simp only [branchFindings, probabilityRemarks, List.filterMap_append,
    Located.diagnostics_remarks, List.mem_append] at h
  rcases h with h | h
  · right
    rw [List.filterMap_flatMap, List.flatMap_map] at h
    obtain ⟨id, -, hx⟩ := List.mem_flatMap.mp h
    obtain ⟨flow, hflow, rfl⟩ := Branch.eq_of_mem_diagnostics_ofId hx
    exact ⟨id, flow, hflow, rfl⟩
  · left
    obtain ⟨p, hp, rfl⟩ := List.mem_map.mp h
    unfold Problem.when at hp
    split at hp
    · rw [List.mem_singleton.mp hp]
    · cases hp

/-! ## Which rule finds what -/

/-- The rule for flow elements that finds a problem; none finds problems of processes. -/
def Problem.rule? : Problem → Option NodeRule
  | startWithoutOutgoing => some .startEvent
  | endWithoutIncoming => some .endEvent
  | nodeWithoutOutgoing | nodeWithoutIncoming => some .nodeConnections
  | noRuleFlowGroup => some .businessRuleTask
  | noScript | noScriptFormat => some .scriptTask
  | noOperation | noMessage => some .sendTask
  | noTaskName => some .userTask
  | noStaffAvailability => some .userTaskSimulation
  | noDistributionType | noDuration | noTimeUnits | noRange | noStandardDeviation =>
    some .taskSimulation
  | catchWithout _ => some .catchEvent
  | throwWithout _ => some .throwEvent
  | noSource | noTarget => some .sequenceFlow
  | noDirection => some .gatewayDirection
  | wrongDirection _ => some .gatewayKindDirection
  | noProbability | probabilitySum => some .gatewayProbabilities
  | noCalledElement => some .callActivity
  | noDataName | spaceInDataName => some .dataObject
  | noProcessId | invalidProcessId | noPackageName | noProcessName | noStartNode | noEndNode
  | stated _ => none

theorem Problem.forall_mem_when {p : Problem} {condition : Bool} {P : Problem → Prop} (h : P p) :
    ∀ q ∈ p.when condition, P q := by
  intro q hq
  unfold Problem.when at hq
  split at hq
  · rwa [List.mem_singleton.mp hq]
  · cases hq

theorem Element.forall_mem_judge {α : Type} {e : Element} {field : String} {value : Option α}
    {problems : α → List Problem} {P : Problem → Prop} (h : ∀ a, ∀ p ∈ problems a, P p) :
    ∀ p ∈ (e.judge field value problems).result, P p := by
  cases value with
  | none => exact nofun
  | some a => exact h a

theorem Progress.forall_mem_append {α : Type} {p q : Progress (List α)} {P : α → Prop}
    (hp : ∀ a ∈ p.result, P a) (hq : ∀ a ∈ q.result, P a) : ∀ a ∈ (p.append q).result, P a := by
  unfold Progress.append Progress.andThen
  split
  · exact List.forall_mem_append.mpr ⟨hp, hq⟩
  · exact hp

theorem EventDefinition.rule?_of_mem_catchProblems {d : EventDefinition} :
    ∀ p ∈ d.catchProblems, p.rule? = some .catchEvent := by
  cases d with
  | timer d =>
    rw [catchProblems]
    split
    · intro p hp
      simp only [List.mem_cons, List.not_mem_nil, or_false] at hp
      rcases hp with rfl | rfl | rfl <;> rfl
    · exact nofun
  | _ =>
    refine List.forall_mem_map.mpr fun detail _ => ?_
    rfl

theorem EventDefinition.rule?_of_mem_throwProblems {d : EventDefinition} :
    ∀ p ∈ d.throwProblems, p.rule? = some .throwEvent := by
  cases d with
  | timer d =>
    rw [throwProblems]
    simp only [List.forall_mem_append]
    refine ⟨⟨?_, ?_⟩, ?_⟩ <;> exact Problem.forall_mem_when rfl
  | _ =>
    refine List.forall_mem_map.mpr fun detail _ => ?_
    rfl

theorem NodeRule.rule?_of_mem_problems {strict adHoc : Bool} {e : Element} {rule : NodeRule} :
    ∀ p ∈ (rule.problems strict adHoc e).result, p.rule? = some rule := by
  cases rule with
  | startEvent | endEvent | businessRuleTask | userTask | gatewayDirection | callActivity =>
    exact Element.forall_mem_judge fun _ => Problem.forall_mem_when rfl
  | nodeConnections | scriptTask | sequenceFlow | dataObject =>
    refine Element.forall_mem_judge fun _ => List.forall_mem_append.mpr ?_
    exact ⟨Problem.forall_mem_when rfl, Problem.forall_mem_when rfl⟩
  | gatewayProbabilities => exact Element.forall_mem_judge fun _ => nofun
  | sendTask =>
    refine Progress.forall_mem_append ?_ ?_ <;>
      exact Element.forall_mem_judge fun _ => Problem.forall_mem_when rfl
  | userTaskSimulation =>
    refine Element.forall_mem_judge fun b => ?_
    unfold userTaskDataProblems
    split
    · exact nofun
    · exact Problem.forall_mem_when rfl
  | taskSimulation =>
    refine Element.forall_mem_judge fun b => ?_
    unfold taskDataProblems
    split
    · exact nofun
    · simp only [List.forall_mem_append]
      refine ⟨⟨⟨⟨?_, ?_⟩, ?_⟩, ?_⟩, ?_⟩ <;> exact Problem.forall_mem_when rfl
  | catchEvent =>
    refine Element.forall_mem_judge fun ds p hp => ?_
    obtain ⟨d, -, hd⟩ := List.mem_flatMap.mp hp
    exact d.rule?_of_mem_catchProblems p hd
  | throwEvent =>
    refine Element.forall_mem_judge fun ds p hp => ?_
    obtain ⟨d, -, hd⟩ := List.mem_flatMap.mp hp
    exact d.rule?_of_mem_throwProblems p hd
  | gatewayKindDirection =>
    rw [NodeRule.problems]
    split
    · exact nofun
    · exact Element.forall_mem_judge fun _ => Problem.forall_mem_when rfl

/-- The rule for processes that finds a problem. -/
def Problem.processRule? : Problem → Option ProcessRule
  | noProcessId | invalidProcessId => some .id
  | noPackageName => some .packageName
  | noProcessName => some .name
  | noStartNode | noEndNode => some .startEnd
  | _ => none

/-- Rules for processes find what rules for flow elements never find. -/
theorem Problem.rule?_of_processRule? {p : Problem} {rule : ProcessRule}
    (h : p.processRule? = some rule) : p.rule? = none := by
  cases p <;> first | rfl | cases h

theorem Problem.not_stated_of_rule? {p : Problem} {rule : NodeRule} (h : p.rule? = some rule) :
    p.isStated = false := by
  cases p <;> first | rfl | cases h

theorem Problem.not_stated_of_processRule? {p : Problem} {rule : ProcessRule}
    (h : p.processRule? = some rule) : p.isStated = false := by
  cases p <;> first | rfl | cases h

theorem ProcessRule.processRule?_of_mem_problems {e : Element} {rule : ProcessRule} :
    ∀ p ∈ (rule.problems e).result, p.processRule? = some rule := by
  cases rule with
  | id =>
    refine Element.forall_mem_judge fun b => ?_
    unfold idProblems
    split
    · exact List.forall_mem_singleton.mpr rfl
    · exact Problem.forall_mem_when rfl
  | packageName | name => exact Element.forall_mem_judge fun _ => Problem.forall_mem_when rfl
  | startEnd =>
    refine Element.forall_mem_judge fun _ => List.forall_mem_append.mpr ?_
    exact ⟨Problem.forall_mem_when rfl, Problem.forall_mem_when rfl⟩

/-! ## Where problems are -/

/-- What rules find at a visit is a problem of the visited element that one of them finds, or that
a sequence flow next to it has no probability. -/
theorem Visit.mem_findings {settings : Settings} {adHoc : Bool} {v : Visit} {x : Diagnostic}
    (h : x ∈ v.findings settings adHoc) :
    (∃ rule problem, Problem.rule? problem = some rule ∧
      x = ⟨.error, problem, some v.placed.located⟩) ∨
    ∃ id flow, (Surroundings.owner v.owner).flow? id = some flow ∧
      x = ⟨.error, .noProbability, some flow.located⟩ := by
  obtain ⟨rule, hr, hx⟩ := List.mem_flatMap.mp h
  rw [NodeRule.findings_eq_append rfl (NodeRule.mem_rules hr)] at hx
  rcases List.mem_append.mp hx with hx | hx
  · obtain ⟨p, hp, rfl⟩ := List.mem_map.mp hx
    exact Or.inl ⟨rule, p, NodeRule.rule?_of_mem_problems p hp, rfl⟩
  · split at hx
    · rcases Located.mem_branchFindings hx with rfl | found
      · exact Or.inl ⟨_, _, rfl, rfl⟩
      · exact Or.inr found
    · cases hx

theorem Visit.exists_rule_of_mem_findings {settings : Settings} {adHoc : Bool} {v : Visit}
    {x : Diagnostic} (h : x ∈ v.findings settings adHoc) :
    ∃ rule, x.problem.rule? = some rule := by
  rcases v.mem_findings h with ⟨rule, _, hr, rfl⟩ | ⟨_, _, _, rfl⟩
  · exact ⟨rule, hr⟩
  · exact ⟨.gatewayProbabilities, rfl⟩

theorem Surroundings.mem_children_of_flow? {owner : Owner} {id : String} {flow : Placed}
    (h : (Surroundings.owner owner).flow? id = some flow) : flow ∈ owner.children := by
  have found : (sequenceFlowsById owner.children).lookup id = some flow := h
  rw [lookup_sequenceFlowsById] at found
  exact List.mem_reverse.mp (List.mem_of_find?_eq_some found)

/-- What rules find at a visit, they find with something that the owner itself owns. -/
theorem Visit.place_of_mem_findings {settings : Settings} {adHoc : Bool} {v : Visit} {i : Nat}
    (hv : v.placed.place = i :: v.owner.place) {x : Diagnostic}
    (h : x ∈ v.findings settings adHoc) :
    ∃ l j, x.element = some l ∧ l.place = j :: v.owner.place := by
  rcases v.mem_findings h with ⟨_, _, _, rfl⟩ | ⟨id, flow, hflow, rfl⟩
  · exact ⟨_, i, rfl, hv⟩
  · obtain ⟨j, e, -, rfl⟩ := Owner.mem_children.mp (Surroundings.mem_children_of_flow? hflow)
    exact ⟨_, j, rfl, rfl⟩

/-! ## Ad hoc processes -/

/-- A problem that a node has for want of a connection. -/
def Problem.isConnection : Problem → Bool
  | nodeWithoutOutgoing | nodeWithoutIncoming => true
  | _ => false

/-- Only one of the rules looks at connections that an ad hoc process does without. -/
theorem Problem.rule?_of_isConnection {p : Problem} (h : p.isConnection = true) :
    p.rule? = some .nodeConnections := by
  cases p <;> first | rfl | cases h

theorem NodeRule.isConnection_of_mem_problems {strict adHoc : Bool} {e : Element} {rule : NodeRule}
    (h : rule ≠ nodeConnections) :
    ∀ p ∈ (rule.problems strict adHoc e).result, p.isConnection = false := by
  intro p hp
  refine Bool.eq_false_iff.mpr fun hc => h ?_
  exact Option.some.inj ((rule?_of_mem_problems p hp).symm.trans (Problem.rule?_of_isConnection hc))

theorem NodeRule.problems_adHoc {strict adHoc : Bool} {e : Element} {rule : NodeRule}
    (h : rule ≠ nodeConnections) : rule.problems strict adHoc e = rule.problems strict false e := by
  cases rule with
  | nodeConnections => exact absurd rfl h
  | _ => rfl

theorem Problem.when_and_not {p : Problem} {keep : Problem → Bool} (hp : keep p = false)
    {condition : Bool} :
    p.when (condition && !true) = (p.when (condition && !false)).filter keep := by
  cases condition <;> simp [Problem.when, hp]

theorem NodeRule.problems_adHoc_eq_filter {strict : Bool} {e : Element} {rule : NodeRule} :
    (rule.problems strict true e).result =
      (rule.problems strict false e).result.filter (!·.isConnection) := by
  by_cases hr : rule = nodeConnections
  · subst hr
    show (Element.judge _ _ _ _).result = (Element.judge _ _ _ _).result.filter _
    cases e.node? with
    | none => rfl
    | some n =>
      simp only [Element.judge, List.filter_append]
      exact congr (congrArg _ (Problem.when_and_not rfl)) (Problem.when_and_not rfl)
  · rw [problems_adHoc hr]
    refine (List.filter_eq_self.mpr fun p hp => ?_).symm
    rw [isConnection_of_mem_problems hr p hp]
    rfl

/-- Of what a rule finds, an ad hoc process takes back the problems of connections. -/
theorem NodeRule.findings_adHoc (settings : Settings) {v : Visit} {rule : NodeRule}
    (h : rule.appliesTo v.placed.element.kind = true) :
    rule.findings (.inside settings true (.owner v.owner)) v.placed.located =
      (rule.findings (.inside settings false (.owner v.owner)) v.placed.located).filter
        (!·.problem.isConnection) := by
  have branches : ∀ x ∈ v.placed.located.branchFindings
      (.inside settings false (.owner v.owner)), (!x.problem.isConnection) = true := by
    intro x hx
    rcases Located.mem_branchFindings hx with rfl | ⟨_, _, _, rfl⟩ <;> rfl
  rw [findings_eq_append rfl h, findings_eq_append rfl h, List.filter_append, List.filter_map]
  refine congr (congrArg _ (congrArg _ problems_adHoc_eq_filter)) ?_
  split
  · exact (List.filter_eq_self.mpr branches).symm
  · rfl

/-- Of what the rules find at a visit, an ad hoc process takes back the problems of connections. -/
theorem Visit.findings_adHoc (settings : Settings) (v : Visit) :
    v.findings settings true =
      (v.findings settings false).filter (!·.problem.isConnection) := by
  unfold Visit.findings Located.findings
  rw [List.filter_flatMap]
  exact congrArg List.flatten (List.map_congr_left fun rule hr =>
    NodeRule.findings_adHoc settings (NodeRule.mem_rules hr))

theorem Owner.findings_adHoc (settings : Settings) (owner : Owner) :
    owner.findings settings true =
      (owner.findings settings false).filter (!·.problem.isConnection) := by
  unfold Owner.findings
  rw [List.filter_flatMap]
  exact congrArg List.flatten (List.map_congr_left fun v _ => v.findings_adHoc settings)

end BpmnAudit
