import BpmnAudit.Proofs.Rules.Alike
import BpmnAudit.Proofs.Tree.Retouch

/-!
# What rules do not notice

Rules read a few of the fields that every element has: ids, names, some attributes, and what the
blocks of tasks and sequence flows say. A retouch that leaves these as they are is not noticed
(`Retouch.Unnoticed`): rules find the same with an element and with what the retouch makes of it
(`FlowElement.alike_retouch`). So two elements that a retouch makes equal are alike, and with them
all that they own (`Placed.matching_equalUnder`).
-/

namespace BpmnAudit

/-- The attributes that rules ask for, whatever the element. -/
def noticedAttributes : List String := ["packageName", "ruleFlowGroup", "taskName"]

/-- A retouch that rules do not notice: it leaves as it is all that they read. -/
structure Retouch.Unnoticed (strict : Bool) (f : Retouch) : Prop where
  id : ∀ shape base, (f shape base).id = base.id
  name : ∀ shape base, (f shape base).name = base.name
  noticed : ∀ shape base, ∀ name ∈ noticedAttributes,
    (f shape base).attributes.get? name = base.attributes.get? name
  adHoc : ∀ base, (f (.element (.root .process)) base).attributes.get? "adHoc" =
    base.attributes.get? "adHoc"
  userTaskData : ∀ base,
    userTaskDataProblems strict (f.flow .userTask base) = userTaskDataProblems strict base
  taskData : ∀ {kind : FlowKind}, kind.isTask = true → ∀ base,
    taskDataProblems strict (f.flow kind base) = taskDataProblems strict base
  probability : ∀ base, readProbability strict (f.flow .sequenceFlow base).blocks =
    readProbability strict base.blocks

variable {f : Retouch} {strict : Bool}

/-! ## Event definitions -/

namespace EventDefinition

theorem missing?_retouch (d : EventDefinition) : (d.retouch f).missing? = d.missing? := by
  cases d with
  | error d => cases h : d.errorRef <;> simp [retouch, missing?, h, ErrorElement.retouch]
  | _ => rfl

theorem catchProblems_retouch (d : EventDefinition) :
    (d.retouch f).catchProblems = d.catchProblems := by
  cases d with
  | error d =>
    exact congrArg (fun detail => detail.toList.map Problem.catchWithout)
      (missing?_retouch (.error d))
  | _ => rfl

theorem throwProblems_retouch (d : EventDefinition) :
    (d.retouch f).throwProblems = d.throwProblems := by
  cases d with
  | error d =>
    exact congrArg (fun detail => detail.toList.map Problem.throwWithout)
      (missing?_retouch (.error d))
  | _ => rfl

end EventDefinition

/-! ## Flow elements -/

/-- What is judged of a field that a map has changed, if the map does not matter to the judge. -/
theorem Element.judge_of_map {α : Type} {e e' : Element} (hs : e'.shape = e.shape)
    {field : String} {value value' : Option α} {g : α → α} (hv : value' = value.map g)
    {problems : α → List Problem} (hg : ∀ a, problems (g a) = problems a) :
    e'.judge field value' problems = e.judge field value problems := by
  subst hv
  cases value with
  | none =>
    unfold judge
    rw [Option.map_none, label, label, hs]
  | some a =>
    unfold judge
    rw [Option.map_some]
    exact congrArg (Progress.mk · none) (hg a)

theorem NodeRule.problems_retouch (hf : f.Unnoticed strict) {adHoc : Bool} {rule : NodeRule}
    {e : FlowElement} (hr : rule.appliesTo e.kind = true) :
    rule.problems strict adHoc (.flow (e.retouch f)) = rule.problems strict adHoc (.flow e) := by
  have shape := Element.shape_retouch (f := f) e
  have base : (Element.flow (e.retouch f)).base? =
      (Element.flow e).base?.map (f.flow e.kind) := congrArg some e.base_retouch
  have node : (Element.flow (e.retouch f)).node? =
      (Element.flow e).node?.map (·.mapBase (f.flow e.kind)) := e.node?_retouch
  cases rule with
  | startEvent | endEvent | nodeConnections | gatewayProbabilities =>
    exact Element.judge_of_map shape node fun _ => rfl
  | businessRuleTask | userTask =>
    rw [problems, problems]
    refine Element.judge_of_map shape base fun b => ?_
    rw [Retouch.flow, hf.noticed _ b _ (by decide)]
  | userTaskSimulation =>
    have kind : e.kind = .userTask := eq_of_beq hr
    rw [problems, problems]
    refine Element.judge_of_map shape base fun b => ?_
    rw [kind, hf.userTaskData]
  | taskSimulation =>
    rw [problems, problems]
    exact Element.judge_of_map shape base (hf.taskData hr)
  | dataObject =>
    rw [problems, problems]
    refine Element.judge_of_map shape base fun b => ?_
    rw [Retouch.flow, hf.name]
  | catchEvent =>
    refine Element.judge_of_map shape (Element.eventDefinitions?_retouch e) fun ds => ?_
    rw [List.flatMap_map]
    exact congrArg (ds.flatMap ·) (funext EventDefinition.catchProblems_retouch)
  | throwEvent =>
    refine Element.judge_of_map shape (Element.eventDefinitions?_retouch e) fun ds => ?_
    rw [List.flatMap_map]
    exact congrArg (ds.flatMap ·) (funext EventDefinition.throwProblems_retouch)
  | gatewayDirection =>
    exact Element.judge_of_map shape (Element.gateway?_retouch e) fun _ => rfl
  | gatewayKindDirection =>
    rw [problems, problems, show (Element.flow (e.retouch f)).kind? = (Element.flow e).kind? from
      congrArg (some ∘ ElementKind.flow) e.kind_retouch]
    split
    · rfl
    · exact Element.judge_of_map shape (Element.gateway?_retouch e) fun _ => rfl
  | scriptTask | sendTask | sequenceFlow | callActivity =>
    -- These read nothing that every element has, so that each element answers at once.
    cases e with
    | leaf l => cases l <;> rfl
    | subProcess => rfl

/-- Rules cannot tell an element from a retouched one. -/
theorem FlowElement.alike_retouch (hf : f.Unnoticed strict) (e : FlowElement) :
    e.Alike strict (e.retouch f) where
  kind := e.kind_retouch.symm
  problems _ _ hr := (NodeRule.problems_retouch hf hr).symm
  outgoing := by
    rw [e.node?_retouch, Option.map_map]
    rfl
  flowId := by
    unfold flowId?
    rw [e.sequenceFlow?_retouch]
    cases e.sequenceFlow? with
    | none => rfl
    | some flow => exact (hf.id _ flow.toBaseElement).symm
  probability id hid := by
    obtain ⟨flow, hflow, -⟩ := Option.bind_eq_some_iff.mp hid
    have kind : e.kind = .sequenceFlow := by
      cases e with
      | leaf l => cases l <;> first | rfl | cases hflow
      | subProcess => cases hflow
    rw [e.base_retouch, kind, hf.probability]

/-! ## Trees -/

/-- Two elements stand at the same place, and a retouch makes them equal. -/
def Placed.EqualUnder (f : Retouch) (p p' : Placed) : Prop :=
  p.place = p'.place ∧ p.element.retouch f = p'.element.retouch f

theorem forall₂_zipIdx {α β : Type} {R : α → β → Prop} {as : List α} {bs : List β}
    (h : List.Forall₂ R as bs) (k : Nat) :
    List.Forall₂ (fun a b => R a.1 b.1 ∧ a.2 = b.2) (as.zipIdx k) (bs.zipIdx k) := by
  induction h generalizing k with
  | nil => exact .nil
  | cons hab _ ih => exact .cons ⟨hab, rfl⟩ (ih (k + 1))

theorem Owner.children_equalUnder {owner owner' : Owner} (hplace : owner.place = owner'.place)
    (h : owner.elements.map (·.retouch f) = owner'.elements.map (·.retouch f)) :
    List.Forall₂ (Placed.EqualUnder f) owner.children owner'.children := by
  have elements : List.Forall₂ (fun e e' => e.retouch f = e'.retouch f)
      owner.elements owner'.elements := by
    rwa [← List.forall₂_eq_eq_eq, List.forall₂_map_left_iff, List.forall₂_map_right_iff] at h
  unfold children
  rw [List.forall₂_map_left_iff, List.forall₂_map_right_iff]
  refine (forall₂_zipIdx elements 0).imp ?_
  rintro ⟨e, i⟩ ⟨e', i'⟩ ⟨he, hi⟩
  obtain rfl : i = i' := hi
  exact ⟨congrArg (i :: ·) hplace, he⟩

/-- What a retouch that rules do not notice makes equal is alike at all depths. -/
theorem Placed.matching_equalUnder (hf : f.Unnoticed strict) :
    Placed.Matching strict (Placed.EqualUnder f) where
  alike {p p'} h := by
    have both := h.2 ▸ p.element.alike_retouch hf
    exact both.trans (p'.element.alike_retouch hf).symm
  inside {p p'} h := by
    refine Owner.children_equalUnder h.1 ?_
    show p.element.flowElements.map _ = p'.element.flowElements.map _
    rw [← FlowElement.flowElements_retouch, ← FlowElement.flowElements_retouch, h.2]

end BpmnAudit
