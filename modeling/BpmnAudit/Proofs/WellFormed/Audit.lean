import BpmnAudit.Proofs.Run.Audit
import BpmnAudit.Proofs.WellFormed.Rules

/-!
# An audit finds nothing exactly when the document is well formed

From the elements up: what the rules for a kind ask together is that elements of the kind are well
formed (`FlowElement.forall_asks_iff`), the elements that a process meets are those that stand
below it, and a batch of a document finds nothing exactly when the document is well formed
(`Settings.ok_outcome_document_iff`).
-/

namespace BpmnAudit

open Text (Says)

/-! ## Elements -/

section

variable {strict adHoc : Bool} {siblings : List FlowElement} {e : FlowElement}
  {own : List NodeRule}

/-- What is asked of a field is asked of its value, where the field is there. -/
theorem forall_eq_some_iff {α : Type} {P : α → Prop} {value : Option α} {a : α}
    (h : value = some a) : (∀ b, value = some b → P b) ↔ P a := by
  simp [h]

/-- The rules for a node ask that it is connected, besides what is asked of its kind alone. -/
theorem FlowElement.asks_node_iff {node : FlowNode} (hn : e.node? = some node) :
    (∀ rule ∈ .nodeConnections :: own, rule.Asks strict adHoc siblings e) ↔
      node.Connected adHoc ∧ ∀ rule ∈ own, rule.Asks strict adHoc siblings e := by
  rw [List.forall_mem_cons]
  exact and_congr_left' (forall_eq_some_iff hn)

/-- The rules for a task ask that it is connected and can be simulated, besides what is asked of its
kind alone. -/
theorem FlowElement.asks_task_iff {t : Task} (hn : e.node? = some t.toFlowNode)
    (hb : e.base = t.toBaseElement) :
    (∀ rule ∈ .nodeConnections :: own ++ [.taskSimulation], rule.Asks strict adHoc siblings e) ↔
      t.WellFormed strict adHoc ∧ ∀ rule ∈ own, rule.Asks strict adHoc siblings e := by
  have simulates : NodeRule.taskSimulation.Asks strict adHoc siblings e ↔
      t.toBaseElement.Simulates strict := by
    rw [← hb]
    rfl
  rw [List.forall_mem_append, List.forall_mem_singleton, asks_node_iff hn, simulates,
    and_right_comm]
  rfl

/-- The rules for a gateway ask that it is connected and has a direction that suits its kind, besides
what is asked of its kind alone. -/
theorem FlowElement.asks_gateway_iff {kind : GatewayKind} {g : Gateway}
    (hn : e.node? = some g.toFlowNode) (hg : (Element.flow e).gateway? = some g)
    (hk : e.kind.gateway? = some kind) :
    (∀ rule ∈ .nodeConnections :: .gatewayDirection :: .gatewayKindDirection :: own,
        rule.Asks strict adHoc siblings e) ↔
      g.WellFormed adHoc kind ∧ ∀ rule ∈ own, rule.Asks strict adHoc siblings e := by
  have undirected : NodeRule.gatewayDirection.Asks strict adHoc siblings e ↔
      g.isUndirected = false := forall_eq_some_iff hg
  have suits : NodeRule.gatewayKindDirection.Asks strict adHoc siblings e ↔
      kind.Directed g.direction := (forall_eq_some_iff hk).trans (forall_eq_some_iff hg)
  rw [asks_node_iff hn, List.forall_mem_cons, List.forall_mem_cons, undirected, suits,
    GatewayKind.directed_and_iff, ← and_assoc]
  rfl

end

/-- What the rules for a kind ask together, kind by kind. -/
theorem FlowLeaf.forall_asks_iff {strict adHoc : Bool} {siblings : List FlowElement}
    (l : FlowLeaf) :
    (∀ rule ∈ l.kind.rules, rule.Asks strict adHoc siblings (.leaf l)) ↔
      l.WellFormed strict adHoc siblings := by
  cases l with
  | task t | manualTask t | serviceTask t | receiveTask t =>
    show (∀ rule ∈ .nodeConnections :: [] ++ [.taskSimulation], NodeRule.Asks _ _ _ _ rule) ↔ _
    rw [FlowElement.asks_task_iff rfl rfl]
    exact and_iff_left (List.forall_mem_nil _)
  | businessRuleTask t =>
    show (∀ rule ∈ .nodeConnections :: [.businessRuleTask] ++ [.taskSimulation],
      NodeRule.Asks _ _ _ _ rule) ↔ _
    rw [FlowElement.asks_task_iff rfl rfl, List.forall_mem_singleton]
    rfl
  | scriptTask t =>
    show (∀ rule ∈ .nodeConnections :: [.scriptTask] ++ [.taskSimulation],
      NodeRule.Asks _ _ _ _ rule) ↔ _
    rw [FlowElement.asks_task_iff rfl rfl, List.forall_mem_singleton]
    exact and_congr_right' (forall_eq_some_iff rfl)
  | sendTask t =>
    show (∀ rule ∈ .nodeConnections :: [.sendTask] ++ [.taskSimulation],
      NodeRule.Asks _ _ _ _ rule) ↔ _
    rw [FlowElement.asks_task_iff rfl rfl, List.forall_mem_singleton]
    simp [NodeRule.Asks, WellFormed]
  | userTask t =>
    show (∀ rule ∈ .nodeConnections :: [.userTask, .userTaskSimulation] ++ [.taskSimulation],
      NodeRule.Asks _ _ _ _ rule) ↔ _
    rw [FlowElement.asks_task_iff rfl rfl, List.forall_mem_cons, List.forall_mem_singleton]
    rfl
  | startEvent e | endEvent e =>
    show (∀ rule ∈ [_, _], NodeRule.Asks _ _ _ _ rule) ↔ _
    rw [List.forall_mem_cons, List.forall_mem_singleton]
    exact and_congr (forall_eq_some_iff rfl) (forall_eq_some_iff rfl)
  | intermediateCatchEvent e | boundaryEvent e | intermediateThrowEvent e | callActivity e =>
    show (∀ rule ∈ .nodeConnections :: [_], NodeRule.Asks _ _ _ _ rule) ↔ _
    rw [FlowElement.asks_node_iff rfl, List.forall_mem_singleton]
    exact and_congr_right' (forall_eq_some_iff rfl)
  | exclusiveGateway g | inclusiveGateway g | eventBasedGateway g | complexGateway g =>
    show (∀ rule ∈ .nodeConnections :: .gatewayDirection :: .gatewayKindDirection ::
      [.gatewayProbabilities], NodeRule.Asks _ _ _ _ rule) ↔ _
    rw [FlowElement.asks_gateway_iff rfl rfl rfl, List.forall_mem_singleton]
    exact and_congr_right' (forall_eq_some_iff rfl)
  | parallelGateway g =>
    show (∀ rule ∈ .nodeConnections :: .gatewayDirection :: .gatewayKindDirection :: [],
      NodeRule.Asks _ _ _ _ rule) ↔ _
    rw [FlowElement.asks_gateway_iff rfl rfl rfl]
    exact and_iff_left (List.forall_mem_nil _)
  | flowNode n =>
    show (∀ rule ∈ .nodeConnections :: [], NodeRule.Asks _ _ _ _ rule) ↔ _
    rw [FlowElement.asks_node_iff rfl]
    exact and_iff_left (List.forall_mem_nil _)
  | sequenceFlow f =>
    show (∀ rule ∈ [.sequenceFlow], NodeRule.Asks _ _ _ _ rule) ↔ _
    rw [List.forall_mem_singleton]
    exact forall_eq_some_iff rfl
  | dataObject d =>
    show (∀ rule ∈ [.dataObject], NodeRule.Asks _ _ _ _ rule) ↔ _
    rw [List.forall_mem_singleton]
    rfl

/-- What the rules for an element ask together is that it suits its siblings. -/
theorem FlowElement.forall_asks_iff {strict adHoc : Bool} {siblings : List FlowElement}
    (e : FlowElement) :
    (∀ rule ∈ e.kind.rules, rule.Asks strict adHoc siblings e) ↔
      e.WellFormed strict adHoc siblings := by
  cases e with
  | leaf l => exact l.forall_asks_iff
  | subProcess node es triggered =>
    show (∀ rule ∈ .nodeConnections :: [], NodeRule.Asks _ _ _ _ rule) ↔ _
    rw [asks_node_iff rfl]
    exact and_iff_left (List.forall_mem_nil _)

theorem Visit.findings_eq_nil_iff (settings : Settings) (adHoc : Bool) (v : Visit) :
    v.findings settings adHoc = [] ↔
      v.placed.element.WellFormed settings.strictSimulation adHoc v.owner.elements := by
  rw [← FlowElement.forall_asks_iff]
  unfold Visit.findings Located.findings
  rw [List.flatMap_eq_nil_iff]
  exact forall₂_congr fun rule h => findings_rule_eq_nil_iff settings adHoc (NodeRule.mem_rules h)

/-! ## Containers -/

/-- The elements below a container are those that it meets. -/
theorem Owner.owns_iff_meets {owner : Owner} {siblings : List FlowElement} {e : FlowElement} :
    Owns owner.elements siblings e ↔
      ∃ v, owner.Meets v ∧ v.owner.elements = siblings ∧ v.placed.element = e := by
  constructor
  · intro h
    generalize hes : owner.elements = es at h
    induction h generalizing owner with
    | own h =>
      obtain ⟨i, hi⟩ := List.mem_iff_getElem?.mp h
      exact ⟨_, .own (hes ▸ hi), hes, rfl⟩
    | @inner es siblings e node inside triggered h _ ih =>
      obtain ⟨i, hi⟩ := List.mem_iff_getElem?.mp h
      obtain ⟨v, hv, hs, he⟩ :=
        @ih (.ofPlaced (owner.placed i (.subProcess node inside triggered))) rfl
      exact ⟨v, .inner (hes ▸ hi) hv, hs, he⟩
  · rintro ⟨v, hv, rfl, rfl⟩
    induction hv with
    | own h => exact .own (List.mem_of_getElem? h)
    | @inner owner i e v h inside ih =>
      cases e with
      | leaf l =>
        cases inside <;> simp [Owner.ofPlaced, Owner.placed, FlowElement.flowElements] at *
      | subProcess node es triggered => exact .inner (List.mem_of_getElem? h) ih

theorem Owner.findings_eq_nil_iff (settings : Settings) (adHoc : Bool) (owner : Owner) :
    owner.findings settings adHoc = [] ↔ ∀ siblings e, Owns owner.elements siblings e →
      e.WellFormed settings.strictSimulation adHoc siblings := by
  unfold Owner.findings
  rw [List.flatMap_eq_nil_iff]
  constructor
  · intro h siblings e he
    obtain ⟨v, hv, rfl, rfl⟩ := Owner.owns_iff_meets.mp he
    exact (v.findings_eq_nil_iff settings adHoc).mp (h v (Owner.mem_visits_iff.mpr hv))
  · intro h v hv
    exact (v.findings_eq_nil_iff settings adHoc).mpr
      (h _ _ (Owner.owns_iff_meets.mpr ⟨v, Owner.mem_visits_iff.mp hv, rfl, rfl⟩))

/-! ## Processes and documents -/

theorem ProcessRule.idProblems_eq_nil_iff {text : Option String} :
    idProblems text = [] ↔ Text.isNcName text = true := by
  unfold idProblems
  cases hb : Text.isBlank text with
  | false => simp [Problem.when_eq_nil_iff]
  | true =>
    have hn : ¬ Text.isNcName text = true := fun h => by
      rw [Text.isBlank_eq_false_iff.mpr (Text.says_of_isNcName h)] at hb
      cases hb
    simp [hn]

/-- What a rule asks of a process. -/
def ProcessRule.Asks (p : Process) : ProcessRule → Prop
  | id => Text.isNcName p.id = true
  | packageName => Says (p.attributes.get? "packageName")
  | name => Says p.name
  | startEnd => p.isAdHoc = true ∨
    (∃ e ∈ p.flowElements, e.kind = .startEvent) ∧ ∃ e ∈ p.flowElements, e.kind = .endEvent

theorem ProcessRule.findings_eq_nil_iff {p : Process} (rule : ProcessRule) :
    rule.findings (.root (.process p)) = [] ↔ rule.Asks p := by
  rw [findings_eq_map, List.map_eq_nil_iff]
  cases rule with
  | id => exact idProblems_eq_nil_iff
  | packageName | name => exact Problem.when_isBlank_eq_nil_iff
  | startEnd =>
    show Problem.when _ (!p.flowElements.any (·.kind == .startEvent) && !p.isAdHoc) ++
      Problem.when _ (!p.flowElements.any (·.kind == .endEvent) && !p.isAdHoc) = [] ↔ _
    rw [List.append_eq_nil_iff, Problem.when_eq_nil_iff, Problem.when_eq_nil_iff]
    cases hp : p.isAdHoc <;> simp [Asks, hp]

theorem Process.findings_eq_nil_iff (settings : Settings) (p : Process) (place : Place) :
    p.findings settings place = [] ↔ p.WellFormed settings.strictSimulation := by
  have own : p.ownFindings = [] ↔ ∀ rule ∈ ProcessRule.all, rule.Asks p :=
    List.flatMap_eq_nil_iff.trans (forall₂_congr fun rule _ => rule.findings_eq_nil_iff)
  unfold Process.findings
  rw [List.append_eq_nil_iff, own, Owner.findings_eq_nil_iff]
  constructor
  · rintro ⟨asks, elements⟩
    exact ⟨asks .id (by decide), asks .packageName (by decide), asks .name (by decide),
      asks .startEnd (by decide), elements⟩
  · intro h
    refine ⟨fun rule _ => ?_, h.elements⟩
    cases rule with
    | id => exact h.id
    | packageName => exact h.packageName
    | name => exact h.name
    | startEnd => exact h.startEnd

theorem Definitions.findings_eq_nil_iff (settings : Settings) (d : Definitions) (place : Place) :
    d.findings settings place = [] ↔ d.WellFormed settings.strictSimulation := by
  unfold Definitions.findings
  rw [List.flatMap_eq_nil_iff]
  constructor
  · intro h p hp
    obtain ⟨i, hi⟩ := List.mem_iff_getElem?.mp hp
    exact (p.findings_eq_nil_iff settings (i :: place)).mp
      (h _ (Definitions.mem_locatedProcesses.mpr ⟨i, p, hi, rfl⟩))
  · intro h l hl
    obtain ⟨i, p, hi, rfl⟩ := Definitions.mem_locatedProcesses.mp hl
    exact (p.findings_eq_nil_iff settings (i :: place)).mpr (h p (List.mem_of_getElem? hi))

/-- A batch of a document gives a report, whatever the settings and the document, and the report
is without diagnostics exactly when the document is well formed. -/
theorem Settings.ok_outcome_document_iff (settings : Settings) (request : Request) (n : Nat)
    (d : Definitions) (hroot : request.root.content = .element ⟨[n], .definitions d⟩)
    (hmode : request.mode? settings = some .batch) :
    ∃ report, (settings.answer request).outcome = .ok report ∧
      (report.ok = true ↔ d.WellFormed settings.strictSimulation) := by
  refine ⟨_, outcome_document hroot hmode, ?_⟩
  rw [← d.findings_eq_nil_iff settings [n]]
  exact List.isEmpty_iff

/-- A document with one process, which is ad hoc and has one task without connections. -/
def Definitions.loneTask : Definitions where
  rootElements := [.process {
    id := some "p"
    name := some "Process"
    attributes := .ofList [("packageName", "q"), ("adHoc", " True ")]
    flowElements := [.leaf (.task { id := some "t" })] }]

theorem Settings.ok_outcome_loneTask :
    ∃ report,
      (Settings.answer {} { root := .plain (.element ⟨[0], .definitions .loneTask⟩) }).outcome =
        .ok report ∧ report.ok = true := by
  obtain ⟨report, outcome, ok⟩ := ok_outcome_document_iff {}
    { root := .plain (.element ⟨[0], .definitions .loneTask⟩) } 0 .loneTask rfl rfl
  refine ⟨report, outcome, ok.mpr fun p hp => ?_⟩
  obtain rfl : p = _ := by simpa [Definitions.loneTask] using hp
  refine ⟨by decide, Text.isBlank_eq_false_iff.mp (by decide),
    Text.isBlank_eq_false_iff.mp (by decide), Or.inl (by decide), fun siblings e h => ?_⟩
  cases h with
  | own h =>
    obtain rfl : e = _ := by simpa using h
    exact ⟨Or.inl (by decide), Or.inl rfl⟩
  | inner h => simp at h

end BpmnAudit
