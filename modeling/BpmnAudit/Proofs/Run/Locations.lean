import BpmnAudit.Proofs.Run.FlowLookup
import BpmnAudit.Proofs.Tree.Owners

/-!
# Where diagnostics are

A batch of a document gives a block of diagnostics for each process. A block begins with what is
wrong with the process as a whole, which is told of no element, at most once for each question asked
of a process and in the order of the questions. Then come the diagnostics of the visits, visit by
visit, each of an element that the process owns at some depth: of the visited element, or, if a
probability is missing, of a sequence flow next to it that it names (`Settings.outcome_located`).
-/

namespace BpmnAudit

/-! ## Problems of processes as a whole -/

theorem Problem.when_sublist (p : Problem) (condition : Bool) : (p.when condition).Sublist [p] := by
  cases condition with
  | true => exact .refl _
  | false => exact List.nil_sublist _

theorem ProcessRule.exists_idProblems_sublist (text : Option String) :
    ∃ problem ∈ [Problem.noProcessId, .invalidProcessId],
      (idProblems text).Sublist [problem] := by
  unfold idProblems
  split
  · exact ⟨.noProcessId, by decide, .refl _⟩
  · exact ⟨.invalidProcessId, by decide, Problem.when_sublist _ _⟩

/-- The diagnostics of a process as a whole: errors of no element, at most five, in the order id,
package name, name, start and end. -/
structure IsOverview (found : List Diagnostic) : Prop where
  isError : ∀ x ∈ found, x.level = .error
  elementless : ∀ x ∈ found, x.element = none
  inOrder : ∃ idProblem ∈ [Problem.noProcessId, .invalidProcessId],
    (found.map (·.problem)).Sublist
      [idProblem, .noPackageName, .noProcessName, .noStartNode, .noEndNode]
  length_le : found.length ≤ 5

theorem Process.isOverview_ownFindings (p : Process) : IsOverview p.ownFindings := by
  have own : p.ownFindings =
      (ProcessRule.all.flatMap fun rule => (rule.problems (.root (.process p))).result).map
        fun problem => ⟨.error, problem, none⟩ := by
    rw [List.map_flatMap]
    exact congrArg ProcessRule.all.flatMap (funext fun rule => rule.findings_eq_map _)
  have all : ∀ x ∈ p.ownFindings, x.level = .error ∧ x.element = none := by
    rw [own]
    exact List.forall_mem_map.mpr fun _ _ => ⟨rfl, rfl⟩
  obtain ⟨idProblem, hid, one⟩ := ProcessRule.exists_idProblems_sublist p.id
  have inOrder : (p.ownFindings.map (·.problem)).Sublist
      [idProblem, .noPackageName, .noProcessName, .noStartNode, .noEndNode] := by
    rw [own, List.map_map]
    -- the four rules in their order; the last one asks two questions
    show ((ProcessRule.idProblems p.id ++ (Problem.when _ _ ++ (Problem.when _ _ ++
      ((Problem.when _ _ ++ Problem.when _ _) ++ [])))).map id).Sublist _
    rw [List.map_id, List.append_nil]
    exact one.append ((Problem.when_sublist _ _).append ((Problem.when_sublist _ _).append
      ((Problem.when_sublist _ _).append (Problem.when_sublist _ _))))
  refine ⟨fun x hx => (all x hx).1, fun x hx => (all x hx).2, ⟨idProblem, hid, inOrder⟩, ?_⟩
  simpa using inOrder.length_le

/-! ## Diagnostics of visits -/

theorem Owner.Meets.sibling {owner : Owner} {v : Visit} (h : owner.Meets v) {p : Placed}
    (hp : p ∈ v.owner.children) : owner.Meets ⟨v.owner, p⟩ := by
  induction h with
  | own _ =>
    obtain ⟨i, e, he, rfl⟩ := Owner.mem_children.mp hp
    exact .own he
  | inner h _ ih => exact .inner h (ih hp)

/-- A gateway names a sequence flow among its outgoing ones. -/
def Placed.Names (p flow : Placed) : Prop :=
  ∃ gateway id, (Element.flow p.element).gateway? = some gateway ∧ id ∈ gateway.outgoing ∧
    flow.element.flowId? = some id

/-- A diagnostic of a visit inside a container: of an element that stands next to the visited one.
It is the visited element itself, or, if a probability is missing, a sequence flow that it names. -/
def Diagnostic.IsOf (x : Diagnostic) (owner : Owner) (v : Visit) : Prop :=
  ∃ w ∈ owner.visits, w.owner = v.owner ∧ x.element = some w.placed.located ∧
    (x.problem ≠ .noProbability ∧ w = v ∨ x.problem = .noProbability ∧ v.placed.Names w.placed)

theorem FlowElement.exists_gateway {e : FlowElement}
    (h : NodeRule.gatewayProbabilities.appliesTo e.kind = true) :
    ∃ gateway, (Element.flow e).gateway? = some gateway := by
  cases e with
  | leaf l => cases l <;> first | exact ⟨_, rfl⟩ | cases h
  | subProcess => cases h

theorem mem_probabilityFindings {strict : Bool} {owner : Owner} {p : Placed} {gateway : Gateway}
    (hg : p.located.element.gateway? = some gateway) {x : Diagnostic}
    (h : x ∈ probabilityFindings strict (.owner owner) p.located gateway.outgoing) :
    x = ⟨.error, .probabilitySum, some p.located⟩ ∨
      ∃ flow ∈ owner.children, p.Names flow ∧ x = ⟨.error, .noProbability, some flow.located⟩ := by
  rcases List.mem_append.mp h with h | h
  · obtain ⟨flow, hflow, rfl⟩ := List.mem_map.mp h
    obtain ⟨id, hid, named⟩ := List.mem_filterMap.mp (List.mem_filter.mp hflow).1
    rw [← Surroundings.flow?_eq_namedFlow?] at named
    have last := Surroundings.flow?_owner_eq_some_iff.mp named
    exact .inr ⟨flow, last.mem, ⟨gateway, id, hg, hid, last.1⟩, rfl⟩
  · split at h
    · exact .inl (List.mem_singleton.mp h)
    · cases h

theorem NodeRule.eq_gatewayProbabilities {rule : NodeRule} (h : rule.readsFlows = true) :
    rule = .gatewayProbabilities := by
  cases rule <;> first | rfl | cases h

/-- Rules find errors only, each of the visited element or of a sequence flow that it names. -/
theorem Visit.isOf_of_mem_findings {settings : Settings} {adHoc : Bool} {owner : Owner} {v : Visit}
    (hv : v ∈ owner.visits) {x : Diagnostic} (h : x ∈ v.findings settings adHoc) :
    x.level = .error ∧ x.IsOf owner v := by
  obtain ⟨rule, hr, hx⟩ := List.mem_flatMap.mp h
  have applies := NodeRule.mem_rules hr
  -- Only the rule that looks up sequence flows tells of anything else than the visited element.
  cases reads : rule.readsFlows with
  | false =>
    rw [NodeRule.findings_eq_append rfl applies, reads, if_neg Bool.false_ne_true,
      List.append_nil] at hx
    obtain ⟨problem, hproblem, rfl⟩ := List.mem_map.mp hx
    have found := NodeRule.rule?_of_mem_problems problem hproblem
    refine ⟨rfl, v, hv, rfl, rfl, .inl ⟨?_, rfl⟩⟩
    rintro rfl
    cases found
    cases reads
  | true =>
    obtain rfl := NodeRule.eq_gatewayProbabilities reads
    obtain ⟨gateway, hg⟩ := FlowElement.exists_gateway applies
    rw [NodeRule.findings_gatewayProbabilities settings adHoc (.owner v.owner) hg] at hx
    obtain rfl | ⟨flow, beside, named, rfl⟩ := mem_probabilityFindings hg hx
    · exact ⟨rfl, v, hv, rfl, rfl, .inl ⟨nofun, rfl⟩⟩
    · have met := Owner.mem_visits_iff.mpr ((Owner.mem_visits_iff.mp hv).sibling beside)
      exact ⟨rfl, ⟨v.owner, flow⟩, met, rfl, rfl, .inr ⟨rfl, named⟩⟩

/-! ## Batches -/

/-- The diagnostics of a process where it stands: what the rules for processes find with it as a
whole, and then the diagnostics of its visits. -/
def Located.IsBlock (l : Located) (block : List Diagnostic) : Prop :=
  ∃ (p : Process) (met : Visit → List Diagnostic), l.element = .root (.process p) ∧
    block = p.ownFindings ++ (p.owner l.place).visits.flatMap met ∧
    IsOverview p.ownFindings ∧
    ∀ v ∈ (p.owner l.place).visits, ∀ x ∈ met v, x.level = .error ∧ x.IsOf (p.owner l.place) v

theorem Definitions.isBlock_processFindings {d : Definitions} {place : Place} {l : Located}
    (h : l ∈ d.locatedProcesses place) (settings : Settings) :
    l.IsBlock (l.processFindings settings) := by
  obtain ⟨i, p, -, rfl⟩ := Definitions.mem_locatedProcesses.mp h
  exact ⟨p, (·.findings settings p.isAdHoc), rfl, rfl, p.isOverview_ownFindings,
    fun _ hv _ hx => Visit.isOf_of_mem_findings hv hx⟩

/-- In a block are errors only, and without an element only what rules for processes find. -/
theorem Located.IsBlock.of_mem {l : Located} {block : List Diagnostic} (h : l.IsBlock block)
    {x : Diagnostic} (hx : x ∈ block) :
    x.level = .error ∧ (x.element = none → ∃ rule, x.problem.processRule? = some rule) := by
  obtain ⟨p, met, -, rfl, whole, visited⟩ := h
  rcases List.mem_append.mp hx with hx | hx
  · exact ⟨whole.isError x hx, fun _ => Process.exists_rule_of_mem_ownFindings hx⟩
  · obtain ⟨v, hv, hx⟩ := List.mem_flatMap.mp hx
    obtain ⟨level, w, -, -, element, -⟩ := visited v hv x hx
    refine ⟨level, fun none => ?_⟩
    rw [element] at none
    cases none

/-- A batch of a document reports one block after the other, one for each process: errors only, and
without an element only what the rules for processes find. -/
theorem Settings.outcome_located {settings : Settings} {request : Request} {n : Nat}
    {d : Definitions} (h : request.AsksFor settings n d) :
    ∃ blocks : List (List Diagnostic),
      (settings.answer request).outcome = .ok (.ofDiagnostics blocks.flatten) ∧
      List.Forall₂ Located.IsBlock (d.locatedProcesses [n]) blocks ∧
      ∀ x ∈ blocks.flatten, x.level = .error ∧
        (x.element = none → ∃ rule, x.problem.processRule? = some rule) := by
  refine ⟨(d.locatedProcesses [n]).map (·.processFindings settings), ?_, ?_, ?_⟩
  · exact outcome_document h.root h.mode
  · rw [List.forall₂_map_right_iff, List.forall₂_same]
    exact fun l hl => Definitions.isBlock_processFindings hl settings
  · intro x hx
    obtain ⟨l, hl, hx⟩ := List.mem_flatMap.mp hx
    exact (Definitions.isBlock_processFindings hl settings).of_mem hx

/-- A process with a sequence flow, and a subprocess in which a gateway names a flow of the same id
that it owns itself. -/
def Process.branching : Process where
  id := some "p"
  flowElements :=
    [.leaf (.sequenceFlow { id := some "f", sourceRef := some "a", targetRef := some "b" }),
      .subProcess { incoming := ["f"], outgoing := ["f"] }
        [.leaf (.exclusiveGateway
            { incoming := ["f"], outgoing := ["f"], direction := some .diverging }),
          .leaf (.sequenceFlow { id := some "f", blocks := [.ofList [("note", "")]] })] false]

/-- A batch of a document with that process and a bare one after it. -/
theorem Settings.outcome_branching :
    let request : Request := {
      root := .plain (.element ⟨[0], .definitions {
        rootElements := [.process .branching, .message {}, .process {}] }⟩) }
    ∃ first second : List Diagnostic,
      (Settings.answer {} request).outcome = .ok (.ofDiagnostics (first ++ second)) ∧
      Located.IsBlock ⟨[0, 0], .root (.process .branching)⟩ first ∧
      Located.IsBlock ⟨[2, 0], .root (.process {})⟩ second ∧
      (first ++ second).map (fun x => (x.problem, x.element.map (·.place))) =
        [(.noPackageName, none), (.noProcessName, none), (.noStartNode, none), (.noEndNode, none),
          (.noProbability, some [1, 1, 0, 0]), (.noSource, some [1, 1, 0, 0]),
          (.noTarget, some [1, 1, 0, 0]), (.noProcessId, none), (.noPackageName, none),
          (.noProcessName, none), (.noStartNode, none), (.noEndNode, none)] := by
  intro request
  have asks : request.AsksFor {} 0 {
      rootElements := [.process .branching, .message {}, .process {}] } := ⟨rfl, rfl⟩
  obtain ⟨blocks, reported, each, -⟩ := outcome_located asks
  obtain ⟨first, _, isFirst, rest, rfl⟩ := List.forall₂_cons_left_iff.mp each
  obtain ⟨second, _, isSecond, none, rfl⟩ := List.forall₂_cons_left_iff.mp rest
  obtain rfl := List.forall₂_nil_left_iff.mp none
  rw [List.flatten_cons, List.flatten_singleton] at reported
  refine ⟨first, second, reported, isFirst, isSecond, ?_⟩
  have found := reported.symm.trans (outcome_document asks.root asks.mode)
  rw [show first ++ second = _ from congrArg Report.diagnostics (Except.ok.inj found)]
  decide

end BpmnAudit
