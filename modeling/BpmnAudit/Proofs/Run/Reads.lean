import BpmnAudit.Proofs.Run.FlowLookup

/-!
# What rules read

Of the run that they are applied in, the rules for an element read whether it is strict, whether it
is ad hoc, and which sequence flows the container at hand owns itself. Runs that agree in these find
the same with an element, whatever else they did before (`Run.Reachable.applyRules_reads`). Only
gateways have a rule that looks at sequence flows, and only some nodes one that asks whether the
process is ad hoc.

What is found with an element is put together from what each of its rules finds alone
(`Located.foundBy`). Rules come to a stop at an element in outline that lacks a field; at a flow
element of a kind of its own, none but the last one can.
-/

namespace BpmnAudit

/-! ## Sequence flows of a container -/

namespace Surroundings

/-- The sequence flows that the container itself owns, in order; none where no container is. -/
def sequenceFlows (surroundings : Surroundings) : List Placed :=
  surroundings.owner?.elim [] fun owner => owner.children.filter (·.element.kind == .sequenceFlow)

theorem namedFlow?_eq_find? (surroundings : Surroundings) (id : String) :
    surroundings.namedFlow? id =
      surroundings.sequenceFlows.reverse.find? (·.element.flowId? == some id) := by
  unfold namedFlow? sequenceFlows
  cases surroundings.owner? with
  | none => rfl
  | some o =>
    rw [Option.bind_some, Option.elim_some, ← List.filter_reverse, List.find?_filter]
    congr 1
    funext p
    cases hid : p.element.flowId? with
    | none => simp
    | some other =>
      obtain ⟨flow, hflow, -⟩ := FlowElement.flowId?_eq_some_iff.mp hid
      have isFlow : (p.element.kind == .sequenceFlow) = true := by
        rw [hflow]
        rfl
      simp only [isFlow, true_and, Bool.decide_eq_true]

theorem branches_congr {surroundings surroundings' : Surroundings}
    (h : surroundings.sequenceFlows = surroundings'.sequenceFlows) (outgoing : List String) :
    surroundings.branches outgoing = surroundings'.branches outgoing := by
  unfold branches
  congr 1
  funext id
  rw [namedFlow?_eq_find?, namedFlow?_eq_find?, h]

theorem map_element_branches {surroundings surroundings' : Surroundings}
    (h : surroundings.sequenceFlows.map (·.element) =
      surroundings'.sequenceFlows.map (·.element)) (outgoing : List String) :
    (surroundings.branches outgoing).map (·.element) =
      (surroundings'.branches outgoing).map (·.element) := by
  have found : ∀ (s : Surroundings) (id : String), (s.namedFlow? id).map (·.element) =
      (s.sequenceFlows.map (·.element)).reverse.find? (·.flowId? == some id) := by
    intro s id
    rw [namedFlow?_eq_find?, ← List.map_reverse, List.find?_map]
    rfl
  unfold branches
  rw [List.map_filterMap, List.map_filterMap]
  simp only [found, h]

end Surroundings

/-- A diagnostic as a value: without the place that its element stands at. -/
def Diagnostic.unplaced (x : Diagnostic) : Level × Problem × Option Element :=
  (x.level, x.problem, x.element.map (·.element))

theorem map_unplaced_probabilityFindings {surroundings surroundings' : Surroundings}
    (h : surroundings.sequenceFlows.map (·.element) =
      surroundings'.sequenceFlows.map (·.element)) (strict : Bool) (l : Located)
    (outgoing : List String) :
    (probabilityFindings strict surroundings l outgoing).map Diagnostic.unplaced =
      (probabilityFindings strict surroundings' l outgoing).map Diagnostic.unplaced := by
  have missing : ∀ s : Surroundings,
      (((s.branches outgoing).filter (·.element.LacksProbability)).map fun flow =>
          (⟨.error, .noProbability, some flow.located⟩ : Diagnostic)).map Diagnostic.unplaced =
        (((s.branches outgoing).map (·.element)).filter (·.LacksProbability)).map fun e =>
          (.error, .noProbability, some (.flow e)) := by
    intro s
    rw [List.map_map, List.filter_map, List.map_map]
    rfl
  have weights : ∀ s : Surroundings, s.probabilities outgoing =
      ((s.branches outgoing).map (·.element)).filterMap (·.probability?) := by
    intro s
    rw [List.filterMap_map]
    rfl
  unfold probabilityFindings
  simp only [List.map_append, missing, weights, Surroundings.map_element_branches h]

theorem probabilityFindings_congr {surroundings surroundings' : Surroundings}
    (h : surroundings.sequenceFlows = surroundings'.sequenceFlows) (strict : Bool) (l : Located)
    (outgoing : List String) :
    probabilityFindings strict surroundings l outgoing =
      probabilityFindings strict surroundings' l outgoing := by
  unfold probabilityFindings Surroundings.probabilities
  rw [Surroundings.branches_congr h]

/-! ## Single rules -/

namespace NodeRule

/-- A rule that does not look at sequence flows reads whether the run is strict, and the rule for
connections whether it is ad hoc. -/
theorem remarks_congr {scope scope' : Scope} {rule : NodeRule} (flows : rule.readsFlows = false)
    (strict : scope.strict = scope'.strict)
    (adHoc : scope.adHoc = scope'.adHoc ∨ rule ≠ nodeConnections) (l : Located) :
    rule.remarks scope l = rule.remarks scope' l := by
  unfold remarks
  rw [flows, if_neg Bool.false_ne_true, if_neg Bool.false_ne_true, strict]
  rcases adHoc with same | other
  · rw [same]
  · exact congrArg (Progress.map l.remarks)
      ((problems_adHoc other).trans (problems_adHoc other).symm)

theorem map_findings_probabilities_congr {γ : Type} (f : Diagnostic → γ) {run run' : Run}
    {l : Located}
    (h : ∀ outgoing,
      (probabilityFindings run.settings.strictSimulation run.container l outgoing).map f =
        (probabilityFindings run'.settings.strictSimulation run'.container l outgoing).map f) :
    (findings run.plainScope l .gatewayProbabilities).map f =
      (findings run'.plainScope l .gatewayProbabilities).map f := by
  unfold Run.plainScope
  cases hnode : l.element.node? with
  | none =>
    unfold findings remarks problems
    rw [hnode]
    rfl
  | some node =>
    rw [findings_probabilities _ _ _ hnode, findings_probabilities _ _ _ hnode, h]

end NodeRule

/-! ## Rules one after the other -/

theorem Progress.steps_cons {α β : Type} (step : α → β → Progress α) (start : α) (item : β)
    (items : List β) :
    steps step start (item :: items) =
      (step start item).andThen fun after => steps step after items := by
  have stopped : ∀ (misfit : Misfit) (a : α) (items : List β),
      items.foldl (fun p item => p.andThen (step · item)) (⟨a, some misfit⟩ : Progress α) =
        ⟨a, some misfit⟩ := by
    intro misfit a items
    induction items with
    | nil => rfl
    | cons item items ih => exact ih
  unfold steps
  rw [List.foldl_cons, andThen_none]
  obtain ⟨after, misfit⟩ := step start item
  cases misfit with
  | none => rfl
  | some misfit => exact stopped misfit after items

namespace Located

/-- What rules find with an element one after the other, up to the first one that stops. -/
def foundBy (scope : Scope) (l : Located) : List NodeRule → List Diagnostic
  | [] => []
  | rule :: rules =>
    rule.findings scope l ++
      if (rule.remarks scope l).misfit = none then l.foundBy scope rules else []

theorem foundBy_cons (scope : Scope) (l : Located) (rule : NodeRule) (rules : List NodeRule) :
    l.foundBy scope (rule :: rules) =
      rule.findings scope l ++
        if (rule.remarks scope l).misfit = none then l.foundBy scope rules else [] := rfl

/-- Rules find the same if each of them does, and none stops before the last one unless it stops
for both. -/
theorem map_foundBy_congr {γ : Type} (f : Diagnostic → γ) {scope scope' : Scope} {l : Located}
    {rules : List NodeRule}
    (same : ∀ rule ∈ rules, (rule.findings scope l).map f = (rule.findings scope' l).map f)
    (misfits : ∀ rule ∈ rules.dropLast,
      (rule.remarks scope l).misfit = (rule.remarks scope' l).misfit) :
    (l.foundBy scope rules).map f = (l.foundBy scope' rules).map f := by
  induction rules with
  | nil => rfl
  | cons rule rules ih =>
    have first := same rule List.mem_cons_self
    cases rules with
    | nil => simpa [foundBy] using first
    | cons next rules =>
      have rest := ih (fun r hr => same r (List.mem_cons_of_mem _ hr))
        fun r hr => misfits r (List.mem_cons_of_mem _ hr)
      rw [foundBy_cons scope, foundBy_cons scope', List.map_append, List.map_append, first,
        misfits rule List.mem_cons_self]
      congr 1
      split
      · exact rest
      · rfl

theorem foundBy_eq_flatMap {scope : Scope} {l : Located} {rules : List NodeRule}
    (h : ∀ rule ∈ rules.dropLast, (rule.remarks scope l).misfit = none) :
    l.foundBy scope rules = rules.flatMap (·.findings scope l) := by
  induction rules with
  | nil => rfl
  | cons rule rules ih =>
    rw [foundBy_cons, List.flatMap_cons]
    cases rules with
    | nil => simp [foundBy]
    | cons next rules =>
      rw [if_pos (h rule List.mem_cons_self), ih fun r hr => h r (List.mem_cons_of_mem _ hr)]

end Located

/-! ## Rules for an element -/

theorem Element.exists_kind_of_mem_rules {e : Element} {rule : NodeRule} (h : rule ∈ e.rules) :
    ∃ kind, e.kind? = some (.flow kind) ∧ rule.appliesTo kind = true := by
  unfold rules at h
  cases hkind : e.kind? with
  | none =>
    rw [hkind] at h
    cases h
  | some kind =>
    rw [hkind] at h
    cases kind with
    | flow kind => exact ⟨kind, rfl, (List.mem_filter.mp h).2⟩
    | definitions | root => cases h

/-- Sequence flows are looked at by the last rule for an element, if by any. -/
theorem Element.readsFlows_of_mem_dropLast {e : Element} {rule : NodeRule}
    (h : rule ∈ e.rules.dropLast) : rule.readsFlows = false := by
  have each : ∀ kind : FlowKind, ∀ rule ∈ kind.rules.dropLast, rule.readsFlows = false := by
    intro kind
    cases kind <;> decide
  unfold rules at h
  cases hkind : e.kind?.bind ElementKind.flow? with
  | none =>
    rw [hkind] at h
    cases h
  | some kind =>
    rw [hkind] at h
    exact each kind rule h

/-- No rule but the last one stops at a flow element of a kind of its own, whatever is around. -/
theorem Element.misfit_remarks_of_mem_dropLast (scope : Scope) {l : Located} {e : FlowElement}
    (he : l.element = .flow e) {rule : NodeRule} (h : rule ∈ l.element.rules.dropLast) :
    (rule.remarks scope l).misfit = none := by
  have applies := List.dropLast_subset _ h
  rw [he] at applies
  unfold NodeRule.remarks
  rw [readsFlows_of_mem_dropLast h, if_neg Bool.false_ne_true, he]
  exact NodeRule.misfit_problems scope.strict scope.adHoc (NodeRule.mem_rules applies)

theorem Element.gatewayProbabilities_not_mem_rules {e : Element}
    (h : ∀ kind, e.kind? = some (.flow kind) → kind.isGateway = false) :
    .gatewayProbabilities ∉ e.rules := by
  intro hr
  obtain ⟨kind, hkind, applies⟩ := exists_kind_of_mem_rules hr
  rw [NodeRule.appliesTo, h kind hkind] at applies
  cases applies

/-- The kinds of which no rule asks for sequence flows, nor whether the process is ad hoc. -/
def FlowKind.selfContained : List FlowKind := [sequenceFlow, dataObject, startEvent, endEvent]

theorem FlowKind.of_mem_selfContained :
    ∀ kind ∈ selfContained,
      kind.isGateway = false ∧ NodeRule.nodeConnections.appliesTo kind = false := by
  decide

theorem Located.map_foundBy_rules_congr {γ : Type} (f : Diagnostic → γ) {run run' : Run}
    {l : Located} (strict : run.settings.strictSimulation = run'.settings.strictSimulation)
    (adHoc : run.adHoc = run'.adHoc ∨ .nodeConnections ∉ l.element.rules)
    (flows : .gatewayProbabilities ∈ l.element.rules → ∀ outgoing,
      (probabilityFindings run.settings.strictSimulation run.container l outgoing).map f =
        (probabilityFindings run'.settings.strictSimulation run'.container l outgoing).map f) :
    (l.foundBy run.plainScope l.element.rules).map f =
      (l.foundBy run'.plainScope l.element.rules).map f := by
  have unmoved : ∀ rule ∈ l.element.rules, rule.readsFlows = false →
      rule.remarks run.plainScope l = rule.remarks run'.plainScope l := by
    intro rule hr reads
    refine NodeRule.remarks_congr reads strict ?_ l
    exact adHoc.imp id fun other heq => other (heq ▸ hr)
  refine map_foundBy_congr f (fun rule hr => ?_) fun rule hr => ?_
  · cases reads : rule.readsFlows with
    | false => rw [NodeRule.findings, NodeRule.findings, unmoved rule hr reads]
    | true =>
      obtain rfl : rule = .gatewayProbabilities := eq_of_beq reads
      exact NodeRule.map_findings_probabilities_congr f (flows hr)
  · have reads := Element.readsFlows_of_mem_dropLast hr
    rw [unmoved rule (List.dropLast_subset _ hr) reads]

/-- The rules for an element find the same in runs whose containers own the same flows, as far as
they look at flows. -/
theorem Located.foundBy_rules_congr {run run' : Run} {l : Located}
    (strict : run.settings.strictSimulation = run'.settings.strictSimulation)
    (adHoc : run.adHoc = run'.adHoc ∨ .nodeConnections ∉ l.element.rules)
    (flows : .gatewayProbabilities ∈ l.element.rules →
      run.container.sequenceFlows = run'.container.sequenceFlows) :
    l.foundBy run.plainScope l.element.rules = l.foundBy run'.plainScope l.element.rules := by
  have same := map_foundBy_rules_congr id strict adHoc fun hr outgoing => by
    rw [strict, probabilityFindings_congr (flows hr)]
  rwa [List.map_id, List.map_id] at same

namespace Run

/-- Two runs agree in what rules read: both are strict or neither, both are ad hoc or neither, and
their containers own equal sequence flows in the same order. -/
structure Agrees (run run' : Run) : Prop where
  strict : run.settings.strictSimulation = run'.settings.strictSimulation
  adHoc : run.adHoc = run'.adHoc
  flows : run.container.sequenceFlows.map (·.element) =
    run'.container.sequenceFlows.map (·.element)

variable {documents : Documents} {run : Run}

theorem Sound.misfit_applyRule (h : run.Sound documents) (l : Located) (rule : NodeRule) :
    (run.applyRule l rule).misfit = (rule.remarks run.plainScope l).misfit := by
  obtain ⟨before, -, applied⟩ := h.applyRule_eq l rule
  rw [applied]
  rfl

/-- Applying rules one after the other adds what they find up to the first one that stops. -/
theorem Sound.applyEach (h : run.Sound documents) (l : Located) (rules : List NodeRule) :
    ∃ told, Leads documents run (l.foundBy run.plainScope rules) told
      (Progress.steps (Run.applyRule · l ·) run rules).result := by
  induction rules generalizing run with
  | nil => exact ⟨[], .refl h⟩
  | cons rule rules ih =>
    have first := h.applyRule l rule
    obtain ⟨told, rest⟩ := ih first.sound
    rw [first.plainScope_eq (run.container_applyRule l rule)] at rest
    rw [Progress.steps_cons, Progress.andThen, h.misfit_applyRule, Located.foundBy_cons]
    cases (rule.remarks run.plainScope l).misfit with
    | none => exact ⟨_, first.trans rest⟩
    | some misfit =>
      rw [if_neg (Option.some_ne_none misfit), List.append_nil]
      exact ⟨_, first⟩

/-- What rules for flow elements find does not depend on what a run did before: in reachable runs
that agree in what rules read, applying the rules for an element adds the same, up to the places of
the documents that the runs are about, and exactly the same if their containers own the same flows.
For an element that is no gateway, only being strict and being ad hoc matter, whatever is around;
for sequence flows, data objects, start events and end events, only being strict does. Unless a rule
stops, and none stops at a flow element of a kind of its own, all that is added is what each rule
for the element adds alone, in the order of the rules. -/
theorem Reachable.applyRules_reads {documents documents' : Documents} {run run' : Run}
    (h : run.Reachable documents) (h' : run'.Reachable documents') (l : Located) :
    ∃ found found' : List Diagnostic,
      (run.applyRules l).result.diagnostics.toList = run.diagnostics.toList ++ found ∧
      (run'.applyRules l).result.diagnostics.toList = run'.diagnostics.toList ++ found' ∧
      (run.Agrees run' → found.map Diagnostic.unplaced = found'.map Diagnostic.unplaced) ∧
      (run.Agrees run' → run.container.sequenceFlows = run'.container.sequenceFlows →
        found = found') ∧
      ((∀ kind, l.element.kind? = some (.flow kind) → kind.isGateway = false) →
        run.settings.strictSimulation = run'.settings.strictSimulation → run.adHoc = run'.adHoc →
        found = found') ∧
      ((∃ kind ∈ FlowKind.selfContained, l.element.kind? = some (.flow kind)) →
        run.settings.strictSimulation = run'.settings.strictSimulation → found = found') ∧
      (((∃ e, l.element = .flow e) ∨
          ∀ rule ∈ l.element.rules, (run.applyRule l rule).misfit = none) →
        ∃ alone : NodeRule → List Diagnostic,
          (∀ rule ∈ l.element.rules, (run.applyRule l rule).result.diagnostics.toList =
            run.diagnostics.toList ++ alone rule) ∧
          found = l.element.rules.flatMap alone) := by
  obtain ⟨_, added⟩ := h.sound.applyEach l l.element.rules
  obtain ⟨_, added'⟩ := h'.sound.applyEach l l.element.rules
  refine ⟨_, _, added.diagnostics, added'.diagnostics, ?_, ?_, ?_, ?_, ?_⟩
  · intro agree
    refine Located.map_foundBy_rules_congr _ agree.strict (.inl agree.adHoc) fun _ outgoing => ?_
    rw [agree.strict]
    exact map_unplaced_probabilityFindings agree.flows _ l outgoing
  · exact fun agree same =>
      Located.foundBy_rules_congr agree.strict (.inl agree.adHoc) fun _ => same
  · intro other strict adHoc
    have unread := Element.gatewayProbabilities_not_mem_rules other
    exact Located.foundBy_rules_congr strict (.inl adHoc) fun hr => absurd hr unread
  · rintro ⟨kind, among, hkind⟩ strict
    obtain ⟨other, unconnected⟩ := FlowKind.of_mem_selfContained kind among
    have noGateway : ∀ kind', l.element.kind? = some (.flow kind') → kind'.isGateway = false := by
      intro kind' hkind'
      cases hkind.symm.trans hkind'
      exact other
    have unread := Element.gatewayProbabilities_not_mem_rules noGateway
    have unasked : .nodeConnections ∉ l.element.rules := by
      intro hr
      obtain ⟨kind', hkind', applies⟩ := Element.exists_kind_of_mem_rules hr
      cases hkind.symm.trans hkind'
      rw [unconnected] at applies
      cases applies
    exact Located.foundBy_rules_congr strict (.inr unasked) fun hr => absurd hr unread
  · intro unstopped
    refine ⟨fun rule => rule.findings run.plainScope l,
      fun rule _ => (h.sound.applyRule l rule).diagnostics, Located.foundBy_eq_flatMap ?_⟩
    intro rule hr
    rcases unstopped with ⟨e, he⟩ | unstopped
    · exact Element.misfit_remarks_of_mem_dropLast _ he hr
    · rw [← h.sound.misfit_applyRule, unstopped rule (List.dropLast_subset _ hr)]

/-- A process that owns some elements and then a flow without a probability. -/
def unweightedProcess (before : List FlowElement) : Element :=
  .root (.process {
    flowElements :=
      before ++ [.leaf (.sequenceFlow { id := some "f", blocks := [.ofList [("note", "")]] })] })

/-- A gateway that names the flow is checked in two processes, in the second of which the flow comes
after a task, and there once more: what is found differs in the place of the flow only. An end event
is found to lack the same in a run that is ad hoc and nowhere. -/
theorem Reachable.applyRules_reads_unweightedProcess :
    let gateway : Located :=
      ⟨[1], .flow (.leaf (.complexGateway { id := some "x", outgoing := ["f"] }))⟩
    let endEvent : Located := ⟨[2], .flow (.leaf (.endEvent { id := some "e" }))⟩
    let run := strictlyInside (unweightedProcess [])
    let begun := strictlyInside (unweightedProcess [.leaf (.task {})])
    let again := begun.perform (.applyRules gateway)
    let nowhere := ({ settings := { strictSimulation := true } } : Run).perform (.setAdHoc true)
    (∃ found found',
      (run.applyRules gateway).result.diagnostics.toList = found ∧
        (again.applyRules gateway).result.diagnostics.toList =
          again.diagnostics.toList ++ found' ∧
        found ≠ found' ∧ found.map Diagnostic.unplaced = found'.map Diagnostic.unplaced ∧
        found.map (·.problem) = [.nodeWithoutIncoming, .noDirection, .wrongDirection .complex,
          .noProbability]) ∧
      (run.applyRules endEvent).result.diagnostics.toList =
        (nowhere.applyRules endEvent).result.diagnostics.toList ∧
      (run.applyRules endEvent).result.diagnostics.size = 1 := by
  intro gateway endEvent run begun again nowhere
  have reachable : run.Reachable _ := reachable_strictlyInside _
  let second := unweightedProcess [.leaf (.task {})]
  let documents : Documents := fun n => if n = 1 then some gateway.element else some second
  have inSecond : (⟨[0], second⟩ : Located).IsIn documents := rfl
  have atGateway : gateway.IsIn documents := rfl
  have entered : begun.Reachable documents :=
    .perform (.start _) (.enterContainer (some _)) (List.forall_mem_singleton.mpr inSecond)
  have repeated : again.Reachable documents :=
    .perform entered (.applyRules gateway) (List.forall_mem_singleton.mpr atGateway)
  have started : nowhere.Reachable (fun _ => none) :=
    .perform (.start _) _ (List.forall_mem_nil _)
  refine ⟨?_, ?_, by decide⟩
  · obtain ⟨found, found', here, there, same, -⟩ := reachable.applyRules_reads repeated gateway
    obtain ⟨_, kept⟩ := entered.sound.applyEach gateway gateway.element.rules
    have inside : again.container = begun.container := container_applyRules begun gateway
    have strict : again.settings = begun.settings := kept.settings
    have adHoc : again.adHoc = begun.adHoc := kept.adHoc
    have agree : run.Agrees again :=
      ⟨by rw [strict]; rfl, by rw [adHoc]; rfl, by rw [inside]; rfl⟩
    rw [show run.diagnostics.toList = [] from rfl, List.nil_append] at here
    refine ⟨found, found', here, there, ?_, same agree, ?_⟩
    · rintro rfl
      rw [← here] at there
      exact absurd there (by decide)
    · rw [← here]
      decide
  · obtain ⟨found, found', here, there, -, -, -, same, -⟩ :=
      reachable.applyRules_reads started endEvent
    rw [here, there, same ⟨.endEvent, by decide, rfl⟩ rfl]
    rfl

end Run

end BpmnAudit
