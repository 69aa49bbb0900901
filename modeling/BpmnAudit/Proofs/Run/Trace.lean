import BpmnAudit.Proofs.Run.Locations
import BpmnAudit.Proofs.Run.Records
import BpmnAudit.Proofs.Run.Steps

/-!
# The trace of a batch

The records of a batch of a document, sorted by who speaks (`Settings.records_answer_traced`). Those
of the run are its diagnostics, one each and in their order. Walks and processes speak once for each
process, in the order of the processes. Rules speak of probabilities that are no numbers, in strict
runs only and once for each outgoing id of a gateway that leads to one. The validator opens and
closes the trace.
-/

namespace BpmnAudit

/-! ## Remarks -/

/-- The record of a probability that is no number, of remarks that are about one. -/
def Remark.oddity? : Remark → Option LogRecord
  | .problem .. => none
  | .oddProbability flow text => some (oddProbabilityRecord flow text)

/-- The run tells of the diagnostics of remarks, if they are of elements that can be told of. -/
theorem Remark.filter_run_records {remarks : List Remark}
    (h : ∀ remark ∈ remarks, remark.Reportable) :
    (remarks.filterMap record?).filter (·.source == .run) =
      (remarks.filterMap diagnostic?).map Diagnostic.record := by
  rw [List.filter_filterMap, List.map_filterMap]
  refine List.filterMap_congr fun remark hr => ?_
  cases remark with
  | oddProbability flow text => rfl
  | problem p element =>
    have known : element.all (·.element.base?.isSome) = true := by
      cases element with
      | none => rfl
      | some l => exact h _ hr l rfl
    rw [record?, Diagnostic.record?, if_pos known]
    rfl

theorem filter_run_flatMap {α : Type} {items : List α} {told : α → List LogRecord}
    {found : α → List Diagnostic}
    (each : ∀ a ∈ items, (told a).filter (·.source == .run) = (found a).map Diagnostic.record) :
    (items.flatMap told).filter (·.source == .run) =
      (items.flatMap found).map Diagnostic.record := by
  rw [List.filter_flatMap, List.map_flatMap]
  exact congrArg List.flatten (List.map_congr_left each)

theorem Remark.filter_rules_records (remarks : List Remark) :
    (remarks.filterMap record?).filter (·.source == .rules) = remarks.filterMap oddity? := by
  rw [List.filter_filterMap]
  refine List.filterMap_congr fun remark _ => ?_
  cases remark with
  | oddProbability flow text => rfl
  | problem p element =>
    rw [record?, Diagnostic.record?]
    split <;> rfl

/-! ## Odd probabilities -/

/-- The outgoing ids of a gateway that may have probabilities: one that is not parallel. -/
def FlowElement.choices (e : FlowElement) : List String :=
  if e.kind.isGateway && e.kind != .parallelGateway then (e.node?.map (·.outgoing)).getD [] else []

/-- The record of a flow whose first probability is no number. -/
def Placed.oddity? (flow : Placed) : Option LogRecord :=
  ((flow.element.base.blocks.findSome? (·.get? "probability")).filter fun text =>
    (Decimal.readNumber text).isNone).map (oddProbabilityRecord flow)

/-- The records of such flows among those that outgoing ids lead to. -/
def Surroundings.oddities (surroundings : Surroundings) (outgoing : List String) :
    List LogRecord := (surroundings.branches outgoing).filterMap Placed.oddity?

/-- The records of odd probabilities at a visit. -/
def Visit.oddities (v : Visit) : List LogRecord :=
  (Surroundings.owner v.owner).oddities v.placed.element.choices

theorem Branch.oddities_along (flow : Placed) (reading : Option (Option String)) :
    (along flow reading).remarks.filterMap Remark.oddity? =
      ((reading.join.filter fun text => (Decimal.readNumber text).isNone).map
        (oddProbabilityRecord flow)).toList := by
  match reading with
  | none => rfl
  | some none => rfl
  | some (some text) =>
    cases number : Decimal.readNumber text <;>
      simp [along, number, remarks, Remark.oddity?, Option.filter]

theorem Branch.oddities_ofId (settings : Settings) (adHoc : Bool) (surroundings : Surroundings)
    (id : String) :
    (ofId (.inside settings adHoc surroundings) id).remarks.filterMap Remark.oddity? =
      (if settings.strictSimulation then (surroundings.namedFlow? id).bind (·.oddity?)
        else none).toList := by
  rw [ofId_eq]
  show ((surroundings.flow? id).elim silent fun flow => along flow
    (readProbability settings.strictSimulation flow.element.base.blocks)).remarks.filterMap _ = _
  rw [Surroundings.flow?_eq_namedFlow?]
  cases surroundings.namedFlow? id with
  | none => cases settings.strictSimulation <;> rfl
  | some flow =>
    rw [Option.elim_some, oddities_along, join_readProbability]
    cases settings.strictSimulation <;> rfl

theorem Located.oddities_remarks (l : Located) (problems : List Problem) :
    (l.remarks problems).filterMap Remark.oddity? = [] := by
  rw [Located.remarks, List.filterMap_map]
  exact List.filterMap_none ..

theorem oddities_probabilityRemarks (settings : Settings) (adHoc : Bool)
    (surroundings : Surroundings) (l : Located) (outgoing : List String) :
    (probabilityRemarks (.inside settings adHoc surroundings) l outgoing).filterMap
        Remark.oddity? =
      if settings.strictSimulation then surroundings.oddities outgoing else [] := by
  unfold probabilityRemarks
  rw [List.filterMap_append, l.oddities_remarks, List.append_nil, List.flatMap_map,
    List.filterMap_flatMap]
  simp only [Branch.oddities_ofId]
  rw [← List.filterMap_eq_flatMap_toList]
  cases settings.strictSimulation with
  | true => exact (List.filterMap_filterMap ..).symm
  | false => exact List.filterMap_none ..

/-! ## Visits -/

/-- A gateway that is not parallel has the rule for probabilities; nothing else has it. -/
theorem FlowElement.choices_eq (e : FlowElement) :
    e.choices =
      if NodeRule.gatewayProbabilities.appliesTo e.kind then (e.node?.map (·.outgoing)).getD []
      else [] := rfl

/-- What the rules for a kind come to is what the rule for probabilities comes to, if no other rule
comes to anything. -/
theorem FlowKind.flatMap_rules {γ : Type} {f : NodeRule → List γ}
    (h : ∀ rule, rule.readsFlows = false → f rule = []) (kind : FlowKind) :
    kind.rules.flatMap f =
      if NodeRule.gatewayProbabilities.appliesTo kind then f .gatewayProbabilities else [] := by
  have others : ∀ rules : List NodeRule, (∀ rule ∈ rules, rule.readsFlows = false) →
      (rules.filter (·.appliesTo kind)).flatMap f = [] := by
    intro rules unread
    refine List.flatMap_eq_nil_iff.mpr fun rule hr => h rule (unread rule ?_)
    exact (List.mem_filter.mp hr).1
  obtain ⟨before, after, all, unreadBefore, unreadAfter⟩ : ∃ before after : List NodeRule,
      NodeRule.all = before ++ .gatewayProbabilities :: after ∧
        (∀ rule ∈ before, rule.readsFlows = false) ∧ ∀ rule ∈ after, rule.readsFlows = false :=
    ⟨NodeRule.all.takeWhile (!·.readsFlows), (NodeRule.all.dropWhile (!·.readsFlows)).tail, rfl,
      by decide, by decide⟩
  unfold rules
  rw [all, List.filter_append, List.flatMap_append, others _ unreadBefore, List.nil_append,
    List.filter_cons]
  split
  · rw [List.flatMap_cons, others _ unreadAfter, List.append_nil]
  · rw [others _ unreadAfter]

theorem Visit.filter_rules_records (settings : Settings) (adHoc : Bool) (v : Visit) :
    (v.records settings adHoc).filter (·.source == .rules) =
      if settings.strictSimulation then v.oddities else [] := by
  have unread : ∀ rule : NodeRule, rule.readsFlows = false →
      ((rule.remarks (.inside settings adHoc (.owner v.owner)) v.placed.located).result).filterMap
        Remark.oddity? = [] := by
    intro rule hr
    unfold NodeRule.remarks
    rw [hr, if_neg Bool.false_ne_true]
    exact v.placed.located.oddities_remarks _
  unfold records Located.records NodeRule.records
  rw [List.filter_flatMap]
  simp only [Remark.filter_rules_records]
  show v.placed.element.kind.rules.flatMap _ = _
  rw [FlowKind.flatMap_rules unread, oddities, FlowElement.choices_eq]
  by_cases applies : NodeRule.gatewayProbabilities.appliesTo v.placed.element.kind = true
  · obtain ⟨gateway, hg⟩ := FlowElement.exists_gateway applies
    have hnode : v.placed.element.node? = some gateway.toFlowNode := Element.node?_of_gateway? hg
    rw [if_pos applies, if_pos applies, NodeRule.remarks_gatewayProbabilities _ hg, hnode]
    exact oddities_probabilityRemarks ..
  · rw [if_neg applies, if_neg applies]
    split <;> rfl

theorem Visit.filter_run_records (settings : Settings) (adHoc : Bool) (v : Visit) :
    (v.records settings adHoc).filter (·.source == .run) =
      (v.findings settings adHoc).map Diagnostic.record := by
  exact filter_run_flatMap fun rule _ =>
    Remark.filter_run_records NodeRule.reportable_of_mem_remarks

/-! ## Processes and documents -/

/-- What may be told in an audit: nothing in the name of validators or of command lines, and only
the rules warn. -/
def LogRecord.OfAudit (record : LogRecord) : Prop :=
  record.source ≠ .validator ∧ record.source ≠ .commandLine ∧
    record.severity = if record.source = .rules then .warning else .debug

theorem Remark.ofAudit_of_record? {remark : Remark} {record : LogRecord}
    (h : remark.record? = some record) : record.OfAudit := by
  obtain ⟨p, element, rfl⟩ | ⟨flow, text, rfl⟩ := record?_eq_some h
  · exact ⟨nofun, nofun, rfl⟩
  · exact ⟨nofun, nofun, rfl⟩

namespace Process

theorem filter_run_records (settings : Settings) (p : Process) (place : Place) :
    (p.records settings place).filter (·.source == .run) =
      (p.findings settings place).map Diagnostic.record := by
  have own : p.ownRecords.filter (·.source == .run) = p.ownFindings.map Diagnostic.record :=
    filter_run_flatMap fun rule _ =>
      Remark.filter_run_records ProcessRule.reportable_of_mem_remarks
  have visited : ((p.owner place).visits.flatMap (·.records settings p.isAdHoc)).filter
      (·.source == .run) = ((p.owner place).findings settings p.isAdHoc).map Diagnostic.record :=
    filter_run_flatMap fun v _ => v.filter_run_records settings p.isAdHoc
  unfold records Owner.records findings
  rw [List.filter_append, List.filter_append, List.filter_append, List.map_append, own, visited]
  simp [Owner.walkRecord, auditRecord]

theorem filter_rules_records (settings : Settings) (p : Process) (place : Place) :
    (p.records settings place).filter (·.source == .rules) =
      if settings.strictSimulation then (p.owner place).visits.flatMap Visit.oddities else [] := by
  have own : p.ownRecords.filter (·.source == .rules) = [] := by
    unfold ownRecords
    rw [List.filter_flatMap]
    refine List.flatMap_eq_nil_iff.mpr fun rule _ => ?_
    rw [Remark.filter_rules_records]
    unfold ProcessRule.remarks Progress.map
    rw [List.filterMap_map]
    exact List.filterMap_none ..
  have visited : ((p.owner place).visits.flatMap (·.records settings p.isAdHoc)).filter
      (·.source == .rules) =
        if settings.strictSimulation then (p.owner place).visits.flatMap Visit.oddities
        else [] := by
    rw [List.filter_flatMap]
    simp only [Visit.filter_rules_records]
    cases settings.strictSimulation with
    | true => rfl
    | false => exact List.flatMap_eq_nil_iff.mpr fun _ _ => rfl
  unfold records Owner.records
  rw [List.filter_append, List.filter_append, List.filter_append, own, visited]
  simp [Owner.walkRecord, auditRecord]

theorem ofAudit_of_mem_records {settings : Settings} {p : Process} {place : Place}
    {record : LogRecord} (h : record ∈ p.records settings place) : record.OfAudit := by
  simp only [records, Owner.records, List.mem_append, List.mem_singleton] at h
  rcases h with (own | visited | rfl) | rfl
  · obtain ⟨rule, -, told⟩ := List.mem_flatMap.mp own
    obtain ⟨remark, -, told⟩ := List.mem_filterMap.mp told
    exact Remark.ofAudit_of_record? told
  · obtain ⟨v, -, told⟩ := List.mem_flatMap.mp visited
    obtain ⟨rule, -, told⟩ := List.mem_flatMap.mp told
    obtain ⟨remark, -, told⟩ := List.mem_filterMap.mp told
    exact Remark.ofAudit_of_record? told
  · simp [LogRecord.OfAudit, Owner.walkRecord]
  · simp [LogRecord.OfAudit, auditRecord]

end Process

namespace Definitions

/-- The records of odd probabilities in a document, process by process. -/
def oddities (d : Definitions) (place : Place) : List LogRecord :=
  (d.owners place).flatMap fun owner => owner.visits.flatMap Visit.oddities

theorem filter_run_records (settings : Settings) (d : Definitions) (place : Place) :
    (d.records settings place).filter (·.source == .run) =
      (d.findings settings place).map Diagnostic.record := by
  refine filter_run_flatMap fun l hl => ?_
  obtain ⟨i, p, -, rfl⟩ := mem_locatedProcesses.mp hl
  exact p.filter_run_records settings (i :: place)

theorem filter_rules_records (settings : Settings) (d : Definitions) (place : Place) :
    (d.records settings place).filter (·.source == .rules) =
      if settings.strictSimulation then d.oddities place else [] := by
  have each : ∀ l ∈ d.locatedProcesses place,
      (l.processRecords settings).filter (·.source == .rules) =
        l.owner?.toList.flatMap fun owner =>
          if settings.strictSimulation then owner.visits.flatMap Visit.oddities else [] := by
    intro l hl
    obtain ⟨i, p, -, rfl⟩ := mem_locatedProcesses.mp hl
    exact (p.filter_rules_records settings (i :: place)).trans (List.flatMap_singleton ..).symm
  unfold records oddities owners
  rw [List.filter_flatMap, List.filterMap_eq_flatMap_toList, List.flatMap_assoc,
    show (d.locatedProcesses place).flatMap _ = _ from
      congrArg List.flatten (List.map_congr_left each)]
  cases settings.strictSimulation with
  | true => rfl
  | false => exact List.flatMap_eq_nil_iff.mpr fun _ _ => List.flatMap_eq_nil_iff.mpr fun _ _ => rfl

theorem ofAudit_of_mem_records {settings : Settings} {d : Definitions} {place : Place}
    {record : LogRecord} (h : record ∈ d.records settings place) : record.OfAudit := by
  obtain ⟨l, hl, h⟩ := List.mem_flatMap.mp h
  obtain ⟨i, p, -, rfl⟩ := mem_locatedProcesses.mp hl
  exact Process.ofAudit_of_mem_records h

end Definitions

/-! ## Batches -/

namespace Settings

/-- The records of a batch of a document are a faithful trace of it. Between the first one and the
last one, which says whether all is well and how many diagnostics there are, the run tells of the
diagnostics, one record each and in order; process by process there are the number of elements that
the walk met and the number that were checked; and in strict runs the rules warn of the outgoing ids
of gateways that are not parallel, each time that one leads to a flow whose first probability is no
number. Nobody else speaks, and only the rules warn. -/
theorem records_answer_traced {settings : Settings} {request : Request} {n : Nat}
    {d : Definitions} (h : request.AsksFor settings n d) :
    ∃ (report : Report) (told : List LogRecord),
      (settings.answer request).outcome = .ok report ∧
      (settings.answer request).records =
        request.firstRecord :: told ++ [request.lastRecord report] ∧
      told.filter (·.source == .run) = report.diagnostics.map Diagnostic.record ∧
      told.filter (·.isCount) =
        d.processes.flatMap (fun p => [(p.owner []).walkRecord, p.auditRecord]) ∧
      told.filter (·.source == .rules) =
        (if settings.strictSimulation then d.oddities [n] else []) ∧
      ∀ record ∈ told, record.OfAudit :=
  ⟨.ofDiagnostics (d.findings settings [n]), d.records settings [n],
    outcome_document h.root h.mode, records_answer_document h, d.filter_run_records settings [n],
    d.filter_isCount_records settings [n], d.filter_rules_records settings [n],
    fun _ hr => Definitions.ofAudit_of_mem_records hr⟩

end Settings

/-- A process with a subprocess, in which a gateway names a flow with an odd probability twice, and
a parallel one names it as well. -/
def Process.wavering : Process where
  id := some "p"
  flowElements :=
    [.subProcess { id := some "s", outgoing := ["f"] }
      [.leaf (.exclusiveGateway { id := some "x", outgoing := ["f", "none", "f"] }),
        .leaf (.parallelGateway { id := some "y", outgoing := ["f"] }),
        .leaf (.sequenceFlow {
          id := some "f", blocks := [.ofList [("probability", "half")]], sourceRef := some "x" })]
      false]

/-- A strict batch of a document with that process. -/
theorem Settings.records_answer_wavering :
    let settings : Settings := { strictSimulation := true }
    let request : Request := {
      root := .plain (.element ⟨[0], .definitions { rootElements := [.process .wavering] }⟩) }
    let records := (settings.answer request).records
    (records.filter (·.source == .rules)).map (·.message) =
        ["Sequence flow f has a non-numeric probability 'half'",
          "Sequence flow f has a non-numeric probability 'half'"] ∧
      (records.filter (·.isCount)).map (·.message) =
        ["Walked container p: 4 elements, depth 2", "Process p: 4 flow elements checked"] ∧
      ∃ report, (settings.answer request).outcome = .ok report ∧
        records.filter (·.source == .run) = report.diagnostics.map Diagnostic.record ∧
        report.total = 12 := by
  intro settings request records
  have asks : request.AsksFor settings 0 { rootElements := [.process .wavering] } := ⟨rfl, rfl⟩
  obtain ⟨report, told, outcome, all, ofRun, counts, odd, -⟩ := Settings.records_answer_traced asks
  have between : ∀ keep : LogRecord → Bool, keep request.firstRecord = false →
      keep (request.lastRecord report) = false → records.filter keep = told.filter keep := by
    intro keep first last
    show (settings.answer request).records.filter keep = _
    rw [all, List.cons_append, List.filter_cons_of_neg (by rw [first]; exact Bool.false_ne_true),
      List.filter_append, List.filter_cons_of_neg (by rw [last]; exact Bool.false_ne_true)]
    exact List.append_nil _
  refine ⟨?_, ?_, report, outcome, ?_, ?_⟩
  · rw [between _ rfl rfl, odd]
    decide
  · rw [between _ rfl rfl, counts]
    decide
  · rw [between _ rfl rfl, ofRun]
  · have found := outcome.symm.trans (Settings.outcome_document asks.root asks.mode)
    rw [Except.ok.inj found]
    decide

end BpmnAudit
