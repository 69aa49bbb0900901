import BpmnAudit.Proofs.Run.Independence

/-!
# What runs tell

Who speaks in the records of a run, and which of them tell numbers: the walk through a process and
its audit, each in one record (`Definitions.filter_isCount_records`). A batch hands on what its
audit tells between a first and a last record of its own (`Settings.records_answer_document`,
`Settings.records_answer_element`).
-/

namespace BpmnAudit

/-! ## Who speaks -/

/-- What a remark is told in: the record of a problem, or that of a probability that is none. -/
theorem Remark.record?_eq_some {remark : Remark} {record : LogRecord}
    (h : remark.record? = some record) :
    (∃ p element, record = Diagnostic.record ⟨.error, p, element⟩) ∨
      ∃ flow text, record = oddProbabilityRecord flow text := by
  cases remark with
  | problem p element =>
    obtain ⟨-, h⟩ := Option.ite_none_right_eq_some.mp h
    exact .inl ⟨p, element, (Option.some.inj h).symm⟩
  | oddProbability flow text => exact .inr ⟨flow, text, (Option.some.inj h).symm⟩

/-- Remarks are told of by rules and runs, never by walks. -/
theorem Remark.source_of_record? {remark : Remark} {record : LogRecord}
    (h : remark.record? = some record) : record.source = .run ∨ record.source = .rules := by
  obtain ⟨p, element, rfl⟩ | ⟨flow, text, rfl⟩ := record?_eq_some h
  · exact .inl rfl
  · exact .inr rfl

theorem Visit.source_of_mem_records {settings : Settings} {adHoc : Bool} {v : Visit}
    {record : LogRecord} (h : record ∈ v.records settings adHoc) :
    record.source = .run ∨ record.source = .rules := by
  obtain ⟨rule, -, hr⟩ := List.mem_flatMap.mp h
  obtain ⟨remark, -, hremark⟩ := List.mem_filterMap.mp hr
  exact Remark.source_of_record? hremark

/-! ## Records of numbers -/

/-- A record tells a number of flow elements: that of a walk, or that of the audit of a process. -/
def LogRecord.isCount (record : LogRecord) : Bool :=
  record.source == .walk || record.source == .process

theorem Remark.filter_isCount (remarks : List Remark) :
    (remarks.filterMap Remark.record?).filter (·.isCount) = [] := by
  refine List.filter_eq_nil_iff.mpr fun record h => ?_
  obtain ⟨remark, -, hremark⟩ := List.mem_filterMap.mp h
  rcases source_of_record? hremark with h | h <;> simp [LogRecord.isCount, h]

theorem Visit.filter_isCount_records (settings : Settings) (adHoc : Bool) (v : Visit) :
    (v.records settings adHoc).filter (·.isCount) = [] := by
  unfold records Located.records
  rw [List.filter_flatMap]
  exact List.flatMap_eq_nil_iff.mpr fun rule _ => Remark.filter_isCount _

theorem Process.filter_isCount_ownRecords (p : Process) :
    p.ownRecords.filter (·.isCount) = [] := by
  unfold ownRecords
  rw [List.filter_flatMap]
  exact List.flatMap_eq_nil_iff.mpr fun rule _ => Remark.filter_isCount _

/-- The walk through a process counts, and so does its audit. -/
theorem Process.filter_isCount_records (settings : Settings) (p : Process) (place : Place) :
    (p.records settings place).filter (·.isCount) = [(p.owner []).walkRecord, p.auditRecord] := by
  have visits : ((p.owner place).visits.flatMap (·.records settings p.isAdHoc)).filter
      (·.isCount) = [] := by
    rw [List.filter_flatMap]
    exact List.flatMap_eq_nil_iff.mpr fun v _ => v.filter_isCount_records settings p.isAdHoc
  unfold records Owner.records
  rw [List.filter_append, List.filter_append, List.filter_append, filter_isCount_ownRecords,
    visits]
  rfl

/-- The numbers that an audit of a document tells, process by process. -/
theorem Definitions.filter_isCount_records (settings : Settings) (d : Definitions)
    (place : Place) :
    (d.records settings place).filter (·.isCount) =
      d.processes.flatMap fun p => [(p.owner []).walkRecord, p.auditRecord] := by
  rw [records, List.filter_flatMap, ← List.forall₂_eq_eq_eq]
  refine List.rel_flatMap (d.locatedProcesses_processes place) ?_
  rintro l p ⟨i, rfl⟩
  rw [List.forall₂_eq_eq_eq]
  exact p.filter_isCount_records settings (i :: place)

/-! ## Batches -/

/-- The record, of emissions that are one. -/
def Emission.record? : Emission → Option LogRecord
  | record r => some r
  | elapsed _ | measured .. => none

def Answer.records (answer : Answer) : List LogRecord :=
  answer.emissions.filterMap Emission.record?

namespace Settings

variable {settings : Settings} {request : Request}

/-- A batch that no misfit ends hands on the records of its run, and one more. -/
theorem records_answer {l : Located} {after : Run} (hroot : request.root.content = .element l)
    (hmode : request.mode? settings = some .batch)
    (haudit : (settings.started request).audit request = ⟨after, none⟩) :
    (settings.answer request).records =
      after.log.toList ++
        [request.lastRecord (Report.ofDiagnostics after.diagnostics.toList)] := by
  have measured : ∀ name amount attributes,
      (settings.measures [.measured name amount attributes]).filterMap Emission.record? = [] := by
    intro name amount attributes
    unfold measures
    split <;> rfl
  have elapsed :
      (settings.measures [.elapsed validationTimer]).filterMap Emission.record? = [] := by
    unfold measures
    split <;> rfl
  have told : (after.log.toList.map Emission.record).filterMap Emission.record? =
      after.log.toList := by
    rw [List.filterMap_map]
    exact List.filterMap_some
  rw [answer_eq_answerBatch (Subject.isNothing_eq_false hroot) hmode, answerBatch_of_audit haudit]
  unfold Answer.records
  simp only [List.filterMap_append, measured, elapsed, told, List.append_nil]
  rfl

/-- The records of a batch of a document: those of its audit, between two others. -/
theorem records_answer_document {n : Nat} {d : Definitions} (h : request.AsksFor settings n d) :
    (settings.answer request).records =
      request.firstRecord :: d.records settings [n] ++
        [request.lastRecord (Report.ofDiagnostics (d.findings settings [n]))] := by
  have adds := adds_auditDefinitions settings request n d
  rw [records_answer h.root h.mode (Run.audit_eq_auditDefinitions _ h.root), adds.diagnostics,
    adds.log]
  rfl

theorem filter_isCount_records_answer {n : Nat} {d : Definitions}
    (h : request.AsksFor settings n d) :
    (settings.answer request).records.filter (·.isCount) =
      d.processes.flatMap fun p => [(p.owner []).walkRecord, p.auditRecord] := by
  rw [records_answer_document h, List.filter_append, List.filter_cons,
    d.filter_isCount_records settings [n]]
  exact List.append_nil _

/-- The records of a batch of a flow element with an owner: those of the walk through the owner,
between two others. -/
theorem records_answer_element {documents : Documents} {l : Located} {owner : Owner}
    (hroot : request.root.content = .element l) (hl : l.element.isFlowElement = true)
    (hmode : request.mode? settings = some .batch) (ho : request.owner l = .ok (some owner))
    (hin : owner.IsIn documents) :
    (settings.answer request).records =
      request.firstRecord :: owner.records settings false ++
        [request.lastRecord (Report.ofDiagnostics (owner.findings settings false))] := by
  have walked := (sound_started settings request documents).walk hin
  rw [records_answer hroot hmode (Run.audit_eq_walk _ hroot hl ho),
    show ((settings.started request).enterProcess none).result = settings.started request from rfl,
    walked.diagnostics, walked.log]
  rfl

end Settings

end BpmnAudit
