import BpmnAudit.Audit.Validator
import BpmnAudit.Proofs.Rules.Findings
import BpmnAudit.Proofs.Run.Walk

/-!
# What audits find

The findings of an audit as a function of the document and the settings alone: of a process, what
the rules for processes find and then what the visits find (`Run.Sound.auditProcess`); of a
document, the findings of its processes one after the other (`Run.Sound.auditDefinitions`). So
nothing that a run did before has an influence on them. A batch reports the findings
(`Settings.outcome_document`, `Settings.outcome_element`).
-/

namespace BpmnAudit

/-- What a rule finds wrong with a process. -/
def ProcessRule.findings (e : Element) (rule : ProcessRule) : List Diagnostic :=
  (rule.remarks e).result.filterMap Remark.diagnostic?

/-- What is wrong with a process is told of no element. -/
theorem ProcessRule.findings_eq_map (e : Element) (rule : ProcessRule) :
    rule.findings e = (rule.problems e).result.map fun p => ⟨.error, p, none⟩ := by
  unfold findings remarks
  rw [show ((rule.problems e).map (·.map fun p => Remark.problem p none)).result =
    (rule.problems e).result.map (Remark.problem · none) from rfl, List.filterMap_map,
    ← List.filterMap_eq_map]
  rfl

namespace Process

/-- A process as a container. -/
def owner (p : Process) (place : Place) : Owner :=
  ⟨place, some (.root .process), p.id, p.flowElements⟩

/-- Whether a process leaves the order of its nodes open. -/
def isAdHoc (p : Process) : Bool := isAdHocText (p.attributes.get? "adHoc")

/-- What an audit finds wrong with a process as a whole. -/
def ownFindings (p : Process) : List Diagnostic :=
  ProcessRule.all.flatMap (·.findings (.root (.process p)))

/-- What an audit finds wrong with a process: as a whole first, then with what it owns. -/
def findings (settings : Settings) (p : Process) (place : Place) : List Diagnostic :=
  p.ownFindings ++ (p.owner place).findings settings p.isAdHoc

/-- What the rules for processes tell of a process. -/
def ownRecords (p : Process) : List LogRecord :=
  ProcessRule.all.flatMap fun rule =>
    (rule.remarks (.root (.process p))).result.filterMap Remark.record?

/-- The record of the audit of a process. -/
def auditRecord (p : Process) : LogRecord :=
  ⟨.debug, .process,
    "Process " ++ shownId p.id ++ ": " ++ toString (preorder p.flowElements).length ++
      " flow elements checked"⟩

/-- What an audit tells of a process: as a whole, at each visit, and in the end. -/
def records (settings : Settings) (p : Process) (place : Place) : List LogRecord :=
  p.ownRecords ++ (p.owner place).records settings p.isAdHoc ++ [p.auditRecord]

end Process

theorem Process.exists_rule_of_mem_ownFindings {p : Process} {x : Diagnostic}
    (h : x ∈ p.ownFindings) : ∃ rule, x.problem.processRule? = some rule := by
  obtain ⟨rule, -, hx⟩ := List.mem_flatMap.mp h
  rw [ProcessRule.findings_eq_map] at hx
  obtain ⟨problem, hp, rfl⟩ := List.mem_map.mp hx
  exact ⟨rule, ProcessRule.processRule?_of_mem_problems problem hp⟩

theorem Process.element_of_mem_ownFindings {p : Process} {x : Diagnostic}
    (h : x ∈ p.ownFindings) : x.element = none := by
  obtain ⟨rule, -, hx⟩ := List.mem_flatMap.mp h
  rw [ProcessRule.findings_eq_map] at hx
  obtain ⟨problem, -, rfl⟩ := List.mem_map.mp hx
  rfl

/-- What an audit finds wrong with a process where it stands. -/
def Located.processFindings (settings : Settings) (l : Located) : List Diagnostic :=
  match l.element with
  | .root (.process p) => p.findings settings l.place
  | _ => []

/-- What an audit finds wrong with a document, process by process. -/
def Definitions.findings (settings : Settings) (d : Definitions) (place : Place) :
    List Diagnostic :=
  (d.locatedProcesses place).flatMap (·.processFindings settings)

/-- What an audit tells of a process where it stands. -/
def Located.processRecords (settings : Settings) (l : Located) : List LogRecord :=
  match l.element with
  | .root (.process p) => p.records settings l.place
  | _ => []

/-- What an audit tells of a document, process by process. -/
def Definitions.records (settings : Settings) (d : Definitions) (place : Place) :
    List LogRecord :=
  (d.locatedProcesses place).flatMap (·.processRecords settings)

theorem Process.not_stated_of_mem_findings {settings : Settings} {p : Process} {place : Place} :
    ∀ x ∈ p.findings settings place, x.problem.isStated = false := by
  intro x hx
  rcases List.mem_append.mp hx with hx | hx
  · obtain ⟨rule, hr⟩ := exists_rule_of_mem_ownFindings hx
    exact Problem.not_stated_of_processRule? hr
  · obtain ⟨v, -, hx⟩ := List.mem_flatMap.mp hx
    obtain ⟨rule, hr⟩ := v.exists_rule_of_mem_findings hx
    exact Problem.not_stated_of_rule? hr

theorem Definitions.not_stated_of_mem_findings {settings : Settings} {d : Definitions}
    {place : Place} : ∀ x ∈ d.findings settings place, x.problem.isStated = false := by
  intro x hx
  obtain ⟨l, hl, hx⟩ := List.mem_flatMap.mp hx
  obtain ⟨i, p, -, rfl⟩ := Definitions.mem_locatedProcesses.mp hl
  exact Process.not_stated_of_mem_findings x hx

theorem ProcessRule.misfit_remarks (p : Process) (rule : ProcessRule) :
    (rule.remarks (.root (.process p))).misfit = none := by
  cases rule <;> rfl

namespace Run

variable {documents : Documents} {run : Run}

/-! ## Processes -/

theorem Sound.processRules (h : run.Sound documents) (place : Place) (p : Process) :
    ∃ after, Progress.steps (applyProcessRule · ⟨place, .root (.process p)⟩ ·) run ProcessRule.all =
        ⟨after, none⟩ ∧ Adds documents run p.ownFindings p.ownRecords after := by
  have silent : ∀ (run : Run) (rule : ProcessRule),
      (run.applyProcessRule ⟨place, .root (.process p)⟩ rule).misfit = none :=
    fun _ rule => rule.misfit_remarks p
  refine ⟨_, Progress.steps_eq_foldl (P := fun _ => True)
    (fun run _ rule _ => ⟨silent run rule, trivial⟩) trivial, ?_⟩
  unfold Process.ownFindings Process.ownRecords
  generalize ProcessRule.all = rules
  induction rules generalizing run with
  | nil => exact .refl h
  | cons rule rules ih =>
    have first := h.noteAll (rule.remarks (.root (.process p))).result
    exact first.toAdds.trans (ih first.sound)

/-- The run inside a process. -/
def inProcess (run : Run) (place : Place) (p : Process) : Run :=
  { run with process := some ⟨place, .root (.process p)⟩, adHoc := p.isAdHoc }

/-- Auditing a process adds its findings and tells its records, whatever the run did before. -/
theorem Sound.auditProcess (h : run.Sound documents) {place : Place} {p : Process}
    (hp : Located.IsIn documents ⟨place, .root (.process p)⟩) :
    Adds documents run (p.findings run.settings place) (p.records run.settings place)
      (run.auditProcess ⟨place, .root (.process p)⟩).result := by
  obtain ⟨ruled, hruled, adds⟩ := h.processRules place p
  have entered : (ruled.inProcess place p).Sound documents :=
    ⟨adds.sound.container, adds.sound.indexes⟩
  have inside : (p.owner place).IsIn documents := hp.owner rfl
  have walked := entered.walk inside
  have through : Adds documents ruled _ _ _ :=
    ⟨walked.settings, walked.diagnostics, walked.log, walked.sound⟩
  have record : (run.auditProcess ⟨place, .root (.process p)⟩).result =
      ((ruled.inProcess place p).walk (p.owner place)).2.tell p.auditRecord := by
    have count : ((ruled.inProcess place p).walk (p.owner place)).1 =
        (preorder p.flowElements).length := by
      rw [walk_eq, Owner.length_visits]
      rfl
    rw [Process.auditRecord, ← count]
    unfold Run.auditProcess
    rw [hruled]
    rfl
  rw [record, Process.findings, Process.records, ← adds.settings]
  exact (adds.trans through).tell p.auditRecord

/-! ## Documents -/

/-- Auditing a document adds the findings of its processes one after the other, and tells their
records. -/
theorem Sound.auditDefinitions (h : run.Sound documents) {place : Place} {d : Definitions}
    (hd : documents.at? place = some (.definitions d)) :
    Adds documents run (d.findings run.settings place) (d.records run.settings place)
      (run.auditDefinitions place d) := by
  have key : ∀ (ls : List Located) {run : Run}, run.Sound documents →
      (∀ l ∈ ls, l ∈ d.locatedProcesses place) →
      Adds documents run (ls.flatMap (·.processFindings run.settings))
        (ls.flatMap (·.processRecords run.settings))
        (ls.foldl (fun run process => (run.auditProcess process).result) run) := by
    intro ls
    induction ls with
    | nil => exact fun h _ => .refl h
    | cons l ls ih =>
      intro run h hls
      have hl := hls l List.mem_cons_self
      have hin := Definitions.isIn_of_mem_locatedProcesses hd hl
      obtain ⟨i, p, -, rfl⟩ := Definitions.mem_locatedProcesses.mp hl
      have first := h.auditProcess hin
      have rest := ih first.sound fun l hl => hls l (List.mem_cons_of_mem _ hl)
      rw [first.settings] at rest
      exact first.trans rest
  exact key _ h fun _ hl => hl

end Run

/-! ## Batches -/

theorem Subject.isNothing_eq_false {subject : Subject} {l : Located}
    (h : subject.content = .element l) : subject.isNothing = false := by
  cases subject with
  | plain content =>
    obtain rfl : content = .element l := h
    rfl
  | diagram content => rfl

/-- A request asks for a batch of a document. -/
structure Request.AsksFor (request : Request) (settings : Settings) (n : Nat) (d : Definitions) :
    Prop where
  root : request.root.content = .element ⟨[n], .definitions d⟩
  mode : request.mode? settings = some .batch

/-- The record that a batch begins with. -/
def Request.firstRecord (request : Request) : LogRecord :=
  ⟨.debug, .validator,
    "Batch: validating " ++ request.root.label ++ " " ++ shownId request.root.id⟩

/-- The record that a batch ends with, if it has a report. -/
def Request.lastRecord (request : Request) (report : Report) : LogRecord :=
  ⟨.info, .validator,
    "Validated " ++ request.root.label ++ ": ok=" ++ shownBool report.ok ++ ", diagnostics=" ++
      toString report.total⟩

/-- Of a document, an audit goes through its processes. -/
theorem Run.audit_eq_auditDefinitions {request : Request} {place : Place} {d : Definitions}
    (run : Run) (hroot : request.root.content = .element ⟨place, .definitions d⟩) :
    run.audit request = ⟨run.auditDefinitions place d, none⟩ := by
  unfold audit
  rw [hroot]

/-- Of a flow element with an owner, an audit walks through the owner, in no process. -/
theorem Run.audit_eq_walk {request : Request} {l : Located} {owner : Owner} (run : Run)
    (hroot : request.root.content = .element l) (hl : l.element.isFlowElement = true)
    (ho : request.owner l = .ok (some owner)) :
    run.audit request = ⟨((run.enterProcess none).result.walk owner).2, none⟩ := by
  unfold audit
  rw [hroot]
  obtain ⟨place, e⟩ := l
  cases e <;> simp_all [Element.isFlowElement]

namespace Settings

/-- The same settings, with simulation data to be read or not. -/
def withStrict (settings : Settings) (strict : Bool) : Settings :=
  { settings with strictSimulation := strict }

variable {settings : Settings} {request : Request}

/-- The run that a batch starts with. -/
def started (settings : Settings) (request : Request) : Run :=
  Run.validatorTells { settings } .debug
    ("Batch: validating " ++ request.root.label ++ " " ++ shownId request.root.id)

theorem sound_started (settings : Settings) (request : Request) (documents : Documents) :
    (settings.started request).Sound documents :=
  ⟨nofun, nofun⟩

/-- What the audit of a document adds to the run that its batch starts with. -/
theorem adds_auditDefinitions (settings : Settings) (request : Request) (n : Nat)
    (d : Definitions) :
    Run.Adds (fun _ => some (.definitions d)) (settings.started request) (d.findings settings [n])
      (d.records settings [n]) ((settings.started request).auditDefinitions [n] d) :=
  (sound_started settings request _).auditDefinitions rfl

theorem answer_eq_answerBatch (root : request.root.isNothing = false)
    (mode : request.mode? settings = some .batch) :
    settings.answer request = settings.answerBatch request := by
  unfold answer
  rw [root, if_neg Bool.false_ne_true, mode]

/-- A batch whose audit is not stopped reports what the audit found, measures how much that is, and
ends with a record of its own. -/
theorem answerBatch_of_audit {after : Run}
    (haudit : (settings.started request).audit request = ⟨after, none⟩) :
    settings.answerBatch request = {
      outcome := .ok (.ofDiagnostics after.diagnostics.toList)
      reported := after.reported.toList
      emissions :=
        after.log.toList.map .record ++ settings.measures [.elapsed validationTimer] ++
          settings.measures
            [.measured "validation_diagnostics_total"
              (.number (.whole (Report.ofDiagnostics after.diagnostics.toList).total))
              [("root_type", .text request.root.label)]] ++
          [.record (request.lastRecord (.ofDiagnostics after.diagnostics.toList))] } := by
  rw [started] at haudit
  unfold answerBatch
  dsimp only
  rw [haudit]
  rfl

/-- A batch whose audit a misfit stops has no report, yet its time is taken. -/
theorem answerBatch_of_misfit {after : Run} {misfit : Misfit}
    (haudit : (settings.started request).audit request = ⟨after, some misfit⟩) :
    settings.answerBatch request = {
      outcome := .error (.misfit misfit)
      reported := after.reported.toList
      emissions :=
        after.log.toList.map .record ++ settings.measures [.elapsed validationTimer] } := by
  rw [started] at haudit
  unfold answerBatch
  dsimp only
  rw [haudit]

/-- A batch that no misfit ends reports what its audit found. -/
theorem outcome_eq_ok {l : Located} {after : Run} (hroot : request.root.content = .element l)
    (hmode : request.mode? settings = some .batch)
    (haudit : (settings.started request).audit request = ⟨after, none⟩) :
    (settings.answer request).outcome = .ok (Report.ofDiagnostics after.diagnostics.toList) := by
  rw [answer_eq_answerBatch (Subject.isNothing_eq_false hroot) hmode, answerBatch_of_audit haudit]

/-- A batch of a document reports its findings. -/
theorem outcome_document {n : Nat} {d : Definitions}
    (hroot : request.root.content = .element ⟨[n], .definitions d⟩)
    (hmode : request.mode? settings = some .batch) :
    (settings.answer request).outcome = .ok (Report.ofDiagnostics (d.findings settings [n])) := by
  rw [outcome_eq_ok hroot hmode (Run.audit_eq_auditDefinitions _ hroot),
    (adds_auditDefinitions settings request n d).diagnostics]
  rfl

/-- A batch of a flow element reports the findings in its owner, to which no process gives leave
to be ad hoc. -/
theorem outcome_element {documents : Documents} {l : Located} {owner : Owner}
    (hroot : request.root.content = .element l) (hl : l.element.isFlowElement = true)
    (hmode : request.mode? settings = some .batch) (ho : request.owner l = .ok (some owner))
    (hin : owner.IsIn documents) :
    (settings.answer request).outcome =
      .ok (Report.ofDiagnostics (owner.findings settings false)) := by
  have walked := (sound_started settings request documents).walk hin
  rw [outcome_eq_ok hroot hmode (Run.audit_eq_walk _ hroot hl ho)]
  exact congrArg (fun ds => Except.ok (Report.ofDiagnostics ds)) walked.diagnostics

end Settings

end BpmnAudit
