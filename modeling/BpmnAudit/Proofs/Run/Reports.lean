import BpmnAudit.Proofs.Run.Steps

/-!
# What is reported to the host

A run reports the elements of its diagnostics, each once and in order (`Run.Reports`): a diagnostic
is recorded and reported in one step, and no other step does either (`Run.auditsKeep_reports`). A
request that is refused was refused before anything was found (`Run.audit_of_misfit`). So of
requests to one validator, one after the other, each has the answer that it has alone, and the host
is told of the elements of all the diagnostics, answer by answer
(`Validator.validateAll_independent`).
-/

namespace BpmnAudit

/-! ## Runs -/

namespace Run

/-- A run has reported the elements of its diagnostics, each once and in order. -/
def Reports (run : Run) : Prop :=
  run.reported.toList = run.diagnostics.toList.filterMap (·.element)

variable {run : Run}

theorem Reports.add (h : run.Reports) {d : Diagnostic} (hd : Tellable d.element) :
    (run.add d).result.Reports := by
  unfold Reports at h ⊢
  unfold Run.add
  dsimp only
  split
  · next hn => simp [tell, h, hn]
  · next l hl =>
    split
    · next hb =>
      have known := hd l hl
      rw [hb] at known
      cases known
    · simp [tell, h, hl]

/-- Audits report what they record, step by step. -/
theorem auditsKeep_reports : AuditsKeep Reports where
  tell h _ := h
  add h _ hd := h.add hd
  keepIndex {run} h := by
    unfold Run.keepIndex
    split
    · exact h
    · split <;> exact h
  enterContainer h _ := h
  enterProcess {run} h process _ := by
    unfold Run.enterProcess
    split
    · exact h
    · split <;> exact h

/-! ## Requests -/

theorem Reports.audit (h : run.Reports) (request : Request) :
    (run.audit request).result.Reports := by
  unfold Run.audit
  split
  · exact auditsKeep_reports.auditDefinitions h _ _
  · split
    · split
      · exact h
      · exact auditsKeep_reports.walk (auditsKeep_reports.enterProcess h Tellable.none) _
      · exact h
    · exact h
  · exact h

/-- An audit that a misfit stops was stopped before it did anything. -/
theorem audit_of_misfit {request : Request} {misfit : Misfit}
    (h : (run.audit request).misfit = some misfit) : (run.audit request).result = run := by
  unfold Run.audit at h ⊢
  split at h
  · cases h
  · next l _ =>
    split at h
    · next hl =>
      rw [if_pos hl]
      split at h <;> first | rfl | cases h
    · cases h
  · cases h

end Run

/-- The diagnostics that an answer reports; a refusal reports none. -/
def Answer.diagnostics (answer : Answer) : List Diagnostic :=
  match answer.outcome with
  | .ok report => report.diagnostics
  | .error _ => []

namespace Settings

/-- The host is told of the elements of the diagnostics that a batch reports, and of no others. -/
theorem reported_answerBatch (settings : Settings) (request : Request) :
    (settings.answerBatch request).reported =
      (settings.answerBatch request).diagnostics.filterMap (·.element) := by
  have begun : (settings.started request).Reports := rfl
  have reports := begun.audit request
  cases audited : (settings.started request).audit request with
  | mk run misfit =>
    cases misfit with
    | none =>
      rw [audited] at reports
      rw [answerBatch_of_audit audited]
      exact reports
    | some misfit =>
      obtain rfl : run = settings.started request := by
        have stopped := Run.audit_of_misfit (congrArg Progress.misfit audited)
        rwa [audited] at stopped
      rw [answerBatch_of_misfit audited]
      rfl

theorem reported_answer (settings : Settings) (request : Request) :
    (settings.answer request).reported =
      (settings.answer request).diagnostics.filterMap (·.element) := by
  unfold answer
  split
  · rfl
  · split
    · rfl
    · rfl
    · exact settings.reported_answerBatch request

theorem diagnostics_answer_live {settings : Settings} {request : Request}
    (h : request.mode? settings = some .live) : (settings.answer request).diagnostics = [] := by
  unfold answer
  rw [h]
  split <;> rfl

end Settings

/-! ## Validators -/

namespace Validator

/-- Answers requests one after the other; all of them report to the same host. -/
def validateAll (validator : Validator) : List Request → List Answer × Validator
  | [] => ([], validator)
  | request :: requests =>
    let (answer, after) := validator.validate request
    let (answers, last) := after.validateAll requests
    (answer :: answers, last)

theorem reported_validateAll (validator : Validator) (requests : List Request) :
    (validator.validateAll requests).2.reported.toList =
      validator.reported.toList ++ (validator.validateAll requests).1.flatMap (·.reported) := by
  induction requests generalizing validator with
  | nil => exact (List.append_nil _).symm
  | cons request requests ih =>
    have rest := ih (validator.validate request).2
    show ((validator.validate request).2.validateAll requests).2.reported.toList = _
    rw [rest]
    simp [validateAll, validate]

theorem answers_validateAll (validator : Validator) (requests : List Request) :
    (validator.validateAll requests).1 =
      requests.map fun request =>
        (Validator.validate { settings := validator.settings } request).1 := by
  induction requests generalizing validator with
  | nil => rfl
  | cons request requests ih => exact congrArg (_ :: ·) (ih (validator.validate request).2)

/-- Requests to one validator are answered as each of them is alone, and the host is told of the
elements of all the diagnostics, answer by answer. It is told nothing for requests that are live
and for those that are refused. -/
theorem validateAll_independent (validator : Validator) (requests : List Request) :
    (validator.validateAll requests).1 =
        requests.map (fun request =>
          (Validator.validate { settings := validator.settings } request).1) ∧
      (validator.validateAll requests).2.reported.toList =
        validator.reported.toList ++
          (validator.validateAll requests).1.flatMap (·.diagnostics.filterMap (·.element)) ∧
      ∀ request ∈ requests,
        (request.mode? validator.settings = some .live ∨
          ∃ refusal, (validator.validate request).1.outcome = .error refusal) →
        (validator.validate request).1.reported = [] := by
  have reported : ∀ request, (validator.validate request).1.reported =
      (validator.validate request).1.diagnostics.filterMap (·.element) :=
    validator.settings.reported_answer
  refine ⟨validator.answers_validateAll requests, ?_, fun request _ h => ?_⟩
  · rw [reported_validateAll, answers_validateAll, List.flatMap_map, List.flatMap_map]
    congr 1
    exact congrArg List.flatten (List.map_congr_left fun request _ => reported request)
  · rw [reported]
    rcases h with live | ⟨refusal, refused⟩
    · have none' : (validator.validate request).1.diagnostics = [] :=
        Settings.diagnostics_answer_live live
      rw [none', List.filterMap_nil]
    · unfold Answer.diagnostics
      rw [refused, List.filterMap_nil]

/-- A batch of a document, a live request, one for nothing and one in a mode that there is not. -/
theorem validateAll_mixed :
    let root : Subject := .plain (.element ⟨[0], .definitions {
      rootElements := [.process { flowElements := [.leaf (.task {})] }] }⟩)
    let live : Request := { root, mode := .text "live" }
    let nothing : Request := { root := .plain .nothing }
    let requests : List Request := [{ root }, live, nothing, { root, mode := .text "slow" }]
    (validateAll {} requests).1 = requests.map (fun request => (validate {} request).1) ∧
      (validateAll {} requests).2.reported.toList =
        (validateAll {} requests).1.flatMap (·.diagnostics.filterMap (·.element)) ∧
      (validate {} live).1.reported = [] ∧ (validate {} nothing).1.reported = [] := by
  intro root live nothing requests
  obtain ⟨answers, reported, silent⟩ := validateAll_independent {} requests
  refine ⟨answers, reported, silent live ?_ (Or.inl rfl), silent nothing ?_ (Or.inr ⟨_, rfl⟩)⟩
  · exact List.mem_cons_of_mem _ List.mem_cons_self
  · exact List.mem_cons_of_mem _ (List.mem_cons_of_mem _ List.mem_cons_self)

end Validator

end BpmnAudit
