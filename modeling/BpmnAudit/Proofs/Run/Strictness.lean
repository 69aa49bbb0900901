import BpmnAudit.Proofs.Run.Audit

/-!
# Strict and lenient runs

A strict run reads simulation data, a lenient one only sees that there are some. What they find
with a document is the same but for problems that data have once they are read, which only the
strict run finds, and problems that data are bound to have while they are not read, which the
lenient run finds throughout (`Settings.outcome_document_strict`).

The relation of the two is `DiffersIn`, shown rule by rule. It goes over to visits, containers,
processes and documents, since lists that are put together differ where their parts do.
-/

namespace BpmnAudit

/-! ## Lists that differ in items of two sorts -/

/-- Two lists are the same but for items of one sort in the first and items of another sort in the
second. -/
inductive DiffersIn {α : Type} (P Q : α → Prop) : List α → List α → Prop
  | nil : DiffersIn P Q [] []
  | both {a : α} {as bs : List α} (ha : ¬ P a) (h : DiffersIn P Q as bs) :
    DiffersIn P Q (a :: as) (a :: bs)
  | first {a : α} {as bs : List α} (ha : P a) (h : DiffersIn P Q as bs) :
    DiffersIn P Q (a :: as) bs
  | second {b : α} {as bs : List α} (hp : ¬ P b) (hb : Q b) (h : DiffersIn P Q as bs) :
    DiffersIn P Q as (b :: bs)

namespace DiffersIn

variable {α β : Type} {P Q : α → Prop} {as bs as' bs' : List α}

theorem refl (h : ∀ a ∈ as, ¬ P a) : DiffersIn P Q as as := by
  induction as with
  | nil => exact .nil
  | cons a as ih =>
    obtain ⟨ha, hs⟩ := List.forall_mem_cons.mp h
    exact .both ha (ih hs)

theorem append (h : DiffersIn P Q as bs) (h' : DiffersIn P Q as' bs') :
    DiffersIn P Q (as ++ as') (bs ++ bs') := by
  induction h with
  | nil => exact h'
  | both ha _ ih => exact .both ha ih
  | first ha _ ih => exact .first ha ih
  | second hp hb _ ih => exact .second hp hb ih

theorem map (f : β → α) {xs ys : List β} (h : DiffersIn (P ∘ f) (Q ∘ f) xs ys) :
    DiffersIn P Q (xs.map f) (ys.map f) := by
  induction h with
  | nil => exact .nil
  | both ha _ ih => exact .both ha ih
  | first ha _ ih => exact .first ha ih
  | second hp hb _ ih => exact .second hp hb ih

theorem flatMap {f g : β → List α} {items : List β}
    (h : ∀ b ∈ items, DiffersIn P Q (f b) (g b)) :
    DiffersIn P Q (items.flatMap f) (items.flatMap g) := by
  induction items with
  | nil => exact .nil
  | cons b items ih =>
    obtain ⟨hb, hs⟩ := List.forall_mem_cons.mp h
    rw [List.flatMap_cons, List.flatMap_cons]
    exact hb.append (ih hs)

theorem filter_sublist [DecidablePred P] (h : DiffersIn P Q as bs) :
    (as.filter (¬ P ·)).Sublist bs := by
  induction h with
  | nil => exact .slnil
  | both ha _ ih => simpa [ha] using ih
  | first ha _ ih => simpa [ha] using ih
  | second _ _ _ ih => exact ih.cons _

theorem filter_eq [DecidablePred P] [DecidablePred Q] (h : DiffersIn P Q as bs) :
    bs.filter (¬ Q ·) = (as.filter (¬ P ·)).filter (¬ Q ·) := by
  induction h with
  | nil => rfl
  | @both a as bs ha _ ih =>
    by_cases hq : Q a <;> simpa [ha, hq] using ih
  | first ha _ ih => simpa [ha] using ih
  | second _ hb _ ih => simpa [hb] using ih

theorem not_of_mem (h : DiffersIn P Q as bs) : ∀ b ∈ bs, ¬ P b := by
  induction h with
  | nil => exact fun _ hb => absurd hb List.not_mem_nil
  | both ha _ ih => exact List.forall_mem_cons.mpr ⟨ha, ih⟩
  | first _ _ ih => exact ih
  | second hp _ _ ih => exact List.forall_mem_cons.mpr ⟨hp, ih⟩

end DiffersIn

/-! ## Problems of simulation data -/

namespace Problem

/-- What simulation data can have wrong with them once they are read. -/
def ofDataRead : List Problem := [noRange, noStandardDeviation, probabilitySum]

/-- What simulation data are bound to have wrong with them while they are not read. -/
def ofDataUnread : List Problem :=
  [noStaffAvailability, noDistributionType, noDuration, noTimeUnits]

/-- Only tasks and gateways have problems with data that are read. -/
theorem rule?_of_mem_ofDataRead {p : Problem} (h : p ∈ ofDataRead) :
    p.rule? = some .taskSimulation ∨ p.rule? = some .gatewayProbabilities := by
  simp only [ofDataRead, List.mem_cons, List.not_mem_nil, or_false] at h
  rcases h with rfl | rfl | rfl
  · exact Or.inl rfl
  · exact Or.inl rfl
  · exact Or.inr rfl

end Problem

/-- What a strict and a lenient run find, as far as problems go. -/
abbrev ProblemsDiffer : List Problem → List Problem → Prop :=
  DiffersIn (· ∈ Problem.ofDataRead) (· ∈ Problem.ofDataUnread)

/-- What a strict and a lenient run find. -/
abbrev FindingsDiffer : List Diagnostic → List Diagnostic → Prop :=
  DiffersIn (·.problem ∈ Problem.ofDataRead) (·.problem ∈ Problem.ofDataUnread)

/-- A problem that a lenient run finds throughout and a strict run at times. -/
theorem Problem.differ_when_true {p : Problem} (hp : p ∉ ofDataRead) (hu : p ∈ ofDataUnread)
    (condition : Bool) : ProblemsDiffer (p.when condition) (p.when true) := by
  cases condition with
  | true => exact .both hp .nil
  | false => exact .second hp hu .nil

/-- A problem that only a strict run finds, at times. -/
theorem Problem.differ_when_false {p : Problem} (hp : p ∈ ofDataRead) (condition : Bool) :
    ProblemsDiffer (p.when condition) (p.when false) := by
  cases condition with
  | true => exact .first hp .nil
  | false => exact .nil

theorem ProblemsDiffer.findings (element : Option Located) {ps qs : List Problem}
    (h : ProblemsDiffer ps qs) :
    FindingsDiffer (ps.map fun p => ⟨.error, p, element⟩) (qs.map fun p => ⟨.error, p, element⟩) :=
  DiffersIn.map _ h

/-! ## Rules -/

theorem userTaskDataProblems_differ (base : BaseElement) :
    ProblemsDiffer (userTaskDataProblems true base) (userTaskDataProblems false base) := by
  unfold userTaskDataProblems
  split
  · exact .nil
  · exact Problem.differ_when_true (by decide) (by decide) _

theorem taskDataProblems_differ (base : BaseElement) :
    ProblemsDiffer (taskDataProblems true base) (taskDataProblems false base) := by
  unfold taskDataProblems
  split
  · exact .nil
  · exact ((((Problem.differ_when_true (by decide) (by decide) _).append
      (Problem.differ_when_true (by decide) (by decide) _)).append
      (Problem.differ_when_true (by decide) (by decide) _)).append
      (Problem.differ_when_false (by decide) _)).append
      (Problem.differ_when_false (by decide) _)

theorem Element.judge_differ {α : Type} {e : Element} {field : String} {value : Option α}
    {problems problems' : α → List Problem}
    (h : ∀ a, ProblemsDiffer (problems a) (problems' a)) :
    ProblemsDiffer (e.judge field value problems).result
      (e.judge field value problems').result := by
  cases value with
  | none => exact .nil
  | some a => exact h a

namespace NodeRule

theorem problems_differ (adHoc : Bool) (e : Element) (rule : NodeRule) :
    ProblemsDiffer (rule.problems true adHoc e).result (rule.problems false adHoc e).result := by
  have unmoved : rule ≠ taskSimulation → rule ≠ gatewayProbabilities →
      ProblemsDiffer (rule.problems true adHoc e).result (rule.problems true adHoc e).result := by
    intro ht hg
    refine .refl fun p hp hread => ?_
    have own := rule?_of_mem_problems p hp
    rcases Problem.rule?_of_mem_ofDataRead hread with h | h
    · exact ht (Option.some.inj (own.symm.trans h))
    · exact hg (Option.some.inj (own.symm.trans h))
  cases rule with
  | userTaskSimulation => exact Element.judge_differ userTaskDataProblems_differ
  | taskSimulation => exact Element.judge_differ taskDataProblems_differ
  | gatewayProbabilities => exact Element.judge_differ fun _ => .nil
  | _ => exact unmoved nofun nofun

end NodeRule

theorem Located.branchFindings_differ {scope scope' : Scope} (hf : scope.flow? = scope'.flow?)
    (hs : scope'.strict = false) (l : Located) :
    FindingsDiffer (l.branchFindings scope) (l.branchFindings scope') := by
  unfold branchFindings
  generalize (l.element.node?.map (·.outgoing)).getD [] = outgoing
  have unread : (outgoing.map (Branch.ofId scope')).filterMap Branch.probability? = [] := by
    rw [List.filterMap_map, List.filterMap_eq_nil_iff]
    intro id _
    rw [Function.comp_apply, Branch.probability?_ofId, hs]
    rfl
  simp only [probabilityRemarks, unread, List.filterMap_append, Located.diagnostics_remarks,
    List.filterMap_flatMap, List.flatMap_map]
  have sum := fun condition =>
    (Problem.differ_when_false (p := .probabilitySum) (by decide) condition).findings (some l)
  refine .append (.flatMap fun id _ => ?_) (sum _)
  have same : (Branch.ofId scope id).remarks.filterMap Remark.diagnostic? =
      (Branch.ofId scope' id).remarks.filterMap Remark.diagnostic? := by
    rw [Branch.diagnostics_ofId, Branch.diagnostics_ofId, hf]
  rw [same]
  refine .refl fun x hx => ?_
  obtain ⟨flow, -, rfl⟩ := Branch.eq_of_mem_diagnostics_ofId hx
  show Problem.noProbability ∉ Problem.ofDataRead
  decide

theorem Visit.findings_rule_differ (settings : Settings) (adHoc : Bool) {v : Visit}
    {rule : NodeRule} (h : rule.appliesTo v.placed.element.kind = true) :
    FindingsDiffer
      (rule.findings (.inside (settings.withStrict true) adHoc (.owner v.owner)) v.placed.located)
      (rule.findings (.inside (settings.withStrict false) adHoc (.owner v.owner))
        v.placed.located) := by
  rw [NodeRule.findings_eq_append rfl h, NodeRule.findings_eq_append rfl h]
  refine .append ((rule.problems_differ adHoc (.flow v.placed.element)).findings _) ?_
  split
  · refine v.placed.located.branchFindings_differ ?_ ?_ <;> rfl
  · exact .nil

/-! ## Documents -/

theorem Visit.findings_differ (settings : Settings) (adHoc : Bool) (v : Visit) :
    FindingsDiffer (v.findings (settings.withStrict true) adHoc)
      (v.findings (settings.withStrict false) adHoc) :=
  .flatMap fun _ h => v.findings_rule_differ settings adHoc (NodeRule.mem_rules h)

theorem Process.findings_differ (settings : Settings) (p : Process) (place : Place) :
    FindingsDiffer (p.findings (settings.withStrict true) place)
      (p.findings (settings.withStrict false) place) := by
  refine .append (.refl fun x hx hread => ?_)
    (.flatMap fun v _ => v.findings_differ settings p.isAdHoc)
  obtain ⟨rule, hr⟩ := Process.exists_rule_of_mem_ownFindings hx
  have own := Problem.rule?_of_processRule? hr
  rcases Problem.rule?_of_mem_ofDataRead hread with h | h <;>
    exact absurd (own.symm.trans h) (Option.some_ne_none _).symm

theorem Definitions.findings_differ (settings : Settings) (d : Definitions) (place : Place) :
    FindingsDiffer (d.findings (settings.withStrict true) place)
      (d.findings (settings.withStrict false) place) := by
  refine .flatMap fun l hl => ?_
  obtain ⟨i, p, -, rfl⟩ := Definitions.mem_locatedProcesses.mp hl
  exact p.findings_differ settings (i :: place)

/-- A strict and a lenient batch of a document. The strict one reports, but for problems of data
that it read, part of what the lenient one reports, in order; what the latter reports besides are
problems of data that were not read. -/
theorem Settings.outcome_document_strict (settings : Settings) {request : Request} {n : Nat}
    {d : Definitions} (h : request.AsksFor settings n d) :
    ∃ strict lenient : List Diagnostic,
      ((settings.withStrict true).answer request).outcome = .ok (.ofDiagnostics strict) ∧
      ((settings.withStrict false).answer request).outcome = .ok (.ofDiagnostics lenient) ∧
      (strict.filter (·.message ∉ Problem.ofDataRead.map Problem.message)).Sublist lenient ∧
      lenient.filter (·.message ∉ Problem.ofDataUnread.map Problem.message) =
        (strict.filter (·.message ∉ Problem.ofDataRead.map Problem.message)).filter
          (·.message ∉ Problem.ofDataUnread.map Problem.message) ∧
      (∀ x ∈ lenient, x.message ∉ Problem.ofDataRead.map Problem.message) ∧
      Problem.ofDataRead.map Problem.message =
        ["Task has no Range defined.", "Task has no Standard Deviation defined.",
          "The sum of probability values of all outgoing Sequence Flows must be equal 100."] ∧
      Problem.ofDataUnread.map Problem.message =
        ["User Task has no staff availability defined.", "Task has no distribution type defined.",
          "Task has no duration defined.", "Task has no Time Units defined."] := by
  have differ := d.findings_differ settings [n]
  have read : ∀ q ∈ Problem.ofDataRead, q.isStated = false := by decide
  have unread : ∀ q ∈ Problem.ofDataUnread, q.isStated = false := by decide
  have strict : ∀ x ∈ d.findings (settings.withStrict true) [n], x.problem.isStated = false :=
    Definitions.not_stated_of_mem_findings
  have lenient : ∀ x ∈ d.findings (settings.withStrict false) [n], x.problem.isStated = false :=
    Definitions.not_stated_of_mem_findings
  refine ⟨_, _, outcome_document h.root h.mode, outcome_document h.root h.mode,
    ?_, ?_, ?_, rfl, rfl⟩
  · rw [filter_message_eq strict read]
    exact differ.filter_sublist
  · rw [filter_message_eq lenient unread, filter_message_eq strict read,
      filter_message_eq (fun x hx => strict x (List.mem_of_mem_filter hx)) unread]
    exact differ.filter_eq
  · intro x hx worded
    exact differ.not_of_mem x hx ((Problem.message_mem_map_iff (lenient x hx) read).mp worded)

/-- A document with a user task whose distribution lacks a range. -/
def Definitions.uniformTask : Definitions where
  rootElements := [.process {
    flowElements := [.leaf (.userTask {
      incoming := ["a"]
      outgoing := ["b"]
      blocks := [.ofList [("staffAvailability", "2"), ("distributionType", "uniform"),
        ("duration", "1")]] })] }]

/-- A strict and a lenient batch of the document. -/
theorem Settings.outcome_uniformTask :
    let request : Request := { root := .plain (.element ⟨[0], .definitions .uniformTask⟩) }
    ∃ strict lenient : List Diagnostic,
      ((Settings.withStrict {} true).answer request).outcome = .ok (.ofDiagnostics strict) ∧
      ((Settings.withStrict {} false).answer request).outcome = .ok (.ofDiagnostics lenient) ∧
      (strict.filter (·.message ∉ Problem.ofDataRead.map Problem.message)).Sublist lenient ∧
      lenient.filter (·.message ∉ Problem.ofDataUnread.map Problem.message) =
        (strict.filter (·.message ∉ Problem.ofDataRead.map Problem.message)).filter
          (·.message ∉ Problem.ofDataUnread.map Problem.message) ∧
      (∀ x ∈ lenient, x.message ∉ Problem.ofDataRead.map Problem.message) ∧
      (strict.filter (·.problem ∈ Problem.ofDataRead)).map (·.problem) = [.noRange] := by
  intro request
  have asks : request.AsksFor {} 0 .uniformTask := ⟨rfl, rfl⟩
  obtain ⟨strict, lenient, hstrict, hlenient, part, besides, none', -⟩ :=
    outcome_document_strict {} asks
  refine ⟨strict, lenient, hstrict, hlenient, part, besides, none', ?_⟩
  have found := hstrict.symm.trans (outcome_document asks.root asks.mode)
  rw [show strict = _ from congrArg Report.diagnostics (Except.ok.inj found)]
  decide

end BpmnAudit
