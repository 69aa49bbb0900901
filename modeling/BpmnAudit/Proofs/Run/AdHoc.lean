import BpmnAudit.Proofs.Run.Independence
import BpmnAudit.Proofs.Run.Single
import BpmnAudit.Proofs.Run.Unnoticed
import BpmnAudit.Proofs.Text.Blank

/-!
# Ad hoc processes

A process that says it is ad hoc is let off four problems, which are to do with the order of its
nodes: it needs no start and no end node, and no node in it needs connections. Nothing else changes,
neither in the process (`Process.findings_relaxed`) nor in the others of the document
(`Definitions.findings_relaxed`). Of any other element it does not matter what the attribute `adHoc`
says (`Retouch.unnoticed_withoutInnerAdHoc`). Both are put together for batches of documents in
`Settings.outcome_document_adHoc`.
-/

namespace BpmnAudit

open Text (Reads)

/-- The problems that an ad hoc process is let off. -/
def Problem.waived : List Problem :=
  [noStartNode, noEndNode, nodeWithoutOutgoing, nodeWithoutIncoming]

/-- Of what rules for flow elements find, the problems of connections are waived. -/
theorem Problem.mem_waived_iff {p : Problem} {rule : NodeRule} (h : p.rule? = some rule) :
    p ∈ waived ↔ p.isConnection = true := by
  cases p <;> first | (simp [waived, isConnection]; done) | cases h

theorem isAdHocText_iff {text : Option String} : isAdHocText text = true ↔ Reads "true" text := by
  cases text with
  | none =>
    refine ⟨fun h => absurd h Bool.false_ne_true, ?_⟩
    rintro ⟨s, -, -, -, hs, -⟩
    cases hs
  | some s => exact Text.isWordInAnyCase_trim_iff rfl

/-! ## Processes -/

/-- Attributes that differ in `adHoc` at most, which the first ones deny and the second ones
affirm. -/
structure Attributes.Relax (attributes relaxed : Attributes) : Prop where
  others : ∀ name, name ≠ "adHoc" → relaxed.get? name = attributes.get? name
  denied : ¬ Reads "true" (attributes.get? "adHoc")
  affirmed : Reads "true" (relaxed.get? "adHoc")

theorem ProcessRule.not_waived_of_mem_problems {e : Element} {rule : ProcessRule}
    (h : rule ≠ startEnd) : ∀ q ∈ (rule.problems e).result, q ∉ Problem.waived := by
  intro q hq hw
  have own := processRule?_of_mem_problems q hq
  simp only [Problem.waived, List.mem_cons, List.not_mem_nil, or_false] at hw
  rcases hw with rfl | rfl | rfl | rfl
  · exact h (Option.some.inj own).symm
  · exact h (Option.some.inj own).symm
  · cases own
  · cases own

namespace Process

/-- A process with other attributes. -/
def withAttributes (p : Process) (attributes : Attributes) : Process := { p with attributes }

variable {p : Process} {relaxed : Attributes}

theorem isAdHoc_of_relax (h : p.attributes.Relax relaxed) : p.isAdHoc = false :=
  Bool.eq_false_iff.mpr fun hp => h.denied (isAdHocText_iff.mp hp)

theorem isAdHoc_withAttributes (h : p.attributes.Relax relaxed) :
    (p.withAttributes relaxed).isAdHoc = true := isAdHocText_iff.mpr h.affirmed

/-- Of the problems that a rule finds with a process, it is let off the waived ones once it is ad
hoc. -/
theorem problems_relaxed (h : p.attributes.Relax relaxed) (rule : ProcessRule) :
    (rule.problems (.root (.process (p.withAttributes relaxed)))).result =
      (rule.problems (.root (.process p))).result.filter (· ∉ Problem.waived) := by
  by_cases hr : rule = .startEnd
  · subst hr
    have denied : (Element.root (.process p)).isAdHoc = false := isAdHoc_of_relax h
    have affirmed : (Element.root (.process (p.withAttributes relaxed))).isAdHoc = true :=
      isAdHoc_withAttributes h
    rw [ProcessRule.problems, ProcessRule.problems, denied, affirmed]
    show Problem.when _ _ ++ Problem.when _ _ = List.filter _ (Problem.when _ _ ++ Problem.when _ _)
    rw [List.filter_append]
    exact congr (congrArg _ (Problem.when_and_not rfl)) (Problem.when_and_not rfl)
  · have same : rule.problems (.root (.process (p.withAttributes relaxed))) =
        rule.problems (.root (.process p)) := by
      cases rule with
      | id | name => rfl
      | packageName =>
        rw [ProcessRule.problems, ProcessRule.problems]
        show Progress.mk (Problem.when _ (Text.isBlank (relaxed.get? "packageName"))) _ = _
        rw [h.others "packageName" (by decide)]
        rfl
      | startEnd => exact absurd rfl hr
    rw [same, List.filter_eq_self.mpr]
    exact fun q hq => decide_eq_true (ProcessRule.not_waived_of_mem_problems hr q hq)

theorem ownFindings_relaxed (h : p.attributes.Relax relaxed) :
    (p.withAttributes relaxed).ownFindings =
      p.ownFindings.filter (·.problem ∉ Problem.waived) := by
  unfold ownFindings
  rw [List.filter_flatMap]
  refine congrArg List.flatten (List.map_congr_left fun rule _ => ?_)
  rw [ProcessRule.findings_eq_map, ProcessRule.findings_eq_map, problems_relaxed h,
    List.filter_map]
  rfl

/-- Of what is found with a process, it is let off the waived problems once it is ad hoc. -/
theorem findings_relaxed (h : p.attributes.Relax relaxed) (settings : Settings) (place : Place) :
    (p.withAttributes relaxed).findings settings place =
      (p.findings settings place).filter (·.problem ∉ Problem.waived) := by
  have inside : (p.owner place).findings settings true =
      ((p.owner place).findings settings false).filter (·.problem ∉ Problem.waived) := by
    rw [Owner.findings_adHoc]
    refine List.filter_congr fun x hx => ?_
    obtain ⟨v, -, hx⟩ := List.mem_flatMap.mp hx
    obtain ⟨rule, hr⟩ := v.exists_rule_of_mem_findings hx
    rw [← Bool.not_eq_not]
    simp [Problem.mem_waived_iff hr]
  rw [findings, findings, List.filter_append, ownFindings_relaxed h, isAdHoc_of_relax h,
    isAdHoc_withAttributes h, ← inside]
  rfl

end Process

/-! ## Documents -/

/-- The findings of a document process by process, and what becomes of them once one of the
processes is ad hoc. -/
theorem Definitions.findings_relaxed {d : Definitions} {i : Nat} {p : Process}
    {relaxed : Attributes} (hp : d.rootElements[i]? = some (.process p))
    (h : p.attributes.Relax relaxed) (settings : Settings) (n : Nat) :
    ∃ before after : List Located,
      d.locatedProcesses [n] = before ++ ⟨[i, n], .root (.process p)⟩ :: after ∧
      d.findings settings [n] =
        before.flatMap (·.audited settings) ++
          Located.audited settings ⟨[i, n], .root (.process p)⟩ ++
          after.flatMap (·.audited settings) ∧
      (d.putProcess i (p.withAttributes relaxed)).findings settings [n] =
        before.flatMap (·.audited settings) ++
          (Located.audited settings ⟨[i, n], .root (.process p)⟩).filter
            (·.message ∉ Problem.waived.map Problem.message) ++
          after.flatMap (·.audited settings) := by
  obtain ⟨before, after, cut, -⟩ := d.locatedProcesses_putProcess hp [n]
  have here : d.locatedProcesses [n] = before ++ ⟨[i, n], .root (.process p)⟩ :: after := by
    rw [← cut p, d.putProcess_self hp]
  have audited : ∀ l ∈ before ++ ⟨[i, n], .root (.process p)⟩ :: after,
      l.audited settings = l.processFindings settings :=
    fun l hl => Located.audited_eq_processFindings settings (here ▸ hl)
  simp only [List.forall_mem_append, List.forall_mem_cons] at audited
  obtain ⟨first, this, last⟩ := audited
  refine ⟨before, after, here, ?_, ?_⟩
  · rw [findings, here, List.flatMap_append, List.flatMap_cons, List.flatMap_congr first, this,
      List.flatMap_congr last, List.append_assoc]
  · have waived : ∀ q ∈ Problem.waived, q.isStated = false := by decide
    have found : ∀ x ∈ p.findings settings [i, n], x.problem.isStated = false :=
      Process.not_stated_of_mem_findings
    have relaxed : Located.processFindings settings
          ⟨[i, n], .root (.process (p.withAttributes relaxed))⟩ =
        (Located.processFindings settings ⟨[i, n], .root (.process p)⟩).filter
          (·.message ∉ Problem.waived.map Problem.message) :=
      (p.findings_relaxed h settings [i, n]).trans (filter_message_eq found waived).symm
    rw [findings, cut, List.flatMap_append, List.flatMap_cons, List.flatMap_congr first, this,
      List.flatMap_congr last, List.append_assoc, relaxed]

/-! ## Other elements -/

/-- Attributes without one of the names. -/
def Attributes.without (attributes : Attributes) (name : String) : Attributes where
  entries := attributes.entries.filter (·.1 ≠ name)
  nodup := attributes.nodup.sublist (List.filter_sublist.map _)

theorem Attributes.get?_without (attributes : Attributes) {left name : String} (h : name ≠ left) :
    (attributes.without left).get? name = attributes.get? name :=
  lookup_filter_ne h attributes.entries

/-- Leaves out the attribute `adHoc` of every element but processes. -/
def Retouch.withoutInnerAdHoc : Retouch := fun shape base =>
  if shape = .element (.root .process) then base
  else { base with attributes := base.attributes.without "adHoc" }

/-- What elements other than processes say of `adHoc` is not noticed. -/
theorem Retouch.unnoticed_withoutInnerAdHoc (strict : Bool) :
    withoutInnerAdHoc.Unnoticed strict where
  id shape base := by unfold withoutInnerAdHoc; split <;> rfl
  name shape base := by unfold withoutInnerAdHoc; split <;> rfl
  noticed shape base name hname := by
    unfold withoutInnerAdHoc
    split
    · rfl
    · refine base.attributes.get?_without ?_
      rintro rfl
      exact absurd hname (by decide)
  adHoc base := rfl
  userTaskData base := rfl
  taskData _ base := rfl
  probability base := rfl

/-! ## Batches -/

/-- What `adHoc` changes in a batch of a document. If a process of the document begins to say that
it is ad hoc, its waived problems are left out of its own part of the report, and the rest stays as
it was. If other elements change what they say of `adHoc`, the report stays, but that the elements
in it are the changed ones. -/
theorem Settings.outcome_document_adHoc (settings : Settings) {request : Request} {n : Nat}
    {d : Definitions} (h : request.AsksFor settings n d) :
    (∀ {i : Nat} {p : Process} {relaxed : Attributes} {request' : Request},
      d.rootElements[i]? = some (.process p) → p.attributes.Relax relaxed →
      request'.AsksFor settings n (d.putProcess i (p.withAttributes relaxed)) →
      ∃ before after : List Located,
        d.locatedProcesses [n] = before ++ ⟨[i, n], .root (.process p)⟩ :: after ∧
        (settings.answer request).outcome = .ok (.ofDiagnostics
          (before.flatMap (·.audited settings) ++
            Located.audited settings ⟨[i, n], .root (.process p)⟩ ++
            after.flatMap (·.audited settings))) ∧
        (settings.answer request').outcome = .ok (.ofDiagnostics
          (before.flatMap (·.audited settings) ++
            (Located.audited settings ⟨[i, n], .root (.process p)⟩).filter
              (·.message ∉ Problem.waived.map Problem.message) ++
            after.flatMap (·.audited settings)))) ∧
    (∀ {d' : Definitions} {request' : Request},
      d.retouch .withoutInnerAdHoc = d'.retouch .withoutInnerAdHoc →
      request'.AsksFor settings n d' →
      ∃ found found' : List Diagnostic,
        (settings.answer request).outcome = .ok (.ofDiagnostics found) ∧
        (settings.answer request').outcome = .ok (.ofDiagnostics found') ∧
        List.Forall₂ (Diagnostic.Corresponds (Placed.EqualUnder .withoutInnerAdHoc))
          found found' ∧
        found.map Diagnostic.toJson = found'.map Diagnostic.toJson) ∧
    Problem.waived.map Problem.message =
      ["Process has no start node.", "Process has no end node.",
        "Node has no outgoing connections", "Node has no incoming connections"] := by
  have whole := outcome_document h.root h.mode
  refine ⟨fun hp relax h' => ?_, fun same h' => ?_, rfl⟩
  · obtain ⟨before, after, cut, denied, affirmed⟩ :=
      Definitions.findings_relaxed hp relax settings n
    exact ⟨before, after, cut, denied ▸ whole, affirmed ▸ outcome_document h'.root h'.mode⟩
  · have unnoticed := Retouch.unnoticed_withoutInnerAdHoc settings.strictSimulation
    have found := Definitions.findings_equalUnder unnoticed same [n]
    exact ⟨_, _, whole, outcome_document h'.root h'.mode, found,
      map_eq_map_of_forall₂ (fun _ _ => Diagnostic.toJson_eq unnoticed) found⟩

/-- A process that says it is not ad hoc, with a subprocess that says something of it. -/
def Process.ordered (inside : Attributes) : Process where
  attributes := .ofList [("adHoc", "no"), ("packageName", "p")]
  flowElements := [.subProcess { attributes := inside } [.leaf (.task {})] false]

/-- A document with that process among its root elements. -/
def Definitions.ordered (inside : Attributes) : Definitions where
  rootElements := [.message {}, .process (.ordered inside), .process {}]

/-- What the process may say instead. -/
def Attributes.relaxed : Attributes := .ofList [("packageName", "p"), ("adHoc", " True ")]

theorem Attributes.relax_ordered (inside : Attributes) :
    (Process.ordered inside).attributes.Relax relaxed where
  others name h := by
    show List.lookup name [("packageName", "p"), ("adHoc", " True ")] =
      List.lookup name [("adHoc", "no"), ("packageName", "p")]
    simp only [lookup_cons_eq_ite, h, if_false]
  denied := by
    rw [← isAdHocText_iff]
    exact Bool.false_ne_true
  affirmed := isAdHocText_iff.mp (by decide)

/-- A batch of the document, one after the process says that it is ad hoc, and one after the
subprocess says so. -/
theorem Settings.outcome_ordered :
    let inside : Attributes := .ofList [("adHoc", "true")]
    let request : Request := { root := .plain (.element ⟨[0], .definitions (.ordered {})⟩) }
    let request' : Request := {
      root := .plain (.element ⟨[0], .definitions
        ((Definitions.ordered {}).putProcess 1 ((Process.ordered {}).withAttributes .relaxed))⟩) }
    let request'' : Request := {
      root := .plain (.element ⟨[0], .definitions (.ordered inside)⟩) }
    ∃ before after own found found' : List Diagnostic,
      (Settings.answer {} request).outcome =
        .ok (.ofDiagnostics (before ++ own ++ after)) ∧
      (Settings.answer {} request').outcome =
        .ok (.ofDiagnostics (before ++
          own.filter (·.message ∉ Problem.waived.map Problem.message) ++ after)) ∧
      own.map (·.problem) = [.noProcessId, .noProcessName, .noStartNode, .noEndNode,
        .nodeWithoutOutgoing, .nodeWithoutIncoming, .nodeWithoutOutgoing, .nodeWithoutIncoming] ∧
      (Settings.answer {} request).outcome = .ok (.ofDiagnostics found) ∧
      (Settings.answer {} request'').outcome = .ok (.ofDiagnostics found') ∧
      found.map Diagnostic.toJson = found'.map Diagnostic.toJson := by
  intro inside request request' request''
  have asks : request.AsksFor {} 0 (.ordered {}) := ⟨rfl, rfl⟩
  have asks' : request'.AsksFor {} 0 ((Definitions.ordered {}).putProcess 1
      ((Process.ordered {}).withAttributes .relaxed)) := ⟨rfl, rfl⟩
  have asks'' : request''.AsksFor {} 0 (.ordered inside) := ⟨rfl, rfl⟩
  have same : (Definitions.ordered {}).retouch .withoutInnerAdHoc =
      (Definitions.ordered inside).retouch .withoutInnerAdHoc := rfl
  obtain ⟨relax, inner, -⟩ := outcome_document_adHoc {} asks
  obtain ⟨before, after, -, denied, affirmed⟩ := relax rfl (Attributes.relax_ordered {}) asks'
  obtain ⟨found, found', first, second, -, values⟩ := inner same asks''
  have here : ⟨[1, 0], .root (.process (.ordered {}))⟩ ∈
      (Definitions.ordered {}).locatedProcesses [0] :=
    Definitions.mem_locatedProcesses.mpr ⟨1, _, rfl, rfl⟩
  refine ⟨_, _, _, found, found', denied, affirmed, ?_, first, second, values⟩
  rw [Located.audited_eq_processFindings {} here]
  decide

end BpmnAudit
