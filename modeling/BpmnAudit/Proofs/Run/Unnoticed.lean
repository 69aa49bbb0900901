import BpmnAudit.Proofs.Rules.Unnoticed
import BpmnAudit.Proofs.Run.Audit

/-!
# What audits do not notice

Where rules do not notice a retouch, neither do audits: two documents that the retouch makes equal
have the same findings, one by one, with elements that stand at the same place and that the retouch
makes equal (`Definitions.findings_equalUnder`). As values the findings are the same.
-/

namespace BpmnAudit

variable {f : Retouch} {strict : Bool}

theorem Diagnostic.Corresponds.whole_self {R : Placed → Placed → Prop} {x : Diagnostic}
    (h : x.element = none) : x.Corresponds R x := by
  obtain ⟨level, problem, element⟩ := x
  obtain rfl : element = none := h
  exact .whole level problem

/-- Diagnostics of the same problem, with elements that a retouch makes equal without a change of
their ids, say the same of elements of the same id and type. -/
theorem Diagnostic.says_eq (hf : f.Unnoticed strict) {x x' : Diagnostic}
    (h : x.Corresponds (Placed.EqualUnder f) x') :
    x.level = x'.level ∧ x.message = x'.message ∧ x.elementId = x'.elementId ∧
      x.elementType = x'.elementType := by
  cases h with
  | whole level problem => exact ⟨rfl, rfl, rfl, rfl⟩
  | @element level problem p p' h =>
    have kind : p.element.kind = p'.element.kind := by
      rw [← p.element.kind_retouch (f := f), h.2, FlowElement.kind_retouch]
    have id : p.element.id = p'.element.id := by
      have := congrArg FlowElement.id h.2
      unfold FlowElement.id at this ⊢
      rwa [FlowElement.base_retouch, FlowElement.base_retouch, Retouch.flow, Retouch.flow, hf.id,
        hf.id] at this
    exact ⟨rfl, rfl, id, congrArg (fun kind => some (ElementKind.flow kind).tag) kind⟩

theorem Diagnostic.toJson_eq (hf : f.Unnoticed strict) {x x' : Diagnostic}
    (h : x.Corresponds (Placed.EqualUnder f) x') : x.toJson = x'.toJson := by
  obtain ⟨level, message, id, type⟩ := says_eq hf h
  unfold toJson
  rw [level, message, id, type]

/-! ## Processes -/

namespace Process

theorem isAdHoc_retouch (hf : f.Unnoticed strict) (p : Process) :
    (p.retouch f).isAdHoc = p.isAdHoc := congrArg isAdHocText (hf.adHoc p.toBaseElement)

theorem problems_retouch (hf : f.Unnoticed strict) (p : Process) (rule : ProcessRule) :
    rule.problems (.root (.process (p.retouch f))) = rule.problems (.root (.process p)) := by
  have base : (Element.root (.process (p.retouch f))).base? =
      (Element.root (.process p)).base?.map (f (.element (.root .process))) := rfl
  cases rule with
  | id =>
    rw [ProcessRule.problems, ProcessRule.problems]
    refine Element.judge_of_map rfl base fun b => ?_
    rw [hf.id]
  | packageName =>
    rw [ProcessRule.problems, ProcessRule.problems]
    refine Element.judge_of_map rfl base fun b => ?_
    rw [hf.noticed _ b _ (by decide)]
  | name =>
    rw [ProcessRule.problems, ProcessRule.problems]
    refine Element.judge_of_map rfl base fun b => ?_
    rw [hf.name]
  | startEnd =>
    have elements : (Element.root (.process (p.retouch f))).flowElements? =
        (Element.root (.process p)).flowElements?.map (List.map (·.retouch f)) := rfl
    have adHoc : (Element.root (.process (p.retouch f))).isAdHoc =
        (Element.root (.process p)).isAdHoc := isAdHoc_retouch hf p
    rw [ProcessRule.problems, ProcessRule.problems, adHoc]
    refine Element.judge_of_map rfl elements fun es => ?_
    simp only [List.any_map, Function.comp_def, FlowElement.kind_retouch]

theorem ownFindings_retouch (hf : f.Unnoticed strict) (p : Process) :
    (p.retouch f).ownFindings = p.ownFindings := by
  unfold ownFindings ProcessRule.findings ProcessRule.remarks
  simp only [problems_retouch hf]

/-- Processes that a retouch makes equal have the same findings, one by one. -/
theorem findings_equalUnder {settings : Settings} (hf : f.Unnoticed settings.strictSimulation)
    {p p' : Process} (h : p.retouch f = p'.retouch f) (place : Place) :
    List.Forall₂ (Diagnostic.Corresponds (Placed.EqualUnder f)) (p.findings settings place)
      (p'.findings settings place) := by
  have own : p.ownFindings = p'.ownFindings := by
    rw [← ownFindings_retouch hf, h, ownFindings_retouch hf]
  have adHoc : p.isAdHoc = p'.isAdHoc := by
    rw [← isAdHoc_retouch hf, h, isAdHoc_retouch hf]
  unfold findings
  rw [own, adHoc]
  refine List.rel_append ?_ ?_
  · exact List.forall₂_same.mpr fun x hx => .whole_self (element_of_mem_ownFindings hx)
  · exact Owner.findings_corresponds (Placed.matching_equalUnder hf) rfl
      (Owner.children_equalUnder rfl (congrArg Process.flowElements h))

end Process

/-! ## Documents -/

theorem RootElement.process?_retouch (r : RootElement) :
    (r.retouch f).process? = r.process?.map (·.retouch f) := by
  cases r <;> rfl

theorem Definitions.rootElements_equalUnder {d d' : Definitions} (h : d.retouch f = d'.retouch f) :
    List.Forall₂ (fun r r' => r.retouch f = r'.retouch f) d.rootElements d'.rootElements := by
  have := congrArg Definitions.rootElements h
  rwa [← List.forall₂_eq_eq_eq, retouch, retouch, List.forall₂_map_left_iff,
    List.forall₂_map_right_iff] at this

theorem Definitions.locatedProcesses_equalUnder {d d' : Definitions}
    (h : d.retouch f = d'.retouch f) (place : Place) :
    List.Forall₂ (fun l l' => ∃ i p p', l = ⟨i :: place, .root (.process p)⟩ ∧
        l' = ⟨i :: place, .root (.process p')⟩ ∧ p.retouch f = p'.retouch f)
      (d.locatedProcesses place) (d'.locatedProcesses place) := by
  refine List.rel_filterMap ?_ (forall₂_zipIdx (rootElements_equalUnder h) 0)
  rintro ⟨r, i⟩ ⟨r', i'⟩ ⟨hr, hi⟩
  obtain rfl : i = i' := hi
  have processes := congrArg RootElement.process? hr
  rw [RootElement.process?_retouch, RootElement.process?_retouch] at processes
  dsimp only
  cases hp : r.process? with
  | none =>
    rw [hp, Option.map_none, eq_comm, Option.map_eq_none_iff] at processes
    rw [processes]
    exact .none
  | some p =>
    rw [hp, Option.map_some, eq_comm, Option.map_eq_some_iff] at processes
    obtain ⟨p', hp', he⟩ := processes
    rw [hp']
    exact .some ⟨i, p, p', rfl, rfl, he.symm⟩

/-- Documents that a retouch makes equal have the same findings, one by one. -/
theorem Definitions.findings_equalUnder {settings : Settings}
    (hf : f.Unnoticed settings.strictSimulation) {d d' : Definitions}
    (h : d.retouch f = d'.retouch f) (place : Place) :
    List.Forall₂ (Diagnostic.Corresponds (Placed.EqualUnder f)) (d.findings settings place)
      (d'.findings settings place) := by
  refine List.rel_flatMap (Definitions.locatedProcesses_equalUnder h place) ?_
  rintro l l' ⟨i, p, p', rfl, rfl, hp⟩
  exact Process.findings_equalUnder hf hp (i :: place)

end BpmnAudit
