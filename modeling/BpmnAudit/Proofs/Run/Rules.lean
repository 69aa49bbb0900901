import BpmnAudit.Audit.Run
import BpmnAudit.Proofs.Keys
import BpmnAudit.Proofs.Tree.Documents

/-!
# Rules in a run

What a run keeps and what it adds while rules are applied. A run that is sound for the documents
at hand stands in one of them, and its indexes are those of containers in them (`Run.Sound`); then
the indexes do not show in what rules may read (`Run.Sound.scope_eq`). Applying the rules for a
flow element leads to a run that is as before but for what the rules find, which comes last among
the diagnostics, and what they tell, which comes last in the log (`Run.Sound.applyRules`).
-/

namespace BpmnAudit

/-- The diagnostic of a remark; a remark on a probability has none. -/
def Remark.diagnostic? : Remark → Option Diagnostic
  | .problem p element => some ⟨.error, p, element⟩
  | .oddProbability .. => none

theorem Located.diagnostics_remarks (l : Located) (problems : List Problem) :
    (l.remarks problems).filterMap Remark.diagnostic? =
      problems.map fun p => ⟨.error, p, some l⟩ := by
  unfold Located.remarks
  rw [List.filterMap_map, ← List.filterMap_eq_map]
  rfl

/-- What a rule finds wrong with an element. -/
def NodeRule.findings (scope : Scope) (l : Located) (rule : NodeRule) : List Diagnostic :=
  (rule.remarks scope l).result.filterMap Remark.diagnostic?

/-- What the rules for an element find wrong with it. -/
def Located.findings (scope : Scope) (l : Located) : List Diagnostic :=
  l.element.rules.flatMap (·.findings scope l)

/-- The record of a diagnostic; one of an element that cannot be told of has none. -/
def Diagnostic.record? (d : Diagnostic) : Option LogRecord :=
  if d.element.all (·.element.base?.isSome) then some d.record else none

def Remark.record? : Remark → Option LogRecord
  | .problem p element => Diagnostic.record? ⟨.error, p, element⟩
  | .oddProbability flow text => some (oddProbabilityRecord flow text)

/-- What a rule tells of an element. -/
def NodeRule.records (scope : Scope) (l : Located) (rule : NodeRule) : List LogRecord :=
  (rule.remarks scope l).result.filterMap Remark.record?

/-- What the rules for an element tell of it. -/
def Located.records (scope : Scope) (l : Located) : List LogRecord :=
  l.element.rules.flatMap (·.records scope l)

/-- The sequence flow of an id around an element, looked up without an index. -/
def Surroundings.flow? (surroundings : Surroundings) (id : String) : Option Placed :=
  surroundings.owner?.bind fun owner => (sequenceFlowsById owner.children).lookup id

/-- What rules may read inside surroundings. -/
def Scope.inside (settings : Settings) (adHoc : Bool) (surroundings : Surroundings) : Scope :=
  ⟨settings.strictSimulation, adHoc, surroundings.flow?, surroundings.noFlows⟩

namespace Run

/-- What rules may read in this state, if it had no indexes. -/
def plainScope (run : Run) : Scope := .inside run.settings run.adHoc run.container

/-- A run stands in a document at hand, and knows nothing but indexes of containers in them. -/
structure Sound (documents : Documents) (run : Run) : Prop where
  container : ∀ owner, run.container.owner? = some owner → owner.IsIn documents
  indexes : ∀ place index, run.flowIndexes.lookup place = some index →
    ∃ owner : Owner, owner.IsIn documents ∧ owner.place = place ∧
      index = sequenceFlowsById owner.children

/-- A run becomes another by finding something and telling records. -/
structure Adds (documents : Documents) (run : Run) (found : List Diagnostic)
    (told : List LogRecord) (after : Run) : Prop where
  settings : after.settings = run.settings
  diagnostics : after.diagnostics.toList = run.diagnostics.toList ++ found
  log : after.log.toList = run.log.toList ++ told
  sound : after.Sound documents

/-- A run becomes another by finding something and telling records, in the same process and as ad
hoc as before. -/
structure Leads (documents : Documents) (run : Run) (found : List Diagnostic)
    (told : List LogRecord) (after : Run) : Prop extends Adds documents run found told after where
  process : after.process = run.process
  adHoc : after.adHoc = run.adHoc

variable {documents : Documents} {run : Run}

theorem Adds.refl (h : run.Sound documents) : Adds documents run [] [] run :=
  ⟨rfl, (List.append_nil _).symm, (List.append_nil _).symm, h⟩

theorem Leads.refl (h : run.Sound documents) : Leads documents run [] [] run :=
  ⟨.refl h, rfl, rfl⟩

theorem Sound.tell (h : run.Sound documents) (record : LogRecord) :
    Leads documents run [] [record] (run.tell record) :=
  ⟨⟨rfl, (List.append_nil _).symm, Array.toList_push, h.container, h.indexes⟩, rfl, rfl⟩

section

variable {mid after : Run} {found more : List Diagnostic} {told further : List LogRecord}

theorem Adds.trans (h : Adds documents run found told mid)
    (h' : Adds documents mid more further after) :
    Adds documents run (found ++ more) (told ++ further) after where
  settings := h'.settings.trans h.settings
  diagnostics := by rw [h'.diagnostics, h.diagnostics, List.append_assoc]
  log := by rw [h'.log, h.log, List.append_assoc]
  sound := h'.sound

theorem Leads.trans (h : Leads documents run found told mid)
    (h' : Leads documents mid more further after) :
    Leads documents run (found ++ more) (told ++ further) after :=
  ⟨h.toAdds.trans h'.toAdds, h'.process.trans h.process, h'.adHoc.trans h.adHoc⟩

theorem Adds.tell (h : Adds documents run found told after) (record : LogRecord) :
    Adds documents run found (told ++ [record]) (after.tell record) := by
  have both := h.trans (h.sound.tell record).toAdds
  rwa [List.append_nil] at both

end

/-! ## Indexes do not show -/

theorem Sound.indexOf_eq (h : run.Sound documents) {owner : Owner} (ho : owner.IsIn documents) :
    run.indexOf owner = sequenceFlowsById owner.children := by
  unfold indexOf
  cases hl : run.flowIndexes.lookup owner.place with
  | none => rfl
  | some index =>
    obtain ⟨owner', hin, hp, rfl⟩ := h.indexes _ _ hl
    rw [hin.unique ho hp]
    rfl

/-- What rules may read does not depend on the indexes. -/
theorem Sound.scope_eq (h : run.Sound documents) : run.scope = run.plainScope := by
  have hflow : run.flow? = run.container.flow? := by
    funext id
    unfold Run.flow? Surroundings.flow?
    cases ho : run.container.owner? with
    | none => rfl
    | some owner => simp only [Option.bind_some, h.indexOf_eq (h.container owner ho)]
  unfold scope plainScope Scope.inside
  rw [hflow]

theorem Sound.keepIndex (h : run.Sound documents) : run.keepIndex.Sound documents := by
  unfold Run.keepIndex
  split
  · exact h
  · next owner ho =>
    split
    · exact h
    · refine ⟨h.container, fun place index hi => ?_⟩
      have hin := h.container owner ho
      by_cases hp : place = owner.place
      · refine ⟨owner, hin, hp.symm, ?_⟩
        have hi' : run.indexOf owner = index := by simpa [hp] using hi
        rw [← hi', h.indexOf_eq hin]
      · rw [lookup_cons_eq_ite, if_neg hp] at hi
        exact h.indexes place index hi

theorem Sound.leads_keepIndex (h : run.Sound documents) :
    Leads documents run [] [] run.keepIndex := by
  have hk := h.keepIndex
  revert hk
  unfold Run.keepIndex
  split
  · exact fun _ => .refl h
  · split
    · exact fun _ => .refl h
    · exact fun hk => ⟨⟨rfl, (List.append_nil _).symm, (List.append_nil _).symm, hk⟩, rfl, rfl⟩

/-! ## Remarks -/

/-- Recording a diagnostic adds it, also one of an element that cannot be told of. -/
theorem Sound.add (h : run.Sound documents) (d : Diagnostic) :
    Leads documents run [d] d.record?.toList (run.add d).result := by
  have sound : ∀ (log reported), Run.Sound documents
      { run with diagnostics := run.diagnostics.push d, log, reported } :=
    fun _ _ => ⟨h.container, h.indexes⟩
  obtain ⟨level, problem, element⟩ := d
  unfold Run.add Diagnostic.record?
  cases element with
  | none => exact ⟨⟨rfl, Array.toList_push, Array.toList_push, sound _ _⟩, rfl, rfl⟩
  | some l =>
    cases hb : l.element.base? with
    | none =>
      simp only [Option.all_some, hb, Option.isSome_none, Bool.false_eq_true, if_false]
      exact ⟨⟨rfl, Array.toList_push, (List.append_nil _).symm, sound _ _⟩, rfl, rfl⟩
    | some base =>
      simp only [Option.all_some, hb, Option.isSome_some, if_true]
      exact ⟨⟨rfl, Array.toList_push, Array.toList_push, sound _ _⟩, rfl, rfl⟩

theorem Sound.note (h : run.Sound documents) (remark : Remark) :
    Leads documents run remark.diagnostic?.toList remark.record?.toList (run.note remark) := by
  cases remark with
  | oddProbability flow text => exact h.tell _
  | problem p element => exact h.add ⟨.error, p, element⟩

theorem Sound.noteAll (h : run.Sound documents) (remarks : List Remark) :
    Leads documents run (remarks.filterMap Remark.diagnostic?)
      (remarks.filterMap Remark.record?) (run.noteAll remarks) := by
  unfold Run.noteAll
  rw [List.filterMap_eq_flatMap_toList, List.filterMap_eq_flatMap_toList]
  induction remarks generalizing run with
  | nil => exact .refl h
  | cons remark remarks ih =>
    have first := h.note remark
    exact first.trans (ih first.sound)

/-! ## Rules -/

theorem Leads.plainScope_eq {after : Run} {found : List Diagnostic} {told : List LogRecord}
    (h : Leads documents run found told after) (hc : after.container = run.container) :
    after.plainScope = run.plainScope := by
  unfold plainScope
  rw [h.settings, h.adHoc, hc]

/-- What a rule says is taken in; it is what the rule says without any index. -/
theorem Sound.applyRule_eq (h : run.Sound documents) (l : Located) (rule : NodeRule) :
    ∃ kept, Leads documents run [] [] kept ∧
      run.applyRule l rule = (rule.remarks run.plainScope l).map kept.noteAll := by
  unfold Run.applyRule
  split
  · have kept := h.leads_keepIndex
    have same := kept.sound.scope_eq.trans (kept.plainScope_eq run.container_keepIndex)
    exact ⟨run.keepIndex, kept, by simp only [same]⟩
  · exact ⟨run, .refl h, by simp only [h.scope_eq]⟩

theorem Sound.applyRule (h : run.Sound documents) (l : Located) (rule : NodeRule) :
    Leads documents run (rule.findings run.plainScope l) (rule.records run.plainScope l)
      (run.applyRule l rule).result := by
  obtain ⟨before, kept, applied⟩ := h.applyRule_eq l rule
  rw [applied]
  exact kept.trans (kept.sound.noteAll (rule.remarks run.plainScope l).result)

/-- Applying the rules for a flow element adds what they find and tells what they tell of it, rule
by rule. -/
theorem Sound.applyRules (h : run.Sound documents) (hn : run.container.noFlows = none)
    (p : Placed) :
    Leads documents run (p.located.findings run.plainScope) (p.located.records run.plainScope)
      (run.applyRules p.located).result := by
  rw [applyRules_placed hn, Located.findings, Located.records]
  generalize p.located.element.rules = rules
  clear hn
  induction rules generalizing run with
  | nil => exact .refl h
  | cons rule rules ih =>
    have first := h.applyRule p.located rule
    have rest := ih first.sound
    rw [first.plainScope_eq (run.container_applyRule p.located rule)] at rest
    exact first.trans rest

@[simp] theorem container_applyRules (run : Run) (l : Located) :
    (run.applyRules l).result.container = run.container := by
  unfold Run.applyRules Progress.steps
  generalize l.element.rules = rules
  have key : ∀ (rules : List NodeRule) (p : Progress Run),
      (rules.foldl (fun p rule => p.andThen (·.applyRule l rule)) p).result.container =
        p.result.container := by
    intro rules
    induction rules with
    | nil => intro p; rfl
    | cons rule rules ih =>
      intro p
      rw [List.foldl_cons, ih]
      unfold Progress.andThen
      split <;> simp
  exact key rules _

end Run

end BpmnAudit
