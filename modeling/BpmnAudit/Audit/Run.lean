import BpmnAudit.Audit.NodeRule
import BpmnAudit.Audit.ProcessRule
import BpmnAudit.Finding.Report
import BpmnAudit.Log
import BpmnAudit.Settings
import BpmnAudit.Text.Quoted

/-!
# Runs

The state of a run (`ValidationContext`): where it stands in the document, what it has found and
reported so far, and the sequence flows of the containers in which it has looked one up. A problem
is recorded once as a diagnostic and once in the log; the element that has it is reported to the
host. What a run did before a misfit stands.
-/

namespace BpmnAudit

/-- The sequence flows of a container by their ids. -/
abbrev FlowIndex := List (String × Placed)

/-- What is around the element being checked: nothing known, a container, or an element that owns
no flow elements. -/
inductive Surroundings where
  | unknown
  | owner (owner : Owner)
  | barren (located : Located)

def Located.surroundings (l : Located) : Surroundings :=
  match l.owner? with
  | some owner => .owner owner
  | none => .barren l

namespace Surroundings

/-- The container, if there is one. -/
def owner? : Surroundings → Option Owner
  | owner o => some o
  | _ => none

/-- The id of the element around, if there are both. -/
def id : Surroundings → Option String
  | unknown => none
  | owner o => o.id
  | barren l => l.element.id

/-- Why sequence flows cannot be looked up, if they cannot. Where nothing is around there are
none. -/
def noFlows : Surroundings → Option Misfit
  | barren l => some (.lacks l.element.label "sequence_flows_by_id")
  | _ => none

end Surroundings

/-- The state of a run. -/
structure Run where
  settings : Settings := {}
  /-- The process whose attributes govern the rules. -/
  process : Option Located := none
  adHoc : Bool := false
  /-- The container whose elements are being checked. -/
  container : Surroundings := .unknown
  diagnostics : Array Diagnostic := #[]
  /-- The elements reported to the host, in order. -/
  reported : Array Located := #[]
  /-- The indexes built so far, by the places of their containers. -/
  flowIndexes : List (Place × FlowIndex) := []
  log : Array LogRecord := #[]

def Diagnostic.record (d : Diagnostic) : LogRecord :=
  let who := match d.element with
    | none => "-"
    | some l => shownId l.element.id
  ⟨.debug, .run, d.level.tag ++ ": " ++ d.message ++ " (" ++ who ++ ")"⟩

/-- The record of a probability that is no number. -/
def oddProbabilityRecord (flow : Placed) (text : String) : LogRecord :=
  ⟨.warning, .rules,
    "Sequence flow " ++ shownId flow.element.id ++ " has a non-numeric probability " ++
      Text.quoted text⟩

namespace Run

/-! ## Recording -/

/-- Adds a record to the log. -/
def tell (run : Run) (record : LogRecord) : Run := { run with log := run.log.push record }

/-- Records a diagnostic, and reports its element. An element without an id is recorded but can
neither be told of nor reported. -/
def add (run : Run) (d : Diagnostic) : Progress Run :=
  let run := { run with diagnostics := run.diagnostics.push d }
  match d.element with
  | none => ⟨run.tell d.record, none⟩
  | some l =>
    match l.element.base? with
    | none => ⟨run, some (.lacks l.element.label "id")⟩
    | some _ => ⟨{ run.tell d.record with reported := run.reported.push l }, none⟩

/-- Takes in what a rule says. Every problem that a rule finds is an error. -/
def note (run : Run) : Remark → Run
  | .problem p element => (run.add ⟨.error, p, element⟩).result
  | .oddProbability flow text => run.tell (oddProbabilityRecord flow text)

/-- Takes in remarks one after the other. -/
def noteAll (run : Run) (remarks : List Remark) : Run := remarks.foldl note run

/-! ## Standing -/

/-- Enters a process, or none. One without attributes is entered too, but cannot say whether it is
ad hoc, so that this stays as it was. -/
def enterProcess (run : Run) (process : Option Located) : Progress Run :=
  let run := { run with process }
  match process with
  | none => ⟨{ run with adHoc := false }, none⟩
  | some l =>
    match l.element.base? with
    | none => ⟨run, some (.lacks l.element.label "extension_attributes")⟩
    | some _ => ⟨{ run with adHoc := l.element.isAdHoc }, none⟩

/-- Enters a container, or leaves it unknown. -/
def enterContainer (run : Run) (container : Surroundings) : Run := { run with container }

/-! ## Sequence flows -/

/-- The index of a container: the one built before, or a new one. -/
def indexOf (run : Run) (owner : Owner) : FlowIndex :=
  (run.flowIndexes.lookup owner.place).getD (sequenceFlowsById owner.children)

/-- The sequence flow of an id in the container being checked. -/
def flow? (run : Run) (id : String) : Option Placed :=
  run.container.owner?.bind fun owner => (run.indexOf owner).lookup id

/-- Keeps the index of the container being checked. -/
def keepIndex (run : Run) : Run :=
  match run.container.owner? with
  | none => run
  | some owner =>
    match run.flowIndexes.lookup owner.place with
    | some _ => run
    | none => { run with flowIndexes := (owner.place, run.indexOf owner) :: run.flowIndexes }

/-- Looks up the sequence flow of an id in the container being checked. -/
def resolveFlow (run : Run) (id : String) : Except Misfit (Option Placed × Run) :=
  match run.container.noFlows with
  | some misfit => .error misfit
  | none =>
    let run := run.keepIndex
    .ok (run.flow? id, run)

/-! ## Rules -/

/-- What rules may read in this state. -/
def scope (run : Run) : Scope :=
  ⟨run.settings.strictSimulation, run.adHoc, run.flow?, run.container.noFlows⟩

/-- Applies one rule to an element. -/
def applyRule (run : Run) (l : Located) (rule : NodeRule) : Progress Run :=
  let run := if rule.looksUp l.element then run.keepIndex else run
  (rule.remarks run.scope l).map run.noteAll

/-- Applies the rules for an element. -/
def applyRules (run : Run) (l : Located) : Progress Run :=
  Progress.steps (applyRule · l ·) run l.element.rules

def applyProcessRule (run : Run) (process : Located) (rule : ProcessRule) : Progress Run :=
  (rule.remarks process.element).map run.noteAll

/-! ## What rules keep -/

@[simp] theorem container_tell (run : Run) (record : LogRecord) :
    (run.tell record).container = run.container := rfl

@[simp] theorem container_add (run : Run) (d : Diagnostic) :
    (run.add d).result.container = run.container := by
  unfold add
  split
  · rfl
  · split <;> rfl

@[simp] theorem container_note (run : Run) (remark : Remark) :
    (run.note remark).container = run.container := by
  cases remark <;> simp [note]

@[simp] theorem container_noteAll (run : Run) (remarks : List Remark) :
    (run.noteAll remarks).container = run.container := by
  unfold noteAll
  induction remarks generalizing run with
  | nil => rfl
  | cons remark remarks ih => simp [ih]

@[simp] theorem container_keepIndex (run : Run) : run.keepIndex.container = run.container := by
  unfold keepIndex
  split
  · rfl
  · split <;> rfl

@[simp] theorem container_applyRule (run : Run) (l : Located) (rule : NodeRule) :
    (run.applyRule l rule).result.container = run.container := by
  unfold applyRule
  split <;> simp [Progress.map]

theorem misfit_applyRule {run : Run} (h : run.container.noFlows = none) {p : Placed}
    {rule : NodeRule} (hr : rule.appliesTo p.element.kind = true) :
    (run.applyRule p.located rule).misfit = none := by
  refine NodeRule.misfit_remarks ?_ hr
  split <;> simp [scope, h]

/-- Where sequence flows can be looked up, all the rules for a flow element are applied. -/
theorem applyRules_placed {run : Run} (h : run.container.noFlows = none) (p : Placed) :
    run.applyRules p.located =
      ⟨p.located.element.rules.foldl (fun run rule => (run.applyRule p.located rule).result) run,
        none⟩ :=
  Progress.steps_eq_foldl (P := fun run => run.container.noFlows = none)
    (fun _ ha _ hr => ⟨misfit_applyRule ha (NodeRule.mem_rules hr), by simpa using ha⟩) h

end Run

end BpmnAudit
