import BpmnAudit.Proofs.Run.Reachable

/-!
# Steps of a run

Whatever is done with a run is done in a few steps: records are told, diagnostics added, indexes
kept, containers and processes entered. Rules take the first three only, walks enter containers
too, and audits enter processes. So a property that such steps keep is kept by rules, walks and
audits (`Run.RulesKeep`, `Run.WalksKeep`, `Run.AuditsKeep`), also where a misfit stops them halfway,
and with them by every action but those that set something directly (`Run.AuditsKeep.perform`).

A diagnostic is added, and a process entered, only of an element that can be told of; an expression
is none.
-/

namespace BpmnAudit

/-- Nothing, or an element that can be told of: one with the fields of every element. -/
def Tellable (element : Option Located) : Prop :=
  ∀ l, element = some l → l.element.base?.isSome = true

theorem Tellable.none : Tellable none := fun l h => absurd h (Option.some_ne_none l).symm

theorem tellable_some {l : Located} (h : l.element.base?.isSome = true) : Tellable (some l) :=
  fun _ hl => Option.some.inj hl ▸ h

/-! ## Remarks -/

/-- A remark is about nothing in particular or about an element that can be told of. -/
def Remark.Reportable : Remark → Prop
  | .problem _ element => Tellable element
  | .oddProbability .. => True

/-- Of an element that cannot be told of, rules say nothing. -/
theorem NodeRule.remarks_eq_nil {scope : Scope} {l : Located} (h : l.element.base? = none)
    (rule : NodeRule) : (rule.remarks scope l).result = [] := by
  obtain ⟨place, e⟩ := l
  cases e with
  | expression x => cases rule <;> rfl
  | _ => cases h

theorem Located.reportable_of_mem_remarks {l : Located} (h : l.element.base?.isSome = true)
    {problems : List Problem} : ∀ remark ∈ l.remarks problems, remark.Reportable := by
  intro remark hr
  obtain ⟨p, -, rfl⟩ := List.mem_map.mp hr
  exact tellable_some h

theorem Branch.reportable_of_mem_remarks {branch : Branch} :
    ∀ remark ∈ branch.remarks, remark.Reportable := by
  cases branch with
  | silent | weighted => exact fun _ hr => absurd hr List.not_mem_nil
  | odd flow text =>
    intro remark hr
    obtain rfl : remark = _ := List.mem_singleton.mp hr
    trivial
  | unweighted flow =>
    intro remark hr
    obtain rfl : remark = _ := List.mem_singleton.mp hr
    exact tellable_some rfl

/-- What rules say, they say of elements that can be told of. -/
theorem NodeRule.reportable_of_mem_remarks {scope : Scope} {l : Located} {rule : NodeRule} :
    ∀ remark ∈ (rule.remarks scope l).result, remark.Reportable := by
  cases hb : l.element.base? with
  | none =>
    rw [remarks_eq_nil hb]
    exact fun _ hr => absurd hr List.not_mem_nil
  | some base =>
    have known : l.element.base?.isSome = true := by rw [hb]; rfl
    have own : ∀ remark ∈ ((rule.problems scope.strict scope.adHoc l.element).map
        l.remarks).result, remark.Reportable := Located.reportable_of_mem_remarks known
    unfold remarks
    dsimp only
    split
    · refine Progress.forall_mem_append own ?_
      unfold probabilityProgress
      split
      · split <;> exact fun _ hr => absurd hr List.not_mem_nil
      · refine List.forall_mem_append.mpr
          ⟨fun remark hr => ?_, Located.reportable_of_mem_remarks known⟩
        obtain ⟨branch, -, hr⟩ := List.mem_flatMap.mp hr
        exact branch.reportable_of_mem_remarks remark hr
    · exact own

theorem ProcessRule.reportable_of_mem_remarks {e : Element} {rule : ProcessRule} :
    ∀ remark ∈ (rule.remarks e).result, remark.Reportable := by
  intro remark hr
  obtain ⟨p, -, rfl⟩ := List.mem_map.mp hr
  exact Tellable.none

/-- The rules for processes stop at an element that cannot be told of. -/
theorem Run.misfit_processRules {run : Run} {l : Located} (h : l.element.base? = none) :
    (Progress.steps (applyProcessRule · l ·) run ProcessRule.all).misfit ≠ none := by
  obtain ⟨place, e⟩ := l
  cases e with
  | expression x => exact Option.some_ne_none _
  | _ => cases h

namespace Run

/-! ## What steps keep -/

/-- A property that the steps of rules keep. -/
structure RulesKeep (P : Run → Prop) : Prop where
  tell : ∀ {run}, P run → ∀ record, P (run.tell record)
  add : ∀ {run}, P run → ∀ {d : Diagnostic}, Tellable d.element → P (run.add d).result
  keepIndex : ∀ {run}, P run → P run.keepIndex

/-- A property that the steps of walks keep. -/
structure WalksKeep (P : Run → Prop) : Prop extends RulesKeep P where
  enterContainer : ∀ {run}, P run → ∀ container, P (run.enterContainer container)

/-- A property that the steps of audits keep. -/
structure AuditsKeep (P : Run → Prop) : Prop extends WalksKeep P where
  enterProcess : ∀ {run}, P run → ∀ {process}, Tellable process →
    P (run.enterProcess process).result

variable {P : Run → Prop} {run : Run}

namespace RulesKeep

variable (h : RulesKeep P)

include h

theorem note (hr : P run) {remark : Remark} (known : remark.Reportable) : P (run.note remark) := by
  cases remark with
  | oddProbability flow text => exact h.tell hr _
  | problem p element => exact h.add hr known

theorem noteAll (hr : P run) {remarks : List Remark}
    (known : ∀ remark ∈ remarks, remark.Reportable) : P (run.noteAll remarks) := by
  unfold Run.noteAll
  induction remarks generalizing run with
  | nil => exact hr
  | cons remark remarks ih =>
    obtain ⟨first, rest⟩ := List.forall_mem_cons.mp known
    exact ih (h.note hr first) rest

theorem applyRule (hr : P run) (l : Located) (rule : NodeRule) :
    P (run.applyRule l rule).result := by
  unfold Run.applyRule
  split
  · exact h.noteAll (h.keepIndex hr) NodeRule.reportable_of_mem_remarks
  · exact h.noteAll hr NodeRule.reportable_of_mem_remarks

/-- Rules keep what their steps keep. -/
theorem applyRules (hr : P run) (l : Located) : P (run.applyRules l).result :=
  Progress.steps_induction (P := P) (fun _ ha rule _ => h.applyRule ha l rule) hr

theorem applyProcessRule (hr : P run) (l : Located) (rule : ProcessRule) :
    P (run.applyProcessRule l rule).result :=
  h.noteAll hr ProcessRule.reportable_of_mem_remarks

theorem processRules (hr : P run) (l : Located) :
    P (Progress.steps (Run.applyProcessRule · l ·) run ProcessRule.all).result :=
  Progress.steps_induction (P := P) (fun _ ha rule _ => h.applyProcessRule ha l rule) hr

end RulesKeep

namespace WalksKeep

variable (h : WalksKeep P)

include h

/-- Walks keep what their steps keep. -/
theorem walk (hr : P run) (owner : Owner) : P (run.walk owner).2 := by
  have visits : ∀ (visits : List Visit) {run : Run}, P run → P (visits.foldl Run.visit run) := by
    intro visits
    induction visits with
    | nil => exact fun hr => hr
    | cons v visits ih => exact fun hr => ih (h.applyRules (h.enterContainer hr _) _)
  rw [walk_eq]
  exact h.tell (visits owner.visits hr) _

theorem walkThrough (hr : P run) {l : Located} {visited : Nat} {after : Run}
    (hw : run.walkThrough l = .ok (visited, after)) : P after := by
  unfold Run.walkThrough at hw
  cases ho : l.asOwner with
  | error misfit =>
    rw [ho] at hw
    cases hw
  | ok owner =>
    rw [ho] at hw
    obtain rfl : (run.walk owner).2 = after := congrArg Prod.snd (Except.ok.inj hw)
    exact h.walk hr owner

end WalksKeep

namespace AuditsKeep

variable (h : AuditsKeep P)

include h

/-- An audit of a process keeps what its steps keep, also an audit of an element that is none. -/
theorem auditProcess (hr : P run) (l : Located) : P (run.auditProcess l).result := by
  unfold Run.auditProcess
  refine Progress.andThen_of_misfit (h.processRules hr l) fun hnone => ?_
  have known : Tellable (some l) := by
    refine tellable_some (Option.isSome_iff_ne_none.mpr fun hb => ?_)
    exact misfit_processRules hb hnone
  refine Progress.andThen_of_misfit (h.enterProcess (h.processRules hr l) known) fun _ => ?_
  have entered := h.enterProcess (h.processRules hr l) known
  split
  · exact entered
  · next hw => exact h.tell (h.walkThrough entered hw) _

theorem auditDefinitions (hr : P run) (place : Place) (d : Definitions) :
    P (run.auditDefinitions place d) := by
  unfold Run.auditDefinitions
  generalize d.locatedProcesses place = processes
  induction processes generalizing run with
  | nil => exact hr
  | cons process processes ih => exact ih (h.auditProcess hr process)

theorem auditDocument (hr : P run) (l : Located) : P (run.auditDocument l).result := by
  unfold Run.auditDocument
  split
  · exact h.auditDefinitions hr _ _
  · exact hr

end AuditsKeep

end Run

/-! ## Actions -/

/-- An action that adds diagnostics or enters processes does so of elements that can be told of. -/
def Action.Proper : Action → Prop
  | .add _ _ element | .enterProcess element => Tellable element
  | _ => True

/-- Proper actions keep what the steps of audits keep; leave to be ad hoc, which can be set
directly, has to be looked at apart. -/
theorem Run.AuditsKeep.perform {P : Run → Prop} (h : AuditsKeep P) {run : Run} (hr : P run)
    {action : Action} (proper : action.Proper)
    (set : ∀ adHoc, action = .setAdHoc adHoc → P { run with adHoc }) :
    P (run.perform action) := by
  cases action with
  | tell record => exact h.tell hr record
  | add level problem element => exact h.add hr proper
  | enterProcess process => exact h.enterProcess hr proper
  | enterContainer container => exact h.enterContainer hr _
  | setAdHoc adHoc => exact set adHoc rfl
  | resolveFlow id =>
    rw [Run.perform, Run.resolveFlow]
    cases run.container.noFlows with
    | none => exact h.keepIndex hr
    | some misfit => exact hr
  | applyRule l rule => exact h.applyRule hr l rule
  | applyRules l => exact h.applyRules hr l
  | applyProcessRule l rule => exact h.applyProcessRule hr l rule
  | walk l =>
    rw [Run.perform]
    split
    · next hw => exact h.walkThrough hr hw
    · exact hr
  | auditProcess l => exact h.auditProcess hr l
  | auditDocument l => exact h.auditDocument hr l

end BpmnAudit
