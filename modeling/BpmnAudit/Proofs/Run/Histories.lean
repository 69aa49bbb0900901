import BpmnAudit.Proofs.Run.Reports

/-!
# Histories of runs

What holds of a run whatever was done with it, action after action in any order, from a start at
which nothing was found or reported. What was found stays, and what is found later comes after it;
the host has heard of the elements of all that was found and of nothing else; rules and records do
not move the run, and a walk moves it inside its process only; and unless leave to be ad hoc was set
directly, the run has it exactly where its process gives it. All of this is one statement about a
history and the action after it (`Run.invariants_of_history`). Each part follows from what single
steps keep.
-/

namespace BpmnAudit

/-- Whether a run has leave to be ad hoc from a process: none gives none. -/
def isAdHocProcess (process : Option Located) : Bool := process.any (·.element.isAdHoc)

/-- An action that only applies rules, records something or looks something up. -/
def Action.StandsStill : Action → Prop
  | .tell _ | .add .. | .resolveFlow _ | .applyRule .. | .applyRules _
  | .applyProcessRule .. => True
  | .enterProcess _ | .enterContainer _ | .setAdHoc _ | .walk _ | .auditProcess _
  | .auditDocument _ => False

namespace Run

/-- The run after actions, one after the other. -/
def performAll (run : Run) (actions : List Action) : Run := actions.foldl perform run

/-- A run has leave to be ad hoc exactly if its process gives it. -/
def Governed (run : Run) : Prop := run.adHoc = isAdHocProcess run.process

/-! ## What is found stays -/

/-- A run begins with what another one found. -/
def Extends (before after : Run) : Prop :=
  before.diagnostics.toList <+: after.diagnostics.toList

theorem extends_add (run : Run) (d : Diagnostic) : run.Extends (run.add d).result := by
  have pushed : run.diagnostics.toList <+: (run.diagnostics.push d).toList := by
    rw [Array.toList_push]
    exact List.prefix_append _ _
  unfold Extends Run.add
  split
  · exact pushed
  · split <;> exact pushed

theorem diagnostics_keepIndex (run : Run) : run.keepIndex.diagnostics = run.diagnostics := by
  unfold keepIndex
  split
  · rfl
  · split <;> rfl

theorem diagnostics_enterProcess (run : Run) (process : Option Located) :
    (run.enterProcess process).result.diagnostics = run.diagnostics := by
  unfold enterProcess
  split
  · rfl
  · split <;> rfl

theorem auditsKeep_extends (before : Run) : AuditsKeep before.Extends where
  tell h _ := h
  add {run} h d _ := List.IsPrefix.trans h (run.extends_add d)
  keepIndex {run} h := by
    unfold Extends
    rw [run.diagnostics_keepIndex]
    exact h
  enterContainer h _ := h
  enterProcess {run} h process _ := by
    unfold Extends
    rw [run.diagnostics_enterProcess]
    exact h

/-! ## Where a run stands -/

/-- Two runs have the same process, and both of them leave to be ad hoc or neither. -/
structure SameProcess (before after : Run) : Prop where
  process : after.process = before.process
  adHoc : after.adHoc = before.adHoc

/-- Two runs stand inside the same process and container. -/
structure SamePlace (before after : Run) : Prop extends SameProcess before after where
  container : after.container = before.container

theorem SamePlace.refl (run : Run) : run.SamePlace run := ⟨⟨rfl, rfl⟩, rfl⟩

theorem SamePlace.trans {run mid after : Run} (h : run.SamePlace mid) (h' : mid.SamePlace after) :
    run.SamePlace after :=
  ⟨⟨h'.process.trans h.process, h'.adHoc.trans h.adHoc⟩, h'.container.trans h.container⟩

theorem samePlace_add (run : Run) (d : Diagnostic) : run.SamePlace (run.add d).result := by
  unfold add
  split
  · exact ⟨⟨rfl, rfl⟩, rfl⟩
  · split <;> exact ⟨⟨rfl, rfl⟩, rfl⟩

theorem samePlace_keepIndex (run : Run) : run.SamePlace run.keepIndex := by
  unfold keepIndex
  split
  · exact .refl run
  · split <;> exact ⟨⟨rfl, rfl⟩, rfl⟩

theorem rulesKeep_samePlace (before : Run) : RulesKeep before.SamePlace where
  tell h _ := ⟨⟨h.process, h.adHoc⟩, h.container⟩
  add {run} h d _ := h.trans (run.samePlace_add d)
  keepIndex {run} h := h.trans run.samePlace_keepIndex

/-- A walk moves a run inside its process only. -/
theorem walksKeep_sameProcess (before : Run) : WalksKeep before.SameProcess where
  tell h _ := ⟨h.process, h.adHoc⟩
  add {run} h d _ :=
    have same := (run.samePlace_add d).toSameProcess
    ⟨same.process.trans h.process, same.adHoc.trans h.adHoc⟩
  keepIndex {run} h :=
    have same := run.samePlace_keepIndex.toSameProcess
    ⟨same.process.trans h.process, same.adHoc.trans h.adHoc⟩
  enterContainer h _ := ⟨h.process, h.adHoc⟩

theorem samePlace_perform (run : Run) {action : Action} (still : action.StandsStill)
    (proper : action.Proper) : run.SamePlace (run.perform action) := by
  have keep := run.rulesKeep_samePlace
  have here := SamePlace.refl run
  cases action with
  | tell record => exact keep.tell here record
  | add level problem element => exact keep.add here proper
  | resolveFlow id =>
    rw [Run.perform, Run.resolveFlow]
    cases run.container.noFlows with
    | none => exact keep.keepIndex here
    | some misfit => exact here
  | applyRule l rule => exact keep.applyRule here l rule
  | applyRules l => exact keep.applyRules here l
  | applyProcessRule l rule => exact keep.applyProcessRule here l rule
  | enterProcess | enterContainer | setAdHoc | walk | auditProcess | auditDocument => cases still

theorem sameProcess_walk (run : Run) (l : Located) :
    run.SameProcess (run.perform (.walk l)) := by
  rw [Run.perform]
  split
  · next hw => exact run.walksKeep_sameProcess.walkThrough ⟨rfl, rfl⟩ hw
  · exact ⟨rfl, rfl⟩

/-! ## Leave to be ad hoc -/

/-- Entering a process, or none, sets leave to be ad hoc as the process gives it. -/
theorem governed_enterProcess (run : Run) {process : Option Located} (known : Tellable process) :
    (run.enterProcess process).result.Governed := by
  cases process with
  | none => rfl
  | some l =>
    have base := known l rfl
    unfold enterProcess
    dsimp only
    split
    · next hb =>
      rw [hb] at base
      cases base
    · rfl

theorem governed_of_sameProcess {run after : Run} (h : run.Governed)
    (same : run.SameProcess after) : after.Governed := by
  unfold Governed at h ⊢
  rw [same.adHoc, same.process, h]

theorem auditsKeep_governed : AuditsKeep Governed where
  tell h _ := h
  add {run} h d _ := governed_of_sameProcess h (run.samePlace_add d).toSameProcess
  keepIndex {run} h := governed_of_sameProcess h run.samePlace_keepIndex.toSameProcess
  enterContainer h _ := h
  enterProcess {run} _ _ known := run.governed_enterProcess known

/-! ## Histories -/

theorem AuditsKeep.performAll {P : Run → Prop} (h : AuditsKeep P) {run : Run} (hr : P run)
    {actions : List Action} (proper : ∀ action ∈ actions, action.Proper)
    (set : ∀ {run adHoc}, P run → .setAdHoc adHoc ∈ actions → P { run with adHoc }) :
    P (run.performAll actions) := by
  induction actions generalizing run with
  | nil => exact hr
  | cons action actions ih =>
    obtain ⟨first, rest⟩ := List.forall_mem_cons.mp proper
    have performed : P (run.perform action) := by
      refine h.perform hr first fun adHoc heq => set hr ?_
      rw [heq]
      exact List.mem_cons_self
    exact ih performed rest fun hr hmem => set hr (List.mem_cons_of_mem _ hmem)

/-- After any history of a run that begins with nothing found and nothing reported, and through the
action after it: the host has heard of the elements of what was found, in order; what was found
stays; rules, records and look-ups do not move the run, and a walk moves it inside its process; and
unless leave to be ad hoc is set directly, the run has it exactly if its process gives it. -/
theorem invariants_of_history {run : Run} (unfound : run.diagnostics = #[])
    (unreported : run.reported = #[]) {actions : List Action} {action : Action}
    (proper : ∀ a ∈ actions ++ [action], a.Proper) :
    let before := run.performAll actions
    let after := before.perform action
    before.reported.toList = before.diagnostics.toList.filterMap (·.element) ∧
      after.reported.toList = after.diagnostics.toList.filterMap (·.element) ∧
      before.diagnostics.toList <+: after.diagnostics.toList ∧
      (action.StandsStill → after.process = before.process ∧ after.adHoc = before.adHoc ∧
        after.container = before.container) ∧
      (∀ l, action = .walk l → after.process = before.process ∧ after.adHoc = before.adHoc) ∧
      (run.adHoc = isAdHocProcess run.process → (∀ adHoc, .setAdHoc adHoc ∉ actions ++ [action]) →
        before.adHoc = isAdHocProcess before.process ∧
          after.adHoc = isAdHocProcess after.process) ∧
      (∀ process, action = .enterProcess process →
        after.adHoc = isAdHocProcess after.process) := by
  intro before after
  obtain ⟨past, now⟩ := List.forall_mem_append.mp proper
  rw [List.forall_mem_singleton] at now
  have begun : run.Reports := by
    unfold Reports
    rw [unfound, unreported]
    rfl
  have reports : before.Reports := auditsKeep_reports.performAll begun past fun h _ => h
  refine ⟨reports, auditsKeep_reports.perform reports now fun _ _ => reports, ?_, ?_, ?_, ?_, ?_⟩
  · exact before.auditsKeep_extends.perform List.prefix_rfl now fun _ _ => List.prefix_rfl
  · intro still
    have same := before.samePlace_perform still now
    exact ⟨same.process, same.adHoc, same.container⟩
  · rintro l rfl
    have same := before.sameProcess_walk l
    exact ⟨same.process, same.adHoc⟩
  · intro governed unset
    have kept : before.Governed := by
      refine auditsKeep_governed.performAll governed past fun {_ adHoc} _ hmem => ?_
      exact absurd (List.mem_append_left _ hmem) (unset adHoc)
    refine ⟨kept, auditsKeep_governed.perform kept now fun adHoc heq => absurd ?_ (unset adHoc)⟩
    exact heq ▸ List.mem_append_right _ List.mem_cons_self
  · rintro process rfl
    exact before.governed_enterProcess now

/-- An ad hoc process with a task in it. -/
def adHocTask : Located where
  place := [0]
  element := .root (.process {
    attributes := .ofList [("adHoc", "true")]
    flowElements := [.leaf (.task { id := some "t" })] })

/-- A history that enters the process, adds a warning about it and applies the rules for an end
event, and then a walk through the process. -/
theorem invariants_of_history_adHocTask :
    let endEvent : Located := ⟨[1, 0], .flow (.leaf (.endEvent { id := some "e" }))⟩
    let actions : List Action :=
      [.enterProcess (some adHocTask), .add .warning (.stated "odd") (some adHocTask),
        .applyRules endEvent]
    let before := ({} : Run).performAll actions
    let after := before.perform (.walk adHocTask)
    before.diagnostics.toList.map (·.message) = ["odd", "End node has no incoming connections"] ∧
      before.reported.toList = [adHocTask, endEvent] ∧
      after.reported.toList = after.diagnostics.toList.filterMap (·.element) ∧
      before.diagnostics.toList <+: after.diagnostics.toList ∧
      after.process = some adHocTask ∧ after.adHoc = true := by
  intro endEvent actions before after
  have proper : ∀ a ∈ actions ++ [.walk adHocTask], a.Proper := by
    intro a ha
    simp only [actions, List.cons_append, List.nil_append, List.mem_cons, List.not_mem_nil,
      or_false] at ha
    rcases ha with rfl | rfl | rfl | rfl
    · exact tellable_some rfl
    · exact tellable_some rfl
    · trivial
    · trivial
  have unset : ∀ adHoc, .setAdHoc adHoc ∉ actions ++ [.walk adHocTask] := by
    intro adHoc h
    simp [actions] at h
  have unfound : ({} : Run).diagnostics = #[] := rfl
  obtain ⟨first, reported, kept, -, moved, governed, -⟩ :=
    invariants_of_history unfound rfl proper
  obtain ⟨process, -⟩ := moved adHocTask rfl
  obtain ⟨-, adHoc⟩ := governed rfl unset
  have inside : after.process = some adHocTask := process.trans rfl
  refine ⟨by decide, first.trans (by decide), reported, kept, inside, ?_⟩
  rw [show after.adHoc = isAdHocProcess after.process from adHoc, inside]
  decide

end Run

end BpmnAudit
