import BpmnAudit.Proofs.Run.Audit

/-!
# Reachable runs

A run is the state of everything that can be done with it: elements can be entered, checked, walked
through and audited in any order, and diagnostics added. Whatever was done with a run that only
ever saw documents at hand, it is sound for them (`Run.Reachable.sound`), also where an action
stopped at a misfit halfway.
-/

namespace BpmnAudit

/-! ## Invariants of progress -/

namespace Progress

variable {α β : Type} {P : α → Prop}

/-- What holds so far holds after the next part, if that keeps it wherever there was no misfit. -/
theorem andThen_of_misfit {p : Progress α} {next : α → Progress α} (hp : P p.result)
    (hnext : p.misfit = none → P (next p.result).result) : P (p.andThen next).result := by
  unfold andThen
  split
  · next hnone => exact hnext hnone
  · exact hp

theorem andThen_induction {p : Progress α} {next : α → Progress α} (hp : P p.result)
    (hnext : ∀ a, P a → P (next a).result) : P (p.andThen next).result :=
  andThen_of_misfit hp fun _ => hnext p.result hp

/-- What each step keeps holds after steps, also after steps up to a misfit. -/
theorem steps_induction {step : α → β → Progress α} {items : List β}
    (h : ∀ a, P a → ∀ item ∈ items, P (step a item).result) {start : α} (hs : P start) :
    P (steps step start items).result := by
  have key : ∀ (items : List β) (p : Progress α), P p.result →
      (∀ a, P a → ∀ item ∈ items, P (step a item).result) →
      P (items.foldl (fun p item => p.andThen (step · item)) p).result := by
    intro items
    induction items with
    | nil => exact fun p hp _ => hp
    | cons item items ih =>
      intro p hp h
      refine ih _ (andThen_induction hp fun a ha => h a ha item List.mem_cons_self) ?_
      exact fun a ha i hi => h a ha i (List.mem_cons_of_mem _ hi)
  exact key items ⟨start, none⟩ hs h

end Progress

/-! ## Actions -/

/-- What can be done with a run. -/
inductive Action where
  | tell (record : LogRecord)
  | add (level : Level) (problem : Problem) (element : Option Located)
  | enterProcess (process : Option Located)
  | enterContainer (container : Option Located)
  | setAdHoc (adHoc : Bool)
  | resolveFlow (id : String)
  | applyRule (l : Located) (rule : NodeRule)
  | applyRules (l : Located)
  | applyProcessRule (l : Located) (rule : ProcessRule)
  | walk (l : Located)
  | auditProcess (l : Located)
  | auditDocument (l : Located)

/-- The elements that an action is about. -/
def Action.elements : Action → List Located
  | tell _ | setAdHoc _ | resolveFlow _ => []
  | add _ _ element => element.toList
  | enterProcess process => process.toList
  | enterContainer container => container.toList
  | applyRule l _ | applyRules l | applyProcessRule l _ | walk l | auditProcess l
  | auditDocument l => [l]

namespace Run

/-- The run after an action; one that cannot begin leaves the run as it is. -/
def perform (run : Run) : Action → Run
  | .tell record => run.tell record
  | .add level problem element => (run.add ⟨level, problem, element⟩).result
  | .enterProcess process => (run.enterProcess process).result
  | .enterContainer container =>
    run.enterContainer ((container.map Located.surroundings).getD .unknown)
  | .setAdHoc adHoc => { run with adHoc }
  | .resolveFlow id =>
    match run.resolveFlow id with
    | .ok (_, after) => after
    | .error _ => run
  | .applyRule l rule => (run.applyRule l rule).result
  | .applyRules l => (run.applyRules l).result
  | .applyProcessRule l rule => (run.applyProcessRule l rule).result
  | .walk l =>
    match run.walkThrough l with
    | .ok (_, after) => after
    | .error _ => run
  | .auditProcess l => (run.auditProcess l).result
  | .auditDocument l => (run.auditDocument l).result

/-- The runs that actions on documents at hand lead to. -/
inductive Reachable (documents : Documents) : Run → Prop
  | start (settings : Settings) : Reachable documents { settings }
  | perform {run : Run} (h : Reachable documents run) (action : Action)
    (hin : ∀ l ∈ action.elements, l.IsIn documents) : Reachable documents (run.perform action)

/-! ## What actions keep -/

variable {documents : Documents} {run : Run}

theorem Sound.enterProcess (h : run.Sound documents) (process : Option Located) :
    (run.enterProcess process).result.Sound documents := by
  unfold Run.enterProcess
  split
  · exact ⟨h.container, h.indexes⟩
  · split <;> exact ⟨h.container, h.indexes⟩

theorem Sound.enterLocated (h : run.Sound documents) {l : Located} (hl : l.IsIn documents) :
    (run.enterContainer l.surroundings).Sound documents := by
  refine ⟨fun owner ho => ?_, h.indexes⟩
  have found : l.owner? = some owner := by
    revert ho
    show l.surroundings.owner? = some owner → _
    unfold Located.surroundings
    cases l.owner? with
    | none => exact nofun
    | some o => exact fun ho => ho
  exact hl.owner found

theorem Sound.applyProcessRule (h : run.Sound documents) (l : Located) (rule : ProcessRule) :
    (run.applyProcessRule l rule).result.Sound documents := (h.noteAll _).sound

theorem Sound.walkThrough (h : run.Sound documents) {l : Located} (hl : l.IsIn documents)
    {visited : Nat} {after : Run} (hw : run.walkThrough l = .ok (visited, after)) :
    after.Sound documents := by
  unfold Run.walkThrough Located.asOwner at hw
  split at hw
  · next owner ho =>
    obtain rfl : (run.walk owner).2 = after := congrArg Prod.snd (Except.ok.inj hw)
    exact (h.walk (hl.owner ho)).sound
  · cases hw

/-- An audit of a process keeps runs sound, even of an element that is none. -/
theorem Sound.auditLocated (h : run.Sound documents) {l : Located} (hl : l.IsIn documents) :
    (run.auditProcess l).result.Sound documents := by
  unfold Run.auditProcess
  have ruled : (Progress.steps (Run.applyProcessRule · l ·) run ProcessRule.all).result.Sound
      documents :=
    Progress.steps_induction (fun _ ha rule _ => ha.applyProcessRule l rule) h
  refine Progress.andThen_induction ruled fun run hr => ?_
  refine Progress.andThen_induction (hr.enterProcess (some l)) fun run he => ?_
  split
  · exact he
  · next hw => exact ((he.walkThrough hl hw).tell _).sound

/-- Every action keeps runs sound. -/
theorem Sound.perform (h : run.Sound documents) (action : Action)
    (hin : ∀ l ∈ action.elements, l.IsIn documents) :
    (run.perform action).Sound documents := by
  cases action with
  | tell record => exact (h.tell record).sound
  | add level problem element => exact (h.add _).sound
  | enterProcess process => exact h.enterProcess process
  | enterContainer container =>
    cases container with
    | none => exact ⟨nofun, h.indexes⟩
    | some l => exact h.enterLocated (hin l (by simp [Action.elements]))
  | setAdHoc adHoc => exact ⟨h.container, h.indexes⟩
  | resolveFlow id =>
    rw [Run.perform, Run.resolveFlow]
    cases run.container.noFlows with
    | none => exact h.keepIndex
    | some misfit => exact h
  | applyRule l rule => exact (h.applyRule l rule).sound
  | applyRules l =>
    exact Progress.steps_induction (fun _ ha rule _ => (ha.applyRule l rule).sound) h
  | applyProcessRule l rule => exact h.applyProcessRule l rule
  | walk l =>
    have hl := hin l (by simp [Action.elements])
    rw [Run.perform]
    split
    · next hw => exact h.walkThrough hl hw
    · exact h
  | auditProcess l => exact h.auditLocated (hin l (by simp [Action.elements]))
  | auditDocument l =>
    have hl := hin l (by simp [Action.elements])
    rw [Run.perform, Run.auditDocument]
    split
    · next d hd => exact (h.auditDefinitions (by rw [← hd]; exact hl)).sound
    · exact h

/-- Every reachable run is sound. -/
theorem Reachable.sound (h : run.Reachable documents) : run.Sound documents := by
  induction h with
  | start settings => exact ⟨nofun, nofun⟩
  | perform _ action hin ih => exact ih.perform action hin

end Run

end BpmnAudit
