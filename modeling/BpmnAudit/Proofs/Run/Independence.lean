import BpmnAudit.Proofs.Rules.Alike
import BpmnAudit.Proofs.Run.Reachable

/-!
# Audits do not influence each other

A run that has done anything whatever finds with a process what a run finds that was just begun.
So the findings of a document are those of its processes one after the other, and they do not
depend on what else is among its root elements: where the processes of two documents are the same,
so are the findings, seen from the processes that the elements are in
(`Definitions.map_fromProcess_audited`).
-/

namespace BpmnAudit

/-- What an audit of a process finds in a run that was just begun. -/
def Located.audited (settings : Settings) (l : Located) : List Diagnostic :=
  (({ settings } : Run).auditProcess l).result.diagnostics.toList

/-- What an audit of a document finds in a run that was just begun. -/
def Definitions.audited (settings : Settings) (d : Definitions) (n : Nat) : List Diagnostic :=
  (({ settings } : Run).auditDocument ⟨[n], .definitions d⟩).result.diagnostics.toList

/-- A diagnostic as seen from the process that its element is in: the place begins there. -/
def Diagnostic.fromProcess (x : Diagnostic) : Diagnostic :=
  { x with element := x.element.map fun l => ⟨l.place.dropLast.dropLast, l.element⟩ }

variable {documents : Documents}

theorem Run.sound_begun (settings : Settings) (documents : Documents) :
    ({ settings } : Run).Sound documents := ⟨nofun, nofun⟩

theorem Located.audited_eq (settings : Settings) {place : Place} {p : Process}
    (hp : Located.IsIn documents ⟨place, .root (.process p)⟩) :
    (⟨place, .root (.process p)⟩ : Located).audited settings = p.findings settings place :=
  ((Run.sound_begun settings documents).auditProcess hp).diagnostics

theorem Definitions.audited_eq (settings : Settings) (d : Definitions) (n : Nat) :
    d.audited settings n = d.findings settings [n] := by
  have here : Documents.at? (fun _ => some (.definitions d)) [n] = some (.definitions d) := rfl
  exact ((Run.sound_begun settings _).auditDefinitions here).diagnostics

theorem Located.audited_eq_processFindings (settings : Settings) {d : Definitions} {n : Nat}
    {l : Located} (h : l ∈ d.locatedProcesses [n]) :
    l.audited settings = l.processFindings settings := by
  have here : Documents.at? (fun _ => some (.definitions d)) [n] = some (.definitions d) := rfl
  have hl := Definitions.isIn_of_mem_locatedProcesses here h
  obtain ⟨i, p, -, rfl⟩ := Definitions.mem_locatedProcesses.mp h
  exact Located.audited_eq settings hl

/-! ## The same process in two documents -/

/-- Two elements are equal and stand alike below two places. -/
def Placed.SameBelow (outer outer' : Place) (p p' : Placed) : Prop :=
  p.element = p'.element ∧ ∃ inner, p.place = inner ++ outer ∧ p'.place = inner ++ outer'

theorem Owner.children_sameBelow {outer outer' inner : Place} {owner owner' : Owner}
    (he : owner.elements = owner'.elements) (hp : owner.place = inner ++ outer)
    (hp' : owner'.place = inner ++ outer') :
    List.Forall₂ (Placed.SameBelow outer outer') owner.children owner'.children := by
  unfold Owner.children
  rw [← he, List.forall₂_map_left_iff, List.forall₂_map_right_iff, List.forall₂_same]
  rintro ⟨e, i⟩ -
  refine ⟨rfl, i :: inner, ?_, ?_⟩
  · rw [hp, List.cons_append]
  · rw [hp', List.cons_append]

theorem Placed.matching_sameBelow (strict : Bool) (outer outer' : Place) :
    Placed.Matching strict (Placed.SameBelow outer outer') where
  alike := by
    rintro ⟨place, e⟩ ⟨place', e'⟩ ⟨he, -⟩
    obtain rfl : e = e' := he
    exact .refl strict e
  inside := by
    rintro ⟨place, e⟩ ⟨place', e'⟩ ⟨he, inner, hp, hp'⟩
    obtain rfl : e = e' := he
    exact Owner.children_sameBelow rfl hp hp'

theorem Diagnostic.fromProcess_eq {i n i' n' : Nat} {x x' : Diagnostic}
    (h : x.Corresponds (Placed.SameBelow [i, n] [i', n']) x') : x.fromProcess = x'.fromProcess := by
  cases h with
  | whole level problem => rfl
  | @element level problem p p' h =>
    obtain ⟨place, e⟩ := p
    obtain ⟨place', e'⟩ := p'
    obtain ⟨he, inner, hp, hp'⟩ := h
    obtain rfl : e = e' := he
    obtain rfl : place = inner ++ [i, n] := hp
    obtain rfl : place' = inner ++ [i', n'] := hp'
    simp [fromProcess, Placed.located, List.dropLast_append_of_ne_nil]

/-- A process has the same findings wherever it stands, seen from itself. -/
theorem Process.map_fromProcess_findings (settings : Settings) (p : Process) (i n i' n' : Nat) :
    (p.findings settings [i, n]).map Diagnostic.fromProcess =
      (p.findings settings [i', n']).map Diagnostic.fromProcess := by
  have below : List.Forall₂ (Diagnostic.Corresponds (Placed.SameBelow [i, n] [i', n']))
      ((p.owner [i, n]).findings settings p.isAdHoc)
      ((p.owner [i', n']).findings settings p.isAdHoc) :=
    Owner.findings_corresponds (Placed.matching_sameBelow _ _ _) rfl
      (Owner.children_sameBelow rfl (List.nil_append _).symm (List.nil_append _).symm)
  unfold Process.findings
  rw [List.map_append, List.map_append,
    map_eq_map_of_forall₂ (fun _ _ h => Diagnostic.fromProcess_eq h) below]

/-! ## Processes among root elements -/

theorem Definitions.locatedProcesses_processes (d : Definitions) (place : Place) :
    List.Forall₂ (fun l p => ∃ i, l = ⟨i :: place, .root (.process p)⟩)
      (d.locatedProcesses place) d.processes := by
  unfold locatedProcesses processes
  have key : ∀ (roots : List RootElement) (k : Nat),
      List.Forall₂ (fun l p => ∃ i, l = ⟨i :: place, .root (.process p)⟩)
        ((roots.zipIdx k).filterMap fun item =>
          item.1.process?.map fun p => (⟨item.2 :: place, .root (.process p)⟩ : Located))
        (roots.filterMap (·.process?)) := by
    intro roots
    induction roots with
    | nil => exact fun _ => .nil
    | cons r roots ih =>
      intro k
      rw [List.zipIdx_cons]
      cases hr : r.process? with
      | none => simpa [hr] using ih (k + 1)
      | some p => simpa [hr] using ih (k + 1)
  exact key d.rootElements 0

theorem Definitions.map_elements_owners (d : Definitions) (place : Place) :
    (d.owners place).map (·.elements) = d.processes.map (·.flowElements) := by
  have h := d.locatedProcesses_processes place
  unfold owners
  generalize d.locatedProcesses place = ls at h ⊢
  generalize d.processes = ps at h ⊢
  induction h with
  | nil => rfl
  | cons h _ ih =>
    obtain ⟨i, rfl⟩ := h
    exact congrArg (_ :: ·) ih

/-- The findings of a document are those of its processes one after the other, whatever else is
among its root elements and wherever they stand. -/
theorem Definitions.map_fromProcess_audited (settings : Settings) (d : Definitions) (n : Nat) :
    (d.audited settings n).map Diagnostic.fromProcess =
      d.processes.flatMap fun p => (p.findings settings [0, 0]).map Diagnostic.fromProcess := by
  rw [audited_eq, findings, List.map_flatMap, ← List.forall₂_eq_eq_eq]
  refine List.rel_flatMap (d.locatedProcesses_processes [n]) ?_
  rintro l p ⟨i, rfl⟩
  rw [List.forall₂_eq_eq_eq]
  exact p.map_fromProcess_findings settings i n 0 0

/-! ## Reachable runs -/

namespace Run

variable {run : Run}

theorem Sound.misfit_auditProcess (h : run.Sound documents) (place : Place) (p : Process) :
    (run.auditProcess ⟨place, .root (.process p)⟩).misfit = none := by
  obtain ⟨ruled, hruled, -⟩ := h.processRules place p
  unfold Run.auditProcess
  rw [hruled]
  rfl

/-- Whatever a run has done, with a process and with a document it finds what a run finds that was
just begun. The findings of root elements one after the other are those of the first ones and then
those of the others, and root elements that are no processes do not count. -/
theorem Reachable.audits_independent (h : run.Reachable documents) :
    (∀ place p, Located.IsIn documents ⟨place, .root (.process p)⟩ →
      (run.auditProcess ⟨place, .root (.process p)⟩).misfit = none ∧
      (run.auditProcess ⟨place, .root (.process p)⟩).result.diagnostics.toList =
        run.diagnostics.toList ++
          (⟨place, .root (.process p)⟩ : Located).audited run.settings) ∧
    (∀ n d, documents n = some (.definitions d) →
      (run.auditDocument ⟨[n], .definitions d⟩).misfit = none ∧
      (run.auditDocument ⟨[n], .definitions d⟩).result.diagnostics.toList =
        run.diagnostics.toList ++ d.audited run.settings n) ∧
    (∀ (d first second : Definitions) (n m k : Nat),
      d.rootElements = first.rootElements ++ second.rootElements →
      (d.audited run.settings n).map Diagnostic.fromProcess =
        (first.audited run.settings m).map Diagnostic.fromProcess ++
          (second.audited run.settings k).map Diagnostic.fromProcess) ∧
    ∀ (d d' : Definitions) (n n' : Nat), d.processes = d'.processes →
      (d.audited run.settings n).map Diagnostic.fromProcess =
        (d'.audited run.settings n').map Diagnostic.fromProcess := by
  refine ⟨fun place p hp => ⟨h.sound.misfit_auditProcess place p, ?_⟩, fun n d hd => ⟨rfl, ?_⟩,
    fun d first second n m k hd => ?_, fun d d' n n' hd => ?_⟩
  · rw [Located.audited_eq run.settings hp]
    exact (h.sound.auditProcess hp).diagnostics
  · rw [Definitions.audited_eq]
    have here : documents.at? [n] = some (.definitions d) := hd
    exact (h.sound.auditDefinitions here).diagnostics
  · simp only [Definitions.map_fromProcess_audited]
    unfold Definitions.processes
    rw [hd, List.filterMap_append, List.flatMap_append]
  · simp only [Definitions.map_fromProcess_audited, hd]

end Run

/-- A process with a task in a subprocess. -/
def Process.nestedTask : Process where
  flowElements := [.subProcess {} [.leaf (.task {})] false]

def Process.startOnly : Process where
  flowElements := [.leaf (.startEvent {})]

/-- A document with both processes, and with something between them if there is something. -/
def Definitions.withBetween (between : List RootElement) : Definitions where
  rootElements := [.process .nestedTask] ++ between ++ [.process .startOnly]

/-- A run that audited a document and then was made ad hoc audits the last process of the document
as if it had done nothing, and the document again. -/
theorem Run.audits_independent_withBetween :
    let d : Definitions := .withBetween [.message {}]
    let last : Located := ⟨[2, 0], .root (.process .startOnly)⟩
    let run : Run :=
      (({} : Run).perform (.auditDocument ⟨[0], .definitions d⟩)).perform (.setAdHoc true)
    (run.auditProcess last).result.diagnostics.toList =
        run.diagnostics.toList ++ last.audited run.settings ∧
      (run.auditDocument ⟨[0], .definitions d⟩).result.diagnostics.toList =
        run.diagnostics.toList ++ d.audited run.settings 0 ∧
      (d.audited run.settings 0).map Diagnostic.fromProcess =
        (Definitions.audited run.settings
          { rootElements := [.process .nestedTask, .message {}] } 1).map
            Diagnostic.fromProcess ++
          (Definitions.audited run.settings { rootElements := [.process .startOnly] } 2).map
            Diagnostic.fromProcess ∧
      (d.audited run.settings 0).map Diagnostic.fromProcess =
        ((Definitions.withBetween []).audited run.settings 0).map Diagnostic.fromProcess := by
  intro d last run
  have here : Located.IsIn (fun _ => some (.definitions d)) ⟨[0], .definitions d⟩ := rfl
  have reachable : run.Reachable fun _ => some (.definitions d) :=
    .perform (.perform (.start {}) (.auditDocument ⟨[0], .definitions d⟩)
      (List.forall_mem_singleton.mpr here)) (.setAdHoc true) (List.forall_mem_nil _)
  obtain ⟨processes, documents, append, others⟩ := reachable.audits_independent
  exact ⟨(processes [2, 0] .startOnly rfl).2, (documents 0 d rfl).2,
    append d _ _ 0 1 2 rfl, others d (.withBetween []) 0 0 rfl⟩

end BpmnAudit
