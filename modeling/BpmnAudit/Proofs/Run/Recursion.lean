import BpmnAudit.Proofs.Run.Reachable

/-!
# Walks by recursion

The findings of a walk, by recursion along the tree and with the rules applied in a run that has
done nothing else: first to an element inside the container that itself owns it, then to what the
element owns. From every reachable run a walk comes to its end, adds just these findings, and
leaves the run as it was but for the container that it stands in
(`Run.Reachable.walkThrough_eq_ok`).
-/

namespace BpmnAudit

/-! ## The recursion -/

/-- What the rules find wrong with an element inside a container: all that they add to a run that
was just begun there. -/
def Placed.findingsIn (settings : Settings) (adHoc : Bool) (owner : Owner) (p : Placed) :
    List Diagnostic :=
  let run : Run := { settings, adHoc, container := .owner owner }
  (run.applyRules p.located).result.diagnostics.toList

mutual

/-- What the rules find wrong with an element of a container, then with what it owns. -/
def FlowElement.findingsBelow (settings : Settings) (adHoc : Bool) (owner : Owner) (i : Nat) :
    FlowElement → List Diagnostic
  | .leaf l => (owner.placed i (.leaf l)).findingsIn settings adHoc owner
  | .subProcess node es triggered =>
    let p := owner.placed i (.subProcess node es triggered)
    p.findingsIn settings adHoc owner ++ findingsFrom settings adHoc (.ofPlaced p) 0 es

/-- What the rules find wrong with elements of a container from an index on, and with what they
own, one element after the other. -/
def findingsFrom (settings : Settings) (adHoc : Bool) (owner : Owner) (i : Nat) :
    List FlowElement → List Diagnostic
  | [] => []
  | e :: es =>
    e.findingsBelow settings adHoc owner i ++ findingsFrom settings adHoc owner (i + 1) es

end

/-- What the rules find wrong with all that a container owns, by recursion. -/
def Owner.findingsByRecursion (settings : Settings) (adHoc : Bool) (owner : Owner) :
    List Diagnostic :=
  findingsFrom settings adHoc owner 0 owner.elements

mutual

theorem FlowElement.findingsBelow_eq (settings : Settings) (adHoc : Bool) (owner : Owner) (i : Nat)
    (e : FlowElement) :
    e.findingsBelow settings adHoc owner i =
      (e.visits owner i).flatMap fun v => v.placed.findingsIn settings adHoc v.owner := by
  cases e with
  | leaf l => simp [FlowElement.findingsBelow, FlowElement.visits]
  | subProcess node es triggered =>
    simp [FlowElement.findingsBelow, FlowElement.visits, findingsFrom_eq]

theorem findingsFrom_eq (settings : Settings) (adHoc : Bool) (owner : Owner) (i : Nat)
    (es : List FlowElement) :
    findingsFrom settings adHoc owner i es =
      (visitsFrom owner i es).flatMap fun v => v.placed.findingsIn settings adHoc v.owner := by
  cases es with
  | nil => simp [findingsFrom, visitsFrom]
  | cons e es =>
    simp [findingsFrom, visitsFrom, FlowElement.findingsBelow_eq, findingsFrom_eq]

end

variable {documents : Documents}

/-- A run that was just begun finds what any other finds inside the same container. -/
theorem Visit.findingsIn_eq (settings : Settings) (adHoc : Bool) {v : Visit}
    (hv : v.owner.IsIn documents) :
    v.placed.findingsIn settings adHoc v.owner = v.findings settings adHoc := by
  have begun : ({ settings, adHoc, container := .owner v.owner } : Run).Sound documents :=
    ⟨fun _ ho => Option.some.inj ho ▸ hv, nofun⟩
  exact (begun.applyRules rfl v.placed).diagnostics

theorem Owner.findingsByRecursion_eq (settings : Settings) (adHoc : Bool) {owner : Owner}
    (ho : owner.IsIn documents) :
    owner.findingsByRecursion settings adHoc = owner.findings settings adHoc := by
  unfold findingsByRecursion findings
  rw [findingsFrom_eq]
  refine congrArg List.flatten (List.map_congr_left fun v hv => ?_)
  exact v.findingsIn_eq settings adHoc ((Owner.mem_visits_iff.mp hv).isIn ho).1

/-! ## Walks -/

namespace Run

/-- What a walk through a container makes of a run. -/
structure Walked (run : Run) (owner : Owner) (after : Run) : Prop where
  diagnostics : after.diagnostics.toList =
    run.diagnostics.toList ++ owner.findingsByRecursion run.settings run.adHoc
  settings : after.settings = run.settings
  process : after.process = run.process
  adHoc : after.adHoc = run.adHoc
  container : after.container =
    (owner.visits.getLast?.map fun v => Surroundings.owner v.owner).getD run.container
  log : after.log.back? = some ⟨.debug, .walk,
    "Walked container " ++ shownId owner.id ++ ": " ++
      toString (preorder owner.elements).length ++ " elements, depth " ++
      toString (1 + heights owner.elements)⟩

/-- A walk from a reachable run comes to its end: it counts the elements at all depths, and finds
what the recursion finds. -/
theorem Reachable.walkThrough_eq_ok {run : Run} (h : run.Reachable documents) {l : Located}
    {owner : Owner} (hl : l.IsIn documents) (ho : l.owner? = some owner) :
    ∃ after, run.walkThrough l = .ok ((preorder owner.elements).length, after) ∧
      run.Walked owner after := by
  have hin := hl.owner ho
  have walked := h.sound.walk hin
  refine ⟨(run.walk owner).2, ?_, ?_⟩
  · unfold Run.walkThrough Located.asOwner
    rw [ho, ← owner.length_visits]
    show Except.ok (run.walk owner) = _
    rw [walk_eq]
  · refine ⟨?_, walked.settings, walked.process, walked.adHoc, ?_, ?_⟩
    · rw [owner.findingsByRecursion_eq _ _ hin]
      exact walked.diagnostics
    · rw [walk_eq]
      exact container_visits run owner.visits
    · rw [walk_eq]
      simp [tell, Owner.walkRecord]

end Run

/-- A process with an empty subprocess among the elements of another one. -/
def Process.nested : Process where
  id := some "p"
  flowElements :=
    [.subProcess { id := some "outer" }
      [.subProcess { id := some "inner" } [] false, .leaf (.task { id := some "task" })] false]

/-- The walk stands in the outer subprocess in the end, and its depth counts the inner one. -/
theorem Run.walkThrough_nested :
    ∃ after, ({} : Run).walkThrough ⟨[0], .root (.process .nested)⟩ = .ok (3, after) ∧
      after.container.id = some "outer" ∧ after.diagnostics.size = 6 ∧
      after.log.back? =
        some ⟨.debug, .walk, "Walked container p: 3 elements, depth 3"⟩ := by
  have reachable : ({} : Run).Reachable fun _ => some (.root (.process .nested)) := .start {}
  obtain ⟨after, h, walked⟩ :=
    reachable.walkThrough_eq_ok (l := ⟨[0], .root (.process .nested)⟩) rfl rfl
  refine ⟨after, h, ?_, ?_, ?_⟩
  · rw [walked.container]
    rfl
  · rw [← Array.length_toList, walked.diagnostics]
    decide
  · rw [walked.log]
    decide

end BpmnAudit
