import BpmnAudit.Audit.Run

/-!
# Walks

A walk (`check_flow_elements`) applies the rules to every flow element of a container, at any depth,
in preorder. It keeps a stack of the containers that it is inside of, so that it nests no deeper for
a deeper tree. Processes (`validate_process`) and whole documents (`validate_definitions`) are
audited by the rules for processes and by walks.
-/

namespace BpmnAudit

/-- A container that a walk is inside of: the index of its next element, and what is left. -/
structure WalkFrame where
  owner : Owner
  next : Nat
  rest : List FlowElement

/-- The work left on a stack of containers. -/
def walkWork : List WalkFrame → Nat
  | [] => 0
  | frame :: stack => weights frame.rest + 1 + walkWork stack

/-- A walk's state: the run, how many elements were checked, and the greatest number of containers
that the walk was inside of at a time. -/
structure Walk where
  run : Run
  visited : Nat := 0
  depth : Nat := 1

namespace Walk

/-- Checks one element of a container. No rule stops at it (`Run.applyRules_placed`). -/
def visit (walk : Walk) (owner : Owner) (p : Placed) : Walk :=
  { walk with
    run := ((walk.run.enterContainer (.owner owner)).applyRules p.located).result
    visited := walk.visited + 1 }

/-- Walks on through the containers of a stack. -/
def resume : List WalkFrame → Walk → Walk
  | [], walk => walk
  | ⟨_, _, []⟩ :: stack, walk => resume stack walk
  | ⟨owner, next, e :: rest⟩ :: stack, walk =>
    let p : Placed := ⟨next :: owner.place, e⟩
    let walk := walk.visit owner p
    let stack' := ⟨owner, next + 1, rest⟩ :: stack
    if e.kind.isContainer then
      resume (⟨Owner.ofPlaced p, 0, e.flowElements⟩ :: stack')
        { walk with depth := max walk.depth (stack.length + 2) }
    else resume stack' walk
termination_by stack => walkWork stack
decreasing_by
  · simp [walkWork]
  · next h => simp [walkWork, weights, FlowElement.weight_of_isContainer h]; omega
  · simp [walkWork, weights]; exact e.weight_pos

end Walk

namespace Run

/-- Walks through a container; the number of elements checked, and the run after it. -/
def walk (run : Run) (owner : Owner) : Nat × Run :=
  let walk := Walk.resume [⟨owner, 0, owner.elements⟩] { run }
  (walk.visited,
    walk.run.tell ⟨.debug, .walk,
      "Walked container " ++ shownId owner.id ++ ": " ++ toString walk.visited ++
        " elements, depth " ++ toString walk.depth⟩)

/-- Walks through an element, if it owns flow elements. -/
def walkThrough (run : Run) (l : Located) : Except Misfit (Nat × Run) := l.asOwner.map run.walk

/-- Audits a process: the rules for processes first, then the walk. -/
def auditProcess (run : Run) (process : Located) : Progress Run :=
  (Progress.steps (applyProcessRule · process ·) run ProcessRule.all).andThen fun run =>
    (run.enterProcess (some process)).andThen fun run =>
      match run.walkThrough process with
      | .error misfit => ⟨run, some misfit⟩
      | .ok (visited, run) =>
        ⟨run.tell ⟨.debug, .process,
          "Process " ++ shownId process.element.id ++ ": " ++ toString visited ++
            " flow elements checked"⟩, none⟩

/-- Audits the processes of a document one after the other. -/
def auditDefinitions (run : Run) (place : Place) (d : Definitions) : Run :=
  (d.locatedProcesses place).foldl (fun run process => (run.auditProcess process).result) run

def auditDocument (run : Run) (l : Located) : Progress Run :=
  match l.element with
  | .definitions d => ⟨run.auditDefinitions l.place d, none⟩
  | e => ⟨run, some (.lacks e.label "processes")⟩

end Run

end BpmnAudit
