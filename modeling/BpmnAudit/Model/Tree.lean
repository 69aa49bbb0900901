import BpmnAudit.Model.Access

/-!
# Flow elements in order

The preorder of flow elements, twice: by recursion along the tree (`preorder`), and by a loop over a
stack of elements still to come (`Owner.descendants`), which nests no deeper for a deeper tree. The
loop (`iter_flow_elements`) also says where each element stands, and looks up elements
(`find_element`), the owner of a place (`find_container_of`) and the sequence flows of a container
(`sequence_flows_by_id`).

A place is the list of indexes that leads to an element, the innermost first; the last of them tells
documents apart. Two elements that are equal still stand at places of their own.
-/

namespace BpmnAudit

/-! ## Along the tree -/

mutual

/-- An element, then all that it owns. -/
def FlowElement.subtree : FlowElement → List FlowElement
  | .leaf l => [.leaf l]
  | .subProcess node es triggered => .subProcess node es triggered :: preorder es

/-- Each element, then all that it owns. -/
def preorder : List FlowElement → List FlowElement
  | [] => []
  | e :: es => e.subtree ++ preorder es

end

mutual

/-- A measure of the work that an element is to a loop: one for it, one for the end of what it
owns. -/
def FlowElement.weight : FlowElement → Nat
  | .leaf _ => 1
  | .subProcess _ es _ => weights es + 2

def weights : List FlowElement → Nat
  | [] => 0
  | e :: es => e.weight + weights es

end

mutual

/-- How many levels of flow elements stand below an element's own. -/
def FlowElement.height : FlowElement → Nat
  | .leaf _ => 0
  | .subProcess _ es _ => heights es + 1

/-- The greatest height of elements. -/
def heights : List FlowElement → Nat
  | [] => 0
  | e :: es => max e.height (heights es)

end

theorem FlowLeaf.kind_isContainer (l : FlowLeaf) : l.kind.isContainer = false := by
  cases l <;> rfl

/-- An element of a container kind weighs two more than what it owns. -/
theorem FlowElement.weight_of_isContainer {e : FlowElement} (h : e.kind.isContainer = true) :
    e.weight = weights e.flowElements + 2 := by
  cases e with
  | leaf l => rw [FlowElement.kind, l.kind_isContainer] at h; cases h
  | subProcess node es triggered => simp [FlowElement.weight, FlowElement.flowElements]

theorem FlowElement.weight_pos (e : FlowElement) : 0 < e.weight := by
  cases e <;> simp [FlowElement.weight]

/-! ## Places -/

/-- Indexes from an element out to its document. -/
abbrev Place := List Nat

/-- A flow element and where it stands. -/
structure Placed where
  place : Place
  element : FlowElement
  deriving DecidableEq

/-- A container: where it stands, its kind if its tag is known, its id, and the flow elements it
owns. -/
structure Owner where
  place : Place
  kind? : Option ElementKind
  id : Option String
  elements : List FlowElement
  deriving DecidableEq

/-- What is left of a container: its place, the index of its next element, and the elements. -/
structure Pending where
  place : Place
  next : Nat
  rest : List FlowElement

/-- The work left on a stack. -/
def pendingWork : List Pending → Nat
  | [] => 0
  | p :: stack => weights p.rest + 1 + pendingWork stack

/-- Runs through the stack; the elements found so far are in reverse. -/
def descendFrom : List Pending → List Placed → List Placed
  | [], done => done.reverse
  | ⟨_, _, []⟩ :: stack, done => descendFrom stack done
  | ⟨place, next, .leaf l :: rest⟩ :: stack, done =>
    descendFrom (⟨place, next + 1, rest⟩ :: stack) (⟨next :: place, .leaf l⟩ :: done)
  | ⟨place, next, .subProcess node es triggered :: rest⟩ :: stack, done =>
    descendFrom (⟨next :: place, 0, es⟩ :: ⟨place, next + 1, rest⟩ :: stack)
      (⟨next :: place, .subProcess node es triggered⟩ :: done)
termination_by stack => pendingWork stack
decreasing_by
  · simp [pendingWork]
  · simp [pendingWork, weights, FlowElement.weight]
  · simp [pendingWork, weights, FlowElement.weight]; omega

namespace Owner

/-- Every flow element of a container, at any depth, in preorder. -/
def descendants (owner : Owner) : List Placed := descendFrom [⟨owner.place, 0, owner.elements⟩] []

/-- The container that an element at a place is. -/
def ofPlaced (p : Placed) : Owner :=
  ⟨p.place, some (.flow p.element.kind), p.element.id, p.element.flowElements⟩

/-- Whether a container is one by its tag. -/
def isTagged (owner : Owner) : Bool := owner.kind?.any (·.isContainer)

/-- The flow elements that a container owns itself. -/
def children (owner : Owner) : List Placed :=
  owner.elements.zipIdx.map fun (e, i) => ⟨i :: owner.place, e⟩

/-- Whether a container itself owns the element at a place. -/
def owns (owner : Owner) (place : Place) : Bool := owner.children.any (·.place == place)

/-- The container, among this one and those in it, that itself owns the element at a place. -/
def containerOf? (owner : Owner) (place : Place) : Option Owner :=
  if owner.owns place then some owner
  else
    (owner.descendants.find? fun p => (ofPlaced p).owns place).map ofPlaced

/-- The first element with an id. -/
def find? (owner : Owner) (id : Option String) : Option Placed :=
  owner.descendants.find? (·.element.id == id)

end Owner

/-! ## Sequence flows by id -/

/-- The element's id, if it is a sequence flow with an id. -/
def FlowElement.flowId? (e : FlowElement) : Option String := e.sequenceFlow?.bind (·.id)

/-- Writes a sequence flow under its id, if it has one. -/
def putFlow (index : List (String × Placed)) (p : Placed) : List (String × Placed) :=
  match p.element.flowId? with
  | some id => putKey id p index
  | none => index

/-- The sequence flows with an id among elements, the last one of each id. -/
def sequenceFlowsById (elements : List Placed) : List (String × Placed) :=
  elements.foldl putFlow []

/-! ## Documents -/

/-- An element and where it stands. -/
structure Located where
  place : Place
  element : Element
  deriving DecidableEq

namespace Located

/-- The element as a container, if it owns flow elements. -/
def owner? (l : Located) : Option Owner :=
  l.element.flowElements?.map fun es => ⟨l.place, l.element.kind?, l.element.id, es⟩

end Located

def Placed.located (p : Placed) : Located := ⟨p.place, .flow p.element⟩

namespace Definitions

def processes (d : Definitions) : List Process := d.rootElements.filterMap (·.process?)

/-- The processes where they stand: each at its index among the root elements. -/
def locatedProcesses (d : Definitions) (place : Place) : List Located :=
  d.rootElements.zipIdx.filterMap fun (r, i) =>
    r.process?.map fun p => ⟨i :: place, .root (.process p)⟩

/-- The processes as containers. -/
def owners (d : Definitions) (place : Place) : List Owner :=
  (d.locatedProcesses place).filterMap (·.owner?)

/-- The first flow element with an id, process by process. -/
def find? (d : Definitions) (place : Place) (id : Option String) : Option Placed :=
  (d.owners place).findSome? (·.find? id)

/-- The container that itself owns the element at a place. -/
def containerOf? (d : Definitions) (document place : Place) : Option Owner :=
  (d.owners document).findSome? (·.containerOf? place)

end Definitions

namespace Located

/-- The containers that an element is searched through: the processes of a document, or the
element itself if it owns flow elements. -/
def owners? (l : Located) : Option (List Owner) :=
  match l.element with
  | .definitions d => some (d.owners l.place)
  | _ => l.owner?.map ([·])

/-- The container in an element that itself owns the element at a place. -/
def containerOf? (l : Located) (place : Place) : Option Owner :=
  l.owners?.bind (·.findSome? (·.containerOf? place))

/-- The first flow element with an id in an element. -/
def find? (l : Located) (id : Option String) : Option Placed :=
  l.owners?.bind (·.findSome? (·.find? id))

end Located

end BpmnAudit
