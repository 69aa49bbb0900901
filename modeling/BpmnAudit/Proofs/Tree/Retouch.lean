import BpmnAudit.Model.Tree

/-!
# Retouched documents

A retouch changes the fields that every element has, each element by its shape, and leaves all else
in place. It goes through a whole document: root elements, flow elements at all depths, event
definitions and the errors in them. Two documents are the same but for what a retouch covers up
exactly if the retouch makes them equal.

Each question that can be asked of a retouched flow element is answered by the retouch of the
answer.
-/

namespace BpmnAudit

/-- What becomes of the fields of every element, by its shape. -/
abbrev Retouch := Shape → BaseElement → BaseElement

variable (f : Retouch)

/-! ## The parts of elements -/

/-- A node with other fields of every element. -/
def FlowNode.mapBase (g : BaseElement → BaseElement) (node : FlowNode) : FlowNode :=
  { node with toBaseElement := g node.toBaseElement }

/-- A task with other fields of every element. -/
def Task.mapBase (g : BaseElement → BaseElement) (task : Task) : Task :=
  { task with toFlowNode := task.toFlowNode.mapBase g }

/-- A gateway with other fields of every element. -/
def Gateway.mapBase (g : BaseElement → BaseElement) (gateway : Gateway) : Gateway :=
  { gateway with toFlowNode := gateway.toFlowNode.mapBase g }

/-- An event with other fields of every element and other definitions. -/
def Event.mapParts (g : BaseElement → BaseElement) (k : EventDefinition → EventDefinition)
    (event : Event) : Event where
  toFlowNode := event.toFlowNode.mapBase g
  definitions := event.definitions.map k

/-- A flow element with other fields of every element, and with other definitions if it is an
event. -/
def FlowLeaf.mapParts (g : BaseElement → BaseElement) (k : EventDefinition → EventDefinition) :
    FlowLeaf → FlowLeaf
  | task t => task (t.mapBase g)
  | serviceTask t => serviceTask { t with toTask := t.toTask.mapBase g }
  | userTask t => userTask { t with toTask := t.toTask.mapBase g }
  | manualTask t => manualTask (t.mapBase g)
  | scriptTask t => scriptTask { t with toTask := t.toTask.mapBase g }
  | sendTask t => sendTask { t with toTask := t.toTask.mapBase g }
  | receiveTask t => receiveTask { t with toTask := t.toTask.mapBase g }
  | businessRuleTask t => businessRuleTask (t.mapBase g)
  | startEvent e => startEvent { e with toEvent := e.toEvent.mapParts g k }
  | endEvent e => endEvent (e.mapParts g k)
  | intermediateCatchEvent e => intermediateCatchEvent (e.mapParts g k)
  | intermediateThrowEvent e => intermediateThrowEvent (e.mapParts g k)
  | boundaryEvent e => boundaryEvent { e with toEvent := e.toEvent.mapParts g k }
  | exclusiveGateway w => exclusiveGateway { w with toGateway := w.toGateway.mapBase g }
  | inclusiveGateway w => inclusiveGateway { w with toGateway := w.toGateway.mapBase g }
  | parallelGateway w => parallelGateway (w.mapBase g)
  | eventBasedGateway w => eventBasedGateway { w with toGateway := w.toGateway.mapBase g }
  | complexGateway w => complexGateway { w with toGateway := w.toGateway.mapBase g }
  | callActivity a => callActivity { a with toFlowNode := a.toFlowNode.mapBase g }
  | flowNode n => flowNode { n with toFlowNode := n.toFlowNode.mapBase g }
  | sequenceFlow s => sequenceFlow { s with toBaseElement := g s.toBaseElement }
  | dataObject d => dataObject { d with toBaseElement := g d.toBaseElement }

/-! ## Elements -/

def ErrorElement.retouch (e : ErrorElement) : ErrorElement :=
  { e with toBaseElement := f (.element (.root .error)) e.toBaseElement }

def EventDefinition.retouch : EventDefinition → EventDefinition
  | timer d => timer { d with toBaseElement := f (.eventDefinition .timer) d.toBaseElement }
  | signal d => signal { d with toBaseElement := f (.eventDefinition .signal) d.toBaseElement }
  | error d =>
    error ⟨f (.eventDefinition .error) d.toBaseElement, d.errorRef.map (·.retouch f)⟩
  | conditional d =>
    conditional { d with toBaseElement := f (.eventDefinition .conditional) d.toBaseElement }
  | escalation d =>
    escalation { d with toBaseElement := f (.eventDefinition .escalation) d.toBaseElement }
  | message d => message { d with toBaseElement := f (.eventDefinition .message) d.toBaseElement }
  | compensate d =>
    compensate { d with toBaseElement := f (.eventDefinition .compensate) d.toBaseElement }

/-- What a retouch makes of the fields of a flow element of a kind. -/
def Retouch.flow (kind : FlowKind) : BaseElement → BaseElement := f (.element (.flow kind))

/-- A retouched flow element without flow elements of its own. -/
def FlowLeaf.retouch (l : FlowLeaf) : FlowLeaf :=
  l.mapParts (f.flow l.kind) (EventDefinition.retouch f)

mutual

/-- A retouched flow element, with all that it owns retouched. -/
def FlowElement.retouch : FlowElement → FlowElement
  | .leaf l => .leaf (l.retouch f)
  | .subProcess node es triggered =>
    .subProcess (node.mapBase (f.flow .subProcess)) (FlowElement.retouchAll es) triggered

def FlowElement.retouchAll : List FlowElement → List FlowElement
  | [] => []
  | e :: es => e.retouch :: FlowElement.retouchAll es

end

/-- A retouched process, with all that it owns retouched. -/
def Process.retouch (p : Process) : Process :=
  { p with
    toBaseElement := f (.element (.root .process)) p.toBaseElement
    flowElements := p.flowElements.map (·.retouch f) }

def RootElement.retouch : RootElement → RootElement
  | process p => process (p.retouch f)
  | message m => message { m with toBaseElement := f (.element (.root .message)) m.toBaseElement }
  | signal s => signal (f (.element (.root .signal)) s)
  | error e => error (e.retouch f)
  | escalation e =>
    escalation { e with toBaseElement := f (.element (.root .escalation)) e.toBaseElement }
  | operation o =>
    operation { o with toBaseElement := f (.element (.root .operation)) o.toBaseElement }

def Definitions.retouch (d : Definitions) : Definitions :=
  { d with
    toBaseElement := f (.element .definitions) d.toBaseElement
    rootElements := d.rootElements.map (·.retouch f) }

/-! ## What a retouch leaves in place -/

variable {f}

@[simp] theorem FlowLeaf.kind_retouch (l : FlowLeaf) : (l.retouch f).kind = l.kind := by
  cases l <;> rfl

namespace FlowElement

theorem retouchAll_eq_map (es : List FlowElement) : retouchAll f es = es.map (·.retouch f) := by
  induction es with
  | nil => rfl
  | cons e es ih => exact congrArg (e.retouch f :: ·) ih

@[simp] theorem kind_retouch (e : FlowElement) : (e.retouch f).kind = e.kind := by
  cases e with
  | leaf l => exact l.kind_retouch
  | subProcess => rfl

@[simp] theorem flowElements_retouch (e : FlowElement) :
    (e.retouch f).flowElements = e.flowElements.map (·.retouch f) := by
  cases e with
  | leaf l => rfl
  | subProcess node es triggered => exact retouchAll_eq_map es

@[simp] theorem base_retouch (e : FlowElement) : (e.retouch f).base = f.flow e.kind e.base := by
  cases e with
  | leaf l => cases l <;> rfl
  | subProcess => rfl

@[simp] theorem node?_retouch (e : FlowElement) :
    (e.retouch f).node? = e.node?.map (·.mapBase (f.flow e.kind)) := by
  cases e with
  | leaf l => cases l <;> rfl
  | subProcess => rfl

theorem sequenceFlow?_retouch (e : FlowElement) :
    (e.retouch f).sequenceFlow? = e.sequenceFlow?.map fun flow =>
      { flow with toBaseElement := f.flow .sequenceFlow flow.toBaseElement } := by
  cases e with
  | leaf l => cases l <;> rfl
  | subProcess => rfl

mutual

theorem subtree_retouch (e : FlowElement) :
    (e.retouch f).subtree = e.subtree.map (·.retouch f) := by
  cases e with
  | leaf l => rfl
  | subProcess node es triggered =>
    rw [retouch, subtree, subtree, List.map_cons, retouch, preorder_retouchAll]

theorem preorder_retouchAll (es : List FlowElement) :
    preorder (retouchAll f es) = (preorder es).map (·.retouch f) := by
  cases es with
  | nil => rfl
  | cons e es =>
    rw [retouchAll, preorder, preorder, List.map_append, subtree_retouch, preorder_retouchAll]

end

end FlowElement

namespace Element

theorem shape_retouch (e : FlowElement) :
    (Element.flow (e.retouch f)).shape = (Element.flow e).shape := by
  rw [shape, shape, e.kind_retouch]

theorem eventDefinitions?_retouch (e : FlowElement) :
    (Element.flow (e.retouch f)).eventDefinitions? =
      (Element.flow e).eventDefinitions?.map (List.map (EventDefinition.retouch f)) := by
  cases e with
  | leaf l => cases l <;> rfl
  | subProcess => rfl

theorem gateway?_retouch (e : FlowElement) :
    (Element.flow (e.retouch f)).gateway? =
      (Element.flow e).gateway?.map (·.mapBase (f.flow e.kind)) := by
  cases e with
  | leaf l => cases l <;> rfl
  | subProcess => rfl

end Element

end BpmnAudit
