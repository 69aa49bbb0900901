import BpmnAudit.Document.FlowElements

/-!
# Elements in documents

Reading a value as an element of a given shape (`model_validate`), and writing an element as a value
(`model_dump`). What is read is an object; whatever else it holds besides the fields of the shape is
ignored.
-/

namespace BpmnAudit

/-! ## Root elements -/

/-- Reads a root element of a list by its tag. -/
def readRootElement : Json → Outcome RootElement
  | .object members =>
    readTagged elementTagName (RootKind.listed.map RootKind.tag) RootKind.ofTag?
      (fun kind => (Layout.root kind).read members (readOwned members)) members
  | _ => .fault .notObject

/-- The members of a process' object. -/
def Process.members (p : Process) : Json.Members :=
  Codec.write p (.array (writeEach p.flowElements)) Layout.process

/-- The members of a root element's object. -/
def RootElement.members : RootElement → Json.Members
  | process p => p.members
  | message m => Codec.write (χ := Unit) m .null Layout.message
  | signal s => Codec.write (χ := Unit) s .null Layout.signal
  | error e => Codec.write (χ := Unit) e .null Layout.error
  | escalation e => Codec.write (χ := Unit) e .null Layout.escalation
  | operation o => Codec.write (χ := Unit) o .null Layout.operation

namespace Layout

variable {χ ω : Type}

/-- The definitions. -/
def definitions : Codec χ Definitions Definitions :=
  (fun base _ targetNamespace rootElements =>
      { toBaseElement := base, targetNamespace, rootElements })
    <$> base (·.toBaseElement)
    <*> tag ElementKind.definitions.tag
    <*> .field (.text "target_namespace" "http://www.omg.org/bpmn20") (·.targetNamespace)
    <*> .field ⟨"root_elements", readList readRootElement,
          fun rs => .array (rs.map fun r => .object r.members), some []⟩ (·.rootElements)

/-! ## Outlines -/

def outlineElement : Codec χ (ElementKind × BaseElement) (ElementKind × BaseElement) :=
  (fun base tag => (tag, base)) <$> base (·.2) <*> outlineTag (·.1)

def outlineNode (get : ω → ElementKind × FlowNode) : Codec χ ω (ElementKind × FlowNode) :=
  nodeWith Prod.mk (outlineTag fun w => (get w).1) fun w => (get w).2

def outlineEvent : Codec χ (ElementKind × Event) (ElementKind × Event) :=
  (fun (tag, node) definitions => (tag, { toFlowNode := node, definitions }))
    <$> outlineNode (fun w => (w.1, w.2.toFlowNode))
    <*> eventDefinitions (·.2.definitions)

def outlineGateway : Codec χ (ElementKind × Gateway) (ElementKind × Gateway) :=
  (fun (tag, node) direction => (tag, { toFlowNode := node, direction }))
    <$> outlineNode (fun w => (w.1, w.2.toFlowNode))
    <*> direction (·.2.direction)

def outlineContainer :
    Codec (List FlowElement) (BaseElement × List FlowElement) (BaseElement × List FlowElement) :=
  Prod.mk <$> base (·.1) <*> .children (·.2)

/-- An event definition in outline. -/
def outlineDefinition : Codec χ (TriggerKind × BaseElement) (TriggerKind × BaseElement) :=
  (fun base tag => (tag, base))
    <$> base (·.2)
    <*> .field (.word triggerTagName (TriggerKind.all.map TriggerKind.tag) TriggerKind.ofTag?
          TriggerKind.tag none) (·.1)

/-- The form of a group of kinds. -/
def outline : OutlineKind → Form (List FlowElement) Outline
  | .element => ⟨_, base id, .element⟩
  | .flowElement => ⟨_, outlineElement, fun (tag, base) => .flowElement tag base⟩
  | .flowNode => ⟨_, outlineNode id, fun (tag, node) => .flowNode tag node⟩
  | .event => ⟨_, outlineEvent, fun (tag, event) => .event tag event⟩
  | .gateway => ⟨_, outlineGateway, fun (tag, gateway) => .gateway tag gateway⟩
  | .container => ⟨_, outlineContainer, fun (base, es) => .container base es⟩
  | .eventDefinition => ⟨_, outlineDefinition, fun (tag, base) => .eventDefinition tag base⟩

end Layout

/-- The members of an outline's object. -/
def Outline.members : Outline → Json.Members
  | element base => Codec.write (χ := Unit) base .null (Layout.base id)
  | flowElement tag base => Codec.write (χ := Unit) (tag, base) .null Layout.outlineElement
  | flowNode tag node => Codec.write (χ := Unit) (tag, node) .null (Layout.outlineNode id)
  | event tag e => Codec.write (χ := Unit) (tag, e) .null Layout.outlineEvent
  | gateway tag g => Codec.write (χ := Unit) (tag, g) .null Layout.outlineGateway
  | container base es => Codec.write (base, es) (.array (writeEach es)) Layout.outlineContainer
  | eventDefinition tag base => Codec.write (χ := Unit) (tag, base) .null Layout.outlineDefinition

/-! ## All shapes -/

namespace Element

/-- Reads the members of an object as an element of a shape. -/
def readMembers (members : Json.Members) : Shape → Outcome Element
  | .element .definitions =>
    (Layout.definitions.read members (.ok ())).map .definitions
  | .element (.root kind) => ((Layout.root kind).read members (readOwned members)).map .root
  | .element (.flow kind) => ((Layout.flow kind).read members (readOwned members)).map .flow
  | .eventDefinition kind => ((Layout.trigger kind).read members (.ok ())).map .eventDefinition
  | .expression => (Layout.expression.read members (.ok ())).map .expression
  | .outline kind => ((Layout.outline kind).read members (readOwned members)).map .outline

/-- Reads a value as an element of a shape. -/
def read (shape : Shape) : Json → Outcome Element
  | .object members => readMembers members shape
  | _ => .fault .notElement

def toJson : Element → Json
  | definitions d => .object (Codec.write (χ := Unit) d .null Layout.definitions)
  | root r => .object r.members
  | flow e => e.toJson
  | eventDefinition d => .object d.members
  | expression e => .object (Codec.write (χ := Unit) e .null Layout.expression)
  | outline o => .object o.members

end Element

end BpmnAudit
