import BpmnAudit.Document.Layout

/-!
# Trees of flow elements in documents

Reading and writing the flow elements that a process or a subprocess owns (`flow_elements`). The
members of a tagged list are read on their own, each under its index and its tag, and their faults
come one after the other; writing puts every field of an element into its object, in the order of
its layout.
-/

namespace BpmnAudit

/-! ## Reading -/

mutual

/-- Reads a flow element of a list by its tag. -/
def readFlowElement : Json → Outcome FlowElement
  | .object members =>
    readTagged elementTagName (FlowKind.listed.map FlowKind.tag) FlowKind.ofTag?
      (fun kind => (Layout.flow kind).read members (readOwned members)) members
  | _ => .fault .notObject

def readFlowElements : Json → Outcome (List FlowElement)
  | .array items => .collect 0 (readEach items)
  | _ => .fault .notList

/-- Reads the items of a list one by one. -/
def readEach : List Json → List (Outcome FlowElement)
  | [] => []
  | item :: items => readFlowElement item :: readEach items

/-- Reads the flow elements that an object with these members owns: those written last. -/
def readOwned : Json.Members → Outcome (List FlowElement)
  | [] => .ok []
  | (name, value) :: rest =>
    if name = childrenName ∧ (Json.get? rest childrenName).isNone then
      (readFlowElements value).under (.key name)
    else readOwned rest

end

theorem readEach_eq_map (items : List Json) : readEach items = items.map readFlowElement := by
  induction items with
  | nil => simp [readEach]
  | cons item items ih => simp [readEach, ih]

/-! ## Writing -/

/-- The members of a leaf's object. -/
def FlowLeaf.members : FlowLeaf → Json.Members
  | task t => Codec.write (χ := Unit) t .null (Layout.task FlowKind.task.tag id)
  | serviceTask t => Codec.write (χ := Unit) t .null Layout.serviceTask
  | userTask t => Codec.write (χ := Unit) t .null Layout.userTask
  | manualTask t => Codec.write (χ := Unit) t .null (Layout.task FlowKind.manualTask.tag id)
  | scriptTask t => Codec.write (χ := Unit) t .null Layout.scriptTask
  | sendTask t => Codec.write (χ := Unit) t .null Layout.sendTask
  | receiveTask t => Codec.write (χ := Unit) t .null Layout.receiveTask
  | businessRuleTask t =>
    Codec.write (χ := Unit) t .null (Layout.task FlowKind.businessRuleTask.tag id)
  | startEvent e => Codec.write (χ := Unit) e .null Layout.startEvent
  | endEvent e => Codec.write (χ := Unit) e .null (Layout.event FlowKind.endEvent.tag id)
  | intermediateCatchEvent e =>
    Codec.write (χ := Unit) e .null (Layout.event FlowKind.intermediateCatchEvent.tag id)
  | intermediateThrowEvent e =>
    Codec.write (χ := Unit) e .null (Layout.event FlowKind.intermediateThrowEvent.tag id)
  | boundaryEvent e => Codec.write (χ := Unit) e .null Layout.boundaryEvent
  | exclusiveGateway g =>
    Codec.write (χ := Unit) g .null (Layout.choiceGateway FlowKind.exclusiveGateway.tag)
  | inclusiveGateway g =>
    Codec.write (χ := Unit) g .null (Layout.choiceGateway FlowKind.inclusiveGateway.tag)
  | parallelGateway g =>
    Codec.write (χ := Unit) g .null (Layout.gateway FlowKind.parallelGateway.tag id)
  | eventBasedGateway g => Codec.write (χ := Unit) g .null Layout.eventBasedGateway
  | complexGateway g => Codec.write (χ := Unit) g .null Layout.complexGateway
  | callActivity a => Codec.write (χ := Unit) a .null Layout.callActivity
  | flowNode n => Codec.write (χ := Unit) n .null Layout.genericNode
  | sequenceFlow f => Codec.write (χ := Unit) f .null Layout.sequenceFlow
  | dataObject d => Codec.write (χ := Unit) d .null Layout.dataObject

mutual

def FlowElement.toJson : FlowElement → Json
  | .leaf l => .object l.members
  | .subProcess node es triggered =>
    .object (Codec.write ⟨node, es, triggered⟩ (.array (writeEach es)) Layout.subProcess)

def writeEach : List FlowElement → List Json
  | [] => []
  | e :: es => e.toJson :: writeEach es

end

theorem writeEach_eq_map (es : List FlowElement) : writeEach es = es.map FlowElement.toJson := by
  induction es with
  | nil => simp [writeEach]
  | cons e es ih => simp [writeEach, ih]

end BpmnAudit
