import BpmnAudit.Proofs.Document.Trees

/-!
# Shapes by their fields

Elements of every shape are read field by field. With what an element owns as one of its fields
(`Codec.fill`), a shape is a list of fields and what their values make up (`Shape.form`). Each field
has a name of its own (`Shape.nodup_names`), and an element that was read consists of what was read
as its fields (`Shape.reads_split`).

Fields are of few sorts. What holds of each of them, of objects if it holds of their fields and of
tagged lists if it holds of the fields of all kinds, holds of all fields of all shapes
(`Field.Sorts.all_form`).
-/

namespace BpmnAudit

/-! ## What is owned as a field -/

namespace Codec

variable {χ ω α : Type}

/-- A layout with a field for what is owned. -/
def fill (own : Field χ) : {α : Type} → Codec χ ω α → Codec Unit ω α
  | _, .pure a => .pure a
  | _, .field f get => .field f get
  | _, .children get => .field own get
  | _, .ap head last => .ap (head.fill own) (last.fill own)

theorem names_fill {own : Field χ} (h : own.name = childrenName) (c : Codec χ ω α) :
    (c.fill own).names = c.names := by
  induction c with
  | children get => exact congrArg (fun name => [name]) h
  | ap head last ihHead ihLast => rw [fill, names, names, ihHead, ihLast]
  | _ => rfl

theorem read_fill (own : Field χ) (c : Codec χ ω α) (members : Json.Members) :
    (c.fill own).read members (.ok ()) = c.read members (own.get members) := by
  induction c with
  | ap head last ihHead ihLast => rw [fill, read, read, ihHead, ihLast]
  | _ => rfl

theorem All.fill {P : {α : Type} → Field α → Prop} {c : Codec χ ω α} (h : c.All P)
    {own : Field χ} (ho : P own) : (c.fill own).All P := by
  induction c with
  | children get => exact ho
  | ap head last ihHead ihLast => exact ⟨ihHead h.1, ihLast h.2⟩
  | _ => exact h

theorem Any.fill {P : {α : Type} → Field α → Prop} {c : Codec χ ω α} (h : c.Any P)
    (own : Field χ) : (c.fill own).Any P := by
  induction c with
  | children get => exact h.elim
  | ap head last ihHead ihLast => exact h.imp ihHead ihLast
  | _ => exact h

theorem reads_split_fill {c : Codec χ ω α} {own : Field χ} {members : Json.Members} {whole : ω}
    (h : c.Reads members (own.get members) (c.split whole)) :
    (c.fill own).Reads members (.ok ()) ((c.fill own).split whole) := by
  induction c with
  | ap head last ihHead ihLast => exact ⟨ihHead h.1, ihLast h.2⟩
  | _ => exact h

theorem all_name_mem (c : Codec χ ω α) : c.All fun f => f.name ∈ c.names := by
  induction c with
  | pure a => trivial
  | field f get => exact List.mem_singleton_self _
  | children get => trivial
  | ap head last ihHead ihLast =>
    exact ⟨ihHead.imp (List.mem_append_left _), ihLast.imp (List.mem_append_right _)⟩

namespace Lawful

variable {c : Codec χ ω ω} {own : Field χ} {members : Json.Members} {owned : Outcome χ} {whole : ω}

theorem nodup_names_fill (hc : c.Lawful) (h : own.name = childrenName) :
    (c.fill own).names.Nodup := by
  rw [names_fill h]
  exact hc.nodup

/-- A whole that was read consists of what was read as its fields. -/
theorem reads_split (hc : c.Lawful) (h : c.read members owned = .ok whole) :
    c.Reads members owned (c.split whole) := by
  obtain ⟨parts, hr, rfl⟩ := read_eq_ok_iff.mp h
  rwa [hc.split_combine]

theorem reads_split_fill (hc : c.Lawful) (h : (c.fill own).read members (.ok ()) = .ok whole) :
    (c.fill own).Reads members (.ok ()) ((c.fill own).split whole) := by
  rw [read_fill] at h
  exact Codec.reads_split_fill (hc.reads_split h)

end Lawful

end Codec

namespace Form

variable {χ α β : Type}

/-- A form with a field for what is owned. -/
def fill (own : Field χ) (form : Form χ α) : Form Unit α :=
  ⟨form.Content, form.layout.fill own, form.make⟩

/-- A form of what elements are to a larger type. -/
def map (f : α → β) (form : Form χ α) : Form χ β :=
  ⟨form.Content, form.layout, f ∘ form.make⟩

theorem read_map (f : α → β) (form : Form χ α) (members : Json.Members) (owned : Outcome χ) :
    (form.map f).read members owned = (form.read members owned).map f := by
  unfold read map
  cases form.layout.read members owned <;> rfl

theorem read_fill (own : Field χ) (form : Form χ α) (members : Json.Members) :
    (form.fill own).read members (.ok ()) = form.read members (own.get members) :=
  congrArg (Except.map form.make) (form.layout.read_fill own members)

end Form

/-! ## Shapes -/

/-- The event definitions of an event, as a field. -/
def Field.eventDefinitions : Field (List EventDefinition) :=
  .list "event_definitions" readEventDefinition fun d => .object d.members

/-- The root elements of the definitions, as a field. -/
def Field.rootElements : Field (List RootElement) :=
  .list "root_elements" readRootElement fun r => .object r.members

namespace Shape

def form : Shape → Form Unit Element
  | .element .definitions => ⟨_, Layout.definitions, .definitions⟩
  | .element (.root kind) => ((Layout.root kind).fill .flowElements).map .root
  | .element (.flow kind) => ((Layout.flow kind).fill .flowElements).map .flow
  | .eventDefinition kind => (Layout.trigger kind).map .eventDefinition
  | .expression => ⟨_, Layout.expression, .expression⟩
  | .outline kind => ((Layout.outline kind).fill .flowElements).map .outline

/-- The names of the fields of a shape. -/
def fieldNames (shape : Shape) : List String := shape.form.layout.names

end Shape

theorem Element.readMembers_eq (members : Json.Members) (shape : Shape) :
    readMembers members shape = shape.form.read members (.ok ()) := by
  rcases shape with (_ | kind | kind) | kind | _ | kind
  · rfl
  · rw [Shape.form, Form.read_map, Form.read_fill, ← readOwned_eq]
    rfl
  · rw [Shape.form, Form.read_map, Form.read_fill, ← readOwned_eq]
    rfl
  · rw [Shape.form, Form.read_map]
    rfl
  · rfl
  · rw [Shape.form, Form.read_map, Form.read_fill, ← readOwned_eq]
    rfl

namespace Shape

theorem nodup_names (shape : Shape) : shape.fieldNames.Nodup := by
  have owns : Field.flowElements.name = childrenName := rfl
  rcases shape with (_ | kind | kind) | kind | _ | kind
  · exact Layout.lawful_definitions.nodup
  · exact (Layout.lawful_root kind).layout.nodup_names_fill owns
  · exact (Layout.lawful_flow kind).layout.nodup_names_fill owns
  · exact (Layout.lawful_trigger kind).layout.nodup
  · exact Layout.lawful_expression.nodup
  · exact (Layout.lawful_outline kind).layout.nodup_names_fill owns

/-- What was read as an element of a shape consists of what was read as its fields. -/
theorem reads_split {shape : Shape} {members : Json.Members} {content : shape.form.Content}
    (h : shape.form.layout.read members (.ok ()) = .ok content) :
    shape.form.layout.Reads members (.ok ()) (shape.form.layout.split content) := by
  rcases shape with (_ | kind | kind) | kind | _ | kind
  · exact Layout.lawful_definitions.reads_split h
  · exact (Layout.lawful_root kind).layout.reads_split_fill h
  · exact (Layout.lawful_flow kind).layout.reads_split_fill h
  · exact (Layout.lawful_trigger kind).layout.reads_split h
  · exact Layout.lawful_expression.reads_split h
  · exact (Layout.lawful_outline kind).layout.reads_split_fill h

end Shape

/-- The fields of shapes that are objects of a shape of their own. -/
inductive Shape.HasObject : Shape → String → Shape → Prop
  | errorRef : HasObject (.eventDefinition .error) "error_ref" (.element (.root .error))
  | condition : HasObject (.eventDefinition .conditional) "condition" .expression
  | activationCondition :
    HasObject (.element (.flow .complexGateway)) "activation_condition" .expression
  | conditionExpression :
    HasObject (.element (.flow .sequenceFlow)) "condition_expression" .expression

theorem Shape.HasObject.of_mem {outer shape inner : Shape} {name : String}
    (h : outer.HasObject name inner) (has : name ∈ shape.fieldNames) :
    shape.HasObject name inner := by
  obtain rfl : shape = outer := by
    revert has
    rcases shape with (_ | kind | kind) | kind | _ | kind
    · cases h <;> decide
    · cases h <;> cases kind <;> decide
    · cases h <;> cases kind <;> decide
    · cases h <;> cases kind <;> decide
    · cases h <;> decide
    · cases h <;> cases kind <;> decide
  exact h

/-! ## Sorts of fields -/

theorem forall_mem_map_isSome {κ : Type} {tag : κ → String} {ofTag? : String → Option κ}
    (h : ∀ kind, ofTag? (tag kind) = some kind) (kinds : List κ) :
    ∀ s ∈ kinds.map tag, (ofTag? s).isSome := by
  refine List.forall_mem_map.mpr fun kind _ => ?_
  rw [h]
  rfl

/-- Something that holds of every sort of field: of an optional object if it holds of the fields of
the object, of a tagged list if it holds of the fields of all kinds that the tags tell apart. -/
structure Field.Sorts (P : {α : Type} → Field α → Prop) : Prop where
  optionalText : ∀ name, P (.optionalText name)
  text : ∀ name default, P (.text name default)
  flag : ∀ name default, P (.flag name default)
  texts : ∀ name, P (.texts name)
  attributes : P (.attributes "extension_attributes")
  blocks : P (.blocks "extension_values")
  constant : ∀ name word, P (.constant name word)
  word : ∀ {α : Type} name {words} {ofWord? : String → Option α} toWord default,
    (∀ s ∈ words, (ofWord? s).isSome) → P (.word name words ofWord? toWord default)
  optionalWord : ∀ {α : Type} name {words} {ofWord? : String → Option α} toWord,
    (∀ s ∈ words, (ofWord? s).isSome) → P (.optionalWord name words ofWord? toWord)
  optionalObject : ∀ {α : Type} {outer inner : Shape} {name} {layout : Codec Unit α α},
    outer.HasObject name inner → inner.fieldNames = layout.names → layout.All P →
    P (.optionalObject name layout)
  eventDefinitions : (∀ kind, (Layout.trigger kind).layout.All P) → P Field.eventDefinitions
  flowElements : (∀ kind, (Layout.flow kind).layout.All P) → P Field.flowElements
  rootElements : (∀ kind, (Layout.root kind).layout.All P) → P Field.flowElements →
    P Field.rootElements

namespace Field.Sorts

variable {P : {α : Type} → Field α → Prop} (h : Sorts P) {χ ω α τ : Type}
include h

theorem base (get : ω → BaseElement) : (Layout.base (χ := χ) get).All P := by
  simp [Layout.base, h.optionalText, h.attributes, h.blocks]

theorem tag (word : String) : (Layout.tag (χ := χ) (ω := ω) word).All P :=
  h.constant _ word

theorem nodeWith {make : τ → FlowNode → α} {tag : Codec χ ω τ} (ht : tag.All P)
    (get : ω → FlowNode) : (Layout.nodeWith make tag get).All P := by
  simp [Layout.nodeWith, h.base, h.texts, ht]

theorem outlineTag (get : ω → ElementKind) : (Layout.outlineTag (χ := χ) get).All P :=
  h.word _ _ _ (forall_mem_map_isSome ElementKind.ofTag?_tag _)

theorem node (word : String) (get : ω → FlowNode) : (Layout.node (χ := χ) word get).All P :=
  h.nodeWith (h.tag word) get

theorem task (word : String) (get : ω → Task) : (Layout.task (χ := χ) word get).All P := by
  simp [Layout.task, h.node, h.flag, h.optionalText]

theorem direction (get : ω → Option GatewayDirection) :
    (Layout.direction (χ := χ) get).All P :=
  h.optionalWord _ _ (forall_mem_map_isSome GatewayDirection.ofTag?_tag _)

theorem gateway (word : String) (get : ω → Gateway) :
    (Layout.gateway (χ := χ) word get).All P := by
  simp [Layout.gateway, h.node, h.direction]

theorem expression : (Layout.expression (χ := χ)).All P := by
  simp [Layout.expression, h.optionalText]

theorem error : (Layout.error (χ := χ)).All P := by
  simp [Layout.error, h.base, h.tag, h.optionalText]

theorem trigger (kind : TriggerKind) : (Layout.trigger kind).layout.All P := by
  have condition : P (.optionalObject "condition" Layout.expression) :=
    h.optionalObject .condition rfl h.expression
  have errorRef : P (.optionalObject "error_ref" Layout.error) :=
    h.optionalObject .errorRef rfl h.error
  cases kind <;> dsimp only [Layout.trigger] <;>
    simp [Layout.timer, Layout.signalTrigger, Layout.errorTrigger, Layout.conditional,
      Layout.escalationTrigger, Layout.messageTrigger, Layout.compensate, Layout.triggerTag,
      h.base, h.constant, h.optionalText, h.flag, condition, errorRef]

theorem triggers (get : ω → List EventDefinition) :
    (Layout.eventDefinitions (χ := χ) get).All P :=
  h.eventDefinitions h.trigger

theorem event (word : String) (get : ω → Event) : (Layout.event (χ := χ) word get).All P := by
  simp [Layout.event, h.node, h.triggers]

theorem flow (kind : FlowKind) : (Layout.flow kind).layout.All P := by
  have activation : P (.optionalObject "activation_condition" Layout.expression) :=
    h.optionalObject .activationCondition rfl h.expression
  have condition : P (.optionalObject "condition_expression" Layout.expression) :=
    h.optionalObject .conditionExpression rfl h.expression
  cases kind <;> dsimp only [Layout.flow] <;>
    simp [Layout.serviceTask, Layout.userTask, Layout.scriptTask, Layout.sendTask,
      Layout.receiveTask, Layout.callActivity, Layout.startEvent, Layout.boundaryEvent,
      Layout.choiceGateway, Layout.eventBasedGateway, Layout.complexGateway, Layout.genericNode,
      Layout.sequenceFlow, Layout.dataObject, Layout.subProcess, h.base, h.tag, h.node, h.task,
      h.event, h.gateway, h.texts, h.flag, h.optionalText, activation, condition]

theorem root (kind : RootKind) : (Layout.root kind).layout.All P := by
  cases kind <;> dsimp only [Layout.root] <;>
    simp [Layout.process, Layout.message, Layout.signal, Layout.escalation, Layout.operation,
      h.error, h.base, h.tag, h.flag, h.text, h.optionalText]

theorem outline (kind : OutlineKind) : (Layout.outline kind).layout.All P := by
  have trigger (name : String) := h.word name TriggerKind.tag none
    (forall_mem_map_isSome TriggerKind.ofTag?_tag TriggerKind.all)
  cases kind <;> dsimp only [Layout.outline] <;>
    simp [Layout.outlineElement, Layout.outlineNode, Layout.outlineEvent, Layout.outlineGateway,
      Layout.outlineContainer, Layout.outlineDefinition, h.nodeWith, h.base, h.outlineTag, trigger,
      h.triggers, h.direction]

theorem definitions : (Layout.definitions (χ := χ)).All P := by
  refine (Codec.all_seq ..).mpr ⟨?_, h.rootElements h.root (h.flowElements h.flow)⟩
  simp [h.base, h.tag, h.text]

/-- What holds of every sort of field holds of all fields of all shapes. -/
theorem all_form (shape : Shape) : shape.form.layout.All P := by
  have flowElements := h.flowElements h.flow
  rcases shape with (_ | kind | kind) | kind | _ | kind
  · exact h.definitions
  · exact (h.root kind).fill flowElements
  · exact (h.flow kind).fill flowElements
  · exact h.trigger kind
  · exact h.expression
  · exact (h.outline kind).fill flowElements

end Field.Sorts

/-! ## The fields of every element -/

section Base

variable {P : {α : Type} → Field α → Prop}
  (h : ∀ {χ ω : Type} (get : ω → BaseElement), (Layout.base (χ := χ) get).Any P)
include h

theorem Layout.any_nodeWith {χ ω α τ : Type} (make : τ → FlowNode → α) (tag : Codec χ ω τ)
    (get : ω → FlowNode) : (nodeWith make tag get).Any P := by
  simp [nodeWith, h]

theorem Layout.any_trigger (kind : TriggerKind) : (trigger kind).layout.Any P := by
  cases kind <;> dsimp only [trigger] <;>
    simp [timer, signalTrigger, errorTrigger, conditional, escalationTrigger, messageTrigger,
      compensate, h]

theorem Layout.any_flow (kind : FlowKind) : (flow kind).layout.Any P := by
  have node := @any_nodeWith P h
  cases kind <;> dsimp only [flow] <;>
    simp [task, serviceTask, userTask, scriptTask, sendTask, receiveTask, callActivity, event,
      startEvent, boundaryEvent, gateway, choiceGateway, eventBasedGateway, complexGateway,
      genericNode, sequenceFlow, dataObject, subProcess, Layout.node, h, node]

theorem Layout.any_root (kind : RootKind) : (root kind).layout.Any P := by
  cases kind <;> dsimp only [root] <;>
    simp [process, message, signal, escalation, operation, error, h]

theorem Layout.any_outline (kind : OutlineKind) : (outline kind).layout.Any P := by
  have node := @any_nodeWith P h
  cases kind <;> dsimp only [outline] <;>
    simp [outlineElement, outlineNode, outlineEvent, outlineGateway, outlineContainer,
      outlineDefinition, h, node]

/-- What holds of one of the fields of every element holds of a field of every shape that has a
field which expressions do not have. -/
theorem Shape.any_form {shape : Shape} {name : String} (has : name ∈ shape.fieldNames)
    (hn : name ∉ Shape.expression.fieldNames) : shape.form.layout.Any P := by
  rcases shape with (_ | kind | kind) | kind | _ | kind
  · show Layout.definitions.Any P
    simp [Layout.definitions, h]
  · exact (Layout.any_root h kind).fill _
  · exact (Layout.any_flow h kind).fill _
  · exact Layout.any_trigger h kind
  · exact (hn has).elim
  · exact (Layout.any_outline h kind).fill _

end Base

end BpmnAudit
