import BpmnAudit.Document.Elements
import BpmnAudit.Proofs.Document.Fields

/-!
# Layouts of all kinds

Every form is lawful: that of each kind of event definition, of flow element and of root element,
and that of each outline. Event definitions are read from lists by their tags, so a list of them
is a lawful field (`Layout.lawful_eventDefinitions`), which the layouts of events need.

For each kind, the tag that is written is that of the kind, and selects the kind again.
-/

namespace BpmnAudit

attribute [simp] Field.flat_optionalText Field.flat_text Field.flat_flag Field.flat_constant
  Field.flat_texts Field.flat_attributes Field.flat_blocks Field.Flat.lawful

/-! ## Words -/

theorem GatewayDirection.ofTag?_tag (direction : GatewayDirection) :
    ofTag? direction.tag = some direction := by
  cases direction <;> decide

theorem TriggerKind.ofTag?_tag (kind : TriggerKind) : ofTag? kind.tag = some kind := by
  cases kind <;> decide

theorem RootKind.ofTag?_tag (kind : RootKind) : ofTag? kind.tag = some kind := by
  cases kind <;> decide

theorem FlowKind.ofTag?_tag (kind : FlowKind) : ofTag? kind.tag = some kind := by
  cases kind <;> decide

theorem ElementKind.ofTag?_tag (kind : ElementKind) : ofTag? kind.tag = some kind := by
  rcases kind with _ | kind | kind
  · decide
  · cases kind <;> decide
  · cases kind <;> decide

namespace Layout

variable {χ ω τ α : Type}

/-! ## Parts shared by kinds -/

@[simp] theorem flat_base (get : ω → BaseElement) : (base (χ := χ) get).All Field.Flat := by
  simp [base]

@[simp] theorem lawful_base (get : ω → BaseElement) : (base (χ := χ) get).All Field.Lawful :=
  (flat_base get).imp Field.Flat.lawful

@[simp] theorem flat_tag (word : String) : (tag (χ := χ) (ω := ω) word).All Field.Flat := by
  simp [tag]

@[simp] theorem lawful_tag (word : String) : (tag (χ := χ) (ω := ω) word).All Field.Lawful :=
  (flat_tag word).imp Field.Flat.lawful

@[simp] theorem writes_tag (word : String) :
    (tag (χ := χ) (ω := ω) word).Writes elementTagName (.text word) :=
  ⟨rfl, fun _ => rfl⟩

@[simp] theorem lawful_outlineTag (get : ω → ElementKind) :
    (outlineTag (χ := χ) get).All Field.Lawful :=
  (Field.flat_word ElementKind.ofTag?_tag none).lawful

@[simp] theorem lawful_nodeWith {make : τ → FlowNode → α} {tag : Codec χ ω τ} {get : ω → FlowNode}
    (h : tag.All Field.Lawful) : (nodeWith make tag get).All Field.Lawful := by
  simp [nodeWith, h]

@[simp] theorem lawful_node (word : String) (get : ω → FlowNode) :
    (node (χ := χ) word get).All Field.Lawful := by
  simp [node]

@[simp] theorem writes_node (word : String) (get : ω → FlowNode) :
    (node (χ := χ) word get).Writes elementTagName (.text word) := by
  simp [node, nodeWith]

@[simp] theorem lawful_task (word : String) (get : ω → Task) :
    (task (χ := χ) word get).All Field.Lawful := by
  simp [task]

@[simp] theorem lawful_direction (get : ω → Option GatewayDirection) :
    (direction (χ := χ) get).All Field.Lawful :=
  (Field.flat_optionalWord GatewayDirection.ofTag?_tag).lawful

@[simp] theorem lawful_gateway (word : String) (get : ω → Gateway) :
    (gateway (χ := χ) word get).All Field.Lawful := by
  simp [gateway]

/-! ## Objects within objects -/

theorem lawful_expression : (expression (χ := Unit)).Lawful := by
  constructor
  case fields => simp [expression]
  case nodup => decide
  case rebuild_eq => exact fun _ => rfl
  case split_combine => exact fun _ => rfl

@[simp] theorem lawful_expressionField (name : String) :
    (Field.optionalObject name expression).Lawful := by
  refine Field.lawful_optionalObject lawful_expression ?_ name
  simp [expression]

theorem lawful_error : (error (χ := Unit)).Lawful := by
  constructor
  case fields => simp [error]
  case nodup => decide
  case rebuild_eq => exact fun _ => rfl
  case split_combine => exact fun _ => rfl

@[simp] theorem lawful_errorField (name : String) : (Field.optionalObject name error).Lawful := by
  refine Field.lawful_optionalObject lawful_error ?_ name
  simp [error]

/-! ## Event definitions -/

@[simp] theorem lawful_triggerTag (kind : TriggerKind) :
    (triggerTag (χ := χ) (ω := ω) kind).All Field.Lawful := by
  simp [triggerTag]

@[simp] theorem writes_triggerTag (kind : TriggerKind) :
    (triggerTag (χ := χ) (ω := ω) kind).Writes triggerTagName (.text kind.tag) :=
  ⟨rfl, fun _ => rfl⟩

theorem lawful_trigger (kind : TriggerKind) :
    (trigger kind).Lawful (fun _ => .null) fun d => .object d.members := by
  constructor
  · constructor
    case fields =>
      cases kind <;> dsimp only [trigger] <;>
        simp [timer, signalTrigger, errorTrigger, conditional, escalationTrigger, messageTrigger,
          compensate]
    case nodup => cases kind <;> decide
    case rebuild_eq => cases kind <;> exact fun _ => rfl
    case split_combine => cases kind <;> exact fun _ => rfl
  · intro content
    -- What owns nothing is written in the same way whatever it is said to own.
    generalize (trigger kind).layout.writeOwned (fun _ => .null) content = x
    cases kind <;> rfl

theorem writes_tag_trigger (kind : TriggerKind) :
    (trigger kind).layout.Writes triggerTagName (.text kind.tag) := by
  cases kind <;> dsimp only [trigger] <;>
    simp [timer, signalTrigger, errorTrigger, conditional, escalationTrigger, messageTrigger,
      compensate]

end Layout

namespace EventDefinition

theorem exists_trigger (d : EventDefinition) :
    ∃ content, (Layout.trigger d.kind).make content = d := by
  cases d <;> exact ⟨_, rfl⟩

theorem read_members (d : EventDefinition) :
    Json.get? d.members triggerTagName = some (.text d.kind.tag) ∧
      (Layout.trigger d.kind).read d.members (.ok ()) = .ok d := by
  obtain ⟨content, hd⟩ := d.exists_trigger
  have lawful := Layout.lawful_trigger d.kind
  have written := lawful.write_make content
  rw [hd] at written
  rw [Json.object.inj written]
  constructor
  · exact lawful.layout.get?_write ((Layout.writes_tag_trigger d.kind).mem_write ..)
  · rw [lawful.read_write fun _ _ => rfl, hd]

theorem readEventDefinition_members (d : EventDefinition) :
    readEventDefinition (.object d.members) = .ok d :=
  readTagged_eq_ok.mpr ⟨_, _, d.read_members.1, d.kind.ofTag?_tag, d.read_members.2⟩

theorem numberless_members (d : EventDefinition) : (Json.object d.members).Numberless := by
  obtain ⟨content, hd⟩ := d.exists_trigger
  rw [← hd]
  exact (Layout.lawful_trigger d.kind).numberless fun _ _ => trivial

theorem depth_members_le {m : Nat} {v : Json} {d : EventDefinition}
    (h : readEventDefinition v = .ok d) (hv : v.depth ≤ 2 * m) :
    (Json.object d.members).depth ≤ 2 * m := by
  cases v with
  | object members =>
    obtain ⟨kind, k, rfl, hread⟩ := exists_kind_of_readTagged h hv
    exact (Layout.lawful_trigger kind).depth_le hread hv fun _ _ => Nat.zero_le _
  | _ => cases h

end EventDefinition

namespace Layout

variable {χ ω : Type}

@[simp] theorem lawful_eventDefinitions (get : ω → List EventDefinition) :
    (eventDefinitions (χ := χ) get).All Field.Lawful :=
  Field.lawful_list EventDefinition.readEventDefinition_members EventDefinition.numberless_members
    fun _ _ _ hv hd => EventDefinition.depth_members_le hv hd

@[simp] theorem lawful_event (word : String) (get : ω → Event) :
    (event (χ := χ) word get).All Field.Lawful := by
  simp [event]

/-! ## Flow elements -/

/-- Flow elements that are owned, as a value. -/
def writeChildren (es : List FlowElement) : Json := .array (writeEach es)

theorem lawful_flow (kind : FlowKind) : (flow kind).Lawful writeChildren FlowElement.toJson := by
  constructor
  · constructor
    case fields =>
      cases kind <;> dsimp only [flow] <;>
        simp [serviceTask, userTask, scriptTask, sendTask, receiveTask, callActivity, startEvent,
          boundaryEvent, choiceGateway, eventBasedGateway, complexGateway, genericNode,
          sequenceFlow, dataObject, subProcess]
    case nodup => cases kind <;> decide
    case rebuild_eq => cases kind <;> exact fun _ => rfl
    case split_combine => cases kind <;> exact fun _ => rfl
  · intro content
    generalize hx : (flow kind).layout.writeOwned writeChildren content = x
    cases kind
    case subProcess => subst hx; rfl
    all_goals rfl

theorem writes_tag_flow (kind : FlowKind) :
    (flow kind).layout.Writes elementTagName (.text kind.tag) := by
  cases kind <;> dsimp only [flow] <;>
    simp [serviceTask, userTask, scriptTask, sendTask, receiveTask, callActivity, startEvent,
      event, boundaryEvent, choiceGateway, gateway, eventBasedGateway, complexGateway, genericNode,
      sequenceFlow, dataObject, subProcess, task]

/-- Flow elements are owned by containers only. -/
theorem childrenName_mem_flow (kind : FlowKind) :
    childrenName ∈ (flow kind).layout.names ↔ kind.isContainer = true := by
  cases kind <;> decide

/-! ## Root elements and outlines -/

theorem lawful_root (kind : RootKind) :
    (root kind).Lawful writeChildren fun r => .object r.members := by
  constructor
  · constructor
    case fields =>
      cases kind <;> dsimp only [root] <;>
        simp [process, message, signal, error, escalation, operation]
    case nodup => cases kind <;> decide
    case rebuild_eq => cases kind <;> exact fun _ => rfl
    case split_combine => cases kind <;> exact fun _ => rfl
  · intro content
    generalize hx : (root kind).layout.writeOwned writeChildren content = x
    cases kind
    case process => subst hx; rfl
    all_goals rfl

theorem writes_tag_root (kind : RootKind) :
    (root kind).layout.Writes elementTagName (.text kind.tag) := by
  cases kind <;> dsimp only [root] <;>
    simp [process, message, signal, error, escalation, operation]

theorem lawful_outlineDefinition : (outlineDefinition (χ := χ)).All Field.Lawful := by
  simp [outlineDefinition, Field.flat_word TriggerKind.ofTag?_tag]

theorem lawful_outline (kind : OutlineKind) :
    (outline kind).Lawful writeChildren fun o => .object o.members := by
  constructor
  · constructor
    case fields =>
      cases kind <;> dsimp only [outline] <;>
        simp [outlineElement, outlineNode, outlineEvent, outlineGateway, outlineContainer,
          lawful_outlineDefinition]
    case nodup => cases kind <;> decide
    case rebuild_eq => cases kind <;> exact fun _ => rfl
    case split_combine => cases kind <;> exact fun _ => rfl
  · intro content
    generalize hx : (outline kind).layout.writeOwned writeChildren content = x
    cases kind
    case container => subst hx; rfl
    all_goals rfl

end Layout

end BpmnAudit
