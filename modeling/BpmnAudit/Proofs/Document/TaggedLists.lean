import BpmnAudit.Proofs.Document.Frank
import BpmnAudit.Proofs.Document.RoundTrip

/-!
# Tagged lists

The members of three lists are told apart by a tag: the root elements of the definitions, the flow
elements of a container, and the event definitions of an event. The faults of such a list are those
of its members one after the other (`TaggedList.read_faults`); it loads exactly if there are none
(`TaggedList.exists_read_iff`), and then each member is what it loads to on its own
(`TaggedList.loads_of_read`).

An element has a tagged list if its shape has the field (`TaggedList.field_mem_fieldNames`), and
then the list is what the field was read as (`Element.exists_list`).
-/

namespace BpmnAudit

/-! ## Tagged lists -/

/-- The lists whose members are told apart by a tag. -/
inductive TaggedList where
  | rootElements
  | flowElements
  | eventDefinitions
  deriving DecidableEq, Repr

namespace TaggedList

def field : TaggedList → String
  | rootElements => "root_elements"
  | flowElements => childrenName
  | eventDefinitions => "event_definitions"

/-- The field of a member that holds its tag. -/
def tagField : TaggedList → String
  | rootElements | flowElements => elementTagName
  | eventDefinitions => triggerTagName

/-- The tags of members, in the order in which messages list them. -/
def tags : TaggedList → List String
  | rootElements => RootKind.listed.map RootKind.tag
  | flowElements => FlowKind.listed.map FlowKind.tag
  | eventDefinitions => TriggerKind.all.map TriggerKind.tag

def shape? : TaggedList → String → Option Shape
  | rootElements, tag => (RootKind.ofTag? tag).map fun kind => .element (.root kind)
  | flowElements, tag => (FlowKind.ofTag? tag).map fun kind => .element (.flow kind)
  | eventDefinitions, tag => (TriggerKind.ofTag? tag).map .eventDefinition

def readItem : TaggedList → Json → Outcome Element
  | rootElements, v => (readRootElement v).map .root
  | flowElements, v => (readFlowElement v).map .flow
  | eventDefinitions, v => (readEventDefinition v).map .eventDefinition

def read : TaggedList → Json → Outcome (List Element)
  | rootElements, v => (Field.rootElements.read v).map (List.map .root)
  | flowElements, v => (Field.flowElements.read v).map (List.map .flow)
  | eventDefinitions, v => (Field.eventDefinitions.read v).map (List.map .eventDefinition)

/-- The list of an element, if it has one. -/
def of? : TaggedList → Element → Option (List Element)
  | rootElements, .definitions d => some (d.rootElements.map .root)
  | rootElements, _ => none
  | flowElements, e => e.flowElements?.map (List.map .flow)
  | eventDefinitions, e => e.eventDefinitions?.map (List.map .eventDefinition)

/-- The faults of a member, told from the list: one if it is no object, or if its tag is missing or
names no shape, and else those of the member on its own as the shape that its tag names. -/
def memberFaults (list : TaggedList) (item : Json) (i : Nat) : List Fault :=
  match item with
  | .object members =>
    match Json.get? members list.tagField with
    | none => [⟨[.index i], .noTag list.tagField⟩]
    | some (.text tag) =>
      match list.shape? tag with
      | some shape => (Element.read shape item).faults.map (Fault.within [.index i, .tag tag])
      | none => [⟨[.index i], .unknownTag tag list.tagField list.tags⟩]
    | some value => [⟨[.index i], .unknownTag value.settled.bareText list.tagField list.tags⟩]
  | _ => [⟨[.index i], .notObject⟩]

/-- The faults of a list: those of its members one after the other. -/
def faults (list : TaggedList) (items : List Json) : List Fault :=
  items.zipIdx.flatMap fun (item, i) => list.memberFaults item i

end TaggedList

/-! ## Readings as parts of a larger type -/

section Wider

variable {κ ι α β : Type}

theorem Outcome.map_under (f : α → β) (o : Outcome α) (step : Step) :
    Except.map f (o.under step) = under step (o.map f) := by
  cases o <;> rfl

theorem Outcome.map_collect (f : α → β) (i : Nat) (os : List (Outcome α)) :
    Except.map (List.map f) (collect i os) = collect i (os.map (Except.map f)) := by
  induction os generalizing i with
  | nil => rfl
  | cons o os ih =>
    rw [List.map_cons, collect, collect, ← ih]
    cases o <;> cases collect (i + 1) os <;> rfl

theorem map_readTagged (f : α → β) (g : κ → ι) {read : κ → Outcome α} (wide : ι → Outcome β)
    (h : ∀ kind, wide (g kind) = (read kind).map f) (field : String) (tags : List String)
    (ofTag? : String → Option κ) (members : Json.Members) :
    (readTagged field tags ofTag? read members).map f =
      readTagged field tags (fun tag => (ofTag? tag).map g) wide members := by
  unfold readTagged
  split
  · rfl
  · dsimp only
    cases ofTag? _ with
    | none => rfl
    | some kind =>
      rw [Option.map_some]
      dsimp only
      rw [h, Outcome.map_under]
  · rfl

end Wider

/-! ## Members -/

/-- Where all kinds are listed and all are found, the tags that are listed are those that name a
kind. -/
theorem isSome_find?_tag_iff {κ : Type} {listed all : List κ} (hl : ∀ kind, kind ∈ listed)
    (ha : ∀ kind, kind ∈ all) (tag : κ → String) (s : String) :
    (all.find? (tag · == s)).isSome ↔ s ∈ listed.map tag := by
  rw [List.find?_isSome, List.mem_map]
  exact ⟨fun ⟨kind, _, h⟩ => ⟨kind, hl kind, beq_iff_eq.mp h⟩,
    fun ⟨kind, _, h⟩ => ⟨kind, ha kind, beq_iff_eq.mpr h⟩⟩

namespace TaggedList

theorem isSome_shape?_iff (list : TaggedList) (tag : String) :
    (list.shape? tag).isSome ↔ tag ∈ list.tags := by
  cases list
  all_goals
    rw [shape?, Option.isSome_map]
    refine isSome_find?_tag_iff (fun kind => ?_) (fun kind => ?_) _ tag <;> cases kind <;> decide

theorem readItem_object (list : TaggedList) (members : Json.Members) :
    list.readItem (.object members) =
      readTagged list.tagField list.tags list.shape?
        (fun shape => Element.read shape (.object members)) members := by
  cases list with
  | rootElements =>
    exact map_readTagged .root (fun kind => .element (.root kind))
      (fun shape => Element.read shape (.object members)) (fun _ => rfl) _ _ _ members
  | flowElements =>
    rw [readItem, readFlowElement]
    exact map_readTagged .flow (fun kind => .element (.flow kind))
      (fun shape => Element.read shape (.object members)) (fun _ => rfl) _ _ _ members
  | eventDefinitions =>
    exact map_readTagged .eventDefinition .eventDefinition
      (fun shape => Element.read shape (.object members)) (fun _ => rfl) _ _ _ members

theorem readItem_of_ne {v : Json} (h : ∀ members, v ≠ .object members) (list : TaggedList) :
    list.readItem v = .fault .notObject := by
  cases v with
  | object members => exact (h members rfl).elim
  | _ =>
    cases list with
    | flowElements => rw [readItem, readFlowElement] <;> simp [Outcome.fault, Except.map]
    | _ => rfl

theorem readItem_tagged {list : TaggedList} {nested : Json.Members} {tag : String} {inner : Shape}
    (tagged : Json.get? nested list.tagField = some (.text tag))
    (named : list.shape? tag = some inner) :
    list.readItem (.object nested) =
      (Element.read inner (.object nested)).under (.tag tag) := by
  rw [readItem_object]
  simp only [readTagged, tagged, named]

theorem frank_readItem (list : TaggedList) (v : Json) : (list.readItem v).Frank := by
  by_cases h : ∃ members, v = .object members
  · obtain ⟨members, rfl⟩ := h
    rw [readItem_object]
    exact frank_readTagged (fun shape => Element.frank_read shape _) _ _ _ _
  · rw [list.readItem_of_ne fun members hv => h ⟨members, hv⟩]
    exact Outcome.frank_fault _

/-- The member of a list is an object whose tag names a shape, and is read on its own as an element
of this shape. -/
def Loads (list : TaggedList) (item : Json) (e : Element) : Prop :=
  ∃ members tag, item = .object members ∧
    Json.get? members list.tagField = some (.text tag) ∧ list.shape? tag = some e.shape ∧
    Element.read e.shape item = .ok e

theorem readItem_eq_ok {list : TaggedList} {item : Json} {e : Element} :
    list.readItem item = .ok e ↔ list.Loads item e := by
  constructor
  · intro h
    cases item with
    | object members =>
      rw [readItem_object] at h
      obtain ⟨tag, shape, htag, hshape, hread⟩ := readTagged_eq_ok.mp h
      obtain rfl := Element.shape_of_readMembers hread
      exact ⟨members, tag, rfl, htag, hshape, hread⟩
    | _ =>
      rw [list.readItem_of_ne (by simp)] at h
      cases h
  · rintro ⟨members, tag, rfl, htag, hshape, hread⟩
    rw [readItem_tagged htag hshape]
    exact Outcome.under_eq_ok.mpr hread

/-- The faults of a member are those of its reading, under its index. -/
theorem memberFaults_eq (list : TaggedList) (item : Json) (i : Nat) :
    list.memberFaults item i = (list.readItem item).faults.map (Fault.within [.index i]) := by
  unfold memberFaults
  split
  · next members =>
    rw [readItem_object, readTagged]
    cases Json.get? members list.tagField with
    | none => rfl
    | some value =>
      cases value with
      | text tag =>
        dsimp only
        cases list.shape? tag with
        | none => rfl
        | some shape =>
          dsimp only
          rw [Outcome.faults_under, List.map_map]
          congr 1
      | _ => rfl
  · next h =>
    rw [list.readItem_of_ne h]
    rfl

/-! ## Lists -/

theorem read_array (list : TaggedList) (items : List Json) :
    list.read (.array items) = .collect 0 (items.map list.readItem) := by
  cases list
  all_goals
    refine (Outcome.map_collect ..).trans ?_
    rw [List.map_map]
    rfl

theorem read_eq_readList (list : TaggedList) (v : Json) :
    list.read v = readList list.readItem v := by
  cases v with
  | array items => exact list.read_array items
  | _ => cases list <;> rfl

theorem read_faults (list : TaggedList) (items : List Json) :
    (list.read (.array items)).faults = list.faults items := by
  rw [read_array, Outcome.faults_collect, faults, joinFaults, indexedFaults, List.zipIdx_map,
    List.map_map, List.flatMap_map]
  congr 1
  funext entry
  exact (list.memberFaults_eq entry.1 entry.2).symm

theorem faultsAt_index {items : List Json} {i : Nat} {item : Json} (h : items[i]? = some item)
    (list : TaggedList) (way : List Step) :
    faultsAt (.index i :: way) (list.read (.array items)).faults =
      faultsAt way (list.readItem item).faults := by
  rw [read_array, Outcome.faults_collect]
  refine faultsAt_joinFaults (nodup_indexedFaults ..) (mem_indexedFaults ?_ Outcome.faults) way
  rw [List.getElem?_map, h]
  rfl

theorem read_array_eq_ok {list : TaggedList} {items : List Json} {es : List Element} :
    list.read (.array items) = .ok es ↔ items.map list.readItem = es.map .ok := by
  rw [read_array]
  exact Outcome.collect_eq_ok

/-- A list is loaded member by member. -/
theorem loads_of_read {list : TaggedList} {items : List Json} {es : List Element}
    (h : list.read (.array items) = .ok es) :
    es.length = items.length ∧
      ∀ (i : Nat) item e, items[i]? = some item → es[i]? = some e → list.Loads item e := by
  have same := read_array_eq_ok.mp h
  refine ⟨by simpa using (congrArg List.length same).symm, fun i item e hitem he => ?_⟩
  have one : (items.map list.readItem)[i]? = (es.map Except.ok)[i]? := by rw [same]
  rw [List.getElem?_map, hitem, List.getElem?_map, he] at one
  exact readItem_eq_ok.mp (Option.some.inj one)

/-- A list loads exactly if it has no faults. -/
theorem exists_read_iff (list : TaggedList) (items : List Json) :
    (∃ es, list.read (.array items) = .ok es) ↔ list.faults items = [] := by
  have frank : (list.read (.array items)).Frank := by
    rw [read_eq_readList]
    exact frank_readList list.frank_readItem _
  rw [← read_faults]
  exact frank.faults_eq_nil_iff.symm

end TaggedList

/-! ## Shapes with tagged lists -/

namespace Codec

variable {χ ω α β γ : Type}

/-- One of the fields of a layout is read as a part of the whole. -/
def Holds (name : String) (read : Json → Outcome γ) (part : ω → Option γ) :
    {α : Type} → Codec χ ω α → Prop
  | _, .pure _ => False
  | α, .field f get =>
    f.name = name ∧ ∃ wide : α → γ, Function.Injective wide ∧
      (∀ v, read v = (f.read v).map wide) ∧ ∀ whole, part whole = some (wide (get whole))
  | _, .children _ => False
  | _, .ap head last => head.Holds name read part ∨ last.Holds name read part

variable {name : String} {read : Json → Outcome γ} {part : ω → Option γ} {c : Codec χ ω α}
  {members : Json.Members} {v : Json}

theorem Holds.fill (h : c.Holds name read part) (own : Field χ) :
    (c.fill own).Holds name read part := by
  induction c with
  | children get => exact h.elim
  | ap head last ihHead ihLast => exact h.imp ihHead ihLast
  | _ => exact h

theorem Holds.any_faults (h : c.Holds name read part) (v : Json) :
    c.Any fun f => f.name = name ∧ (f.read v).faults = (read v).faults := by
  induction c with
  | pure a => exact h.elim
  | field f get =>
    obtain ⟨hname, wide, -, hread, -⟩ := h
    exact ⟨hname, by rw [hread, Outcome.faults_map]⟩
  | children get => exact h.elim
  | ap head last ihHead ihLast => exact h.imp ihHead ihLast

theorem Holds.exists_part (h : c.Holds name read part) {owned : Outcome χ} {whole : ω}
    (hr : c.Reads members owned (c.split whole)) (hv : Json.get? members name = some v) :
    ∃ b, part whole = some b ∧ read v = .ok b := by
  induction c with
  | pure a => exact h.elim
  | field f get =>
    obtain ⟨rfl, wide, -, hread, hpart⟩ := h
    have found : f.read v = .ok (get whole) := by
      have hget : f.get members = .ok (get whole) := hr
      rw [Field.get, hv] at hget
      exact Outcome.under_eq_ok.mp hget
    refine ⟨_, hpart whole, ?_⟩
    rw [hread, found]
    rfl
  | children get => exact h.elim
  | ap head last ihHead ihLast => exact h.elim (ihHead · hr.1) (ihLast · hr.2)

end Codec

namespace TaggedList

def shapes : TaggedList → List Shape
  | rootElements => [.element .definitions]
  | flowElements => [.element (.root .process), .element (.flow .subProcess), .outline .container]
  | eventDefinitions =>
    [.element (.flow .startEvent), .element (.flow .endEvent),
      .element (.flow .intermediateCatchEvent), .element (.flow .intermediateThrowEvent),
      .element (.flow .boundaryEvent), .outline .event]

/-- The shapes that have a list are those with its field. -/
theorem field_mem_fieldNames (list : TaggedList) (shape : Shape) :
    list.field ∈ shape.fieldNames ↔ shape ∈ list.shapes := by
  rcases shape with (_ | kind | kind) | kind | _ | kind
  · cases list <;> decide
  · cases list <;> cases kind <;> decide
  · cases list <;> cases kind <;> decide
  · cases list <;> cases kind <;> decide
  · cases list <;> decide
  · cases list <;> cases kind <;> decide

theorem map_root_injective : Function.Injective (List.map Element.root) :=
  List.map_injective_iff.mpr fun _ _ => Element.root.inj

theorem map_flow_injective : Function.Injective (List.map Element.flow) :=
  List.map_injective_iff.mpr fun _ _ => Element.flow.inj

theorem map_eventDefinition_injective : Function.Injective (List.map Element.eventDefinition) :=
  List.map_injective_iff.mpr fun _ _ => Element.eventDefinition.inj

theorem holds_event {ω : Type} {word : String} {get : ω → Event}
    {part : ω → Option (List Element)}
    (h : ∀ whole, part whole = some ((get whole).definitions.map .eventDefinition)) :
    (Layout.event (χ := List FlowElement) word get).Holds "event_definitions"
      eventDefinitions.read part :=
  .inr ⟨rfl, _, map_eventDefinition_injective, fun _ => rfl, h⟩

/-- A shape with a list reads it as the list of what is made. Each path leads to its field in the
layout, in which fields are added one after the other. -/
theorem holds {list : TaggedList} {shape : Shape} (h : shape ∈ list.shapes) :
    shape.form.layout.Holds list.field list.read fun content =>
      list.of? (shape.form.make content) := by
  cases list with
  | rootElements =>
    obtain rfl := List.mem_singleton.mp h
    exact .inr ⟨rfl, _, map_root_injective, fun _ => rfl, fun _ => rfl⟩
  | flowElements =>
    simp only [shapes, List.mem_cons, List.not_mem_nil, or_false] at h
    rcases h with rfl | rfl | rfl
    · exact .inl (.inl (.inl (.inr ⟨rfl, _, map_flow_injective, fun _ => rfl, fun _ => rfl⟩)))
    · exact .inl (.inl (.inl (.inl
        (.inr ⟨rfl, _, map_flow_injective, fun _ => rfl, fun _ => rfl⟩))))
    · exact .inr ⟨rfl, _, map_flow_injective, fun _ => rfl, fun _ => rfl⟩
  | eventDefinitions =>
    simp only [shapes, List.mem_cons, List.not_mem_nil, or_false] at h
    rcases h with rfl | rfl | rfl | rfl | rfl | rfl
    · refine Codec.Holds.fill ?_ _
      exact .inl (.inr (holds_event fun _ => rfl))
    · exact Codec.Holds.fill (holds_event fun _ => rfl) _
    · exact Codec.Holds.fill (holds_event fun _ => rfl) _
    · exact Codec.Holds.fill (holds_event fun _ => rfl) _
    · refine Codec.Holds.fill ?_ _
      exact .inl (.inl (.inr (holds_event fun _ => rfl)))
    · refine Codec.Holds.fill ?_ _
      exact .inr ⟨rfl, _, map_eventDefinition_injective, fun _ => rfl, fun _ => rfl⟩

end TaggedList

theorem Shape.HasObject.any_faults {shape inner : Shape} {name : String}
    (has : shape.HasObject name inner) (nested : Json.Members) :
    shape.form.layout.Any fun f => f.name = name ∧
      (f.read (.object nested)).faults = (Element.read inner (.object nested)).faults := by
  have same {α β : Type} (g : α → β) (o : Outcome α) :
      Outcome.faults (o.map some) = Outcome.faults (o.map g) := by
    rw [Outcome.faults_map, Outcome.faults_map]
  cases has with
  | errorRef =>
    exact .inr ⟨rfl, (same RootElement.error _).trans (Outcome.faults_map Element.root _).symm⟩
  | condition => exact .inr ⟨rfl, same _ _⟩
  | activationCondition => exact .inr ⟨rfl, same _ _⟩
  | conditionExpression => exact .inr ⟨rfl, same _ _⟩

namespace Element

theorem faultsAt_field {shape : Shape} {name : String} {v : Json} {faults : List Fault}
    (h : shape.form.layout.Any fun f => f.name = name ∧ (f.read v).faults = faults)
    {members : Json.Members} (hv : Json.get? members name = some v) (way : List Step) :
    faultsAt (.key name :: way) (read shape (.object members)).faults = faultsAt way faults := by
  rw [read, readMembers_eq, Form.read, Outcome.faults_map, Codec.faults_read]
  exact faultsAt_joinFaults (Codec.nodup_fieldFaults shape.nodup_names members)
    (h.mem_fieldFaults hv) way

variable {shape : Shape} {list : TaggedList} {members : Json.Members}

theorem faultsAt_list (has : list.field ∈ shape.fieldNames) {v : Json}
    (hv : Json.get? members list.field = some v) (way : List Step) :
    faultsAt (.key list.field :: way) (read shape (.object members)).faults =
      faultsAt way (list.read v).faults :=
  faultsAt_field ((TaggedList.holds ((list.field_mem_fieldNames shape).mp has)).any_faults v) hv way

theorem faultsAt_member (has : list.field ∈ shape.fieldNames) {items : List Json}
    (given : Json.get? members list.field = some (.array items)) {i : Nat}
    {nested : Json.Members} (item : items[i]? = some (.object nested)) {tag : String}
    {inner : Shape} (tagged : Json.get? nested list.tagField = some (.text tag))
    (named : list.shape? tag = some inner) (way : List Step) :
    faultsAt (.key list.field :: .index i :: .tag tag :: way)
        (read shape (.object members)).faults =
      faultsAt way (read inner (.object nested)).faults := by
  rw [faultsAt_list has given, TaggedList.faultsAt_index item,
    TaggedList.readItem_tagged tagged named, Outcome.faults_under]
  exact faultsAt_within_self _ _ _

/-- An element that was read has the tagged list that was read. -/
theorem exists_list (has : list.field ∈ shape.fieldNames) {v : Json}
    (hv : Json.get? members list.field = some v) {e : Element}
    (h : read shape (.object members) = .ok e) :
    ∃ es, list.of? e = some es ∧ list.read v = .ok es := by
  have holds := TaggedList.holds ((list.field_mem_fieldNames shape).mp has)
  rw [read, readMembers_eq] at h
  obtain ⟨content, hcontent, rfl⟩ := Form.read_eq_ok.mp h
  exact holds.exists_part (Shape.reads_split hcontent) hv

end Element

end BpmnAudit
