import BpmnAudit.Document.Text
import BpmnAudit.Proofs.Document.Trees
import BpmnAudit.Proofs.Json.RoundTrip

/-!
# The round trip of elements

What is loaded from a text is dumped to a text that loads again, as the same shape and to the same
element (`Element.load_dump`).

The one way for this to fail would be a dump beyond the limit of nesting. A dump may well be nested
more deeply than the text that was loaded, since fields that were absent are written. But this
happens only where an optional object was read from `{}`, which stands at an odd depth, so that the
even limit is never crossed (`Element.depth_toJson_le`).
-/

namespace BpmnAudit.Element

/-! ## Shapes -/

theorem kind_make_flow (kind : FlowKind) (content : (Layout.flow kind).Content) :
    ((Layout.flow kind).make content).kind = kind := by
  cases kind <;> rfl

theorem kind_make_root (kind : RootKind) (content : (Layout.root kind).Content) :
    ((Layout.root kind).make content).kind = kind := by
  cases kind <;> rfl

theorem kind_make_trigger (kind : TriggerKind) (content : (Layout.trigger kind).Content) :
    ((Layout.trigger kind).make content).kind = kind := by
  cases kind <;> rfl

theorem group_make_outline (kind : OutlineKind) (content : (Layout.outline kind).Content) :
    ((Layout.outline kind).make content).group = kind := by
  cases kind <;> rfl

theorem shape_of_readMembers {members : Json.Members} {shape : Shape} {e : Element}
    (h : readMembers members shape = .ok e) : e.shape = shape := by
  rcases shape with (_ | kind | kind) | kind | _ | kind
  all_goals obtain ⟨part, hpart, rfl⟩ := Outcome.map_eq_ok.mp h
  · rfl
  · obtain ⟨content, -, rfl⟩ := Form.read_eq_ok.mp hpart
    exact congrArg (Shape.element ∘ .root) (kind_make_root kind content)
  · obtain ⟨content, -, rfl⟩ := Form.read_eq_ok.mp hpart
    exact congrArg (Shape.element ∘ .flow) (kind_make_flow kind content)
  · obtain ⟨content, -, rfl⟩ := Form.read_eq_ok.mp hpart
    exact congrArg Shape.eventDefinition (kind_make_trigger kind content)
  · rfl
  · obtain ⟨content, -, rfl⟩ := Form.read_eq_ok.mp hpart
    exact congrArg Shape.outline (group_make_outline kind content)

/-! ## Values -/

theorem exists_outline (o : Outline) :
    ∃ content, (Layout.outline o.group).make content = o :=
  match o with
  | .element base => ⟨base, rfl⟩
  | .flowElement tag base => ⟨(tag, base), rfl⟩
  | .flowNode tag node => ⟨(tag, node), rfl⟩
  | .event tag event => ⟨(tag, event), rfl⟩
  | .gateway tag gateway => ⟨(tag, gateway), rfl⟩
  | .container base es => ⟨(base, es), rfl⟩
  | .eventDefinition tag base => ⟨(tag, base), rfl⟩

/-- An element is written as an object without numbers, from which it is read back. -/
theorem toJson_eq_object (e : Element) :
    ∃ members, e.toJson = .object members ∧ (Json.object members).Numberless ∧
      readMembers members e.shape = .ok e := by
  cases e with
  | definitions d =>
    refine ⟨_, rfl, Layout.lawful_definitions.numberless_write trivial, ?_⟩
    exact Outcome.map_eq_ok.mpr ⟨d, Layout.lawful_definitions.read_write fun _ _ => rfl, rfl⟩
  | root r =>
    obtain ⟨content, hr⟩ := r.exists_root
    obtain ⟨members, hw, hn, -, hread⟩ := (Layout.lawful_root r.kind).write_eq_object content
    rw [hr] at hw hread
    exact ⟨members, hw, hn, Outcome.map_eq_ok.mpr ⟨r, hread, rfl⟩⟩
  | flow e =>
    obtain ⟨content, he, -⟩ := e.exists_flow
    obtain ⟨members, hw, hn, -, hread⟩ := (Layout.lawful_flow e.kind).write_eq_object content
    rw [he] at hw hread
    exact ⟨members, hw, hn, Outcome.map_eq_ok.mpr ⟨e, hread, rfl⟩⟩
  | eventDefinition d =>
    refine ⟨d.members, rfl, d.numberless_members, ?_⟩
    exact Outcome.map_eq_ok.mpr ⟨d, d.read_members.2, rfl⟩
  | expression e =>
    refine ⟨_, rfl, Layout.lawful_expression.numberless_write trivial, ?_⟩
    exact Outcome.map_eq_ok.mpr ⟨e, Layout.lawful_expression.read_write fun _ _ => rfl, rfl⟩
  | outline o =>
    obtain ⟨content, ho⟩ := exists_outline o
    obtain ⟨members, hw, hn, -, hread⟩ := (Layout.lawful_outline o.group).write_eq_object content
    rw [ho] at hw hread
    exact ⟨members, hw, hn, Outcome.map_eq_ok.mpr ⟨o, hread, rfl⟩⟩

/-- An element is written no deeper than it was read, up to even depths. -/
theorem depth_toJson_le {members : Json.Members} {shape : Shape} {e : Element} {m : Nat}
    (h : readMembers members shape = .ok e) (hm : (Json.object members).depth ≤ 2 * m + 2) :
    e.toJson.depth ≤ 2 * m + 2 := by
  rcases shape with (_ | kind | kind) | kind | _ | kind
  all_goals obtain ⟨part, hpart, rfl⟩ := Outcome.map_eq_ok.mp h
  · exact Layout.lawful_definitions.depth_write_le
      (Layout.lawful_definitions.fields.imp fun hf => hf.keeps m) hpart hm (Nat.zero_le _)
  · exact (Layout.lawful_root kind).depth_tree_le (fun _ _ => FlowElement.depth_toJson_le) hpart hm
  · exact (Layout.lawful_flow kind).depth_tree_le (fun _ _ => FlowElement.depth_toJson_le) hpart hm
  · exact (Layout.lawful_trigger kind).depth_le hpart hm fun _ _ => Nat.zero_le _
  · exact Layout.lawful_expression.depth_write_le
      (Layout.lawful_expression.fields.imp fun hf => hf.keeps m) hpart hm (Nat.zero_le _)
  · exact (Layout.lawful_outline kind).depth_tree_le (fun _ _ => FlowElement.depth_toJson_le) hpart
      hm

/-! ## Texts -/

theorem load_dump_of_depth_le {e : Element} (h : e.toJson.depth ≤ Json.documentLimits.depth) :
    Json.parse e.dump.toList = some e.toJson ∧ load e.shape e.dump.toList = .ok e := by
  obtain ⟨members, hw, hn, hread⟩ := e.toJson_eq_object
  have parsed : Json.parse e.dump.toList = some e.toJson := by
    rw [hw] at h
    rw [dump, hw]
    exact Json.parse_compact hn h
  refine ⟨parsed, ?_⟩
  have readBack : read e.shape (.object members) = .ok e := hread
  rw [load, parsed, hw]
  simp only [readBack]

theorem exists_of_load {shape : Shape} {text : List Char} {e : Element}
    (h : load shape text = .ok e) :
    ∃ members, Json.parse text = some (.object members) ∧ readMembers members shape = .ok e := by
  unfold load at h
  split at h
  · cases h
  · next json hjson =>
    split at h
    · next loaded hread =>
      obtain rfl := Except.ok.inj h
      cases json with
      | object members => exact ⟨members, hjson, hread⟩
      | _ => cases hread
    · cases h

/-- What is loaded from a text has the shape it was loaded as. It is dumped to a text that is nested
no deeper than texts may be, and that loads again, to the same element. -/
theorem load_dump {shape : Shape} {text : List Char} {e : Element} (h : load shape text = .ok e) :
    e.shape = shape ∧ e.toJson.depth ≤ Json.documentLimits.depth ∧
      Json.parse e.dump.toList = some e.toJson ∧ load shape e.dump.toList = .ok e := by
  obtain ⟨members, hparse, hread⟩ := exists_of_load h
  have hshape : e.shape = shape := shape_of_readMembers hread
  have hdepth : e.toJson.depth ≤ Json.documentLimits.depth :=
    depth_toJson_le (m := 99) hread (Json.depth_le_of_parseWithin hparse)
  obtain ⟨parsed, loaded⟩ := load_dump_of_depth_le hdepth
  rw [hshape] at loaded
  exact ⟨hshape, hdepth, parsed, loaded⟩

/-- A condition without fields: its dump is nested more deeply than the text. -/
theorem load_dump_condition :
    let e : Element := .eventDefinition (.conditional { condition := some {} })
    load (.eventDefinition .conditional) "\x7b\"condition\": \x7b\x7d\x7d".toList = .ok e ∧
      e.toJson.depth = 2 ∧ load (.eventDefinition .conditional) e.dump.toList = .ok e := by
  intro e
  have loaded : load (.eventDefinition .conditional)
      "\x7b\"condition\": \x7b\x7d\x7d".toList = .ok e := rfl
  obtain ⟨-, -, -, again⟩ := load_dump loaded
  exact ⟨loaded, rfl, again⟩

end BpmnAudit.Element
