import BpmnAudit.Model.Tree
import BpmnAudit.Proofs.Document.Layouts

/-!
# Trees of elements

What a process or a subprocess owns is a field like others (`readOwned_eq`), whose items are flow
elements, which are read by their tags. By induction along the tree what is written is read back,
and by induction on the depth what was read is written no deeper, up to even depths: an element and
the list that owns it are two levels.

The root elements of the definitions are read by their tags as well.
-/

namespace BpmnAudit

/-! ## What is owned -/

/-- Flow elements that are owned, as a field. -/
def Field.flowElements : Field (List FlowElement) :=
  .list childrenName readFlowElement FlowElement.toJson

theorem Field.write_flowElements (es : List FlowElement) :
    flowElements.write es = Layout.writeChildren es := by
  rw [Layout.writeChildren, writeEach_eq_map]
  rfl

theorem Json.get?_cons (name : String) (value : Json) (rest : Json.Members) (key : String) :
    Json.get? ((name, value) :: rest) key =
      (Json.get? rest key).or (if key = name then some value else none) := by
  unfold Json.get?
  rw [List.reverse_cons, List.lookup_append, lookup_cons_eq_ite, List.lookup_nil]

theorem readFlowElements_eq (v : Json) : readFlowElements v = readList readFlowElement v := by
  cases v with
  | array items => rw [readFlowElements, readList, readEach_eq_map]
  | _ => rw [readFlowElements, readList] <;> (intro _ h; cases h)

/-- What an object owns is the value of a field. -/
theorem readOwned_eq (members : Json.Members) :
    readOwned members = Field.flowElements.get members := by
  induction members with
  | nil => rw [readOwned]; rfl
  | cons m rest ih =>
    obtain ⟨name, value⟩ := m
    rw [readOwned, Field.get, Json.get?_cons]
    rw [Field.get] at ih
    cases hr : Json.get? rest childrenName with
    | some last =>
      rw [show Field.flowElements.name = childrenName from rfl, hr] at ih ⊢
      rw [if_neg (by simp), ih]
      rfl
    | none =>
      rw [show Field.flowElements.name = childrenName from rfl, hr] at ih ⊢
      by_cases hn : name = childrenName
      · rw [if_pos ⟨hn, rfl⟩, if_pos hn.symm, readFlowElements_eq, hn]
        rfl
      · rw [if_neg (fun h => hn h.1), if_neg (Ne.symm hn), ih]
        rfl

namespace Form.Lawful

open Layout (writeChildren)

variable {α : Type} {form : Form (List FlowElement) α} {write : α → Json}

/-- An element is written as an object that has its constant fields, and from which it is read back
if the flow elements that it owns are. -/
theorem read_write_tree (h : form.Lawful writeChildren write) (content : form.Content)
    (ho : ∀ own ∈ form.layout.own (form.layout.split content),
      ∀ e ∈ own, readFlowElement e.toJson = .ok e) :
    ∃ members, write (form.make content) = .object members ∧
      (∀ key value, form.layout.Writes key value → Json.get? members key = some value) ∧
      form.read members (readOwned members) = .ok (form.make content) := by
  refine ⟨_, h.write_make content, fun key value hw => h.layout.get?_write (hw.mem_write ..), ?_⟩
  refine h.read_write fun own hown => ?_
  rw [readOwned_eq]
  refine Field.get_of_write (Field.read_write_list (ho own hown)) ?_
  rw [Field.write_flowElements]
  exact h.layout.get?_writeOwned hown writeChildren

theorem numberless_tree (h : form.Lawful writeChildren write) {content : form.Content}
    (ho : ∀ own ∈ form.layout.own (form.layout.split content), ∀ e ∈ own, e.toJson.Numberless) :
    (write (form.make content)).Numberless := by
  refine h.numberless fun own hown => ?_
  rw [← Field.write_flowElements]
  exact Field.numberless_list (ho own hown)

theorem depth_tree_le (h : form.Lawful writeChildren write) {members : Json.Members}
    {a : α} {m : Nat}
    (he : ∀ v e, readFlowElement v = .ok e → v.depth ≤ 2 * m → e.toJson.depth ≤ 2 * m)
    (hr : form.read members (readOwned members) = .ok a)
    (hm : (Json.object members).depth ≤ 2 * m + 2) : (write a).depth ≤ 2 * m + 2 := by
  refine h.depth_le hr hm fun own hown => ?_
  rw [readOwned_eq] at hown
  rw [← Field.write_flowElements]
  exact (Field.keeps_list he).depth_of_get hown (Json.depth_object_le.mp hm)

end Form.Lawful

/-! ## Flow elements -/

namespace FlowElement

mutual

/-- What holds of an element whenever it holds of all that the element owns, holds of every
element. -/
theorem induction {P : FlowElement → Prop} (h : ∀ e, (∀ x ∈ e.flowElements, P x) → P e)
    (e : FlowElement) : P e := by
  cases e with
  | leaf l => exact h (.leaf l) nofun
  | subProcess node es triggered =>
    exact h (.subProcess node es triggered) (forall_mem_of_step h es)

theorem forall_mem_of_step {P : FlowElement → Prop}
    (h : ∀ e, (∀ x ∈ e.flowElements, P x) → P e) (es : List FlowElement) : ∀ x ∈ es, P x := by
  cases es with
  | nil => exact nofun
  | cons e es => exact List.forall_mem_cons.mpr ⟨induction h e, forall_mem_of_step h es⟩

end

theorem exists_leaf (l : FlowLeaf) : ∃ content, (Layout.flow l.kind).make content = .leaf l := by
  cases l <;> exact ⟨_, rfl⟩

/-- An element is made by the form of its kind, from a content that owns what it owns. -/
theorem exists_flow (e : FlowElement) :
    ∃ content, (Layout.flow e.kind).make content = e ∧
      ∀ own ∈ (Layout.flow e.kind).layout.own ((Layout.flow e.kind).layout.split content),
        own = e.flowElements := by
  cases e with
  | leaf l =>
    obtain ⟨content, hl⟩ := exists_leaf l
    refine ⟨content, hl, fun own ho => ?_⟩
    have unnamed : childrenName ∉ (Layout.flow l.kind).layout.names := by
      rw [Layout.childrenName_mem_flow, l.kind_isContainer]
      exact Bool.false_ne_true
    have none := Codec.own_eq_nil unnamed ((Layout.flow l.kind).layout.split content)
    exact absurd (none ▸ ho) List.not_mem_nil
  | subProcess node es triggered =>
    exact ⟨⟨node, es, triggered⟩, rfl, fun _ => List.mem_singleton.mp⟩

theorem readFlowElement_toJson (e : FlowElement) : readFlowElement e.toJson = .ok e := by
  induction e using FlowElement.induction with
  | h e ih =>
    obtain ⟨content, he, ho⟩ := e.exists_flow
    obtain ⟨members, hw, hkey, hread⟩ :=
      (Layout.lawful_flow e.kind).read_write_tree content fun own hown x hx =>
        ih x (ho own hown ▸ hx)
    rw [he] at hw hread
    rw [hw, readFlowElement, readTagged_eq_ok]
    exact ⟨_, _, hkey _ _ (Layout.writes_tag_flow e.kind), e.kind.ofTag?_tag, hread⟩

theorem numberless_toJson (e : FlowElement) : e.toJson.Numberless := by
  induction e using FlowElement.induction with
  | h e ih =>
    obtain ⟨content, he, ho⟩ := e.exists_flow
    rw [← he]
    refine (Layout.lawful_flow e.kind).numberless_tree fun own hown x hx => ?_
    exact ih x (ho own hown ▸ hx)

/-- A flow element is written no deeper than it was read, up to even depths. -/
theorem depth_toJson_le {m : Nat} {v : Json} {e : FlowElement} (h : readFlowElement v = .ok e)
    (hv : v.depth ≤ 2 * m) : e.toJson.depth ≤ 2 * m := by
  induction m generalizing v e with
  | zero =>
    cases v with
    | object members =>
      rw [readFlowElement] at h
      obtain ⟨-, k, hk, -⟩ := exists_kind_of_readTagged h hv
      cases hk
    | _ => cases h
  | succ m ih =>
    cases v with
    | object members =>
      rw [readFlowElement] at h
      obtain ⟨tag, kind, -, -, hread⟩ := readTagged_eq_ok.mp h
      exact (Layout.lawful_flow kind).depth_tree_le (fun v e => ih) hread hv
    | _ => cases h

end FlowElement

/-! ## Root elements -/

/-- An element of a form is written as an object without numbers, from which it is read back with
all that it owns. -/
theorem Form.Lawful.write_eq_object {α : Type} {form : Form (List FlowElement) α} {write : α → Json}
    (h : form.Lawful Layout.writeChildren write) (content : form.Content) :
    ∃ members, write (form.make content) = .object members ∧ (Json.object members).Numberless ∧
      (∀ key value, form.layout.Writes key value → Json.get? members key = some value) ∧
      form.read members (readOwned members) = .ok (form.make content) := by
  obtain ⟨members, hw, hkey, hread⟩ :=
    h.read_write_tree content fun _ _ e _ => e.readFlowElement_toJson
  refine ⟨members, hw, ?_, hkey, hread⟩
  rw [← hw]
  exact h.numberless_tree fun _ _ e _ => e.numberless_toJson

namespace RootElement

theorem exists_root (r : RootElement) : ∃ content, (Layout.root r.kind).make content = r := by
  cases r <;> exact ⟨_, rfl⟩

theorem readRootElement_members (r : RootElement) :
    readRootElement (.object r.members) = .ok r := by
  obtain ⟨content, hr⟩ := r.exists_root
  obtain ⟨members, hw, -, hkey, hread⟩ := (Layout.lawful_root r.kind).write_eq_object content
  rw [hr] at hw hread
  rw [hw, readRootElement, readTagged_eq_ok]
  exact ⟨_, _, hkey _ _ (Layout.writes_tag_root r.kind), r.kind.ofTag?_tag, hread⟩

theorem numberless_members (r : RootElement) : (Json.object r.members).Numberless := by
  obtain ⟨content, hr⟩ := r.exists_root
  obtain ⟨members, hw, hn, -⟩ := (Layout.lawful_root r.kind).write_eq_object content
  rw [hr] at hw
  rwa [hw]

theorem depth_members_le {m : Nat} {v : Json} {r : RootElement} (h : readRootElement v = .ok r)
    (hv : v.depth ≤ 2 * m) : (Json.object r.members).depth ≤ 2 * m := by
  cases v with
  | object members =>
    obtain ⟨kind, k, rfl, hread⟩ := exists_kind_of_readTagged h hv
    exact (Layout.lawful_root kind).depth_tree_le
      (fun _ _ => FlowElement.depth_toJson_le) hread hv
  | _ => cases h

end RootElement

theorem Layout.lawful_definitions : (definitions (χ := Unit)).Lawful := by
  constructor
  case fields =>
    refine (Codec.all_seq ..).mpr ⟨by simp, ?_⟩
    exact Field.lawful_list RootElement.readRootElement_members RootElement.numberless_members
      fun _ _ _ hv hd => RootElement.depth_members_le hv hd
  case nodup => decide
  case rebuild_eq => exact fun _ => rfl
  case split_combine => exact fun _ => rfl

end BpmnAudit
