import BpmnAudit.Proofs.Document.TaggedLists

/-!
# Tagged lists at any depth

Turns into members of tagged lists lead from a document to an object inside it (`Reaches`). The
faults of the document beyond the object are those of the object on its own
(`Reaches.faultsAt_steps`), and an element that is loaded from the document has inside what the
object loads to (`Reaches.exists_follow?`). So a tagged list is loaded in the same way wherever it
stands (`Element.read_tagged_list`).
-/

namespace BpmnAudit

/-! ## Ways through tagged lists -/

/-- A turn into a member of a tagged list, by its index and its tag. -/
structure Turn where
  list : TaggedList
  index : Nat
  tag : String

/-- The steps that turns take. -/
def Turn.steps (way : List Turn) : List Step :=
  way.flatMap fun turn => [.key turn.list.field, .index turn.index, .tag turn.tag]

/-- Turns that lead from an object that is read as a shape to one inside it. -/
inductive Reaches : Shape → Json.Members → List Turn → Shape → Json.Members → Prop where
  | here (shape : Shape) (members : Json.Members) : Reaches shape members [] shape members
  | member {shape inner last : Shape} {members nested reached : Json.Members} {list : TaggedList}
    {items : List Json} {i : Nat} {tag : String} {way : List Turn}
    (has : list.field ∈ shape.fieldNames)
    (given : Json.get? members list.field = some (.array items))
    (item : items[i]? = some (.object nested))
    (tagged : Json.get? nested list.tagField = some (.text tag))
    (named : list.shape? tag = some inner)
    (rest : Reaches inner nested way last reached) :
    Reaches shape members (⟨list, i, tag⟩ :: way) last reached

/-- The element inside another that turns lead to. -/
def Element.follow? : List Turn → Element → Option Element
  | [], e => some e
  | turn :: way, e => do
    let es ← turn.list.of? e
    let inner ← es[turn.index]?
    follow? way inner

namespace Reaches

variable {shape last : Shape} {members reached : Json.Members} {way : List Turn}

/-- The faults of the whole document at an object inside are those of the object on its own. -/
theorem faultsAt_steps (h : Reaches shape members way last reached) (more : List Step) :
    faultsAt (Turn.steps way ++ more) (Element.read shape (.object members)).faults =
      faultsAt more (Element.read last (.object reached)).faults := by
  induction h with
  | here shape members => rfl
  | member has given item tagged named rest ih =>
    rw [Turn.steps, List.flatMap_cons, ← Turn.steps, List.append_assoc]
    exact (Element.faultsAt_member has given item tagged named _).trans ih

/-- An element that was read from the whole document has, at the end of the turns, the element that
the object there is read as. -/
theorem exists_follow? (h : Reaches shape members way last reached) {e : Element}
    (he : Element.read shape (.object members) = .ok e) :
    ∃ x, e.follow? way = some x ∧ Element.read last (.object reached) = .ok x := by
  induction h generalizing e with
  | here shape members => exact ⟨e, rfl, he⟩
  | @member _ _ _ _ _ _ list items i _ _ has given item tagged named rest ih =>
    obtain ⟨es, hes, hread⟩ := Element.exists_list has given he
    have one : (items.map list.readItem)[i]? = (es.map Except.ok)[i]? := by
      rw [TaggedList.read_array_eq_ok.mp hread]
    rw [List.getElem?_map, item, List.getElem?_map, Option.map_some,
      TaggedList.readItem_tagged tagged named] at one
    obtain ⟨inner, hinner, hok⟩ := Option.map_eq_some_iff.mp one.symm
    obtain ⟨x, hx, hreached⟩ := ih (Outcome.under_eq_ok.mp hok.symm)
    refine ⟨x, ?_, hreached⟩
    simp only [Element.follow?, hes, hinner, hx, Option.bind_eq_bind, Option.bind_some]

end Reaches

/-! ## Loading -/

/-- A tagged list is loaded by its members, wherever it stands. Its faults in the whole document are
those of its members one after the other; it loads exactly if there are none, and then each member
is what it loads to on its own as the shape that its tag names. An element that is loaded from the
whole document has this list at the same place. -/
theorem Element.read_tagged_list {shape last : Shape} {members reached : Json.Members}
    {way : List Turn} {list : TaggedList} {items : List Json}
    (inside : Reaches shape members way last reached) (has : list.field ∈ last.fieldNames)
    (given : Json.get? reached list.field = some (.array items)) :
    let field := Turn.steps way ++ [.key list.field]
    (read shape (.object members)).faults.filter (fun f => field.isPrefixOf f.path) =
        (list.faults items).map (Fault.within field) ∧
      (∀ tag, (list.shape? tag).isSome ↔ tag ∈ list.tags) ∧
      ((∃ es, list.read (.array items) = .ok es) ↔ list.faults items = []) ∧
      (∀ es, list.read (.array items) = .ok es → es.length = items.length ∧
        ∀ (i : Nat) item e, items[i]? = some item → es[i]? = some e → list.Loads item e) ∧
      ∀ e, read shape (.object members) = .ok e → ∃ x es, e.follow? way = some x ∧
        read last (.object reached) = .ok x ∧ list.of? x = some es ∧
        list.read (.array items) = .ok es := by
  intro field
  refine ⟨?_, list.isSome_shape?_iff, list.exists_read_iff items,
    fun es => TaggedList.loads_of_read, fun e he => ?_⟩
  · rw [filter_isPrefixOf, inside.faultsAt_steps, faultsAt_list has given, faultsAt_nil,
      TaggedList.read_faults]
  · obtain ⟨x, hx, hread⟩ := inside.exists_follow? he
    obtain ⟨es, hes, hlist⟩ := exists_list has given hread
    exact ⟨x, es, hx, hread, hes, hlist⟩

/-- A subprocess with a member that is no object, one without tag, one with an unknown tag, a task
with a faulty id, and a task without fault. -/
def Json.faultySubProcess : Json.Members :=
  [("element_type", .text "subProcess"),
    ("flow_elements", .array [.null, .object [], .object [("element_type", .text "process")],
      .object [("element_type", .text "task"), ("id", .bool true)],
      .object [("element_type", .text "task")]])]

/-- Every faulty member of a list is told of, two levels into the document. -/
theorem Element.read_tagged_list_faultySubProcess :
    let process : Json.Members :=
      [("element_type", .text "process"),
        ("flow_elements", .array [.object [("element_type", .text "task"), ("name", .bool true)],
          .object Json.faultySubProcess])]
    let document : Json.Members := [("root_elements", .array [.object process])]
    let field : List Step :=
      [.key "root_elements", .index 0, .tag "process", .key "flow_elements", .index 1,
        .tag "subProcess", .key "flow_elements"]
    ((read (.element .definitions) (.object document)).faults.filter fun f =>
        field.isPrefixOf f.path).map (fun f => (f.path.drop 7, f.cause.code)) =
      [([.index 0], "dict_type"), ([.index 1], "union_tag_not_found"),
        ([.index 2], "union_tag_invalid"),
        ([.index 3, .tag "task", .key "id"], "string_type")] := by
  intro process document field
  have inside : Reaches (.element .definitions) document
      [⟨.rootElements, 0, "process"⟩, ⟨.flowElements, 1, "subProcess"⟩]
      (.element (.flow .subProcess)) Json.faultySubProcess :=
    .member (by decide) rfl rfl rfl rfl (.member (by decide) rfl rfl rfl rfl (.here _ _))
  have has : TaggedList.flowElements.field ∈ (Shape.element (.flow .subProcess)).fieldNames := by
    decide
  have faults := (read_tagged_list inside has rfl).1
  exact (congrArg (List.map fun f => (f.path.drop 7, f.cause.code)) faults).trans rfl

end BpmnAudit
