import BpmnAudit.Proofs.Document.TaggedLists
import Mathlib.Logic.Relation

/-!
# Differences that do not matter

Documents load alike if they differ in what reading does not look at: the order of the keys of an
object, keys that no field of its shape has, and fields that are absent in one document and have
their default in the other (`Json.Edit`). This holds at every object that is read as an element: the
document itself, the members of tagged lists and the optional objects of fields, at any depth. Not
only what is loaded is the same then, but also the faults and their order
(`Element.read_eq_of_eqvGen_edit`).

The tag of a member of a tagged list is never left out or written by such an edit, since an object
without it is read as no shape at all (`Json.Edit.get?_text`).
-/

namespace BpmnAudit

/-! ## Fields of layouts by their names -/

namespace Codec

variable {χ ω α : Type} {P : {α : Type} → Field α → Prop} {c : Codec χ ω α} {name : String}

theorem Any.name_mem (h : c.Any fun f => f.name = name ∧ P f) : name ∈ c.names := by
  induction c with
  | pure a => exact h.elim
  | field f get => exact List.mem_singleton.mpr h.1.symm
  | children get => exact h.elim
  | ap head last ihHead ihLast => exact List.mem_append.mpr (h.imp ihHead ihLast)

/-- Where each field has a name of its own, what holds of one field holds of all fields of its
name. -/
theorem Any.all (h : c.Any fun f => f.name = name ∧ P f) (nodup : c.names.Nodup) :
    c.All fun f => f.name = name → P f := by
  induction c with
  | pure a => trivial
  | field f get => exact fun _ => h.2
  | children get => trivial
  | ap head last ihHead ihLast =>
    obtain ⟨nodupHead, nodupLast, apart⟩ := List.nodup_append.mp nodup
    rcases h with h | h
    · refine ⟨ihHead h nodupHead, (all_name_mem last).imp fun hmem heq => ?_⟩
      exact (apart _ h.name_mem _ hmem heq.symm).elim
    · refine ⟨(all_name_mem head).imp fun hmem heq => ?_, ihLast h nodupLast⟩
      exact (apart _ hmem _ h.name_mem heq).elim

theorem read_congr {members others : Json.Members}
    (h : c.All fun f => f.get members = f.get others) (owned : Outcome χ) :
    c.read members owned = c.read others owned := by
  induction c with
  | field f get => exact h
  | ap head last ihHead ihLast => rw [read, read, ihHead h.1, ihLast h.2]
  | _ => rfl

/-- The fields that may be absent, with the values that they are taken to have then. -/
def defaults : {α : Type} → Codec χ ω α → Json.Members
  | _, .pure _ => []
  | _, .field f _ => (f.absent.map fun a => (f.name, f.write a)).toList
  | _, .children _ => []
  | _, .ap head last => head.defaults ++ last.defaults

theorem any_of_mem_defaults {value : Json} (h : (name, value) ∈ c.defaults) :
    c.Any fun f => f.name = name ∧ ∃ a, f.absent = some a ∧ f.write a = value := by
  induction c with
  | pure a => cases h
  | field f get =>
    rw [defaults, Option.mem_toList, Option.map_eq_some_iff] at h
    obtain ⟨a, ha, heq⟩ := h
    obtain ⟨hname, hvalue⟩ := Prod.mk.inj heq
    exact ⟨hname, a, ha, hvalue⟩
  | children get => cases h
  | ap head last ihHead ihLast => exact (List.mem_append.mp h).imp ihHead ihLast

end Codec

namespace Shape

/-- The fields of a shape that may be absent, with their defaults. -/
def defaults (shape : Shape) : Json.Members := shape.form.layout.defaults

theorem read_write_fields (shape : Shape) :
    shape.form.layout.All fun f => ∀ a, f.read (f.write a) = .ok a := by
  have owned : ∀ es, Field.flowElements.read (Field.flowElements.write es) = .ok es :=
    fun es => Field.read_write_list fun e _ => e.readFlowElement_toJson
  rcases shape with (_ | kind | kind) | kind | _ | kind
  · exact Layout.lawful_definitions.fields.imp Field.Lawful.read_write
  · exact ((Layout.lawful_root kind).layout.fields.imp Field.Lawful.read_write).fill owned
  · exact ((Layout.lawful_flow kind).layout.fields.imp Field.Lawful.read_write).fill owned
  · exact (Layout.lawful_trigger kind).layout.fields.imp Field.Lawful.read_write
  · exact Layout.lawful_expression.fields.imp Field.Lawful.read_write
  · exact ((Layout.lawful_outline kind).layout.fields.imp Field.Lawful.read_write).fill owned

end Shape

/-! ## Edits -/

/-- Edits of the members of an object that do not matter to reading it as a shape. -/
inductive Json.Edit : Shape → Members → Members → Prop
  /-- Keys are reordered; a repeated key has the same values in the same order. -/
  | reorder {shape : Shape} {members others : Members}
    (same : ∀ name, members.filter (·.1 = name) = others.filter (·.1 = name)) :
    Edit shape members others
  /-- A key that no field has is added. -/
  | unknown {shape : Shape} {name : String} (front rest : Members) (value : Json)
    (unknown : name ∉ shape.fieldNames) :
    Edit shape (front ++ rest) (front ++ (name, value) :: rest)
  /-- An absent field is written with its default. -/
  | default {shape : Shape} {name : String} {value : Json} (front rest : Members)
    (absent : name ∉ (front ++ rest).map Prod.fst) (default : (name, value) ∈ shape.defaults) :
    Edit shape (front ++ rest) (front ++ (name, value) :: rest)
  /-- A member of a tagged list is edited, as the shape that its tag names. -/
  | member {shape inner : Shape} {nested others : Members} {list : TaggedList} {tag : String}
    (front rest : Members) (before after : List Json) (has : list.field ∈ shape.fieldNames)
    (tagged : get? nested list.tagField = some (.text tag)) (named : list.shape? tag = some inner)
    (edit : Edit inner nested others) :
    Edit shape (front ++ (list.field, .array (before ++ .object nested :: after)) :: rest)
      (front ++ (list.field, .array (before ++ .object others :: after)) :: rest)
  /-- The object that is the value of a field is edited. -/
  | object {shape inner : Shape} {nested others : Members} {name : String}
    (front rest : Members) (has : shape.HasObject name inner) (edit : Edit inner nested others) :
    Edit shape (front ++ (name, .object nested) :: rest) (front ++ (name, .object others) :: rest)

namespace Json

variable {members others front rest : Members} {key name : String} {v w : Json}

/-! ## Look-up after edits -/

theorem get?_append (front rest : Members) (key : String) :
    get? (front ++ rest) key = (get? rest key).or (get? front key) := by
  rw [get?, List.reverse_append, List.lookup_append]
  rfl

theorem get?_filter (members : Members) (key : String) :
    get? (members.filter (·.1 = key)) key = get? members key := by
  induction members with
  | nil => rfl
  | cons m rest ih =>
    obtain ⟨name, value⟩ := m
    rw [List.filter_cons, get?_cons, ← ih]
    by_cases h : key = name
    · rw [if_pos (by simpa using h.symm), get?_cons]
    · rw [if_neg (by simpa using Ne.symm h), if_neg h, Option.or_none]

theorem get?_insert_of_ne (h : key ≠ name) :
    get? (front ++ (name, v) :: rest) key = get? (front ++ rest) key := by
  rw [get?_append, get?_append, get?_cons, if_neg h, Option.or_none]

theorem get?_replace {x : Json} (h : get? (front ++ (name, v) :: rest) key = some x) (hne : x ≠ v) :
    get? (front ++ (name, w) :: rest) key = some x := by
  rw [get?_append, get?_cons] at h ⊢
  by_cases hk : key = name
  · rw [if_pos hk] at h ⊢
    cases hr : get? rest key with
    | some last => rwa [hr] at h
    | none =>
      rw [hr, Option.none_or, Option.some_or] at h
      exact (hne (Option.some.inj h).symm).elim
  · rwa [if_neg hk] at h ⊢

end Json

namespace Field

variable {α : Type} {f : Field α} {members others front rest : Json.Members} {name : String}
  {v w : Json}

theorem get_congr (h : Json.get? members f.name = Json.get? others f.name) :
    f.get members = f.get others := by
  rw [get, get, h]

/-- An absent field is found alike if its default is written. -/
theorem get_default {a : α} (absent : f.absent = some a) (hr : f.read (f.write a) = .ok a)
    (hm : f.name ∉ (front ++ rest).map Prod.fst) :
    f.get (front ++ rest) = f.get (front ++ (f.name, f.write a) :: rest) := by
  have before : Json.get? (front ++ rest) f.name = none := Json.get?_eq_none_iff.mpr hm
  have after : Json.get? (front ++ (f.name, f.write a) :: rest) f.name = some (f.write a) := by
    rw [Json.get?_append, Option.or_eq_none_iff] at before
    rw [Json.get?_append, Json.get?_cons, before.1, if_pos rfl, Option.none_or, Option.some_or]
  rw [get_of_write hr after, get, before, absent]

theorem get_replace (h : f.name = name → f.read v = f.read w) :
    f.get (front ++ (name, v) :: rest) = f.get (front ++ (name, w) :: rest) := by
  unfold get
  rw [Json.get?_append, Json.get?_append, Json.get?_cons, Json.get?_cons]
  by_cases hk : f.name = name
  · rw [if_pos hk, if_pos hk]
    cases Json.get? rest f.name with
    | some last => rfl
    | none =>
      simp only [Option.none_or, Option.some_or]
      rw [h hk]
  · rw [if_neg hk, if_neg hk]

end Field

/-! ## Reading after edits -/

theorem Outcome.map_injective {α β : Type} {f : α → β} (h : Function.Injective f) :
    Function.Injective (Except.map f : Outcome α → Outcome β) := by
  intro o p hop
  cases o with
  | ok a =>
    cases p with
    | ok b => exact congrArg Except.ok (h (Except.ok.inj hop))
    | error faults => cases hop
  | error faults =>
    cases p with
    | ok b => cases hop
    | error others => exact congrArg Except.error (Except.error.inj hop)

theorem Codec.Holds.any {χ ω α γ : Type} {c : Codec χ ω α} {name : String}
    {read : Json → Outcome γ} {part : ω → Option γ} (h : c.Holds name read part) {v w : Json}
    (hv : read v = read w) : c.Any fun f => f.name = name ∧ f.read v = f.read w := by
  induction c with
  | pure a => exact h.elim
  | field f get =>
    obtain ⟨hname, wide, injective, hread, -⟩ := h
    rw [hread, hread] at hv
    exact ⟨hname, Outcome.map_injective injective hv⟩
  | children get => exact h.elim
  | ap head last ihHead ihLast => exact h.imp ihHead ihLast

namespace Element

variable {shape : Shape} {members others front rest : Json.Members} {name : String} {v w : Json}

theorem read_congr (h : shape.form.layout.All fun f => f.get members = f.get others) :
    read shape (.object members) = read shape (.object others) := by
  rw [read, read, readMembers_eq, readMembers_eq, Form.read, Form.read, Codec.read_congr h]

theorem read_replace
    (h : shape.form.layout.Any fun f => f.name = name ∧ f.read v = f.read w) :
    read shape (.object (front ++ (name, v) :: rest)) =
      read shape (.object (front ++ (name, w) :: rest)) :=
  read_congr ((h.all shape.nodup_names).imp Field.get_replace)

theorem read_default (absent : name ∉ (front ++ rest).map Prod.fst)
    (h : (name, v) ∈ shape.defaults) :
    read shape (.object (front ++ rest)) = read shape (.object (front ++ (name, v) :: rest)) := by
  have default := (Codec.any_of_mem_defaults h).all shape.nodup_names
  refine read_congr ((default.and shape.read_write_fields).imp fun {α f} ⟨hd, hr⟩ => ?_)
  by_cases hname : f.name = name
  · obtain ⟨a, ha, rfl⟩ := hd hname
    subst hname
    exact Field.get_default ha (hr a) absent
  · exact Field.get_congr (Json.get?_insert_of_ne hname).symm

end Element

theorem Shape.HasObject.any {shape inner : Shape} {name : String}
    (has : shape.HasObject name inner) {nested others : Json.Members}
    (h : Element.read inner (.object nested) = Element.read inner (.object others)) :
    shape.form.layout.Any fun f =>
      f.name = name ∧ f.read (.object nested) = f.read (.object others) := by
  have expression (h : Element.read .expression (.object nested) =
      Element.read .expression (.object others)) :
      Layout.expression.read nested (.ok ()) = Layout.expression.read others (.ok ()) :=
    Outcome.map_injective (fun _ _ => Element.expression.inj) h
  cases has with
  | errorRef =>
    have root := Outcome.map_injective (fun _ _ => Element.root.inj) h
    have error := Outcome.map_injective (fun _ _ => RootElement.error.inj) root
    exact .inr ⟨rfl, congrArg (Except.map some) error⟩
  | condition => exact .inr ⟨rfl, congrArg (Except.map some) (expression h)⟩
  | activationCondition => exact .inr ⟨rfl, congrArg (Except.map some) (expression h)⟩
  | conditionExpression => exact .inr ⟨rfl, congrArg (Except.map some) (expression h)⟩

theorem TaggedList.tagField_mem_fieldNames {list : TaggedList} {tag : String} {shape : Shape}
    (named : list.shape? tag = some shape) : list.tagField ∈ shape.fieldNames := by
  cases list <;> obtain ⟨kind, -, rfl⟩ := Option.map_eq_some_iff.mp named <;> cases kind <;> decide

theorem TaggedList.read_replace {list : TaggedList} {tag : String} {inner : Shape}
    {nested others : Json.Members} (before after : List Json)
    (tagged : Json.get? nested list.tagField = some (.text tag))
    (still : Json.get? others list.tagField = some (.text tag))
    (named : list.shape? tag = some inner)
    (h : Element.read inner (.object nested) = Element.read inner (.object others)) :
    list.read (.array (before ++ .object nested :: after)) =
      list.read (.array (before ++ .object others :: after)) := by
  have item : list.readItem (.object nested) = list.readItem (.object others) := by
    rw [readItem_tagged tagged named, readItem_tagged still named, h]
  rw [read_array, read_array]
  simp only [List.map_append, List.map_cons, item]

namespace Json.Edit

variable {shape : Shape} {members others : Members}

/-- The texts of fields stay as they are. So does the tag of a member of a tagged list. -/
theorem get?_text (h : Edit shape members others) {name s : String}
    (known : name ∈ shape.fieldNames) (hs : get? members name = some (.text s)) :
    get? others name = some (.text s) := by
  cases h with
  | reorder same => rwa [← get?_filter, ← same, get?_filter]
  | unknown front rest value unknown =>
    rwa [get?_insert_of_ne]
    rintro rfl
    exact unknown known
  | default front rest absent default =>
    rwa [get?_insert_of_ne]
    rintro rfl
    exact absent (List.mem_map.mpr ⟨_, mem_of_get?_eq_some hs, rfl⟩)
  | member front rest before after has tagged named edit => exact get?_replace hs nofun
  | object front rest has edit => exact get?_replace hs nofun

theorem read_eq (h : Edit shape members others) :
    Element.read shape (.object members) = Element.read shape (.object others) := by
  induction h with
  | reorder same =>
    refine Element.read_congr ((Codec.all_name_mem _).imp fun _ => Field.get_congr ?_)
    rw [← get?_filter, same, get?_filter]
  | unknown front rest value unknown =>
    refine Element.read_congr ((Codec.all_name_mem _).imp fun hmem => Field.get_congr ?_)
    rw [get?_insert_of_ne]
    rintro rfl
    exact unknown hmem
  | default front rest absent default => exact Element.read_default absent default
  | @member shape inner nested others list tag front rest before after has tagged named edit ih =>
    -- The edited member still has its tag, so it is read as the same shape.
    have still := edit.get?_text (TaggedList.tagField_mem_fieldNames named) tagged
    have holds := TaggedList.holds ((list.field_mem_fieldNames shape).mp has)
    exact Element.read_replace
      (holds.any (TaggedList.read_replace before after tagged still named ih))
  | object front rest has edit ih => exact Element.read_replace (has.any ih)

/-- Keys that are all different may be rearranged in any way. -/
theorem of_perm (h : members.Perm others) (nodup : (members.map Prod.fst).Nodup) :
    Edit shape members others := by
  refine .reorder fun name => ?_
  have perm := h.filter (·.1 = name)
  -- At most one member is left of each key, and one member has no other order.
  have single : (members.filter (·.1 = name)).length ≤ 1 := by
    have count := List.nodup_iff_count_le_one.mp nodup name
    rw [List.count, List.countP_map, List.countP_eq_length_filter] at count
    exact count
  cases hm : members.filter (·.1 = name) with
  | nil =>
    rw [hm] at perm
    exact perm.nil_eq
  | cons m more =>
    rw [hm] at perm single
    obtain rfl : more = [] := List.eq_nil_of_length_eq_zero (by simpa using single)
    exact perm.singleton_eq

end Json.Edit

/-- Documents load alike if edits that do not matter lead from one to the other, at any objects that
are read as elements: to the same element, or with the same faults in the same order. -/
theorem Element.read_eq_of_eqvGen_edit {shape : Shape} {members others : Json.Members}
    (h : Relation.EqvGen (Json.Edit shape) members others) :
    read shape (.object members) = read shape (.object others) := by
  induction h with
  | rel members others edit => exact edit.read_eq
  | refl members => rfl
  | symm members others _ ih => exact ih.symm
  | trans members between others _ _ ihFirst ihSecond => exact ihFirst.trans ihSecond

/-- A task two levels into a document with its keys the other way round, a key that is not known and
a default: its faulty name is told of in the same way. -/
theorem Element.read_eq_of_eqvGen_edit_task :
    let document (task : Json.Members) : Json.Members :=
      [("root_elements", .array [.object
        [("element_type", .text "process"), ("flow_elements", .array [.object task])]])]
    let task : Json.Members := [("element_type", .text "task"), ("name", .bool true)]
    let edited : Json.Members :=
      [("name", .bool true), ("note", .null), ("element_type", .text "task"),
        ("incoming", .array [])]
    read (.element .definitions) (.object (document edited)) =
        read (.element .definitions) (.object (document task)) ∧
      read (.element .definitions) (.object (document task)) =
        .error [⟨[.key "root_elements", .index 0, .tag "process", .key "flow_elements", .index 0,
          .tag "task", .key "name"], .notText⟩] := by
  intro document task edited
  have inside {members others : Json.Members}
      (tagged : Json.get? members elementTagName = some (.text "task"))
      (edit : Json.Edit (.element (.flow .task)) members others) :
      Json.Edit (.element .definitions) (document members) (document others) :=
    @Json.Edit.member _ _ _ _ .rootElements "process" [] [] [] [] (by decide) rfl rfl
      (@Json.Edit.member _ _ _ _ .flowElements "task" [("element_type", .text "process")] [] [] []
        (by decide) tagged rfl edit)
  have turned : Json.Edit (.element (.flow .task)) task
      [("name", .bool true), ("element_type", .text "task")] :=
    .of_perm (.swap _ _ []) (by decide)
  have noted : Json.Edit (.element (.flow .task))
      [("name", .bool true), ("element_type", .text "task")]
      [("name", .bool true), ("note", .null), ("element_type", .text "task")] :=
    .unknown [("name", .bool true)] [("element_type", .text "task")] .null (by decide)
  have default : ("incoming", .array []) ∈ Shape.defaults (.element (.flow .task)) :=
    List.mem_of_getElem? (show (Shape.defaults (.element (.flow .task)))[6]? = _ from rfl)
  have written : Json.Edit (.element (.flow .task))
      [("name", .bool true), ("note", .null), ("element_type", .text "task")] edited :=
    .default [("name", .bool true), ("note", .null), ("element_type", .text "task")] []
      (by decide) default
  have first : Relation.EqvGen (Json.Edit (.element .definitions)) (document task) _ :=
    .trans _ _ _ (.rel _ _ (inside rfl turned)) (.rel _ _ (inside rfl noted))
  have all := first.trans _ _ _ (.rel _ _ (inside rfl written))
  exact ⟨read_eq_of_eqvGen_edit (all.symm _ _), rfl⟩

end BpmnAudit
