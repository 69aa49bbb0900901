import BpmnAudit.Proofs.Document.TaggedLists

/-!
# What faults are about

The way of a fault leads through the document to a value (`Json.follow?`), and the cause of the
fault says what is wrong with this value (`Cause.Blames`). Two sorts of faults end at a key instead:
a missing field is told of by its name, which the object does not have, and of the texts under a
repeated key of attributes each one has to be right, though only the last one is found
(`Fault.Concerns`). Attributes are those of objects that are read as elements (`Json.ElementAt`,
`Json.TextsAt`), whatever else in the document looks like them.

Faults of parts that different steps lead to are told apart by their locations, so faults that
explain the parts one by one explain the whole (`Json.Explains.join`).
-/

namespace BpmnAudit

/-! ## Ways through documents -/

namespace Json

/-- What a way leads to. The tag after the index of a list's member leads nowhere else. -/
def follow? : List Step → Json → Option Json
  | [], v => some v
  | .key name :: way, .object members => (get? members name).bind fun v => follow? way v
  | .index i :: .tag _ :: way, .array items => items[i]?.bind fun v => follow? way v
  | .index i :: way, .array items => items[i]?.bind fun v => follow? way v
  | _, _ => none

variable {v w x : Json} {way more : List Step}

theorem follow?_append (h : v.follow? way = some w) (hm : w.follow? more = some x) :
    v.follow? (way ++ more) = some x := by
  fun_induction follow? way v with
  | case1 v => exact Option.some.inj h ▸ hm
  | case2 name way members ih =>
    obtain ⟨value, hv, hw⟩ := Option.bind_eq_some_iff.mp h
    rw [List.cons_append, follow?, hv]
    exact ih value hw
  | case3 i tag way items ih =>
    obtain ⟨item, hi, hw⟩ := Option.bind_eq_some_iff.mp h
    rw [List.cons_append, List.cons_append, follow?, hi]
    exact ih item hw
  | case4 i way items untagged ih =>
    obtain ⟨item, hi, hw⟩ := Option.bind_eq_some_iff.mp h
    -- No way that leads anywhere begins with a tag.
    have still : ∀ tag rest, way ++ more = .tag tag :: rest → False := by
      intro tag rest heq
      cases way with
      | nil =>
        rw [List.nil_append] at heq
        rw [heq] at hm
        cases hm
      | cons step way =>
        obtain ⟨rfl, -⟩ := List.cons.inj heq
        exact untagged _ _ rfl
    rw [List.cons_append, follow?, hi]
    · exact ih item hw
    · exact still
  | case5 => cases h

theorem follow?_key {members : Members} (h : v.follow? way = some (.object members))
    {name : String} (hw : get? members name = some w) :
    v.follow? (way ++ [.key name]) = some w := by
  refine follow?_append h ?_
  rw [follow?, hw]
  rfl

theorem follow?_index {items : List Json} (h : v.follow? way = some (.array items)) {i : Nat}
    (hw : items[i]? = some w) : v.follow? (way ++ [.index i]) = some w := by
  refine follow?_append h ?_
  rw [follow?, hw] <;> simp [follow?]

theorem follow?_tag {items : List Json} (h : v.follow? way = some (.array items)) {i : Nat}
    (hw : items[i]? = some w) (tag : String) :
    v.follow? (way ++ [.index i] ++ [.tag tag]) = some w := by
  rw [List.append_assoc]
  refine follow?_append h ?_
  rw [List.singleton_append, follow?, hw]
  rfl

end Json

/-! ## Locations -/

/-- A step as locations show it: a name or a number. -/
def Step.entry : Step → String ⊕ Nat
  | .key name => .inl name
  | .index n => .inr n
  | .tag name => .inl name

def Fault.loc (f : Fault) : List (String ⊕ Nat) := f.path.map Step.entry

theorem Fault.within_here (way : List Step) (cause : Cause) :
    (⟨[], cause⟩ : Fault).within way = ⟨way, cause⟩ := by
  rw [within, List.append_nil]

theorem Fault.within_within (way more : List Step) (f : Fault) :
    (f.within more).within way = f.within (way ++ more) := by
  simp [within]

theorem Fault.loc_within (way : List Step) (f : Fault) :
    (f.within way).loc = way.map Step.entry ++ f.loc :=
  List.map_append

/-- Steps other than tags are told apart by what locations show. -/
theorem Step.eq_of_entry_eq {step other : Step} (h : step.entry = other.entry)
    (hs : ∀ tag, step ≠ .tag tag) (ho : ∀ tag, other ≠ .tag tag) : step = other := by
  cases step with
  | tag name => exact (hs name rfl).elim
  | key name =>
    cases other with
    | key _ => exact congrArg key (Sum.inl.inj h)
    | index _ => cases h
    | tag name => exact (ho name rfl).elim
  | index n =>
    cases other with
    | key _ => cases h
    | index _ => exact congrArg index (Sum.inr.inj h)
    | tag name => exact (ho name rfl).elim

theorem Fault.entry_eq_of_loc_eq {way : List Step} {step other : Step} {f g : Fault}
    (h : ((f.within [step]).within way).loc = ((g.within [other]).within way).loc) :
    step.entry = other.entry := by
  simp only [loc_within, List.append_cancel_left_eq, List.map_cons, List.map_nil,
    List.singleton_append, List.cons.injEq] at h
  exact h.1

/-! ## Wrong values -/

/-- What a cause says is wrong with a value. -/
def Cause.Blames : Cause → Json → Prop
  | missing, _ => False
  | notElement, v | notObject, v => ∀ members, v ≠ .object members
  | notList, v => ∀ items, v ≠ .array items
  | notText, v => ∀ s, v ≠ .text s
  | notBool, v | unclearBool, v => ∀ b, readBool v ≠ .ok b
  | notOneOf words, v => ∀ word ∈ words, v ≠ .text word
  | notConstant word, v => v ≠ .text word
  | noTag field, v => ∃ members, v = .object members ∧ Json.get? members field = none
  | unknownTag tag field tags, v =>
    ∃ members value, v = .object members ∧ Json.get? members field = some value ∧
      value.settled.bareText = tag ∧ ∀ known ∈ tags, value ≠ .text known

/-! ## Elements and their attributes -/

/-- In a document that is read as the root shape, the way leads to an object that is read as an
element of a shape: the document itself, a member of a tagged list, or the object of a field. -/
inductive Json.ElementAt (v : Json) (root : Shape) : List Step → Shape → Members → Prop
  | document {members : Members} (object : v = .object members) : ElementAt v root [] root members
  | member {way : List Step} {shape inner : Shape} {members nested : Members} {list : TaggedList}
    {items : List Json} {i : Nat} {tag : String} (outer : ElementAt v root way shape members)
    (has : list.field ∈ shape.fieldNames) (given : get? members list.field = some (.array items))
    (item : items[i]? = some (.object nested))
    (tagged : get? nested list.tagField = some (.text tag)) (named : list.shape? tag = some inner) :
    ElementAt v root (way ++ [.key list.field] ++ [.index i] ++ [.tag tag]) inner nested
  | object {way : List Step} {shape inner : Shape} {members nested : Members} {name : String}
    (outer : ElementAt v root way shape members) (has : shape.HasObject name inner)
    (given : get? members name = some (.object nested)) :
    ElementAt v root (way ++ [.key name]) inner nested

/-- The way leads to the attributes of such an element or to one of its blocks, which have these
entries. -/
inductive Json.TextsAt (v : Json) (root : Shape) : List Step → Members → Prop
  | attributes {way : List Step} {shape : Shape} {members entries : Members}
    (element : v.ElementAt root way shape members)
    (has : "extension_attributes" ∈ shape.fieldNames)
    (given : get? members "extension_attributes" = some (.object entries)) :
    TextsAt v root (way ++ [.key "extension_attributes"]) entries
  | block {way : List Step} {shape : Shape} {members entries : Members} {blocks : List Json}
    {i : Nat} (element : v.ElementAt root way shape members)
    (has : "extension_values" ∈ shape.fieldNames)
    (given : get? members "extension_values" = some (.array blocks))
    (block : blocks[i]? = some (.object entries)) :
    TextsAt v root (way ++ [.key "extension_values"] ++ [.index i]) entries

section At

variable {v : Json} {root shape : Shape} {way : List Step} {members entries : Json.Members}

theorem Json.ElementAt.follow? (h : v.ElementAt root way shape members) :
    v.follow? way = some (.object members) := by
  induction h with
  | document object => exact congrArg some object
  | member _ _ given item _ _ ih => exact follow?_tag (follow?_key ih given) item _
  | object _ _ given ih => exact follow?_key ih given

theorem Json.TextsAt.follow? (h : v.TextsAt root way entries) :
    v.follow? way = some (.object entries) := by
  cases h with
  | attributes element _ given => exact follow?_key element.follow? given
  | block element _ given block => exact follow?_index (follow?_key element.follow? given) block

/-- The faults of the whole document at an element inside are those of the element on its own. -/
theorem Json.ElementAt.faultsAt (h : v.ElementAt root way shape members) (more : List Step) :
    BpmnAudit.faultsAt (way ++ more) (Element.read root v).faults =
      BpmnAudit.faultsAt more (Element.read shape (.object members)).faults := by
  induction h generalizing more with
  | document object => rw [object, List.nil_append]
  | member _ has given item tagged named ih =>
    rw [List.append_assoc, List.append_assoc, List.append_assoc, ih]
    exact Element.faultsAt_member has given item tagged named more
  | object _ has given ih =>
    rw [List.append_assoc, ih]
    exact Element.faultsAt_field (has.any_faults _) given more

end At

/-- The fault of an entry of attributes, told from there, if its value is no text. -/
def entryFault? : String × Json → Option Fault
  | (_, .text _) => none
  | (name, _) => some ⟨[.key name], .notText⟩

/-! ## What faults are about -/

/-- The way leads to a repeated key of attributes or of a block, which has the value among
others. -/
def Json.Repeats (v : Json) (root : Shape) (way : List Step) (value : Json) : Prop :=
  ∃ front entries name, way = front ++ [.key name] ∧ v.TextsAt root front entries ∧
    (name, value) ∈ entries ∧ 2 ≤ (entries.map Prod.fst).count name

/-- What a fault of a document is about. -/
inductive Fault.Concerns (v : Json) (root : Shape) : Fault → Prop
  /-- The value that the way leads to. -/
  | value {way : List Step} {cause : Cause} {w : Json} (found : v.follow? way = some w)
    (wrong : cause.Blames w) : Concerns v root ⟨way, cause⟩
  /-- A name that the object does not have. -/
  | absent {way : List Step} {members : Json.Members} {name : String}
    (found : v.follow? way = some (.object members)) (absent : name ∉ members.map Prod.fst) :
    Concerns v root ⟨way ++ [.key name], .missing⟩
  /-- One of the values of a repeated key of attributes, the last of which the way leads to. -/
  | repeated {way : List Step} {w last : Json} (found : v.follow? way = some last)
    (repeats : v.Repeats root way w) (wrong : Cause.notText.Blames w) :
    Concerns v root ⟨way, .notText⟩

namespace Json

/-- Faults that are each about something in the document, and that differ in their locations unless
these end at a repeated key of attributes. -/
structure Explains (v : Json) (root : Shape) (faults : List Fault) : Prop where
  concerns : ∀ f ∈ faults, f.Concerns v root
  apart : faults.Pairwise fun f g => f.loc = g.loc → ∃ w, v.Repeats root f.path w

namespace Explains

variable {v w : Json} {root : Shape} {way : List Step}

theorem nil (v : Json) (root : Shape) : v.Explains root [] := ⟨nofun, List.Pairwise.nil⟩

theorem single {f : Fault} (h : f.Concerns v root) : v.Explains root [f] :=
  ⟨fun _ hg => List.mem_singleton.mp hg ▸ h, List.pairwise_singleton _ _⟩

theorem of_value {cause : Cause} (h : v.follow? way = some w) (wrong : cause.Blames w) :
    v.Explains root [(⟨[], cause⟩ : Fault).within way] := by
  rw [Fault.within_here]
  exact single (.value h wrong)

/-- Faults of parts that different names or indexes lead to explain the whole if they explain each
part. -/
theorem join {parts : List (Step × List Fault)} (nodup : (parts.map Prod.fst).Nodup)
    (untagged : ∀ part ∈ parts, ∀ tag, part.1 ≠ .tag tag)
    (h : ∀ part ∈ parts, v.Explains root (part.2.map (Fault.within (way ++ [part.1])))) :
    v.Explains root ((joinFaults parts).map (Fault.within way)) := by
  have told : (joinFaults parts).map (Fault.within way) =
      parts.flatMap fun part => part.2.map (Fault.within (way ++ [part.1])) := by
    rw [joinFaults, List.map_flatMap]
    simp only [List.map_map]
    congr 1
    funext part
    exact List.map_congr_left fun f _ => f.within_within way [part.1]
  rw [told]
  constructor
  · intro f hf
    obtain ⟨part, hp, hf⟩ := List.mem_flatMap.mp hf
    exact (h part hp).concerns f hf
  · rw [List.pairwise_flatMap]
    refine ⟨fun part hp => (h part hp).apart, ?_⟩
    refine (List.pairwise_map.mp nodup).imp_of_mem fun {part other} hp ho hne f hf g hg heq => ?_
    obtain ⟨f, -, rfl⟩ := List.mem_map.mp hf
    obtain ⟨g, -, rfl⟩ := List.mem_map.mp hg
    rw [← Fault.within_within, ← Fault.within_within] at heq
    have same := Fault.entry_eq_of_loc_eq heq
    exact (hne (Step.eq_of_entry_eq same (untagged part hp) (untagged other ho))).elim

end Explains

end Json

end BpmnAudit
