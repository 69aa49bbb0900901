import BpmnAudit.Proofs.Document.TaggedLists
import BpmnAudit.Proofs.Document.Ways

/-!
# Documents that do not load

If a document does not load as an element of a shape, there are faults, each of which is about a
part of the document, and which differ in their locations unless these end at a repeated key of
attributes, all values of which are checked (`Element.explains_of_read_eq_error`).

A text, a truth value or a word is refused for what is wrong with it (`Outcome.Fair`). The texts
under all keys of attributes are checked, the overwritten ones included (`Element.faultsAt_texts`),
so that here alone several faults may share a location (`explains_readEntries`). The faults of lists
and objects explain these because those of their members and fields do (`explains_readList`,
`Codec.explains_read`).
-/

namespace BpmnAudit

variable {κ α : Type} {v w : Json} {root : Shape} {way : List Step}

/-! ## Values that are read or refused -/

/-- The value is read, or refused for what is wrong with it. -/
def Outcome.Fair (o : Outcome α) (v : Json) : Prop :=
  (∃ a, o = .ok a) ∨ ∃ cause, o = .fault cause ∧ cause.Blames v

namespace Outcome.Fair

variable {β : Type} {o : Outcome α}

theorem map (h : o.Fair v) (f : α → β) : Fair (o.map f) v := by
  rcases h with ⟨a, rfl⟩ | ⟨cause, rfl, wrong⟩
  · exact .inl ⟨f a, rfl⟩
  · exact .inr ⟨cause, rfl, wrong⟩

theorem explains (h : o.Fair w) (found : v.follow? way = some w) :
    v.Explains root (o.faults.map (Fault.within way)) := by
  rcases h with ⟨a, rfl⟩ | ⟨cause, rfl, wrong⟩
  · exact .nil v root
  · exact .of_value found wrong

end Outcome.Fair

theorem fair_readText (v : Json) : (readText v).Fair v := by
  cases v with
  | text s => exact .inl ⟨s, rfl⟩
  | _ => exact .inr ⟨.notText, rfl, by rintro _ ⟨⟩⟩

theorem fair_readOptionalText (v : Json) : (readOptionalText v).Fair v := by
  cases v with
  | null => exact .inl ⟨none, rfl⟩
  | text s => exact .inl ⟨some s, rfl⟩
  | _ => exact .inr ⟨.notText, rfl, by rintro _ ⟨⟩⟩

/-- A reading of truth values fails in two ways only. -/
def Outcome.Boolean (o : Outcome Bool) : Prop :=
  (∃ b, o = .ok b) ∨ o = .fault .notBool ∨ o = .fault .unclearBool

theorem boolean_boolOfInt (least n : Int) : (boolOfInt least n).Boolean := by
  unfold boolOfInt
  split_ifs <;> simp [Outcome.Boolean]

theorem boolean_readBool (v : Json) : (readBool v).Boolean := by
  unfold readBool
  split
  · simp [Outcome.Boolean]
  · exact boolean_boolOfInt _ _
  · split
    · exact boolean_boolOfInt _ _
    · simp [Outcome.Boolean]
  · dsimp only
    split_ifs <;> simp [Outcome.Boolean]
  · simp [Outcome.Boolean]

theorem fair_readBool (v : Json) : (readBool v).Fair v := by
  rcases boolean_readBool v with ⟨b, h⟩ | h | h
  · exact .inl ⟨b, h⟩
  · exact .inr ⟨.notBool, h, fun b hb => by rw [h] at hb; cases hb⟩
  · exact .inr ⟨.unclearBool, h, fun b hb => by rw [h] at hb; cases hb⟩

theorem text_ne_of_eq_none {words : List String} {ofWord? : String → Option α} {s : String}
    (known : ∀ word ∈ words, (ofWord? word).isSome) (h : ofWord? s = none) :
    ∀ word ∈ words, Json.text s ≠ .text word := by
  intro word hword heq
  obtain rfl := Json.text.inj heq
  have read := known s hword
  rw [h] at read
  cases read

theorem fair_readWord {words : List String} {ofWord? : String → Option α}
    (known : ∀ s ∈ words, (ofWord? s).isSome) (v : Json) :
    (readWord words ofWord? v).Fair v := by
  cases v with
  | text s =>
    rw [readWord]
    cases hs : ofWord? s with
    | some a => exact .inl ⟨a, rfl⟩
    | none => exact .inr ⟨.notOneOf words, rfl, text_ne_of_eq_none known hs⟩
  | _ => exact .inr ⟨.notOneOf words, rfl, by rintro _ _ ⟨⟩⟩

theorem fair_constant (name word : String) (v : Json) :
    ((Field.constant name word).read v).Fair v := by
  cases v with
  | text s =>
    show Outcome.Fair (if s = word then _ else _) _
    split_ifs with h
    · exact .inl ⟨(), rfl⟩
    · exact .inr ⟨.notConstant word, rfl, fun heq => h (Json.text.inj heq)⟩
  | _ => exact .inr ⟨.notConstant word, rfl, by rintro ⟨⟩⟩

/-! ## Attributes -/

theorem Json.exists_get?_of_mem {members : Members} {name : String} {value : Json}
    (hm : (name, value) ∈ members) : ∃ last, get? members name = some last := by
  cases h : get? members name with
  | some last => exact ⟨last, rfl⟩
  | none => exact (get?_eq_none_iff.mp h (List.mem_map.mpr ⟨_, hm, rfl⟩)).elim

theorem Json.get?_of_mem_of_count {members : Members} {name : String} {value : Json}
    (hm : (name, value) ∈ members) (single : ¬ 2 ≤ (members.map Prod.fst).count name) :
    get? members name = some value := by
  induction members with
  | nil => cases hm
  | cons m rest ih =>
    obtain ⟨first, other⟩ := m
    rw [List.map_cons, List.count_cons] at single
    rw [get?_cons]
    rcases List.mem_cons.mp hm with h | h
    · obtain ⟨rfl, rfl⟩ := Prod.mk.inj h
      have last : get? rest name = none := by
        rw [get?_eq_none_iff, ← List.count_eq_zero]
        simp only [beq_self_eq_true, if_true] at single
        omega
      rw [last, if_pos rfl, Option.none_or]
    · rw [ih h (by omega), Option.some_or]

theorem pairwise_two_le_count (names : List String) :
    names.Pairwise fun name other => name = other → 2 ≤ names.count name := by
  refine List.pairwise_iff_forall_sublist.mpr fun {name other} h heq => ?_
  subst heq
  simpa using h.count_le name

theorem faults_readEntries (members : Json.Members) :
    (readAttributes.readEntries members).faults = members.filterMap entryFault? := by
  induction members with
  | nil => rfl
  | cons m rest ih =>
    obtain ⟨name, value⟩ := m
    rw [readAttributes.readEntries, Outcome.faults_ap, Outcome.faults_map, Outcome.faults_under,
      List.filterMap_cons, ih]
    cases value <;> rfl

theorem entryFault?_eq_some {entry : String × Json} {f : Fault} :
    entryFault? entry = some f ↔
      Cause.notText.Blames entry.2 ∧ f = ⟨[.key entry.1], .notText⟩ := by
  obtain ⟨name, value⟩ := entry
  cases value <;> simp [entryFault?, Cause.Blames, eq_comm]

/-- The faults of attributes are about values that are no texts. The values of a repeated key have
one location. -/
theorem explains_readEntries {members : Json.Members} (texts : v.TextsAt root way members) :
    v.Explains root ((readAttributes.readEntries members).faults.map (Fault.within way)) := by
  have found := texts.follow?
  rw [faults_readEntries]
  constructor
  · intro f hf
    obtain ⟨told, htold, rfl⟩ := List.mem_map.mp hf
    obtain ⟨⟨name, value⟩, hm, he⟩ := List.mem_filterMap.mp htold
    obtain ⟨wrong, rfl⟩ := entryFault?_eq_some.mp he
    by_cases h : 2 ≤ (members.map Prod.fst).count name
    · obtain ⟨last, hlast⟩ := Json.exists_get?_of_mem hm
      have here := Json.follow?_key found hlast
      exact .repeated here ⟨way, members, name, rfl, texts, hm, h⟩ wrong
    · exact .value (Json.follow?_key found (Json.get?_of_mem_of_count hm h)) wrong
  · -- One location is one key, and two entries of one key make it a repeated one.
    rw [List.pairwise_map, List.pairwise_filterMap]
    have twice := List.pairwise_map.mp (pairwise_two_le_count (members.map Prod.fst))
    refine twice.imp_of_mem fun {entry other} hm _ htwice f hf g hg heq => ?_
    obtain ⟨-, rfl⟩ := entryFault?_eq_some.mp hf
    obtain ⟨-, rfl⟩ := entryFault?_eq_some.mp hg
    have same : entry.1 = other.1 :=
      Sum.inl.inj (@Fault.entry_eq_of_loc_eq way _ _ ⟨[], .notText⟩ ⟨[], .notText⟩ heq)
    exact ⟨entry.2, way, members, entry.1, rfl, texts, hm, htwice same⟩

theorem explains_readAttributes (found : v.follow? way = some w)
    (texts : ∀ entries, w = .object entries → v.TextsAt root way entries) :
    v.Explains root ((readAttributes w).faults.map (Fault.within way)) := by
  cases w with
  | object entries =>
    rw [readAttributes, Outcome.faults_map]
    exact explains_readEntries (texts entries rfl)
  | _ => exact .of_value found (by rintro _ ⟨⟩)

/-! ## Lists -/

/-- The faults of a list explain it if those of its members explain these. -/
theorem explains_readList {read : Json → Outcome α} (found : v.follow? way = some w)
    (h : ∀ items (i : Nat) item, w = .array items → items[i]? = some item →
      v.Explains root ((read item).faults.map (Fault.within (way ++ [.index i])))) :
    v.Explains root ((readList read w).faults.map (Fault.within way)) := by
  cases w with
  | array items =>
    rw [readList, Outcome.faults_collect]
    have indexed : ∀ part ∈ indexedFaults Outcome.faults 0 (items.map read),
        ∃ i item, items[i]? = some item ∧ part = (.index i, (read item).faults) := by
      intro part hp
      obtain ⟨⟨o, i⟩, hz, rfl⟩ := List.mem_map.mp hp
      have ho := List.mem_zipIdx_iff_getElem?.mp hz
      rw [List.getElem?_map, Option.map_eq_some_iff] at ho
      obtain ⟨item, hitem, rfl⟩ := ho
      exact ⟨i, item, hitem, rfl⟩
    refine .join (nodup_indexedFaults ..) (fun part hp tag => ?_) fun part hp => ?_
    · obtain ⟨i, item, -, rfl⟩ := indexed part hp
      rintro ⟨⟩
    · obtain ⟨i, item, hitem, rfl⟩ := indexed part hp
      exact h items i item rfl hitem
  | _ => exact .of_value found (by rintro _ ⟨⟩)

/-- The faults of a member of a tagged list explain it if those of the member as the kind that its
tag names do. -/
theorem explains_readTagged {read : κ → Outcome α} {field : String} {tags : List String}
    {ofTag? : String → Option κ} {members : Json.Members} (here : v.follow? way = some (.object members))
    (known : ∀ tag ∈ tags, (ofTag? tag).isSome)
    (h : ∀ tag kind, Json.get? members field = some (.text tag) → ofTag? tag = some kind →
      v.Explains root ((read kind).faults.map (Fault.within (way ++ [.tag tag])))) :
    v.Explains root
      ((readTagged field tags ofTag? read members).faults.map (Fault.within way)) := by
  unfold readTagged
  cases hget : Json.get? members field with
  | none => exact .of_value here ⟨members, rfl, hget⟩
  | some value =>
    cases value with
    | text tag =>
      dsimp only
      cases htag : ofTag? tag with
      | some kind =>
        rw [Outcome.faults_under, List.map_map]
        convert h tag kind hget htag using 2
        funext f
        exact f.within_within _ _
      | none => exact .of_value here ⟨members, _, rfl, hget, rfl, text_ne_of_eq_none known htag⟩
    | _ => exact .of_value here ⟨members, _, rfl, hget, rfl, by rintro _ _ ⟨⟩⟩

/-! ## Fields of elements -/

/-- The faults of a field explain an object that a way leads to. -/
def Field.Explained (v : Json) (root : Shape) (way : List Step) (members : Json.Members)
    (f : Field α) : Prop :=
  v.Explains root ((f.faultsIn members).map (Fault.within (way ++ [.key f.name])))

/-- The faults of a field explain whatever element has the field. -/
def Field.Explaining (root : Shape) (f : Field α) : Prop :=
  ∀ {v way shape members}, v.ElementAt root way shape members → f.name ∈ shape.fieldNames →
    f.Explained v root way members

theorem Field.explained_of_read {f : Field α} {members : Json.Members}
    (found : v.follow? way = some (.object members))
    (h : ∀ w, Json.get? members f.name = some w → v.follow? (way ++ [.key f.name]) = some w →
      v.Explains root ((f.read w).faults.map (Fault.within (way ++ [.key f.name])))) :
    f.Explained v root way members := by
  unfold Explained faultsIn
  cases hget : Json.get? members f.name with
  | some w => exact h w hget (Json.follow?_key found hget)
  | none =>
    dsimp only
    split_ifs
    · exact .nil v root
    · show Json.Explains v root [(⟨[], .missing⟩ : Fault).within _]
      rw [Fault.within_here]
      exact .single (.absent found (Json.get?_eq_none_iff.mp hget))

theorem Field.explaining_of_read {f : Field α}
    (h : ∀ {v : Json} {way : List Step} {shape : Shape} {members : Json.Members} {w : Json},
      v.ElementAt root way shape members →
      f.name ∈ shape.fieldNames → Json.get? members f.name = some w →
      v.follow? (way ++ [.key f.name]) = some w →
      v.Explains root ((f.read w).faults.map (Fault.within (way ++ [.key f.name])))) :
    f.Explaining root :=
  fun element has => explained_of_read element.follow? fun _ => h element has

/-- A field whose values are read or refused explains every element. -/
theorem Field.explaining_of_fair {f : Field α} (h : ∀ w, (f.read w).Fair w) : f.Explaining root :=
  explaining_of_read fun _ _ _ found => (h _).explains found

namespace Codec

variable {χ ω : Type} {c : Codec χ ω α} {members : Json.Members}

theorem forall_mem_fieldFaults (h : c.All (Field.Explained v root way members)) :
    ∀ part ∈ c.fieldFaults members, (∃ name, part.1 = .key name) ∧
      v.Explains root (part.2.map (Fault.within (way ++ [part.1]))) := by
  induction c with
  | pure a => exact List.forall_mem_nil _
  | field f get => exact List.forall_mem_singleton.mpr ⟨⟨f.name, rfl⟩, h⟩
  | children get => exact List.forall_mem_nil _
  | ap head last ihHead ihLast =>
    exact List.forall_mem_append.mpr ⟨ihHead h.1, ihLast h.2⟩

/-- The faults of an object explain it if those of its fields do. -/
theorem explains_read
    (h : c.All fun f => f.name ∈ c.names → f.Explained v root way members)
    (nodup : c.names.Nodup) (owned : χ) :
    v.Explains root ((c.read members (.ok owned)).faults.map (Fault.within way)) := by
  have parts := forall_mem_fieldFaults ((h.and (all_name_mem c)).imp fun ⟨hf, hname⟩ => hf hname)
  rw [faults_read]
  refine .join (nodup_fieldFaults nodup members) (fun part hp tag heq => ?_) fun part hp =>
    (parts part hp).2
  obtain ⟨name, hname⟩ := (parts part hp).1
  rw [hname] at heq
  cases heq

end Codec

/-- The faults of an element that may own others explain it if those of its fields do. -/
theorem Form.explains_readOwned {form : Form (List FlowElement) α} {shape : Shape}
    {members : Json.Members} (h : form.layout.All (Field.Explaining root))
    (names : (form.layout.fill .flowElements).names = shape.fieldNames)
    (element : v.ElementAt root way shape members)
    (owned : childrenName ∈ shape.fieldNames → Field.flowElements.Explained v root way members) :
    v.Explains root ((form.read members (readOwned members)).faults.map (Fault.within way)) := by
  rw [readOwned_eq, ← Form.read_fill, Form.read, Outcome.faults_map]
  refine Codec.explains_read (Codec.All.fill (h.imp fun hf has => ?_) fun has => ?_) ?_ ()
  · exact hf element (names ▸ has)
  · exact owned (names ▸ has)
  · exact names ▸ shape.nodup_names

/-! ## Tagged lists -/

section Lists

variable {shape : Shape} {members : Json.Members} {items : List Json} {i : Nat} {item : Json}

theorem explains_readEventDefinition
    (h : ∀ kind, (Layout.trigger kind).layout.All (Field.Explaining root))
    (element : v.ElementAt root way shape members)
    (has : TaggedList.eventDefinitions.field ∈ shape.fieldNames)
    (given : Json.get? members "event_definitions" = some (.array items))
    (hi : items[i]? = some item) :
    v.Explains root ((readEventDefinition item).faults.map
      (Fault.within (way ++ [.key "event_definitions"] ++ [.index i]))) := by
  have here := Json.follow?_index (Json.follow?_key element.follow? given) hi
  cases item with
  | object nested =>
    refine explains_readTagged here (forall_mem_map_isSome TriggerKind.ofTag?_tag _)
      fun tag kind tagged known => ?_
    have named : TaggedList.eventDefinitions.shape? tag = some (.eventDefinition kind) := by
      rw [TaggedList.shape?, known]
      rfl
    have inner := Json.ElementAt.member element has given hi tagged named
    rw [Form.read, Outcome.faults_map]
    exact Codec.explains_read ((h kind).imp fun hf has => hf inner has)
      (Shape.nodup_names (.eventDefinition kind)) ()
  | _ => exact .of_value here (by rintro _ ⟨⟩)

theorem explains_readFlowElement
    (h : ∀ kind, (Layout.flow kind).layout.All (Field.Explaining root)) (item : Json)
    {way : List Step} {shape : Shape} {members : Json.Members} {items : List Json} {i : Nat}
    (element : v.ElementAt root way shape members) (has : TaggedList.flowElements.field ∈ shape.fieldNames)
    (given : Json.get? members childrenName = some (.array items)) (hi : items[i]? = some item) :
    v.Explains root ((readFlowElement item).faults.map
      (Fault.within (way ++ [.key childrenName] ++ [.index i]))) := by
  induction item using Json.owned_induction generalizing way shape members items i with
  | h nested ih =>
    have here := Json.follow?_index (Json.follow?_key element.follow? given) hi
    rw [readFlowElement]
    refine explains_readTagged here (forall_mem_map_isSome FlowKind.ofTag?_tag _)
      fun tag kind tagged known => ?_
    have named : TaggedList.flowElements.shape? tag = some (.element (.flow kind)) := by
      rw [TaggedList.shape?, known]
      rfl
    have inner := Json.ElementAt.member element has given hi tagged named
    refine Form.explains_readOwned (h kind) rfl inner fun owns => ?_
    refine Field.explained_of_read inner.follow? fun w hw there => ?_
    refine explains_readList there fun owned j below harray hj => ?_
    subst harray
    exact ih owned hw below (List.mem_of_getElem? hj) inner owns hw hj
  | other item hitem =>
    have here := Json.follow?_index (Json.follow?_key element.follow? given) hi
    cases item with
    | object members => exact (hitem members rfl).elim
    | _ =>
      rw [readFlowElement]
      · exact .of_value here (by rintro _ ⟨⟩)
      · rintro _ ⟨⟩

theorem explains_readRootElement
    (h : ∀ kind, (Layout.root kind).layout.All (Field.Explaining root))
    (ho : Field.flowElements.Explaining root) (element : v.ElementAt root way shape members)
    (has : TaggedList.rootElements.field ∈ shape.fieldNames)
    (given : Json.get? members "root_elements" = some (.array items))
    (hi : items[i]? = some item) :
    v.Explains root ((readRootElement item).faults.map
      (Fault.within (way ++ [.key "root_elements"] ++ [.index i]))) := by
  have here := Json.follow?_index (Json.follow?_key element.follow? given) hi
  cases item with
  | object nested =>
    refine explains_readTagged here (forall_mem_map_isSome RootKind.ofTag?_tag _)
      fun tag kind tagged known => ?_
    have named : TaggedList.rootElements.shape? tag = some (.element (.root kind)) := by
      rw [TaggedList.shape?, known]
      rfl
    have inner := Json.ElementAt.member element has given hi tagged named
    exact Form.explains_readOwned (h kind) rfl inner (ho inner)
  | _ => exact .of_value here (by rintro _ ⟨⟩)

end Lists

/-! ## All fields -/

theorem Field.sorts_explaining (root : Shape) : Field.Sorts (Field.Explaining root) where
  optionalText _ := explaining_of_fair fair_readOptionalText
  text _ _ := explaining_of_fair fair_readText
  flag _ _ := explaining_of_fair fair_readBool
  texts _ := explaining_of_read fun _ _ _ found =>
    explains_readList found fun _ _ item harray hi =>
      (fair_readText item).explains (Json.follow?_index (harray ▸ found) hi)
  attributes := explaining_of_read fun element has given found =>
    explains_readAttributes found fun _ hw => .attributes element has (hw ▸ given)
  blocks := explaining_of_read fun element has given found =>
    explains_readList found fun _ _ _ harray hi =>
      explains_readAttributes (Json.follow?_index (harray ▸ found) hi) fun _ hw =>
        .block element has (harray ▸ given) (hw ▸ hi)
  constant name word := explaining_of_fair (fair_constant name word)
  word _ _ _ _ _ known := explaining_of_fair (fair_readWord known)
  optionalWord _ words ofWord? _ known := explaining_of_fair fun v => by
    dsimp only [optionalWord]
    split
    · exact .inl ⟨none, rfl⟩
    · exact (fair_readWord known v).map some
  optionalObject {_ _ inner _ _} has names h := explaining_of_read fun {_ _ _ _ w} element hn given
      found => by
    cases w with
    | null => exact .nil _ _
    | object nested =>
      have inside := Json.ElementAt.object element (has.of_mem hn) given
      show Json.Explains _ _ ((Outcome.faults (Except.map some _)).map _)
      rw [Outcome.faults_map]
      exact Codec.explains_read (h.imp fun hf hname => hf inside (names ▸ hname))
        (names ▸ inner.nodup_names) ()
    | _ => exact .of_value found (by rintro _ ⟨⟩)
  eventDefinitions h := explaining_of_read fun element has given found =>
    explains_readList found fun _ _ _ harray hi =>
      explains_readEventDefinition h element has (harray ▸ given) hi
  flowElements h := explaining_of_read fun element has given found =>
    explains_readList found fun _ _ item harray hi =>
      explains_readFlowElement h item element has (harray ▸ given) hi
  rootElements h ho := explaining_of_read fun element has given found =>
    explains_readList found fun _ _ _ harray hi =>
      explains_readRootElement h ho element has (harray ▸ given) hi

/-! ## Elements -/

namespace Element

/-- The faults of a document explain it, whatever shape it is read as. -/
theorem explains_read (v : Json) (root : Shape) : v.Explains root (read root v).faults := by
  have told : ((read root v).faults.map (Fault.within [])) = (read root v).faults := List.map_id _
  rw [← told]
  cases v with
  | object members =>
    rw [read, readMembers_eq, Form.read, Outcome.faults_map]
    have fields := (Field.sorts_explaining root).all_form root
    exact Codec.explains_read (fields.imp fun hf has => hf (.document rfl) has) root.nodup_names ()
  | _ => exact .of_value rfl (by rintro _ ⟨⟩)

/-- Attributes that are read have the faults of their entries and no other ones. -/
theorem faultsAt_texts {entries : Json.Members} (h : v.TextsAt root way entries) :
    faultsAt way (read root v).faults = entries.filterMap entryFault? := by
  have told : (readAttributes (.object entries)).faults = entries.filterMap entryFault? := by
    rw [readAttributes, Outcome.faults_map, faults_readEntries]
  cases h with
  | attributes element has given =>
    have field := Shape.any_form (P := fun f => f.name = "extension_attributes" ∧
      (f.read (.object entries)).faults = (readAttributes (.object entries)).faults)
      (fun get => by simp [Layout.base, Field.attributes]) has (by decide)
    rw [element.faultsAt, faultsAt_field field given, faultsAt_nil, told]
  | @block _ _ _ _ blocks i element has given block =>
    have field := Shape.any_form (P := fun f => f.name = "extension_values" ∧
      (f.read (.array blocks)).faults = (readList readAttributes (.array blocks)).faults)
      (fun get => by simp [Layout.base, Field.blocks]) has (by decide)
    have here : (blocks.map readAttributes)[i]? = some (readAttributes (.object entries)) := by
      rw [List.getElem?_map, block]
      rfl
    rw [List.append_assoc, element.faultsAt, List.singleton_append, faultsAt_field field given,
      readList, Outcome.faults_collect,
      faultsAt_joinFaults (nodup_indexedFaults ..) (mem_indexedFaults here Outcome.faults),
      faultsAt_nil, told]

/-- If a document does not load as an element of a shape, there are faults. Each of them is about a
part of the document: the way leads to the value that the cause blames, or, for a missing field, to
an object without it, or to a repeated key of attributes that one of its values is wrong for. Only
for such keys can two faults have one location. Wherever attributes are read, each value that is no
text has a fault of its own under its key, also one that is overwritten, and there are no others. -/
theorem explains_of_read_eq_error {shape : Shape} {v : Json} {faults : List Fault}
    (h : read shape v = .error faults) :
    faults ≠ [] ∧ (∀ f ∈ faults, f.Concerns v shape) ∧
      (faults.Pairwise fun f g => f.loc = g.loc → ∃ value, v.Repeats shape f.path value) ∧
      ∀ way entries, v.TextsAt shape way entries →
        faults.filter (fun f => way.isPrefixOf f.path) =
          (entries.filterMap entryFault?).map (Fault.within way) := by
  have same : (read shape v).faults = faults := by
    rw [h]
    rfl
  have explained := explains_read v shape
  rw [same] at explained
  refine ⟨?_, explained.concerns, explained.apart, fun way entries texts => ?_⟩
  · rintro rfl
    exact frank_read shape v h
  · rw [filter_isPrefixOf, ← same, faultsAt_texts texts]

/-- Faults of a task two levels into a document, of its tagless neighbour and of an overwritten
attribute. -/
theorem explains_of_read_eq_error_process :
    let attributes : Json.Members := [("a", .null), ("b", .text "y"), ("a", .text "x")]
    let task : Json.Members :=
      [("element_type", .text "task"), ("incoming", .array [.text "f", .null]),
        ("extension_attributes", .object attributes)]
    let document : Json := .object
      [("root_elements", .array [.object
        [("element_type", .text "process"),
          ("flow_elements", .array [.object task, .object []])]])]
    let within : List Step := [.key "root_elements", .index 0, .tag "process",
      .key "flow_elements"]
    let texts : List Step := within ++ [.index 0, .tag "task", .key "extension_attributes"]
    let overwritten : Fault := ⟨texts ++ [.key "a"], .notText⟩
    let faults : List Fault :=
      [overwritten, ⟨within ++ [.index 0, .tag "task", .key "incoming", .index 1], .notText⟩,
        ⟨within ++ [.index 1], .noTag "element_type"⟩]
    read (.element .definitions) document = .error faults ∧
      document.TextsAt (.element .definitions) texts attributes ∧
      (∀ f ∈ faults, f.Concerns document (.element .definitions)) ∧
      (faults.Pairwise fun f g => f.loc = g.loc →
        ∃ value, document.Repeats (.element .definitions) f.path value) ∧
      faults.filter (fun f => texts.isPrefixOf f.path) = [overwritten] := by
  intro attributes task document within texts overwritten faults
  have failed : read (.element .definitions) document = .error faults := rfl
  obtain ⟨-, concerns, apart, told⟩ := explains_of_read_eq_error failed
  have inside : document.ElementAt (.element .definitions) (within ++ [.index 0, .tag "task"])
      (.element (.flow .task)) task :=
    @Json.ElementAt.member _ _ _ _ _ _ _ .flowElements _ _ _
      (@Json.ElementAt.member _ _ _ _ _ _ _ .rootElements _ _ _ (.document rfl) (by decide) rfl rfl
        rfl rfl)
      (by decide) rfl rfl rfl rfl
  have there : document.TextsAt (.element .definitions) texts attributes :=
    .attributes inside (by decide) rfl
  exact ⟨failed, there, concerns, apart, (told texts attributes there).trans rfl⟩

/-- Both values of a repeated key of attributes are told of, under one location. -/
theorem read_repeatedAttribute :
    let document : Json := .object
      [("extension_attributes", .object [("a", .int 1), ("a", .int 2)])]
    let fault : Fault := ⟨[.key "extension_attributes", .key "a"], .notText⟩
    Json.parse "\x7b\"extension_attributes\":\x7b\"a\":1,\"a\":2\x7d\x7d".toList = some document ∧
      read (.element (.flow .task)) document = .error [fault, fault] ∧
      ¬ ([fault, fault].map Fault.loc).Nodup :=
  ⟨rfl, rfl, by decide⟩

end Element

end BpmnAudit
