import BpmnAudit.Proofs.Keys
import BpmnAudit.Proofs.Tree.Documents

/-!
# Looking up owners, elements and flows

The look-up of the container that itself owns the element at a place. Whatever it finds owns the
place and stands in the document; as a place has one owner at most, the look-up of an element that
a process meets gives the owner that it was met in (`Definitions.containerOf?_of_meets`).

The look-up of a flow element by its id. It fails only if no flow element of the document has the
id (`Definitions.find?_eq_none_iff`), and what it finds is met in a process
(`Definitions.meets_of_find?`).

The look-up of a sequence flow in the index of a container, which gives the last one of the id
(`lookup_sequenceFlowsById`).
-/

namespace BpmnAudit

variable {documents : Documents}

namespace Owner

theorem mem_children {owner : Owner} {p : Placed} :
    p ∈ owner.children ↔ ∃ i e, owner.elements[i]? = some e ∧ p = owner.placed i e := by
  simp only [children, List.mem_map, Prod.exists, List.mk_mem_zipIdx_iff_getElem?]
  constructor
  · rintro ⟨e, i, he, rfl⟩
    exact ⟨i, e, he, rfl⟩
  · rintro ⟨i, e, he, rfl⟩
    exact ⟨e, i, he, rfl⟩

theorem owns_iff {owner : Owner} {place : Place} :
    owner.owns place = true ↔ ∃ i e, owner.elements[i]? = some e ∧ place = i :: owner.place := by
  simp only [owns, List.any_eq_true, mem_children, beq_iff_eq]
  constructor
  · rintro ⟨p, ⟨i, e, he, rfl⟩, hp⟩
    exact ⟨i, e, he, hp.symm⟩
  · rintro ⟨i, e, he, rfl⟩
    exact ⟨_, ⟨i, e, he, rfl⟩, rfl⟩

theorem Meets.owns {owner : Owner} {v : Visit} (h : owner.Meets v) :
    v.owner.owns v.placed.place = true := by
  induction h with
  | @own owner i e he => exact owns_iff.mpr ⟨i, e, he, rfl⟩
  | inner _ _ ih => exact ih

theorem Meets.owner_eq {owner : Owner} {v : Visit} (h : owner.Meets v) :
    v.owner = owner ∨ ∃ p ∈ owner.descendants, v.owner = .ofPlaced p := by
  induction h with
  | own _ => exact Or.inl rfl
  | @inner owner i e v he inside ih =>
    right
    have own := mem_visits_own he
    rw [descendants_eq]
    rcases ih with ih | ⟨p, hp, ih⟩
    · exact ⟨_, List.mem_map_of_mem own, ih⟩
    · rw [descendants_eq, List.mem_map] at hp
      obtain ⟨w, hw, rfl⟩ := hp
      exact ⟨_, List.mem_map_of_mem (mem_visits_iff.mpr (.inner he (mem_visits_iff.mp hw))), ih⟩

theorem isIn_of_containerOf? {owner c : Owner} {place : Place} (h : owner.IsIn documents)
    (hc : owner.containerOf? place = some c) : c.IsIn documents ∧ c.owns place = true := by
  unfold containerOf? at hc
  split at hc
  · next hown =>
    obtain rfl : owner = c := Option.some.inj hc
    exact ⟨h, hown⟩
  · obtain ⟨p, hp, rfl⟩ := Option.map_eq_some_iff.mp hc
    have hown := List.find?_some hp
    have hmem := List.mem_of_find?_eq_some hp
    rw [descendants_eq, List.mem_map] at hmem
    obtain ⟨v, hv, rfl⟩ := hmem
    obtain ⟨i, e, he, -⟩ := owns_iff.mp hown
    have full : v.placed.element.flowElements ≠ [] := by
      intro hnil
      simp [ofPlaced, hnil] at he
    exact ⟨((mem_visits_iff.mp hv).isIn h).2.owner (Placed.owner?_located full), hown⟩

theorem containerOf?_isSome {owner : Owner} {v : Visit} (h : owner.Meets v) :
    (owner.containerOf? v.placed.place).isSome := by
  unfold containerOf?
  split
  · rfl
  · next hown =>
    rcases h.owner_eq with heq | ⟨p, hp, heq⟩
    · exact absurd (heq ▸ h.owns) hown
    · rw [Option.isSome_map, List.find?_isSome]
      exact ⟨p, hp, heq ▸ h.owns⟩

/-- A place has one owner at most. -/
theorem eq_of_owns {a b : Owner} {place : Place} (ha : a.IsIn documents) (hb : b.IsIn documents)
    (hao : a.owns place = true) (hbo : b.owns place = true) : a = b := by
  obtain ⟨i, e, -, rfl⟩ := owns_iff.mp hao
  obtain ⟨j, e', -, hp⟩ := owns_iff.mp hbo
  exact ha.unique hb (List.cons.inj hp).2

end Owner

/-- The look-up in a document gives the owner that the element was met in. -/
theorem Definitions.containerOf?_of_meets {d : Definitions} {place : Place} {process : Owner}
    {v : Visit} (hd : documents.at? place = some (.definitions d))
    (hp : process ∈ d.owners place) (hv : process.Meets v) :
    d.containerOf? place v.placed.place = some v.owner := by
  have hin : ∀ owner ∈ d.owners place, owner.IsIn documents := by
    intro owner ho
    obtain ⟨l, hl, hlo⟩ := List.mem_filterMap.mp ho
    exact (Definitions.isIn_of_mem_locatedProcesses hd hl).owner hlo
  have found : (d.containerOf? place v.placed.place).isSome := by
    rw [Definitions.containerOf?, List.findSome?_isSome_iff]
    exact ⟨process, hp, Owner.containerOf?_isSome hv⟩
  obtain ⟨c, hc⟩ := Option.isSome_iff_exists.mp found
  rw [hc]
  obtain ⟨owner, ho, hoc⟩ := List.exists_of_findSome?_eq_some hc
  obtain ⟨hcin, hcown⟩ := Owner.isIn_of_containerOf? (hin owner ho) hoc
  rw [Owner.eq_of_owns hcin (hv.isIn (hin process hp)).1 hcown hv.owns]

/-! ## Elements by their ids -/

/-- All flow elements of a document, process by process. -/
def Definitions.flowElements (d : Definitions) : List FlowElement :=
  d.processes.flatMap fun p => preorder p.flowElements

namespace Owner

theorem map_element_descendants (owner : Owner) :
    owner.descendants.map (·.element) = preorder owner.elements := by
  rw [descendants_eq, List.map_map, ← map_element_visits]
  rfl

theorem find?_eq_none_iff {owner : Owner} {id : Option String} :
    owner.find? id = none ↔ ∀ e ∈ preorder owner.elements, e.id ≠ id := by
  rw [← map_element_descendants, List.forall_mem_map, find?, List.find?_eq_none]
  simp only [beq_iff_eq, ne_eq]

theorem meets_of_find? {owner : Owner} {id : Option String} {p : Placed}
    (h : owner.find? id = some p) : ∃ v, owner.Meets v ∧ v.placed = p := by
  have found := List.mem_of_find?_eq_some h
  rw [descendants_eq] at found
  obtain ⟨v, hv, placed⟩ := List.mem_map.mp found
  exact ⟨v, mem_visits_iff.mp hv, placed⟩

end Owner

namespace Definitions

variable {d : Definitions} {place : Place}

theorem mem_processes {p : Process} :
    p ∈ d.processes ↔ ∃ i : Nat, d.rootElements[i]? = some (RootElement.process p) := by
  rw [processes, List.mem_filterMap]
  constructor
  · rintro ⟨r, hr, hp⟩
    cases r <;> cases hp
    exact List.mem_iff_getElem?.mp hr
  · rintro ⟨i, hi⟩
    exact ⟨_, List.mem_of_getElem? hi, rfl⟩

theorem mem_owners {owner : Owner} :
    owner ∈ d.owners place ↔ ∃ i p, d.rootElements[i]? = some (.process p) ∧
      owner = ⟨i :: place, some (.root .process), p.id, p.flowElements⟩ := by
  rw [owners, List.mem_filterMap]
  constructor
  · rintro ⟨l, hl, howner⟩
    obtain ⟨i, p, hp, rfl⟩ := mem_locatedProcesses.mp hl
    exact ⟨i, p, hp, (Option.some.inj howner).symm⟩
  · rintro ⟨i, p, hp, rfl⟩
    exact ⟨_, mem_locatedProcesses.mpr ⟨i, p, hp, rfl⟩, rfl⟩

/-- No flow element has an id exactly if the look-up of the id fails. -/
theorem find?_eq_none_iff {id : Option String} :
    d.find? place id = none ↔ ∀ e ∈ d.flowElements, e.id ≠ id := by
  rw [find?, List.findSome?_eq_none_iff]
  constructor
  · intro h e he
    obtain ⟨p, hp, he⟩ := List.mem_flatMap.mp he
    obtain ⟨i, hi⟩ := mem_processes.mp hp
    exact Owner.find?_eq_none_iff.mp (h _ (mem_owners.mpr ⟨i, p, hi, rfl⟩)) e he
  · intro h owner howner
    obtain ⟨i, p, hi, rfl⟩ := mem_owners.mp howner
    refine Owner.find?_eq_none_iff.mpr fun e he => h e ?_
    exact List.mem_flatMap.mpr ⟨p, mem_processes.mpr ⟨i, hi⟩, he⟩

/-- What the look-up finds is met in a process. -/
theorem meets_of_find? {id : Option String} {p : Placed} (h : d.find? place id = some p) :
    ∃ i q v, d.rootElements[i]? = some (.process q) ∧
      Owner.Meets ⟨i :: place, some (.root .process), q.id, q.flowElements⟩ v ∧ v.placed = p := by
  obtain ⟨owner, howner, hfind⟩ := List.exists_of_findSome?_eq_some h
  obtain ⟨i, q, hi, rfl⟩ := mem_owners.mp howner
  obtain ⟨v, hv, placed⟩ := Owner.meets_of_find? hfind
  exact ⟨i, q, v, hi, hv, placed⟩

end Definitions

/-! ## Sequence flows -/

/-- The sequence flow of an id: the last one that has it. -/
theorem lookup_sequenceFlowsById (ps : List Placed) (id : String) :
    (sequenceFlowsById ps).lookup id = ps.reverse.find? (·.element.flowId? == some id) := by
  have key : ∀ (ps : List Placed) (index : List (String × Placed)),
      (ps.foldl putFlow index).lookup id =
        (ps.reverse.find? (·.element.flowId? == some id)).or (index.lookup id) := by
    intro ps
    induction ps with
    | nil => intro index; rfl
    | cons p ps ih =>
      intro index
      rw [List.foldl_cons, ih, List.reverse_cons, List.find?_append]
      unfold putFlow
      cases hp : p.element.flowId? with
      | none => simp [hp]
      | some other =>
        by_cases h : id = other
        · simp [hp, lookup_putKey, h]
        · have h' : other ≠ id := fun e => h e.symm
          simp [hp, lookup_putKey, h, h']
  exact (key ps []).trans (by simp)

end BpmnAudit
