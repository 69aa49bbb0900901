import BpmnAudit.Proofs.Tree.Visits

/-!
# Documents and places

A place leads from a document, known by its serial number, to one element of it. So a place has at
most one element, and at most one container stands there (`Owner.IsIn.unique`). A container in a
document meets elements and owners of the same document only (`Owner.Meets.isIn`). The processes of
a document can be cut at one of them, and another process put there
(`Definitions.locatedProcesses_putProcess`).
-/

namespace BpmnAudit

/-- The documents at hand, by their serial numbers. -/
abbrev Documents := Nat → Option Element

/-- The element at an index of an element. -/
def Element.child? (e : Element) (i : Nat) : Option Element :=
  match e with
  | .definitions d => d.rootElements[i]?.map .root
  | e => (e.flowElements?.bind (·[i]?)).map .flow

def Documents.at? (documents : Documents) : Place → Option Element
  | [] => none
  | [n] => documents n
  | i :: j :: place => (at? documents (j :: place)).bind (·.child? i)

/-- Whether an element stands where it says, in a document at hand. -/
def Located.IsIn (documents : Documents) (l : Located) : Prop :=
  documents.at? l.place = some l.element

/-- Whether a container stands where it says, in a document at hand. -/
def Owner.IsIn (documents : Documents) (owner : Owner) : Prop :=
  ∃ e, documents.at? owner.place = some e ∧ (⟨owner.place, e⟩ : Located).owner? = some owner

variable {documents : Documents}

theorem Documents.at?_cons {place : Place} {e : Element} (h : documents.at? place = some e)
    (i : Nat) : documents.at? (i :: place) = e.child? i := by
  cases place with
  | nil => simp [Documents.at?] at h
  | cons j place => rw [Documents.at?, h]; rfl

/-! ## Containers -/

theorem Located.owner?_eq_some {l : Located} {owner : Owner} (h : l.owner? = some owner) :
    l.element.flowElements? = some owner.elements ∧ owner.place = l.place ∧
      owner.id = l.element.id ∧ owner.kind? = l.element.kind? := by
  obtain ⟨es, hes, rfl⟩ := Option.map_eq_some_iff.mp h
  exact ⟨hes, rfl, rfl, rfl⟩

theorem Located.IsIn.owner {l : Located} {owner : Owner} (hl : l.IsIn documents)
    (h : l.owner? = some owner) : owner.IsIn documents := by
  obtain ⟨-, hp, -⟩ := Located.owner?_eq_some h
  exact ⟨l.element, by rw [hp]; exact hl, by rw [hp]; exact h⟩

/-- At most one container stands at a place. -/
theorem Owner.IsIn.unique {a b : Owner} (ha : a.IsIn documents) (hb : b.IsIn documents)
    (h : a.place = b.place) : a = b := by
  obtain ⟨e, he, hoe⟩ := ha
  obtain ⟨e', he', hoe'⟩ := hb
  rw [← h] at he' hoe'
  obtain rfl : e = e' := Option.some.inj (he.symm.trans he')
  exact Option.some.inj (hoe.symm.trans hoe')

theorem Owner.IsIn.at?_placed {owner : Owner} (h : owner.IsIn documents) {i : Nat}
    {e : FlowElement} (he : owner.elements[i]? = some e) :
    (owner.placed i e).located.IsIn documents := by
  obtain ⟨c, hc, ho⟩ := h
  obtain ⟨hes, -⟩ := Located.owner?_eq_some ho
  have hchild : c.child? i = some (.flow e) := by
    cases c with
    | definitions d => simp [Element.flowElements?] at hes
    | _ => simp only [Element.child?, hes, Option.bind_some, he, Option.map_some]
  exact (Documents.at?_cons hc i).trans hchild

theorem Placed.owner?_located {p : Placed} (h : p.element.flowElements ≠ []) :
    p.located.owner? = some (.ofPlaced p) := by
  obtain ⟨place, e⟩ := p
  cases e with
  | leaf l => exact absurd rfl h
  | subProcess node es triggered => rfl

/-- All that a container in a document meets is in that document. -/
theorem Owner.Meets.isIn {owner : Owner} {v : Visit} (hv : owner.Meets v)
    (h : owner.IsIn documents) :
    v.owner.IsIn documents ∧ v.placed.located.IsIn documents := by
  induction hv with
  | own he => exact ⟨h, h.at?_placed he⟩
  | @inner owner i e v he inside ih =>
    have full : e.flowElements ≠ [] := by
      intro hnil
      cases inside <;> simp [Owner.ofPlaced, Owner.placed, hnil] at *
    exact ih ((h.at?_placed he).owner (Placed.owner?_located full))

/-! ## Processes -/

theorem Definitions.mem_locatedProcesses {d : Definitions} {place : Place} {l : Located} :
    l ∈ d.locatedProcesses place ↔
      ∃ i p, d.rootElements[i]? = some (.process p) ∧ l = ⟨i :: place, .root (.process p)⟩ := by
  simp only [Definitions.locatedProcesses, List.mem_filterMap, Prod.exists,
    List.mk_mem_zipIdx_iff_getElem?, Option.map_eq_some_iff]
  constructor
  · rintro ⟨r, i, hr, p, hp, rfl⟩
    cases r <;> cases hp
    exact ⟨i, p, hr, rfl⟩
  · rintro ⟨i, p, hr, rfl⟩
    exact ⟨_, i, hr, p, rfl, rfl⟩

theorem Definitions.isIn_of_mem_locatedProcesses {d : Definitions} {place : Place} {l : Located}
    (hd : documents.at? place = some (.definitions d)) (hl : l ∈ d.locatedProcesses place) :
    l.IsIn documents := by
  obtain ⟨i, p, hp, rfl⟩ := Definitions.mem_locatedProcesses.mp hl
  show documents.at? (i :: place) = _
  rw [Documents.at?_cons hd, Element.child?, hp]
  rfl

/-- A document with another process for one of its root elements. -/
def Definitions.putProcess (d : Definitions) (i : Nat) (p : Process) : Definitions :=
  { d with rootElements := d.rootElements.set i (.process p) }

theorem Definitions.putProcess_self {d : Definitions} {i : Nat} {p : Process}
    (h : d.rootElements[i]? = some (.process p)) : d.putProcess i p = d := by
  obtain ⟨hi, hp⟩ := List.getElem?_eq_some_iff.mp h
  unfold putProcess
  rw [← hp, List.set_getElem_self]

/-- The processes of a document, cut at one of them: the others stand elsewhere, and they stay if
another process takes its place. -/
theorem Definitions.locatedProcesses_putProcess {d : Definitions} {i : Nat} {p : Process}
    (h : d.rootElements[i]? = some (.process p)) (place : Place) :
    ∃ before after,
      (∀ q, (d.putProcess i q).locatedProcesses place =
        before ++ ⟨i :: place, .root (.process q)⟩ :: after) ∧
      ∀ l ∈ before ++ after, ∃ j, j ≠ i ∧ l.place = j :: place := by
  obtain ⟨hi, -⟩ := List.getElem?_eq_some_iff.mp h
  let locate : RootElement × Nat → Option Located :=
    fun item => item.1.process?.map fun p => ⟨item.2 :: place, .root (.process p)⟩
  have length : 0 + (d.rootElements.take i).length = i := by
    rw [List.length_take_of_le (Nat.le_of_lt hi), Nat.zero_add]
  refine ⟨(d.rootElements.take i).zipIdx.filterMap locate,
    ((d.rootElements.drop (i + 1)).zipIdx (i + 1)).filterMap locate, fun q => ?_, ?_⟩
  · unfold locatedProcesses putProcess
    rw [List.set_eq_take_append_cons_drop, if_pos hi, List.zipIdx_append, length,
      List.zipIdx_cons, List.filterMap_append]
    rfl
  · intro l hl
    rw [← List.filterMap_append] at hl
    obtain ⟨⟨r, j⟩, hr, hl⟩ := List.mem_filterMap.mp hl
    obtain ⟨q, -, rfl⟩ := Option.map_eq_some_iff.mp hl
    refine ⟨j, ?_, rfl⟩
    rcases List.mem_append.mp hr with hr | hr
    · have := List.snd_lt_of_mem_zipIdx hr
      dsimp only at this
      omega
    · have := List.le_snd_of_mem_zipIdx hr
      dsimp only at this
      omega

/-- The processes of a document, cut at one of them: the others stand elsewhere. -/
theorem Definitions.locatedProcesses_eq_append {d : Definitions} {i : Nat} {p : Process}
    (h : d.rootElements[i]? = some (.process p)) (place : Place) :
    ∃ before after,
      d.locatedProcesses place = before ++ ⟨i :: place, .root (.process p)⟩ :: after ∧
      ∀ l ∈ before ++ after, ∃ j, j ≠ i ∧ l.place = j :: place := by
  obtain ⟨before, after, cut, elsewhere⟩ := locatedProcesses_putProcess h place
  exact ⟨before, after, d.putProcess_self h ▸ cut p, elsewhere⟩

end BpmnAudit
