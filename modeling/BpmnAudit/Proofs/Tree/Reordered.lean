import BpmnAudit.Proofs.Tree.Lookup
import BpmnAudit.Proofs.WellFormed.Rules

/-!
# Documents in another order

Two documents have the same root elements in another order, and their containers, at any depth, the
same flow elements in another order (`Definitions.Reordered`). Only sequence flows of one id keep
their order in their container. So of each id the same sequence flow is the last one
(`lastFlow?_of_reorders`); and a container has as many elements and levels as before
(`Reorders.sizes`).
-/

namespace BpmnAudit

/-- The same flow elements in another order, in which sequence flows of one id keep theirs. -/
structure Rearranged (es es' : List FlowElement) : Prop where
  perm : es.Perm es'
  flows : ∀ id, es.filter (·.flowId? == some id) = es'.filter (·.flowId? == some id)

/-- The same flow element, with what it owns in another order, at any depth. -/
inductive FlowElement.Reordered : FlowElement → FlowElement → Prop
  | leaf (l : FlowLeaf) : Reordered (.leaf l) (.leaf l)
  | subProcess (node : FlowNode) (triggered : Bool) {es mid es' : List FlowElement}
    (inside : List.Forall₂ Reordered es mid) (order : Rearranged mid es') :
    Reordered (.subProcess node es triggered) (.subProcess node es' triggered)

/-- The same flow elements in another order, and so at any depth. -/
def Reorders (es es' : List FlowElement) : Prop :=
  ∃ mid, List.Forall₂ FlowElement.Reordered es mid ∧ Rearranged mid es'

/-- The same process, with what it owns in another order, at any depth. -/
structure Process.Reordered (p p' : Process) : Prop where
  elements : Reorders p.flowElements p'.flowElements
  others : p' = { p with flowElements := p'.flowElements }

/-- The same root element, with what it owns in another order if it is a process. -/
inductive RootElement.Reordered : RootElement → RootElement → Prop
  | same (r : RootElement) : Reordered r r
  | process {p p' : Process} (h : p.Reordered p') : Reordered (.process p) (.process p')

/-- The same document, with root elements and flow elements in another order. -/
structure Definitions.Reordered (d d' : Definitions) : Prop where
  elements : ∃ mid, List.Forall₂ RootElement.Reordered d.rootElements mid ∧
    mid.Perm d'.rootElements
  others : d' = { d with rootElements := d'.rootElements }

/-! ## Single elements -/

namespace FlowElement.Reordered

variable {e e' : FlowElement}

theorem kind (h : e.Reordered e') : e.kind = e'.kind := by cases h <;> rfl

theorem id (h : e.Reordered e') : e.id = e'.id := by cases h <;> rfl

theorem flowId? (h : e.Reordered e') : e.flowId? = e'.flowId? := by cases h <;> rfl

/-- Sequence flows own nothing to be reordered. -/
theorem eq_of_flowId? (h : e.Reordered e') {id : String} (hid : e.flowId? = some id) :
    e = e' := by
  cases h with
  | leaf l => rfl
  | subProcess => cases hid

end FlowElement.Reordered

/-! ## Sequence flows -/

theorem lastFlow?_eq_getLast? (es : List FlowElement) (id : String) :
    lastFlow? es id = (es.filter (·.flowId? == some id)).getLast? := by
  rw [lastFlow?, List.getLast?_eq_head?_reverse, ← List.filter_reverse, List.head?_filter]

theorem flowId?_of_lastFlow? {es : List FlowElement} {id : String} {e : FlowElement}
    (h : lastFlow? es id = some e) : e.flowId? = some id := by
  rw [lastFlow?] at h
  have last := List.find?_some h
  exact eq_of_beq last

theorem filter_flowId?_of_forall₂ {es mid : List FlowElement}
    (h : List.Forall₂ FlowElement.Reordered es mid) (id : String) :
    es.filter (·.flowId? == some id) = mid.filter (·.flowId? == some id) := by
  induction h with
  | nil => rfl
  | @cons e e' es mid he _ ih =>
    rw [List.filter_cons, List.filter_cons, ← he.flowId?, ih]
    split
    · next hid => rw [he.eq_of_flowId? (eq_of_beq hid)]
    · rfl

/-- Of each id the same sequence flow stands last. -/
theorem lastFlow?_of_reorders {es es' : List FlowElement} (h : Reorders es es') (id : String) :
    lastFlow? es id = lastFlow? es' id := by
  obtain ⟨mid, inside, order⟩ := h
  rw [lastFlow?_eq_getLast?, lastFlow?_eq_getLast?, filter_flowId?_of_forall₂ inside, order.flows]

theorem any_kind_of_reorders {es es' : List FlowElement} (h : Reorders es es') (kind : FlowKind) :
    es.any (·.kind == kind) = es'.any (·.kind == kind) := by
  obtain ⟨mid, inside, order⟩ := h
  have same : es.map (·.kind) = mid.map (·.kind) := by
    rw [← List.forall₂_eq_eq_eq]
    exact List.rel_map (fun _ _ he => he.kind) inside
  calc es.any (·.kind == kind) = (es.map (·.kind)).any (· == kind) := by rw [List.any_map]; rfl
    _ = mid.any (·.kind == kind) := by rw [same, List.any_map]; rfl
    _ = es'.any (·.kind == kind) := order.perm.any_eq

/-! ## Sizes -/

theorem sizes_of_perm {es es' : List FlowElement} (h : es.Perm es') :
    (preorder es).length = (preorder es').length ∧ heights es = heights es' := by
  induction h with
  | nil => exact ⟨rfl, rfl⟩
  | cons e _ ih => simp [preorder, heights, ih.1, ih.2]
  | swap e e' es =>
    simp only [preorder, heights, List.length_append]
    omega
  | trans _ _ ih ih' => exact ⟨ih.1.trans ih'.1, ih.2.trans ih'.2⟩

mutual

theorem FlowElement.Reordered.sizes {e e' : FlowElement} (h : e.Reordered e') :
    e.subtree.length = e'.subtree.length ∧ e.height = e'.height := by
  match e, h with
  | _, .leaf l => exact ⟨rfl, rfl⟩
  | .subProcess _ es _, .subProcess node triggered inside order =>
    obtain ⟨length, height⟩ := sizes_of_forall₂ inside
    obtain ⟨length', height'⟩ := sizes_of_perm order.perm
    simp [FlowElement.subtree, FlowElement.height, length, length', height, height']

theorem sizes_of_forall₂ {es mid : List FlowElement}
    (h : List.Forall₂ FlowElement.Reordered es mid) :
    (preorder es).length = (preorder mid).length ∧ heights es = heights mid := by
  match es, h with
  | [], .nil => exact ⟨rfl, rfl⟩
  | e :: es, .cons first rest =>
    obtain ⟨length, height⟩ := first.sizes
    obtain ⟨length', height'⟩ := sizes_of_forall₂ rest
    simp [preorder, heights, length, length', height, height']

end

/-- In another order there are as many elements, at all depths, and as many levels. -/
theorem Reorders.sizes {es es' : List FlowElement} (h : Reorders es es') :
    (preorder es).length = (preorder es').length ∧ heights es = heights es' := by
  obtain ⟨mid, inside, order⟩ := h
  obtain ⟨length, height⟩ := sizes_of_forall₂ inside
  obtain ⟨length', height'⟩ := sizes_of_perm order.perm
  exact ⟨length.trans length', height.trans height'⟩

end BpmnAudit
