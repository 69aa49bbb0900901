import BpmnAudit.Proofs.Rules.Findings
import Mathlib.Data.List.Forall2

/-!
# Elements that rules cannot tell apart

Two flow elements are alike if the rules find the same problems with both, and read the same off
both as sequence flows next to a gateway (`FlowElement.Alike`). A matching of trees relates alike
elements only, and with two elements it relates what they own, one by one (`Placed.Matching`).

Of two containers whose elements match, the rules find matching things: the same problems in the
same order, with elements that match (`Owner.findings_corresponds`). It is shown for single visits
first, from what their owners look like by ids (`Visit.findings_corresponds`).
-/

namespace BpmnAudit

/-- Lists that are related one by one have related first items with a property that does not tell
related items apart. -/
theorem rel_find? {α : Type} {R : α → α → Prop} {q : α → Bool} {as bs : List α}
    (hq : ∀ a b, R a b → q a = q b) (h : List.Forall₂ R as bs) :
    Option.Rel (fun a b => R a b ∧ q a = true) (as.find? q) (bs.find? q) := by
  induction h with
  | nil => exact .none
  | @cons a b as bs hab _ ih =>
    rw [List.find?_cons, List.find?_cons, ← hq a b hab]
    cases ha : q a with
    | true => exact .some ⟨hab, ha⟩
    | false => exact ih

theorem map_eq_map_of_forall₂ {α β : Type} {R : α → α → Prop} {f : α → β} {as bs : List α}
    (hf : ∀ a b, R a b → f a = f b) (h : List.Forall₂ R as bs) : as.map f = bs.map f := by
  rw [← List.forall₂_eq_eq_eq]
  exact List.rel_map (fun a b hab => hf a b hab) h

/-! ## Alike elements, matching trees -/

/-- Rules find the same problems with both elements, and read the same off both. -/
structure FlowElement.Alike (strict : Bool) (e e' : FlowElement) : Prop where
  kind : e.kind = e'.kind
  problems : ∀ adHoc (rule : NodeRule), rule.appliesTo e.kind = true →
    rule.problems strict adHoc (.flow e) = rule.problems strict adHoc (.flow e')
  outgoing : e.node?.map (·.outgoing) = e'.node?.map (·.outgoing)
  flowId : e.flowId? = e'.flowId?
  probability : ∀ id, e.flowId? = some id →
    readProbability strict e.base.blocks = readProbability strict e'.base.blocks

namespace FlowElement.Alike

variable {strict : Bool} {e e' e'' : FlowElement}

theorem refl (strict : Bool) (e : FlowElement) : e.Alike strict e :=
  ⟨rfl, fun _ _ _ => rfl, rfl, rfl, fun _ _ => rfl⟩

theorem symm (h : e.Alike strict e') : e'.Alike strict e where
  kind := h.kind.symm
  problems adHoc rule hr := (h.problems adHoc rule (h.kind ▸ hr)).symm
  outgoing := h.outgoing.symm
  flowId := h.flowId.symm
  probability id hid := (h.probability id (h.flowId.trans hid)).symm

theorem trans (h : e.Alike strict e') (h' : e'.Alike strict e'') : e.Alike strict e'' where
  kind := h.kind.trans h'.kind
  problems adHoc rule hr :=
    (h.problems adHoc rule hr).trans (h'.problems adHoc rule (h.kind ▸ hr))
  outgoing := h.outgoing.trans h'.outgoing
  flowId := h.flowId.trans h'.flowId
  probability id hid := (h.probability id hid).trans (h'.probability id (h.flowId ▸ hid))

end FlowElement.Alike

/-- Two diagnostics are of the same problem and of elements that are related, or both of the
document as a whole. -/
inductive Diagnostic.Corresponds (R : Placed → Placed → Prop) : Diagnostic → Diagnostic → Prop
  | whole (level : Level) (problem : Problem) :
    Corresponds R ⟨level, problem, none⟩ ⟨level, problem, none⟩
  | element (level : Level) (problem : Problem) {p p' : Placed} (h : R p p') :
    Corresponds R ⟨level, problem, some p.located⟩ ⟨level, problem, some p'.located⟩

/-- A relation that matches trees of flow elements: related elements are alike, and what they own
is related one by one. -/
structure Placed.Matching (strict : Bool) (R : Placed → Placed → Prop) : Prop where
  alike : ∀ {p p'}, R p p' → p.element.Alike strict p'.element
  inside : ∀ {p p'}, R p p' →
    List.Forall₂ R (Owner.ofPlaced p).children (Owner.ofPlaced p').children

/-- Two visits match: the elements are related, and so are the sequence flows of each id that stand
next to them. -/
structure Visit.Matches (R : Placed → Placed → Prop) (v v' : Visit) : Prop where
  placed : R v.placed v'.placed
  flows : ∀ id, Option.Rel (fun p p' => R p p' ∧ p.element.flowId? = some id)
    ((Surroundings.owner v.owner).flow? id) ((Surroundings.owner v'.owner).flow? id)

section Rules

variable {strict : Bool} {R : Placed → Placed → Prop}
  (alike : ∀ {p p'}, R p p' → p.element.Alike strict p'.element)

include alike

/-! ## Branches -/

/-- Along related sequence flows go branches with related remarks and the same probability. -/
theorem Branch.corresponds {scope scope' : Scope} (hs : scope.strict = strict)
    (hs' : scope'.strict = strict) {id : String}
    (hf : Option.Rel (fun p p' => R p p' ∧ p.element.flowId? = some id)
      (scope.flow? id) (scope'.flow? id)) :
    List.Forall₂ (Diagnostic.Corresponds R)
        ((ofId scope id).remarks.filterMap Remark.diagnostic?)
        ((ofId scope' id).remarks.filterMap Remark.diagnostic?) ∧
      (ofId scope id).probability? = (ofId scope' id).probability? := by
  rw [ofId_eq, ofId_eq, hs, hs']
  generalize scope.flow? id = flow at hf ⊢
  generalize scope'.flow? id = flow' at hf ⊢
  cases hf with
  | none => exact ⟨.nil, rfl⟩
  | @some p p' h =>
    obtain ⟨hp, hid⟩ := h
    simp only [Option.elim_some, (alike hp).probability id hid, diagnostics_along,
      probability?_along, and_true]
    split
    · exact .cons (.element _ _ hp) .nil
    · exact .nil

theorem Located.branchFindings_corresponds {scope scope' : Scope} (hs : scope.strict = strict)
    (hs' : scope'.strict = strict) (hf : ∀ id,
      Option.Rel (fun p p' => R p p' ∧ p.element.flowId? = some id)
        (scope.flow? id) (scope'.flow? id))
    {p p' : Placed} (hp : R p p') :
    List.Forall₂ (Diagnostic.Corresponds R) (p.located.branchFindings scope)
      (p'.located.branchFindings scope') := by
  have nodes : p.located.element.node?.map (·.outgoing) =
      p'.located.element.node?.map (·.outgoing) := (alike hp).outgoing
  unfold branchFindings
  rw [nodes]
  generalize (p'.located.element.node?.map (·.outgoing)).getD [] = outgoing
  have branch := fun id => Branch.corresponds alike hs hs' (hf id)
  have same : (outgoing.map (Branch.ofId scope)).filterMap Branch.probability? =
      (outgoing.map (Branch.ofId scope')).filterMap Branch.probability? := by
    rw [List.filterMap_map, List.filterMap_map]
    exact congrArg (List.filterMap · outgoing) (funext fun id => (branch id).2)
  simp only [probabilityRemarks, List.filterMap_append, Located.diagnostics_remarks,
    List.filterMap_flatMap, List.flatMap_map, same]
  refine List.rel_append ?_ ?_
  · exact List.rel_flatMap (List.forall₂_same.mpr fun id _ => rfl)
      fun id id' (h : id = id') => h ▸ (branch id).1
  · rw [List.forall₂_map_left_iff, List.forall₂_map_right_iff, List.forall₂_same]
    exact fun problem _ => .element _ _ hp

/-! ## Rules -/

/-- At matching visits a rule finds matching things. -/
theorem NodeRule.findings_corresponds {settings : Settings}
    (hs : settings.strictSimulation = strict) {adHoc : Bool} {v v' : Visit} (h : v.Matches R v')
    {rule : NodeRule} (hr : rule.appliesTo v.placed.element.kind = true) :
    List.Forall₂ (Diagnostic.Corresponds R)
      (rule.findings (.inside settings adHoc (.owner v.owner)) v.placed.located)
      (rule.findings (.inside settings adHoc (.owner v'.owner)) v'.placed.located) := by
  have same := alike h.placed
  rw [findings_eq_append rfl hr, findings_eq_append rfl (same.kind ▸ hr)]
  refine List.rel_append ?_ ?_
  · show List.Forall₂ _
      ((rule.problems settings.strictSimulation adHoc (.flow v.placed.element)).result.map _)
      ((rule.problems settings.strictSimulation adHoc (.flow v'.placed.element)).result.map _)
    rw [hs, same.problems adHoc rule hr, List.forall₂_map_left_iff, List.forall₂_map_right_iff,
      List.forall₂_same]
    exact fun problem _ => .element _ _ h.placed
  · split
    · exact Located.branchFindings_corresponds alike hs hs h.flows h.placed
    · exact .nil

/-- At matching visits the rules find matching things. -/
theorem Visit.findings_corresponds {settings : Settings}
    (hs : settings.strictSimulation = strict) {adHoc : Bool} {v v' : Visit}
    (h : v.Matches R v') :
    List.Forall₂ (Diagnostic.Corresponds R) (v.findings settings adHoc)
      (v'.findings settings adHoc) := by
  have rules : v'.placed.located.element.rules = v.placed.located.element.rules :=
    congrArg FlowKind.rules (alike h.placed).kind.symm
  unfold Visit.findings Located.findings
  rw [rules]
  refine List.rel_flatMap
    (R := fun rule rule' => rule = rule' ∧ rule.appliesTo v.placed.element.kind = true) ?_ ?_
  · exact List.forall₂_same.mpr fun rule hr => ⟨rfl, NodeRule.mem_rules hr⟩
  · rintro rule _ ⟨rfl, applies⟩
    exact NodeRule.findings_corresponds alike hs h applies

end Rules

/-! ## Containers -/

variable {strict : Bool} {R : Placed → Placed → Prop}

theorem Owner.flows_of_children (matching : Placed.Matching strict R) {owner owner' : Owner}
    (h : List.Forall₂ R owner.children owner'.children) (id : String) :
    Option.Rel (fun p p' => R p p' ∧ p.element.flowId? = some id)
      ((Surroundings.owner owner).flow? id) ((Surroundings.owner owner').flow? id) := by
  show Option.Rel _ ((sequenceFlowsById owner.children).lookup id)
    ((sequenceFlowsById owner'.children).lookup id)
  rw [lookup_sequenceFlowsById, lookup_sequenceFlowsById]
  have found := rel_find? (q := (·.element.flowId? == some id))
    (fun p p' hp => by rw [(matching.alike hp).flowId]) (List.rel_reverse h)
  simpa only [beq_iff_eq] using found

mutual

theorem FlowElement.visits_match (matching : Placed.Matching strict R) {owner owner' : Owner}
    {i i' : Nat} {e e' : FlowElement}
    (hf : ∀ id, Option.Rel (fun p p' => R p p' ∧ p.element.flowId? = some id)
      ((Surroundings.owner owner).flow? id) ((Surroundings.owner owner').flow? id))
    (h : R (owner.placed i e) (owner'.placed i' e')) :
    List.Forall₂ (Visit.Matches R) (e.visits owner i) (e'.visits owner' i') := by
  have inside := matching.inside h
  rw [FlowElement.visits_eq owner, FlowElement.visits_eq owner']
  refine .cons ⟨h, hf⟩ ?_
  cases e with
  | leaf l =>
    rw [show (Owner.ofPlaced (owner.placed i (.leaf l))).children = [] from rfl,
      List.forall₂_nil_left_iff] at inside
    have none' : (Owner.ofPlaced (owner'.placed i' e')).elements = [] := by
      simpa [Owner.children] using inside
    rw [Owner.visits, Owner.visits, none',
      show (Owner.ofPlaced (owner.placed i (.leaf l))).elements = [] from rfl]
    simp [visitsFrom]
  | subProcess node es triggered =>
    exact visitsFrom_match matching (Owner.flows_of_children matching inside) inside

theorem visitsFrom_match (matching : Placed.Matching strict R) {owner owner' : Owner} {i i' : Nat}
    {es es' : List FlowElement}
    (hf : ∀ id, Option.Rel (fun p p' => R p p' ∧ p.element.flowId? = some id)
      ((Surroundings.owner owner).flow? id) ((Surroundings.owner owner').flow? id))
    (h : List.Forall₂ R ((es.zipIdx i).map fun (e, i) => owner.placed i e)
      ((es'.zipIdx i').map fun (e, i) => owner'.placed i e)) :
    List.Forall₂ (Visit.Matches R) (visitsFrom owner i es) (visitsFrom owner' i' es') := by
  cases es with
  | nil =>
    cases es' with
    | nil => exact .nil
    | cons e' es' => cases h
  | cons e es =>
    cases es' with
    | nil => cases h
    | cons e' es' =>
      rw [List.zipIdx_cons, List.zipIdx_cons, List.map_cons, List.map_cons,
        List.forall₂_cons] at h
      exact List.rel_append (FlowElement.visits_match matching hf h.1)
        (visitsFrom_match matching hf h.2)

end

/-- Of two containers whose elements match, the rules find matching things. -/
theorem Owner.findings_corresponds (matching : Placed.Matching strict R) {settings : Settings}
    (hs : settings.strictSimulation = strict) {adHoc : Bool} {owner owner' : Owner}
    (h : List.Forall₂ R owner.children owner'.children) :
    List.Forall₂ (Diagnostic.Corresponds R) (owner.findings settings adHoc)
      (owner'.findings settings adHoc) :=
  List.rel_flatMap (visitsFrom_match matching (Owner.flows_of_children matching h) h)
    fun _ _ hv => Visit.findings_corresponds matching.alike hs hv

end BpmnAudit
