import BpmnAudit.Proofs.Tree.Lookup
import BpmnAudit.Proofs.Tree.Segments

/-!
# Places and owners

The places of a document that lead to a flow element are those that a way down from one of its
processes leads to (`Documents.at?_eq_flow_iff`). So the look-up of the container of a place finds
the owner there, and it finds nothing for any other place, be it of an equal element in another
document (`Definitions.containerOf?_eq_some_iff`, `Definitions.containerOf?_eq_none`).
-/

namespace BpmnAudit

variable {documents : Documents}

theorem Owner.Meets.child {owner : Owner} {v : Visit} (h : owner.Meets v) {i : Nat}
    {e : FlowElement} (he : v.placed.element.flowElements[i]? = some e) :
    owner.Meets ⟨.ofPlaced v.placed, (ofPlaced v.placed).placed i e⟩ := by
  induction h with
  | own h => exact .inner h (.own he)
  | inner h _ ih => exact .inner h (ih he)

/-- Every visit is inside the container that itself owns the visited element. -/
theorem Owner.Meets.mem_children {owner : Owner} {v : Visit} (h : owner.Meets v) :
    v.placed ∈ v.owner.children := by
  induction h with
  | own he => exact Owner.mem_children.mpr ⟨_, _, he, rfl⟩
  | inner _ _ ih => exact ih

/-! ## What stands at a place -/

/-- Below a document stand its root elements; below anything else stand flow elements. -/
theorem Element.child?_eq_some {c x : Element} {i : Nat} (h : c.child? i = some x) :
    (∃ d r, c = .definitions d ∧ d.rootElements[i]? = some r ∧ x = .root r) ∨
      ∃ es e, c.flowElements? = some es ∧ es[i]? = some e ∧ x = .flow e := by
  have flows : (c.flowElements?.bind (·[i]?)).map Element.flow = some x →
      ∃ es e, c.flowElements? = some es ∧ es[i]? = some e ∧ x = .flow e := by
    intro h
    obtain ⟨e, he, rfl⟩ := Option.map_eq_some_iff.mp h
    obtain ⟨es, hes, hi⟩ := Option.bind_eq_some_iff.mp he
    exact ⟨es, e, hes, hi, rfl⟩
  cases c with
  | definitions d =>
    obtain ⟨r, hr, rfl⟩ := Option.map_eq_some_iff.mp h
    exact Or.inl ⟨d, r, rfl, hr, rfl⟩
  | root | flow | eventDefinition | expression | outline => exact Or.inr (flows h)

theorem Documents.at?_eq_root {i j : Nat} {place : Place} {r : RootElement}
    (h : documents.at? (i :: j :: place) = some (.root r)) :
    place = [] ∧ ∃ d, documents j = some (.definitions d) ∧ d.rootElements[i]? = some r := by
  obtain ⟨c, hc, hchild⟩ := Option.bind_eq_some_iff.mp h
  obtain ⟨d, r', rfl, hr, hroot⟩ | ⟨es, e, -, -, hflow⟩ := Element.child?_eq_some hchild
  · cases hroot
    cases place with
    | nil => exact ⟨rfl, d, hc, hr⟩
    | cons k place =>
      -- a document stands below nothing
      obtain ⟨c, -, hd⟩ := Option.bind_eq_some_iff.mp hc
      obtain ⟨_, _, -, -, hd⟩ | ⟨_, _, -, -, hd⟩ := Element.child?_eq_some hd <;> cases hd
  · cases hflow

namespace Definitions

variable {d : Definitions} {n : Nat}

/-- An element stands at a place of a document: some process of the document meets it there. -/
def Meets (d : Definitions) (n : Nat) (v : Visit) : Prop :=
  ∃ i p, d.rootElements[i]? = some (.process p) ∧
    Owner.Meets ⟨[i, n], some (.root .process), p.id, p.flowElements⟩ v

theorem Meets.getLast? {v : Visit} (h : d.Meets n v) : v.placed.place.getLast? = some n := by
  obtain ⟨i, p, -, met⟩ := h
  obtain ⟨⟨js, hjs⟩, j, hj⟩ := met.suffix
  rw [hj, ← hjs, ← List.cons_append, List.getLast?_append]
  rfl

theorem Meets.mem_children {v : Visit} (h : d.Meets n v) : v.placed ∈ v.owner.children := by
  obtain ⟨i, p, -, met⟩ := h
  exact met.mem_children

theorem Meets.isIn (hd : documents n = some (.definitions d)) {v : Visit} (h : d.Meets n v) :
    v.owner.IsIn documents ∧ v.placed.located.IsIn documents := by
  obtain ⟨i, p, hp, met⟩ := h
  have root : Documents.at? documents [n] = some (.definitions d) := hd
  exact met.isIn ((Definitions.isIn_of_mem_locatedProcesses root
    (Definitions.mem_locatedProcesses.mpr ⟨i, p, hp, rfl⟩)).owner rfl)

end Definitions

/-- Where a container stands in a document, the elements that it owns are met, if it is met itself
or stands in the document directly. -/
theorem Documents.meets_of_flowElements? {n : Nat} {d : Definitions}
    (hd : documents n = some (.definitions d)) {place : Place} {c : Element}
    (hc : documents.at? place = some c) (hlast : place.getLast? = some n)
    {es : List FlowElement} (hes : c.flowElements? = some es) {i : Nat} {e : FlowElement}
    (hi : es[i]? = some e)
    (met : ∀ {f}, documents.at? place = some (.flow f) → place.getLast? = some n →
      ∃ v, d.Meets n v ∧ v.placed = ⟨place, f⟩) :
    ∃ v, d.Meets n v ∧ v.placed = ⟨i :: place, e⟩ := by
  match place with
  | [] => cases hlast
  | [m] =>
    obtain rfl : m = n := Option.some.inj hlast
    obtain rfl : Element.definitions d = c := Option.some.inj (hd.symm.trans hc)
    cases hes
  | j :: k :: place =>
    cases c with
    | root r =>
      obtain ⟨rfl, d', hd', hr⟩ := Documents.at?_eq_root hc
      obtain rfl : k = n := Option.some.inj hlast
      obtain rfl : d = d' := by simpa [hd] using hd'
      cases r with
      | process p =>
        cases hes
        exact ⟨_, ⟨j, p, hr, .own hi⟩, rfl⟩
      | _ => cases hes
    | flow f =>
      obtain ⟨v, ⟨l, p, hp, hv⟩, placed⟩ := met hc hlast
      cases f with
      | leaf l => cases hes
      | subProcess node es triggered =>
        cases hes
        refine ⟨_, ⟨l, p, hp, hv.child (i := i) (e := e) ?_⟩, ?_⟩
        · rw [placed]
          exact hi
        · rw [placed]
          rfl
    | outline o =>
      obtain ⟨c, -, hchild⟩ := Option.bind_eq_some_iff.mp hc
      obtain ⟨_, _, -, -, h⟩ | ⟨_, _, -, -, h⟩ := Element.child?_eq_some hchild <;> cases h
    | definitions | eventDefinition | expression => cases hes

/-- The places of a document that lead to a flow element are those where a process meets it. -/
theorem Documents.at?_eq_flow_iff {n : Nat} {d : Definitions}
    (hd : documents n = some (.definitions d)) {place : Place} {e : FlowElement} :
    documents.at? place = some (.flow e) ∧ place.getLast? = some n ↔
      ∃ v, d.Meets n v ∧ v.placed = ⟨place, e⟩ := by
  constructor
  · rintro ⟨h, hlast⟩
    induction place generalizing e with
    | nil => cases h
    | cons i outer ih =>
      cases outer with
      | nil =>
        obtain rfl : i = n := Option.some.inj hlast
        have h : documents i = some (.flow e) := h
        rw [hd] at h
        cases h
      | cons j rest =>
        rw [List.getLast?_cons_cons] at hlast
        obtain ⟨c, hc, hchild⟩ := Option.bind_eq_some_iff.mp h
        obtain ⟨_, _, -, -, hflow⟩ | ⟨es, e, hes, hi, hflow⟩ := Element.child?_eq_some hchild
        · cases hflow
        · cases hflow
          exact meets_of_flowElements? hd hc hlast hes hi ih
  · rintro ⟨v, met, hv⟩
    have hlast := met.getLast?
    have hin := (met.isIn hd).2
    rw [hv] at hlast hin
    exact ⟨hin, hlast⟩

/-! ## Which owner the look-up finds -/

theorem Owner.meets_of_containerOf? {owner c : Owner} {place : Place}
    (h : owner.containerOf? place = some c) :
    ∃ v, owner.Meets v ∧ v.owner = c ∧ v.placed.place = place := by
  unfold containerOf? at h
  split at h
  · next hown =>
    obtain rfl : owner = c := Option.some.inj h
    obtain ⟨i, e, he, rfl⟩ := owns_iff.mp hown
    exact ⟨_, .own he, rfl, rfl⟩
  · obtain ⟨p, hp, rfl⟩ := Option.map_eq_some_iff.mp h
    have hown := List.find?_some hp
    obtain ⟨i, e, he, rfl⟩ := owns_iff.mp hown
    have found := List.mem_of_find?_eq_some hp
    rw [descendants_eq, List.mem_map] at found
    obtain ⟨v, hv, rfl⟩ := found
    exact ⟨_, (mem_visits_iff.mp hv).child he, rfl, rfl⟩

namespace Definitions

variable {d : Definitions} {n : Nat}

/-- The look-up of a place finds the owner there. -/
theorem containerOf?_eq_some_iff (hd : documents n = some (.definitions d)) {place : Place}
    {c : Owner} :
    d.containerOf? [n] place = some c ↔
      ∃ v, d.Meets n v ∧ v.owner = c ∧ v.placed.place = place := by
  constructor
  · intro h
    obtain ⟨owner, ho, hc⟩ := List.exists_of_findSome?_eq_some h
    obtain ⟨i, p, hp, rfl⟩ := Definitions.mem_owners.mp ho
    obtain ⟨v, hv, howner, hplace⟩ := Owner.meets_of_containerOf? hc
    exact ⟨v, ⟨i, p, hp, hv⟩, howner, hplace⟩
  · rintro ⟨v, ⟨i, p, hp, hv⟩, rfl, rfl⟩
    have root : Documents.at? documents [n] = some (.definitions d) := hd
    exact Definitions.containerOf?_of_meets root
      (Definitions.mem_owners.mpr ⟨i, p, hp, rfl⟩) hv

/-- The look-up finds nothing for a place where the document has no flow element. -/
theorem containerOf?_eq_none (hd : documents n = some (.definitions d)) {place : Place}
    (h : ∀ e, documents.at? place = some (.flow e) → place.getLast? ≠ some n) :
    d.containerOf? [n] place = none := by
  refine Option.eq_none_iff_forall_ne_some.mpr fun c hc => ?_
  obtain ⟨v, met, -, rfl⟩ := (containerOf?_eq_some_iff hd).mp hc
  exact h v.placed.element (met.isIn hd).2 met.getLast?

end Definitions

end BpmnAudit
