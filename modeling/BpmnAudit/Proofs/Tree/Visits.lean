import BpmnAudit.Model.Tree

/-!
# Visits

A way through a container meets every flow element in preorder, and each of them inside the
container that itself owns it. A visit is such a meeting: the owner, and the element where it
stands. The visits of a container are given by recursion along the tree.

1. Leaving out where they stand, the visits are the preorder (`map_element_visits`).
2. A container has exactly the visits that a way down the tree leads to (`mem_visits_iff`).
3. The loop over a stack finds the elements in the order of the visits (`descendants_eq`).
-/

namespace BpmnAudit

/-- A flow element met inside the container that itself owns it. -/
structure Visit where
  owner : Owner
  placed : Placed
  deriving DecidableEq

/-- A flow element of a container, at an index. -/
def Owner.placed (owner : Owner) (i : Nat) (e : FlowElement) : Placed := ⟨i :: owner.place, e⟩

mutual

/-- The visits of an element of a container, and of all that it owns. -/
def FlowElement.visits (owner : Owner) (i : Nat) : FlowElement → List Visit
  | .leaf l => [⟨owner, owner.placed i (.leaf l)⟩]
  | .subProcess node es triggered =>
    ⟨owner, owner.placed i (.subProcess node es triggered)⟩ ::
      visitsFrom (.ofPlaced (owner.placed i (.subProcess node es triggered))) 0 es

/-- The visits of the elements of a container from an index on, and of all that they own. -/
def visitsFrom (owner : Owner) (i : Nat) : List FlowElement → List Visit
  | [] => []
  | e :: es => e.visits owner i ++ visitsFrom owner (i + 1) es

end

/-- The visits of all that a container owns. -/
def Owner.visits (owner : Owner) : List Visit := visitsFrom owner 0 owner.elements

/-- The visits of an element begin with the element itself; what it owns follows. -/
theorem FlowElement.visits_eq (owner : Owner) (i : Nat) (e : FlowElement) :
    e.visits owner i =
      ⟨owner, owner.placed i e⟩ :: (Owner.ofPlaced (owner.placed i e)).visits := by
  cases e <;>
    simp [FlowElement.visits, Owner.visits, visitsFrom, Owner.ofPlaced, Owner.placed,
      FlowElement.flowElements]

/-! ## The order -/

mutual

theorem FlowElement.map_element_visits (owner : Owner) (i : Nat) (e : FlowElement) :
    (e.visits owner i).map (·.placed.element) = e.subtree := by
  cases e with
  | leaf l => simp [FlowElement.visits, FlowElement.subtree, Owner.placed]
  | subProcess node es triggered =>
    simp [FlowElement.visits, FlowElement.subtree, Owner.placed, map_element_visitsFrom]

theorem map_element_visitsFrom (owner : Owner) (i : Nat) (es : List FlowElement) :
    (visitsFrom owner i es).map (·.placed.element) = preorder es := by
  cases es with
  | nil => simp [visitsFrom, preorder]
  | cons e es =>
    simp [visitsFrom, preorder, FlowElement.map_element_visits, map_element_visitsFrom]

end

/-- The visits are the preorder. -/
theorem Owner.map_element_visits (owner : Owner) :
    owner.visits.map (·.placed.element) = preorder owner.elements :=
  map_element_visitsFrom owner 0 owner.elements

theorem Owner.length_visits (owner : Owner) :
    owner.visits.length = (preorder owner.elements).length := by
  rw [← owner.map_element_visits, List.length_map]

/-! ## Which visits there are -/

/-- The way from a container to a visit: an element of its own, or one inside of such an
element. -/
inductive Owner.Meets : Owner → Visit → Prop
  | own {owner : Owner} {i : Nat} {e : FlowElement} (h : owner.elements[i]? = some e) :
    Meets owner ⟨owner, owner.placed i e⟩
  | inner {owner : Owner} {i : Nat} {e : FlowElement} {v : Visit}
    (h : owner.elements[i]? = some e) (inside : Meets (.ofPlaced (owner.placed i e)) v) :
    Meets owner v

theorem visitsFrom_eq_append (owner : Owner) {es : List FlowElement} {k : Nat} {e : FlowElement}
    (i : Nat) (h : es[k]? = some e) :
    visitsFrom owner i es =
      visitsFrom owner i (es.take k) ++ e.visits owner (i + k) ++
        visitsFrom owner (i + k + 1) (es.drop (k + 1)) := by
  induction es generalizing i k with
  | nil => simp at h
  | cons e' es ih =>
    cases k with
    | zero =>
      obtain rfl : e' = e := by simpa using h
      simp [visitsFrom]
    | succ k =>
      rw [visitsFrom, ih (i + 1) (by simpa using h), List.take_succ_cons, List.drop_succ_cons,
        visitsFrom, show i + (k + 1) = i + 1 + k by omega]
      simp only [List.append_assoc]

mutual

theorem FlowElement.meets_of_mem_visits {owner : Owner} {i : Nat} {e : FlowElement} {v : Visit}
    (h : owner.elements[i]? = some e) (hv : v ∈ e.visits owner i) : owner.Meets v := by
  cases e with
  | leaf l =>
    obtain rfl : v = _ := by simpa [FlowElement.visits] using hv
    exact .own h
  | subProcess node es triggered =>
    rw [FlowElement.visits, List.mem_cons] at hv
    rcases hv with rfl | hv
    · exact .own h
    · exact .inner h (meets_of_mem_visitsFrom (fun k => by
        simp [Owner.ofPlaced, Owner.placed, FlowElement.flowElements]) hv)

theorem meets_of_mem_visitsFrom {owner : Owner} {i : Nat} {es : List FlowElement} {v : Visit}
    (hes : ∀ k, es[k]? = owner.elements[i + k]?) (hv : v ∈ visitsFrom owner i es) :
    owner.Meets v := by
  cases es with
  | nil => simp [visitsFrom] at hv
  | cons e es =>
    rw [visitsFrom, List.mem_append] at hv
    rcases hv with hv | hv
    · exact FlowElement.meets_of_mem_visits (by simpa using (hes 0).symm) hv
    · refine meets_of_mem_visitsFrom (fun k => ?_) hv
      rw [show i + 1 + k = i + (k + 1) by omega, ← hes (k + 1), List.getElem?_cons_succ]

end

theorem Owner.mem_visits_own {owner : Owner} {i : Nat} {e : FlowElement}
    (h : owner.elements[i]? = some e) : ⟨owner, owner.placed i e⟩ ∈ owner.visits := by
  rw [Owner.visits, visitsFrom_eq_append owner 0 h, Nat.zero_add, FlowElement.visits_eq]
  simp

theorem Owner.mem_visits_inner {owner : Owner} {i : Nat} {e : FlowElement} {v : Visit}
    (h : owner.elements[i]? = some e) (hv : v ∈ (ofPlaced (owner.placed i e)).visits) :
    v ∈ owner.visits := by
  rw [Owner.visits, visitsFrom_eq_append owner 0 h, Nat.zero_add, FlowElement.visits_eq]
  simp [hv]

/-- The visits of a container are those that it meets. -/
theorem Owner.mem_visits_iff {owner : Owner} {v : Visit} : v ∈ owner.visits ↔ owner.Meets v := by
  constructor
  · exact meets_of_mem_visitsFrom fun k => by rw [Nat.zero_add]
  · intro h
    induction h with
    | own h => exact mem_visits_own h
    | inner h _ ih => exact mem_visits_inner h ih

/-! ## The loop -/

mutual

theorem FlowElement.descendFrom_cons (owner : Owner) (i : Nat) (e : FlowElement)
    (rest : List FlowElement) (stack : List Pending) (done : List Placed) :
    descendFrom (⟨owner.place, i, e :: rest⟩ :: stack) done =
      descendFrom (⟨owner.place, i + 1, rest⟩ :: stack)
        (((e.visits owner i).map (·.placed)).reverse ++ done) := by
  cases e with
  | leaf l => rw [descendFrom]; simp [FlowElement.visits, Owner.placed]
  | subProcess node es triggered =>
    have inside := descendFrom_pending
      (.ofPlaced (owner.placed i (.subProcess node es triggered))) 0 es
    rw [descendFrom]
    simp only [Owner.ofPlaced, Owner.placed] at inside
    rw [inside]
    simp [FlowElement.visits, Owner.placed, Owner.ofPlaced]

/-- The loop finds the elements of a container in the order of the visits, before it goes on with
the rest of its stack. -/
theorem descendFrom_pending (owner : Owner) (i : Nat) (es : List FlowElement)
    (stack : List Pending) (done : List Placed) :
    descendFrom (⟨owner.place, i, es⟩ :: stack) done =
      descendFrom stack (((visitsFrom owner i es).map (·.placed)).reverse ++ done) := by
  cases es with
  | nil => rw [descendFrom]; simp [visitsFrom]
  | cons e es =>
    rw [FlowElement.descendFrom_cons, descendFrom_pending owner (i + 1) es]
    simp [visitsFrom]

end

/-- The loop over a stack finds the elements in the order of the visits. -/
theorem Owner.descendants_eq (owner : Owner) :
    owner.descendants = owner.visits.map (·.placed) := by
  rw [descendants, descendFrom_pending, descendFrom]
  simp [visits]

end BpmnAudit
