import BpmnAudit.Proofs.Run.Records
import BpmnAudit.Proofs.Tree.Owners

/-!
# Two traversals

A container is run through by two loops: one only yields the flow elements and descends by what an
element is made of, the other one applies the rules to them and descends by the kind that their tag
says. Both go through the preorder, so they agree, and the look-up of an id gives the first element
of the preorder that has it (`Run.traversals_agree`).
-/

namespace BpmnAudit

/-! ## Each place once -/

mutual

theorem FlowElement.nodup_places (owner : Owner) (i : Nat) (e : FlowElement) :
    ((e.visits owner i).map (·.placed.place)).Nodup := by
  cases e with
  | leaf l => simp [FlowElement.visits]
  | subProcess node es triggered =>
    rw [FlowElement.visits, List.map_cons, List.nodup_cons]
    refine ⟨fun hmem => ?_, nodup_places_visitsFrom _ 0 es⟩
    obtain ⟨v, hv, hplace⟩ := List.mem_map.mp hmem
    -- what a subprocess owns stands deeper than the subprocess
    obtain ⟨k, -, -, hk⟩ := exists_index_of_mem_visitsFrom hv
    have deeper := hk.length_le
    rw [hplace] at deeper
    simp only [Owner.ofPlaced, Owner.placed, List.length_cons] at deeper
    omega

theorem nodup_places_visitsFrom (owner : Owner) (i : Nat) (es : List FlowElement) :
    ((visitsFrom owner i es).map (·.placed.place)).Nodup := by
  cases es with
  | nil => exact .nil
  | cons e es =>
    rw [visitsFrom, List.map_append]
    refine (FlowElement.nodup_places owner i e).append
      (nodup_places_visitsFrom owner (i + 1) es) fun place hplace hplace' => ?_
    obtain ⟨v, hv, rfl⟩ := List.mem_map.mp hplace
    obtain ⟨w, hw, heq⟩ := List.mem_map.mp hplace'
    obtain ⟨k, hle, -, hk⟩ := exists_index_of_mem_visitsFrom hw
    rw [heq] at hk
    have := Place.index_eq (FlowElement.suffix_of_mem_visits hv) hk
    omega

end

theorem Owner.nodup_descendants (owner : Owner) : (owner.descendants.map (·.place)).Nodup := by
  rw [descendants_eq, List.map_map]
  exact nodup_places_visitsFrom owner 0 owner.elements

/-! ## The first one of an id -/

/-- An element is the first one of an id among others. -/
def Placed.IsFirst (p : Placed) (id : Option String) (ps : List Placed) : Prop :=
  p.element.id = id ∧
    ∃ before after, ps = before ++ p :: after ∧ ∀ q ∈ before, q.element.id ≠ id

theorem find?_eq_some_iff_isFirst {ps : List Placed} {id : Option String} {p : Placed} :
    ps.find? (·.element.id == id) = some p ↔ p.IsFirst id ps := by
  simp only [List.find?_eq_some_iff_append, Placed.IsFirst, beq_iff_eq, Bool.not_eq_true',
    beq_eq_false_iff_ne]

namespace Definitions

/-- The flow elements of a document where they stand, process by process. -/
def descendants (d : Definitions) (place : Place) : List Placed :=
  (d.owners place).flatMap (·.descendants)

theorem map_element_descendants (d : Definitions) (place : Place) :
    (d.descendants place).map (·.element) = d.flowElements := by
  have elements := congrArg (·.flatMap preorder) (d.map_elements_owners place)
  simp only [List.flatMap_map] at elements
  rw [descendants, List.map_flatMap, flowElements]
  simpa only [Owner.map_element_descendants] using elements

theorem find?_eq_find?_descendants (d : Definitions) (place : Place) (id : Option String) :
    d.find? place id = (d.descendants place).find? (·.element.id == id) :=
  List.find?_flatMap.symm

end Definitions

/-- The tag of a subprocess is the only one of an element that owns flow elements. -/
theorem FlowElement.isContainer_iff {e : FlowElement} :
    e.kind.isContainer = true ↔ ∃ node es triggered, e = .subProcess node es triggered := by
  cases e with
  | leaf l => simp [FlowElement.kind, l.kind_isContainer]
  | subProcess node es triggered => exact iff_of_true rfl ⟨_, _, _, rfl⟩

/-! ## The traversals agree -/

/-- Of every container, the loop that yields flow elements yields the preorder, each place once;
the walk visits the same elements in the same order, each inside its owner, and counts them, though
one descends by what an element is and the other by its tag. The look-up of an id, also of none, in
a container or a document gives the first element of these that has it, and nothing exactly if none
has it. -/
theorem Run.traversals_agree (run : Run) (owner : Owner) (d : Definitions) (place : Place)
    (id : Option String) :
    owner.descendants.map (·.element) = preorder owner.elements ∧
      (owner.descendants.map (·.place)).Nodup ∧
      owner.visits.map (·.placed) = owner.descendants ∧
      (∀ v ∈ owner.visits, v.placed ∈ v.owner.children) ∧
      run.walk owner =
        (owner.descendants.length,
          (owner.visits.foldl Run.visit run).tell owner.walkRecord) ∧
      (∀ e : FlowElement, e.kind.isContainer = true ↔
        ∃ node es triggered, e = .subProcess node es triggered) ∧
      (∀ p, owner.find? id = some p ↔ p.IsFirst id owner.descendants) ∧
      (owner.find? id = none ↔ ∀ e ∈ preorder owner.elements, e.id ≠ id) ∧
      (d.descendants place).map (·.element) =
        d.processes.flatMap (fun process => preorder process.flowElements) ∧
      (∀ p, d.find? place id = some p ↔ p.IsFirst id (d.descendants place)) ∧
      (d.find? place id = none ↔
        ∀ process ∈ d.processes, ∀ e ∈ preorder process.flowElements, e.id ≠ id) := by
  refine ⟨owner.map_element_descendants, owner.nodup_descendants, owner.descendants_eq.symm,
    fun v hv => (Owner.mem_visits_iff.mp hv).mem_children, ?_,
    fun e => FlowElement.isContainer_iff, fun p => find?_eq_some_iff_isFirst,
    Owner.find?_eq_none_iff, d.map_element_descendants place, fun p => ?_, ?_⟩
  · rw [walk_eq, owner.descendants_eq, List.length_map]
  · rw [d.find?_eq_find?_descendants, find?_eq_some_iff_isFirst]
  · rw [Definitions.find?_eq_none_iff]
    simp only [Definitions.flowElements, List.mem_flatMap, forall_exists_index, and_imp]
    exact ⟨fun h p hp e he => h e p hp he, fun h e p hp he => h p hp e he⟩

/-- A subprocess without id, around a task. -/
def FlowElement.aroundTask : FlowElement :=
  .subProcess {} [.leaf (.task { id := some "a" })] false

/-- A process with this subprocess, and then another one with the id of the task. -/
def Process.sharedId : Process where
  id := some "p"
  flowElements := [.aroundTask, .subProcess { id := some "a" } [.leaf (.task {})] false]

/-- The task is found by its id, being before the second subprocess, and the first subprocess as
the first element without id. -/
theorem Run.traversals_agree_sharedId :
    let owner := Process.sharedId.owner [1, 0]
    let d : Definitions := { rootElements := [.message {}, .process .sharedId] }
    (({} : Run).walk owner).1 = 4 ∧
      owner.find? (some "a") = some ⟨[0, 0, 1, 0], .leaf (.task { id := some "a" })⟩ ∧
      owner.find? none = some ⟨[0, 1, 0], .aroundTask⟩ ∧
      d.find? [0] (some "b") = none := by
  intro owner d
  obtain ⟨-, -, visits, -, walk, -, found, -⟩ :=
    ({} : Run).traversals_agree owner d [0] (some "a")
  obtain ⟨-, -, -, -, -, -, foundNone, -⟩ := ({} : Run).traversals_agree owner d [0] none
  obtain ⟨-, -, -, -, -, -, -, -, -, -, missing⟩ :=
    ({} : Run).traversals_agree owner d [0] (some "b")
  have places : owner.descendants =
      [⟨[0, 1, 0], .aroundTask⟩, ⟨[0, 0, 1, 0], .leaf (.task { id := some "a" })⟩,
        ⟨[1, 1, 0], .subProcess { id := some "a" } [.leaf (.task {})] false⟩,
        ⟨[0, 1, 1, 0], .leaf (.task {})⟩] := visits.symm
  refine ⟨?_, (found _).mpr ⟨rfl, [_], _, places, ?_⟩,
    (foundNone _).mpr ⟨rfl, [], _, places, nofun⟩, missing.mpr (by decide)⟩
  · rw [walk, places]
    rfl
  · exact List.forall_mem_singleton.mpr (by decide)

end BpmnAudit
