import BpmnAudit.Proofs.Run.Probabilities

/-!
# Looking up sequence flows

The look-up of a sequence flow in a run keeps an index of every container that it was asked in. The
indexes do not show: whatever was entered, walked through and looked up before, the answer is the
one of the container that the run stands in, searched anew. It is the last sequence flow of the id
among the elements that the container itself owns, and so no flow of any other container
(`Run.Reachable.resolveFlow_eq_ok`).
-/

namespace BpmnAudit

/-! ## The last sequence flow of an id -/

theorem FlowElement.flowId?_eq_some_iff {e : FlowElement} {id : String} :
    e.flowId? = some id ↔ ∃ f, e = .leaf (.sequenceFlow f) ∧ f.id = some id := by
  constructor
  · intro h
    obtain ⟨f, hf, hid⟩ := Option.bind_eq_some_iff.mp h
    cases e with
    | leaf l => cases l <;> cases hf; exact ⟨f, rfl, hid⟩
    | subProcess => cases hf
  · rintro ⟨f, rfl, hid⟩
    exact hid

/-- A sequence flow is the last one of an id among elements. -/
def Placed.IsLastFlow (p : Placed) (id : String) (ps : List Placed) : Prop :=
  p.element.flowId? = some id ∧
    ∃ before after, ps = before ++ p :: after ∧ ∀ q ∈ after, q.element.flowId? ≠ some id

theorem find?_reverse_eq_some_iff_isLastFlow {ps : List Placed} {id : String} {p : Placed} :
    ps.reverse.find? (·.element.flowId? == some id) = some p ↔ p.IsLastFlow id ps := by
  simp only [List.find?_eq_some_iff_append, Placed.IsLastFlow, beq_iff_eq, Bool.not_eq_true',
    beq_eq_false_iff_ne]
  refine and_congr_right fun _ => ?_
  constructor
  · rintro ⟨after, before, cut, others⟩
    refine ⟨before.reverse, after.reverse, ?_, fun q hq => others q (List.mem_reverse.mp hq)⟩
    rw [← List.reverse_reverse ps, cut, List.reverse_append, List.reverse_cons,
      List.append_assoc, List.singleton_append]
  · rintro ⟨before, after, rfl, others⟩
    refine ⟨after.reverse, before.reverse, ?_, fun q hq => others q (List.mem_reverse.mp hq)⟩
    rw [List.reverse_append, List.reverse_cons, List.append_assoc, List.singleton_append]

theorem Placed.IsLastFlow.mem {p : Placed} {id : String} {ps : List Placed}
    (h : p.IsLastFlow id ps) : p ∈ ps := by
  obtain ⟨-, before, after, rfl, -⟩ := h
  exact List.mem_append_right _ List.mem_cons_self

theorem Surroundings.flow?_owner_eq_some_iff {owner : Owner} {id : String} {p : Placed} :
    (Surroundings.owner owner).flow? id = some p ↔ p.IsLastFlow id owner.children := by
  rw [flow?_eq_namedFlow?]
  exact find?_reverse_eq_some_iff_isLastFlow

theorem Surroundings.flow?_owner_eq_none_iff {owner : Owner} {id : String} :
    (Surroundings.owner owner).flow? id = none ↔
      ∀ q ∈ owner.children, q.element.flowId? ≠ some id := by
  rw [flow?_eq_namedFlow?]
  show owner.children.reverse.find? _ = none ↔ _
  simp only [List.find?_eq_none, List.mem_reverse, beq_iff_eq]

/-! ## One container for each place -/

/-- No element is right inside of two containers. -/
theorem Owner.IsIn.eq_of_mem_children {documents : Documents} {a b : Owner}
    (ha : a.IsIn documents) (hb : b.IsIn documents) {p : Placed} (hpa : p ∈ a.children)
    (hpb : p ∈ b.children) : a = b := by
  obtain ⟨i, e, -, rfl⟩ := Owner.mem_children.mp hpa
  obtain ⟨j, e', -, same⟩ := Owner.mem_children.mp hpb
  have places : i :: a.place = j :: b.place := congrArg Placed.place same
  exact ha.unique hb (List.cons.inj places).2

/-! ## Look-ups in a run -/

namespace Run

variable {documents : Documents} {run : Run}

theorem keepIndex_eq (run : Run) :
    run.keepIndex = { run with flowIndexes := run.keepIndex.flowIndexes } := by
  unfold keepIndex
  split
  · rfl
  · split <;> rfl

theorem Sound.flow?_eq (h : run.Sound documents) : run.flow? = run.container.flow? :=
  congrArg Scope.flow? h.scope_eq

/-- After whatever was done with a run, a look-up in it answers as if the container that it stands
in were searched anew, and changes nothing but the indexes kept. Where nothing is around, there is
no answer; in a container, the answer is the last sequence flow of the id among the elements that
the container itself owns, and none if none of them is a sequence flow of the id. So what is found
is a sequence flow of this id, and right inside of no other container. -/
theorem Reachable.resolveFlow_eq_ok (h : run.Reachable documents)
    (hn : run.container.noFlows = none) (id : String) :
    ∃ found after, run.resolveFlow id = .ok (found, after) ∧
      (∃ flowIndexes, after = { run with flowIndexes }) ∧
      found = run.container.flow? id ∧
      (run.container = .unknown → found = none) ∧
      ∀ owner, run.container = .owner owner →
        (∀ p, found = some p ↔ p.IsLastFlow id owner.children) ∧
        (found = none ↔ ∀ q ∈ owner.children, q.element.flowId? ≠ some id) ∧
        ∀ p, found = some p →
          (∃ f, p.element = .leaf (.sequenceFlow f) ∧ f.id = some id) ∧
          ∀ other : Owner, other.IsIn documents → p ∈ other.children → other = owner := by
  have looked : run.keepIndex.flow? id = run.container.flow? id := by
    rw [h.sound.keepIndex.flow?_eq, container_keepIndex]
  refine ⟨run.container.flow? id, run.keepIndex, ?_, ⟨_, run.keepIndex_eq⟩, rfl, ?_, ?_⟩
  · unfold resolveFlow
    rw [hn, ← looked]
  · intro nowhere
    rw [nowhere]
    rfl
  · intro owner inside
    rw [inside]
    refine ⟨fun p => Surroundings.flow?_owner_eq_some_iff, Surroundings.flow?_owner_eq_none_iff,
      fun p found => ?_⟩
    have last := Surroundings.flow?_owner_eq_some_iff.mp found
    have here : owner.IsIn documents := h.sound.container owner (by rw [inside]; rfl)
    exact ⟨FlowElement.flowId?_eq_some_iff.mp last.1,
      fun other there hp => there.eq_of_mem_children here hp last.mem⟩

end Run

/-- A process with two sequence flows and a task of one id, and then a subprocess that owns a flow
of this id as well. -/
def Process.echoing : Process where
  flowElements :=
    [.leaf (.sequenceFlow { id := some "f" }), .leaf (.sequenceFlow { id := some "f" }),
      .leaf (.task { id := some "f" }),
      .subProcess {} [.leaf (.sequenceFlow { id := some "f" })] false]

/-- The flow is looked up in the process, and again after a walk, which ends in the subprocess. -/
theorem Run.Reachable.resolveFlow_echoing :
    let process : Located := ⟨[0], .root (.process .echoing)⟩
    let before := (({} : Run).perform (.enterContainer (some process))).perform (.resolveFlow "f")
    let after := before.perform (.walk process)
    let flow (place : Place) : Placed := ⟨place, .leaf (.sequenceFlow { id := some "f" })⟩
    (∃ next, before.resolveFlow "f" = .ok (some (flow [1, 0]), next)) ∧
      ∃ next, after.resolveFlow "f" = .ok (some (flow [0, 3, 0]), next) := by
  intro process before after flow
  have here : process.IsIn fun _ => some (.root (.process .echoing)) := rfl
  have started : (({} : Run).perform (.enterContainer (some process))).Reachable
      fun _ => some (.root (.process .echoing)) :=
    .perform (.start {}) _ (List.forall_mem_singleton.mpr here)
  have entered : before.Reachable fun _ => some (.root (.process .echoing)) :=
    .perform started (.resolveFlow "f") (List.forall_mem_nil _)
  have walked : after.Reachable fun _ => some (.root (.process .echoing)) :=
    .perform entered (.walk process) (List.forall_mem_singleton.mpr here)
  have inside : after.container = .owner (.ofPlaced
      ⟨[3, 0], .subProcess {} [.leaf (.sequenceFlow { id := some "f" })] false⟩) := by
    show (before.walk (Process.echoing.owner [0])).2.container = _
    rw [walk_eq, container_tell, container_visits]
    rfl
  constructor
  · obtain ⟨found, next, answer, -, -, -, inProcess⟩ := entered.resolveFlow_eq_ok rfl "f"
    obtain ⟨last, -⟩ := inProcess _ rfl
    rw [answer, (last (flow [1, 0])).mpr ⟨rfl, [_], [_, _], rfl, by decide⟩]
    exact ⟨next, rfl⟩
  · obtain ⟨found, next, answer, -, -, -, inSubProcess⟩ :=
      walked.resolveFlow_eq_ok (by rw [inside]; rfl) "f"
    obtain ⟨last, -⟩ := inSubProcess _ inside
    rw [answer, (last (flow [0, 3, 0])).mpr ⟨rfl, [], [], rfl, by decide⟩]
    exact ⟨next, rfl⟩

end BpmnAudit
