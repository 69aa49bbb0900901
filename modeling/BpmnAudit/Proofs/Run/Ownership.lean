import BpmnAudit.Proofs.Run.Records
import BpmnAudit.Proofs.Run.Single
import BpmnAudit.Proofs.Tree.Owners

/-!
# Owners of flow elements

The look-up of the container of a flow element goes by where the element stands, not by what it
is: it finds the process or subprocess that itself owns the place, and nothing for an element that
is not part of the document, be it equal to one that is. So a batch of a flow element that was
looked up by its id always walks through its owner (`Definitions.owner_by_place`).
-/

namespace BpmnAudit

/-- The record of a batch for a flow element of which no container was found. -/
def Located.ownerlessRecord (l : Located) : LogRecord :=
  ⟨.debug, .validator, "No flow elements container found for " ++ shownId l.element.id⟩

/-- A request asks for a batch of a flow element, with a document to look its owner up in. -/
structure Request.AsksIn (request : Request) (settings : Settings) (l : Located) (n : Nat)
    (d : Definitions) : Prop where
  root : request.root.content = .element l
  container : request.container.isNothing = true
  definitions : request.definitions = .plain (.element ⟨[n], .definitions d⟩)
  mode : request.mode? settings = some .batch

/-- An element is a process or a subprocess. -/
def Element.IsContainer (c : Element) : Prop :=
  (∃ p, c = .root (.process p)) ∨ ∃ node es triggered, c = .flow (.subProcess node es triggered)

theorem Element.isContainer_of_kind? {c : Element} (h : c.kind?.any (·.isContainer) = true)
    (hes : c.flowElements?.isSome = true) : c.IsContainer := by
  cases c with
  | root r =>
    cases r with
    | process p => exact Or.inl ⟨p, rfl⟩
    | _ => cases hes
  | flow e =>
    cases e with
    | leaf l => cases hes
    | subProcess node es triggered => exact Or.inr ⟨node, es, triggered, rfl⟩
  | outline o =>
    cases o with
    | container base es => cases h
    | _ => cases hes
  | definitions | eventDefinition | expression => cases hes

variable {documents : Documents} {n : Nat} {d : Definitions}

/-- The owner of something that is met is a process or a subprocess of the document. -/
theorem Definitions.Meets.exists_container (hd : documents n = some (.definitions d)) {v : Visit}
    (h : d.Meets n v) :
    ∃ c : Element, c.IsContainer ∧ documents.at? v.owner.place = some c ∧
      (⟨v.owner.place, c⟩ : Located).owner? = some v.owner := by
  obtain ⟨c, hc, howner⟩ := (h.isIn hd).1
  obtain ⟨i, p, -, met⟩ := h
  have tagged : v.owner.kind?.any (·.isContainer) = true := met.isTagged rfl
  obtain ⟨hes, -, -, hkind⟩ := Located.owner?_eq_some howner
  rw [hkind] at tagged
  exact ⟨c, Element.isContainer_of_kind? tagged (hes ▸ rfl), hc, howner⟩

theorem Request.AsksIn.owner_eq {request : Request} {settings : Settings} {v : Visit}
    (h : request.AsksIn settings v.placed.located n d) (met : d.Meets n v) :
    request.owner v.placed.located = .ok (some v.owner) := by
  obtain ⟨i, p, hp, hv⟩ := met
  exact Request.owner_eq hp hv h.container h.definitions

theorem Owner.ownerlessRecord_not_mem (settings : Settings) (adHoc : Bool) (owner : Owner)
    (l : Located) : l.ownerlessRecord ∉ owner.records settings adHoc := by
  intro h
  rcases List.mem_append.mp h with h | h
  · obtain ⟨v, -, hv⟩ := List.mem_flatMap.mp h
    rcases Visit.source_of_mem_records hv with h | h <;> cases h
  · cases congrArg LogRecord.source (List.mem_singleton.mp h)

theorem Request.firstRecord_ne_ownerlessRecord (request : Request) (l : Located) :
    l.ownerlessRecord ≠ request.firstRecord := by
  intro h
  have first := congrArg (·.message.toList.head?) h
  simp [Located.ownerlessRecord, firstRecord] at first

/-- A batch of a flow element that is met walks through its owner: it reports what the walk finds,
and tells of the walk, not of a missing container. -/
theorem Request.AsksIn.answer {request : Request} {settings : Settings} {v : Visit}
    (h : request.AsksIn settings v.placed.located n d) (met : d.Meets n v) :
    (settings.answer request).outcome =
        .ok (.ofDiagnostics (v.owner.findings settings false)) ∧
      v.owner.walkRecord ∈ (settings.answer request).records ∧
      v.placed.located.ownerlessRecord ∉ (settings.answer request).records := by
  have hin : v.owner.IsIn fun _ => some (.definitions d) := (met.isIn rfl).1
  have records := Settings.records_answer_element h.root rfl h.mode (h.owner_eq met) hin
  refine ⟨Settings.outcome_element h.root rfl h.mode (h.owner_eq met) hin, ?_, ?_⟩
  · rw [records]
    simp [Owner.records]
  · rw [records]
    simp only [List.cons_append, List.mem_cons, List.mem_append, List.not_mem_nil, or_false,
      not_or]
    refine ⟨request.firstRecord_ne_ownerlessRecord _, Owner.ownerlessRecord_not_mem _ _ _ _, ?_⟩
    exact fun h => by cases congrArg LogRecord.severity h

/-- Of every flow element of a document, wherever it stands, the look-up finds the process or
subprocess that itself owns its place, and nothing for what is not a flow element of the document.
So the owner of an element that is found by its id is found too, and a batch of the element, given
the document, walks through the owner. -/
theorem Definitions.owner_by_place (hd : documents n = some (.definitions d)) :
    (∀ i outer e, documents.at? (i :: outer) = some (.flow e) →
      (i :: outer).getLast? = some n →
      ∃ (c : Element) (owner : Owner), c.IsContainer ∧ documents.at? outer = some c ∧
        (⟨outer, c⟩ : Located).owner? = some owner ∧ owner.elements[i]? = some e ∧
        d.containerOf? [n] (i :: outer) = some owner) ∧
    (∀ place, (∀ e, documents.at? place = some (.flow e) → place.getLast? ≠ some n) →
      d.containerOf? [n] place = none) ∧
    ∀ id p, d.find? [n] id = some p →
      ∃ (c : Element) (owner : Owner), c.IsContainer ∧ documents.at? owner.place = some c ∧
        (⟨owner.place, c⟩ : Located).owner? = some owner ∧
        d.containerOf? [n] p.place = some owner ∧
        ∀ (settings : Settings) (request : Request), request.AsksIn settings p.located n d →
          (settings.answer request).outcome =
              .ok (.ofDiagnostics (owner.findings settings false)) ∧
            owner.walkRecord ∈ (settings.answer request).records ∧
            p.located.ownerlessRecord ∉ (settings.answer request).records := by
  refine ⟨fun i outer e he hlast => ?_, fun place h => containerOf?_eq_none hd h,
    fun id p hp => ?_⟩
  · obtain ⟨v, met, placed⟩ := (Documents.at?_eq_flow_iff hd).mp ⟨he, hlast⟩
    obtain ⟨c, hc, hat, howner⟩ := met.exists_container hd
    obtain ⟨j, e', hj, hplaced⟩ := Owner.mem_children.mp met.mem_children
    rw [placed, Owner.placed, Placed.mk.injEq, List.cons.injEq] at hplaced
    obtain ⟨⟨rfl, rfl⟩, rfl⟩ := hplaced
    exact ⟨c, v.owner, hc, hat, howner, hj, (containerOf?_eq_some_iff hd).mpr
      ⟨v, met, rfl, congrArg Placed.place placed⟩⟩
  · obtain ⟨i, q, v, hi, hv, rfl⟩ := Definitions.meets_of_find? hp
    have met : d.Meets n v := ⟨i, q, hi, hv⟩
    obtain ⟨c, hc, hat, howner⟩ := met.exists_container hd
    exact ⟨c, v.owner, hc, hat, howner, (containerOf?_eq_some_iff hd).mpr ⟨v, met, rfl, rfl⟩,
      fun settings request h => h.answer met⟩

/-- A task. -/
def FlowElement.twin : FlowElement := .leaf (.task { id := some "t" })

/-- A process with two such tasks, one of them in a subprocess. -/
def Process.twins : Process where
  id := some "p"
  flowElements := [.subProcess { id := some "s" } [.twin] false, .twin]

/-- A document in which this process stands twice. -/
def Definitions.twins : Definitions where
  rootElements := [.process .twins, .process .twins]

/-- Of two documents at hand, both as above, the owners of equal tasks in the first one; a batch of
the task that its id gives walks through the subprocess around it. -/
theorem Definitions.owner_by_place_twins :
    let d : Definitions := .twins
    let request : Request :=
      { root := .plain (.element ⟨[0, 0, 0, 0], .flow .twin⟩)
        definitions := .plain (.element ⟨[0], .definitions d⟩) }
    d.containerOf? [0] [0, 0, 1, 0] =
        some ⟨[0, 1, 0], some (.flow .subProcess), some "s", [.twin]⟩ ∧
      d.containerOf? [0] [1, 1, 0] = some (Process.twins.owner [1, 0]) ∧
      d.containerOf? [0] [0, 0, 1, 1] = none ∧
      d.find? [0] (some "t") = some ⟨[0, 0, 0, 0], .twin⟩ ∧
      ⟨.debug, .walk, "Walked container s: 1 elements, depth 1"⟩ ∈
        (Settings.answer {} request).records := by
  intro d request
  let documents : Documents := fun m => if m < 2 then some (.definitions d) else none
  have hd : documents 0 = some (.definitions d) := rfl
  obtain ⟨owned, strange, found⟩ := owner_by_place hd
  have first : d.find? [0] (some "t") = some ⟨[0, 0, 0, 0], .twin⟩ := by cbv
  refine ⟨?_, ?_, strange _ fun e _ => by decide, first, ?_⟩
  · obtain ⟨c, owner, -, hc, howner, -, look⟩ := owned 0 [0, 1, 0] .twin rfl rfl
    cases hc
    cases howner
    exact look
  · obtain ⟨c, owner, -, hc, howner, -, look⟩ := owned 1 [1, 0] .twin rfl rfl
    cases hc
    cases howner
    exact look
  · obtain ⟨-, owner, -, -, -, look, walks⟩ := found _ _ first
    obtain ⟨c, subProcess, -, hc, howner, -, look'⟩ := owned 0 [0, 0, 0] .twin rfl rfl
    cases hc
    cases howner
    obtain rfl := Option.some.inj (look.symm.trans look')
    have record : Owner.walkRecord ⟨[0, 0, 0], some (.flow .subProcess), some "s", [.twin]⟩ =
        ⟨.debug, .walk, "Walked container s: 1 elements, depth 1"⟩ := by decide
    exact record ▸ (walks {} request ⟨rfl, rfl, rfl, rfl⟩).2.1

end BpmnAudit
