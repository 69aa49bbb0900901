import BpmnAudit.Proofs.Run.Independence
import BpmnAudit.Proofs.Run.Records
import BpmnAudit.Proofs.Tree.Reordered

/-!
# Audits and order

The order of root elements and of flow elements has no influence on what an audit finds, but for
the order in which it finds it: documents that differ in order alone have the same findings, told of
elements of the same ids and types, and their walks visit as many elements
(`Settings.outcome_reordered`).

At a single element the rules read nothing of other elements but the last sequence flow of an id,
and of what the element owns they read nothing (`Visit.sayings_eq`). So the findings of a container
are put together from parts that each belong to one element, whatever its index
(`sayings_visitsFrom_perm`).
-/

namespace BpmnAudit

/-- What a diagnostic says: its level, its wording, and the id and type of its element. -/
def Diagnostic.saying (x : Diagnostic) : Level × String × Option String × Option String :=
  (x.level, x.message, x.elementId, x.elementType)

theorem Diagnostic.Corresponds.saying_eq {R : Placed → Placed → Prop} {x x' : Diagnostic}
    (hR : ∀ p p', R p p' →
      p.element.id = p'.element.id ∧ p.element.kind = p'.element.kind)
    (h : x.Corresponds R x') : x.saying = x'.saying := by
  cases h with
  | whole level problem => rfl
  | element level problem h =>
    obtain ⟨id, kind⟩ := hR _ _ h
    have same : ∀ {p p' : Placed}, p.element.id = p'.element.id →
        p.element.kind = p'.element.kind →
        Diagnostic.saying ⟨level, problem, some p.located⟩ =
          Diagnostic.saying ⟨level, problem, some p'.located⟩ := by
      intro p p' id kind
      have type : p.located.element.typeTag = p'.located.element.typeTag :=
        congrArg (fun kind => some (ElementKind.flow kind).tag) kind
      have id : p.located.element.id = p'.located.element.id := id
      simp [saying, message, elementId, elementType, id, type]
    exact same id kind

/-! ## Visits -/

/-- What the findings at a visit say. -/
def Visit.sayings (settings : Settings) (adHoc : Bool) (v : Visit) :
    List (Level × String × Option String × Option String) :=
  (v.findings settings adHoc).map Diagnostic.saying

/-- No rule looks into what an element owns. -/
theorem FlowElement.Reordered.alike (strict : Bool) {e e' : FlowElement} (h : e.Reordered e') :
    e.Alike strict e' := by
  cases h with
  | leaf l => exact .refl strict _
  | subProcess node triggered inside order =>
    exact ⟨rfl, fun adHoc rule _ => by cases rule <;> rfl, rfl, rfl, nofun⟩

/-- Where two containers have the same last sequence flow of an id, both find it or neither. -/
theorem Surroundings.rel_flow? {R : Placed → Placed → Prop}
    (hR : ∀ p p', p.element = p'.element → R p p') {owner owner' : Owner} {id : String}
    (h : lastFlow? owner.elements id = lastFlow? owner'.elements id) :
    Option.Rel (fun p p' => R p p' ∧ p.element.flowId? = some id)
      ((Surroundings.owner owner).flow? id) ((Surroundings.owner owner').flow? id) := by
  rw [← map_element_flow?, ← map_element_flow?] at h
  have last := map_element_flow? owner id
  generalize (Surroundings.owner owner).flow? id = flow at h last ⊢
  generalize (Surroundings.owner owner').flow? id = flow' at h ⊢
  cases flow with
  | none =>
    rw [Option.map_eq_none_iff.mp h.symm]
    exact .none
  | some p =>
    obtain ⟨p', rfl, same⟩ := Option.map_eq_some_iff.mp h.symm
    exact .some ⟨hR _ _ same.symm, flowId?_of_lastFlow? last.symm⟩

/-- The findings at two visits say the same, if the rules cannot tell the elements apart and their
owners have the same last sequence flow of each id. -/
theorem Visit.sayings_eq {settings : Settings} {adHoc : Bool} {v v' : Visit}
    (alike : v.placed.element.Alike settings.strictSimulation v'.placed.element)
    (id : v.placed.element.id = v'.placed.element.id)
    (flows : ∀ id, lastFlow? v.owner.elements id = lastFlow? v'.owner.elements id) :
    v.sayings settings adHoc = v'.sayings settings adHoc := by
  let R : Placed → Placed → Prop := fun p p' =>
    p.element.Alike settings.strictSimulation p'.element ∧ p.element.id = p'.element.id
  have same : ∀ p p' : Placed, p.element = p'.element → R p p' :=
    fun p p' h => ⟨h ▸ .refl _ _, congrArg FlowElement.id h⟩
  have matching : v.Matches R v' :=
    ⟨⟨alike, id⟩, fun id => Surroundings.rel_flow? same (flows id)⟩
  exact map_eq_map_of_forall₂ (fun x x' h => h.saying_eq fun p p' hp => ⟨hp.2, hp.1.kind⟩)
    (Visit.findings_corresponds (R := R) (fun hp => hp.1) rfl matching)

/-! ## Containers -/

section Containers

variable {settings : Settings} {adHoc : Bool}

mutual

theorem FlowElement.sayings_visits_eq {owner owner' : Owner}
    (h : owner.elements = owner'.elements) (i i' : Nat) (e : FlowElement) :
    (e.visits owner i).flatMap (·.sayings settings adHoc) =
      (e.visits owner' i').flatMap (·.sayings settings adHoc) := by
  have first : (⟨owner, owner.placed i e⟩ : Visit).sayings settings adHoc =
      (⟨owner', owner'.placed i' e⟩ : Visit).sayings settings adHoc :=
    Visit.sayings_eq (.refl _ e) rfl fun id => by rw [h]
  cases e with
  | leaf l => simp only [FlowElement.visits, List.flatMap_cons, List.flatMap_nil, first]
  | subProcess node es triggered =>
    rw [FlowElement.visits, FlowElement.visits, List.flatMap_cons, List.flatMap_cons, first]
    refine congrArg (_ ++ ·) (sayings_visitsFrom_eq ?_ 0 0 es)
    rfl

theorem sayings_visitsFrom_eq {owner owner' : Owner} (h : owner.elements = owner'.elements)
    (i i' : Nat) (es : List FlowElement) :
    (visitsFrom owner i es).flatMap (·.sayings settings adHoc) =
      (visitsFrom owner' i' es).flatMap (·.sayings settings adHoc) := by
  cases es with
  | nil => rfl
  | cons e es =>
    rw [visitsFrom, visitsFrom, List.flatMap_append, List.flatMap_append,
      FlowElement.sayings_visits_eq h i i' e, sayings_visitsFrom_eq h (i + 1) (i' + 1) es]

end

theorem sayings_visitsFrom (owner : Owner) (i : Nat) (es : List FlowElement) :
    (visitsFrom owner i es).flatMap (·.sayings settings adHoc) =
      es.flatMap fun e => (e.visits owner 0).flatMap (·.sayings settings adHoc) := by
  induction es generalizing i with
  | nil => rfl
  | cons e es ih =>
    rw [visitsFrom, List.flatMap_append, List.flatMap_cons, ih,
      FlowElement.sayings_visits_eq rfl i 0 e]

theorem sayings_visitsFrom_perm (owner : Owner) {es es' : List FlowElement} (h : es.Perm es')
    (i i' : Nat) :
    ((visitsFrom owner i es).flatMap (·.sayings settings adHoc)).Perm
      ((visitsFrom owner i' es').flatMap (·.sayings settings adHoc)) := by
  rw [sayings_visitsFrom, sayings_visitsFrom]
  exact h.flatMap_right _

mutual

theorem FlowElement.Reordered.sayings_visits {owner owner' : Owner}
    (flows : ∀ id, lastFlow? owner.elements id = lastFlow? owner'.elements id) (i i' : Nat)
    {e e' : FlowElement} (h : e.Reordered e') :
    ((e.visits owner i).flatMap (·.sayings settings adHoc)).Perm
      ((e'.visits owner' i').flatMap (·.sayings settings adHoc)) := by
  have first : (⟨owner, owner.placed i e⟩ : Visit).sayings settings adHoc =
      (⟨owner', owner'.placed i' e'⟩ : Visit).sayings settings adHoc :=
    Visit.sayings_eq (h.alike _) h.id flows
  match e, h with
  | _, .leaf l => simp only [FlowElement.visits, List.flatMap_cons, List.flatMap_nil, first]; rfl
  | .subProcess _ es _, .subProcess node triggered inside order =>
    rw [FlowElement.visits, FlowElement.visits, List.flatMap_cons, List.flatMap_cons, first]
    refine List.Perm.append_left _ (.trans ?_ (sayings_visitsFrom_perm _ order.perm 0 0))
    exact sayings_visitsFrom_reordered (lastFlow?_of_reorders ⟨_, inside, order⟩) 0 0 inside

theorem sayings_visitsFrom_reordered {owner owner' : Owner}
    (flows : ∀ id, lastFlow? owner.elements id = lastFlow? owner'.elements id) (i i' : Nat)
    {es mid : List FlowElement} (h : List.Forall₂ FlowElement.Reordered es mid) :
    ((visitsFrom owner i es).flatMap (·.sayings settings adHoc)).Perm
      ((visitsFrom owner' i' mid).flatMap (·.sayings settings adHoc)) := by
  match es, h with
  | [], .nil => exact .nil
  | e :: es, .cons first rest =>
    rw [visitsFrom, visitsFrom, List.flatMap_append, List.flatMap_append]
    exact (first.sayings_visits flows i i').append
      (sayings_visitsFrom_reordered flows (i + 1) (i' + 1) rest)

end

/-- The findings of two containers say the same in some order, if their elements are the same in
another order. -/
theorem Owner.sayings_perm {owner owner' : Owner} (h : Reorders owner.elements owner'.elements) :
    ((owner.findings settings adHoc).map Diagnostic.saying).Perm
      ((owner'.findings settings adHoc).map Diagnostic.saying) := by
  have flows := lastFlow?_of_reorders h
  obtain ⟨mid, inside, order⟩ := h
  unfold Owner.findings
  rw [List.map_flatMap, List.map_flatMap]
  exact (sayings_visitsFrom_reordered flows 0 0 inside).trans
    (sayings_visitsFrom_perm owner' order.perm 0 0)

end Containers

/-! ## Processes -/

namespace Process.Reordered

variable {p p' : Process}

theorem isAdHoc (h : p.Reordered p') : p.isAdHoc = p'.isAdHoc := by
  rw [h.others]
  rfl

/-- With a process as a whole the rules find the same: which kinds there are among its elements
does not depend on their order. -/
theorem ownFindings (h : p.Reordered p') : p.ownFindings = p'.ownFindings := by
  have kinds := any_kind_of_reorders h.elements
  have problems : ∀ rule : ProcessRule,
      rule.problems (.root (.process p)) = rule.problems (.root (.process p')) := by
    intro rule
    have adHoc : (Element.root (.process p)).isAdHoc = (Element.root (.process p')).isAdHoc :=
      h.isAdHoc
    cases rule with
    | startEnd =>
      simp only [ProcessRule.problems, Element.flowElements?, Element.judge, kinds, adHoc]
    | _ =>
      rw [h.others]
      rfl
  unfold Process.ownFindings ProcessRule.findings ProcessRule.remarks
  simp only [problems]

theorem sayings_perm (h : p.Reordered p') (settings : Settings) (place place' : Place) :
    ((p.findings settings place).map Diagnostic.saying).Perm
      ((p'.findings settings place').map Diagnostic.saying) := by
  unfold findings
  rw [List.map_append, List.map_append, h.ownFindings, h.isAdHoc]
  exact List.Perm.append_left _ (Owner.sayings_perm h.elements)

theorem records_eq (h : p.Reordered p') (place : Place) :
    (p.owner place).walkRecord = (p'.owner place).walkRecord ∧ p.auditRecord = p'.auditRecord := by
  have id : p.id = p'.id := by rw [h.others]
  obtain ⟨length, height⟩ := h.elements.sizes
  simp only [Owner.walkRecord, auditRecord, owner, id, length, height, and_self]

end Process.Reordered

/-! ## Documents -/

/-- What belongs to each process is the same in some order in both documents, if it is so in
processes that differ in order alone. -/
theorem Definitions.Reordered.flatMap_processes {α : Type} {f : Process → List α}
    {d d' : Definitions} (h : d.Reordered d')
    (hf : ∀ p p' : Process, p.Reordered p' → (f p).Perm (f p')) :
    (d.processes.flatMap f).Perm (d'.processes.flatMap f) := by
  obtain ⟨mid, inside, order⟩ := h.elements
  have moved : (mid.filterMap (·.process?)).Perm d'.processes := order.filterMap _
  refine List.Perm.trans ?_ (moved.flatMap_right f)
  unfold processes
  clear order moved
  generalize d.rootElements = roots at inside ⊢
  induction inside with
  | nil => exact .nil
  | @cons r r' roots mid hr _ ih =>
    cases hr with
    | same =>
      cases hp : r.process? with
      | none => simpa only [List.filterMap_cons, hp] using ih
      | some p =>
        simp only [List.filterMap_cons, hp, List.flatMap_cons]
        exact ih.append_left (f p)
    | process hp => exact (hf _ _ hp).append ih

theorem Diagnostic.saying_fromProcess (x : Diagnostic) : x.fromProcess.saying = x.saying := by
  obtain ⟨level, problem, element⟩ := x
  cases element <;> rfl

theorem Definitions.map_saying_findings (settings : Settings) (d : Definitions) (n : Nat) :
    (d.findings settings [n]).map Diagnostic.saying =
      d.processes.flatMap fun p => (p.findings settings [0, 0]).map Diagnostic.saying := by
  have forget : ∀ xs : List Diagnostic,
      (xs.map Diagnostic.fromProcess).map Diagnostic.saying = xs.map Diagnostic.saying := by
    intro xs
    rw [List.map_map]
    exact List.map_congr_left fun x _ => x.saying_fromProcess
  have audited := congrArg (List.map Diagnostic.saying) (d.map_fromProcess_audited settings n)
  rw [forget, audited_eq, List.map_flatMap] at audited
  simpa only [forget] using audited

/-- Batches of two documents that differ in the order of root elements and flow elements alone, but
for sequence flows of one id in one container: they report findings that say the same in some
order, and the walks through the processes visit as many elements, as their records tell. -/
theorem Settings.outcome_reordered {settings : Settings} {request request' : Request} {n n' : Nat}
    {d d' : Definitions} (h : request.AsksFor settings n d)
    (h' : request'.AsksFor settings n' d') (reordered : d.Reordered d') :
    ∃ found found' : List Diagnostic,
      (settings.answer request).outcome = .ok (.ofDiagnostics found) ∧
      (settings.answer request').outcome = .ok (.ofDiagnostics found') ∧
      (found.map Diagnostic.saying).Perm (found'.map Diagnostic.saying) ∧
      (∀ run : Run, ((d.owners [n]).map fun owner => (run.walk owner).1).Perm
        ((d'.owners [n']).map fun owner => (run.walk owner).1)) ∧
      ((settings.answer request).records.filter (·.isCount)).Perm
        ((settings.answer request').records.filter (·.isCount)) := by
  refine ⟨_, _, outcome_document h.root h.mode, outcome_document h'.root h'.mode, ?_,
    fun run => ?_, ?_⟩
  · rw [Definitions.map_saying_findings, Definitions.map_saying_findings]
    exact reordered.flatMap_processes fun p p' hp => hp.sayings_perm settings [0, 0] [0, 0]
  · have visited : ∀ (d : Definitions) (n : Nat),
        ((d.owners [n]).map fun owner => (run.walk owner).1) =
          d.processes.flatMap fun p => [(preorder p.flowElements).length] := by
      intro d n
      have lengths := congrArg (List.map fun es => (preorder es).length)
        (d.map_elements_owners [n])
      simp only [List.map_map, Function.comp_def] at lengths
      simpa only [Run.walk_eq, Owner.length_visits, List.map_eq_flatMap] using lengths
    rw [visited, visited]
    exact reordered.flatMap_processes fun p p' hp => by rw [hp.elements.sizes.1]
  · rw [filter_isCount_records_answer h, filter_isCount_records_answer h']
    refine reordered.flatMap_processes fun p p' hp => ?_
    obtain ⟨walked, audited⟩ := hp.records_eq []
    rw [walked, audited]

def FlowElement.fork : FlowElement :=
  .leaf (.exclusiveGateway { id := some "fork", outgoing := ["way"] })

/-- A sequence flow without a probability, and one with the same id that has one. -/
def FlowElement.way (key : String) : FlowElement :=
  .leaf (.sequenceFlow { id := some "way", blocks := [.ofList [(key, "50")]] })

/-- A subprocess with elements in it. -/
def FlowElement.around (es : List FlowElement) : FlowElement :=
  .subProcess { id := some "around" } es false

/-- A document with a message and a process. -/
def Definitions.forked : Definitions where
  rootElements :=
    [.message {}, .process {
      flowElements :=
        [.fork, .way "cost", .way "probability",
          .around [.leaf (.task {}), .leaf (.startEvent {})]] }]

/-- The same document in another order, but for the sequence flows. -/
def Definitions.forkedElsewhere : Definitions where
  rootElements :=
    [.process {
      flowElements :=
        [.around [.leaf (.startEvent {}), .leaf (.task {})], .way "cost", .fork,
          .way "probability"] }, .message {}]

theorem Definitions.forked_reordered : Definitions.Reordered .forked .forkedElsewhere := by
  have inside : FlowElement.Reordered
      (.around [.leaf (.task {}), .leaf (.startEvent {})])
      (.around [.leaf (.startEvent {}), .leaf (.task {})]) :=
    .subProcess _ _ (.cons (.leaf _) (.cons (.leaf _) .nil)) ⟨.swap _ _ _, fun id => rfl⟩
  have elements : Reorders
      [.fork, .way "cost", .way "probability",
        .around [.leaf (.task {}), .leaf (.startEvent {})]]
      [.around [.leaf (.startEvent {}), .leaf (.task {})], .way "cost", .fork,
        .way "probability"] :=
    ⟨_, .cons (.leaf _) (.cons (.leaf _) (.cons (.leaf _) (.cons inside .nil))),
      by decide, fun id => rfl⟩
  exact ⟨⟨_, .cons (.same _) (.cons (.process ⟨elements, rfl⟩) .nil), .swap _ _ _⟩, rfl⟩

/-- Strict batches of both documents. -/
theorem Settings.outcome_forked :
    let settings : Settings := { strictSimulation := true }
    let request : Request := { root := .plain (.element ⟨[0], .definitions .forked⟩) }
    let request' : Request := { root := .plain (.element ⟨[1], .definitions .forkedElsewhere⟩) }
    ∃ found found' : List Diagnostic,
      (settings.answer request).outcome = .ok (.ofDiagnostics found) ∧
      (settings.answer request').outcome = .ok (.ofDiagnostics found') ∧
      (found.map Diagnostic.saying).Perm (found'.map Diagnostic.saying) ∧
      ((Definitions.owners .forkedElsewhere [1]).map fun owner => (({} : Run).walk owner).1) =
        [6] := by
  intro settings request request'
  obtain ⟨found, found', outcome, outcome', same, counts, -⟩ :=
    outcome_reordered (⟨rfl, rfl⟩ : request.AsksFor settings 0 .forked)
      (⟨rfl, rfl⟩ : request'.AsksFor settings 1 .forkedElsewhere) Definitions.forked_reordered
  have six : ((Definitions.owners .forked [0]).map fun owner => (({} : Run).walk owner).1) =
      [6] := by
    simp only [Run.walk_eq]
    rfl
  have counted := counts {}
  rw [six, List.singleton_perm] at counted
  exact ⟨found, found', outcome, outcome', same, counted.symm⟩

end BpmnAudit
