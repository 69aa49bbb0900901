import BpmnAudit.Proofs.Run.Unnoticed

/-!
# What lenient runs see

A lenient run does not read simulation data. Of a task's and of a sequence flow's it sees whether
there are any, and of a sequence flow's also whether there is a probability among them; those of all
other elements it does not see at all. So it finds the same with two documents that are equal but
for their data and in which it sees the same of them (`Settings.outcome_document_lenient`).

What it sees is put into a retouch, which leaves in place of the data the least ones that look the
same (`Retouch.glimpsed`). A lenient run does not notice it, and it makes such documents equal.
-/

namespace BpmnAudit

/-! ## Data at a glance -/

/-- Leaves out the data of all elements. -/
def Retouch.withoutBlocks : Retouch := fun _ base => { base with blocks := [] }

/-- The least data that look to a lenient run as given ones do, in an element of a kind. -/
def FlowKind.glimpse (kind : FlowKind) (blocks : List Attributes) : List Attributes :=
  if kind == .sequenceFlow && (blockValue? blocks "probability").isSome then
    [.ofList [("probability", "")]]
  else if (kind.isTask || kind == .sequenceFlow) && !blocks.isEmpty then [{}]
  else []

/-- Leaves of all data what a lenient run sees. -/
def Retouch.glimpsed : Retouch := fun shape base =>
  { base with
    blocks := match shape with
      | .element (.flow kind) => kind.glimpse base.blocks
      | _ => [] }

/-- Of a task's and of a sequence flow's data a glimpse tells whether there are any. -/
theorem FlowKind.isEmpty_glimpse (kind : FlowKind)
    (h : kind.isTask = true ∨ kind = .sequenceFlow) (blocks : List Attributes) :
    (kind.glimpse blocks).isEmpty = blocks.isEmpty := by
  have seen : (kind.isTask || kind == .sequenceFlow) = true := by simpa using h
  unfold glimpse
  rw [seen]
  cases blocks with
  | nil => cases kind == .sequenceFlow <;> rfl
  | cons block blocks => split <;> rfl

/-- Of a sequence flow's data a glimpse tells whether a gateway misses a probability in them. -/
theorem readProbability_glimpse (blocks : List Attributes) :
    readProbability false (FlowKind.sequenceFlow.glimpse blocks) =
      readProbability false blocks := by
  unfold readProbability
  rw [FlowKind.isEmpty_glimpse _ (Or.inr rfl)]
  split
  · rfl
  · next full =>
    unfold FlowKind.glimpse
    rw [Bool.eq_false_iff.mpr full]
    cases blockValue? blocks "probability" <;> rfl

theorem taskDataProblems_of_isEmpty {base base' : BaseElement}
    (h : base.blocks.isEmpty = base'.blocks.isEmpty) :
    taskDataProblems false base = taskDataProblems false base' := by
  unfold taskDataProblems
  rw [h]
  rfl

theorem userTaskDataProblems_of_isEmpty {base base' : BaseElement}
    (h : base.blocks.isEmpty = base'.blocks.isEmpty) :
    userTaskDataProblems false base = userTaskDataProblems false base' := by
  unfold userTaskDataProblems
  rw [h]
  rfl

theorem Retouch.unnoticed_glimpsed : glimpsed.Unnoticed false where
  id _ _ := rfl
  name _ _ := rfl
  noticed _ _ _ _ := rfl
  adHoc _ := rfl
  userTaskData base := userTaskDataProblems_of_isEmpty
    (FlowKind.isEmpty_glimpse .userTask (Or.inl rfl) base.blocks)
  taskData {kind} task base := taskDataProblems_of_isEmpty
    (FlowKind.isEmpty_glimpse kind (Or.inl task) base.blocks)
  probability base := readProbability_glimpse base.blocks

/-! ## Elements that look the same -/

/-- Of the data of two flow elements a lenient run sees the same. -/
structure FlowElement.LooksLike (e e' : FlowElement) : Prop where
  empty : e.kind.isTask = true ∨ e.kind = .sequenceFlow →
    (e.base.blocks = [] ↔ e'.base.blocks = [])
  probability : e.kind = .sequenceFlow →
    ((∃ block ∈ e.base.blocks, (block.get? "probability").isSome) ↔
      ∃ block ∈ e'.base.blocks, (block.get? "probability").isSome)

instance (e e' : FlowElement) : Decidable (e.LooksLike e') :=
  decidable_of_iff (_ ∧ _) ⟨fun h => ⟨h.1, h.2⟩, fun h => ⟨h.empty, h.probability⟩⟩

theorem isSome_blockValue?_iff {blocks : List Attributes} {name : String} :
    (blockValue? blocks name).isSome ↔ ∃ block ∈ blocks, (block.get? name).isSome := by
  unfold blockValue?
  rw [List.findSome?_isSome_iff]

namespace FlowElement

/-- What a lenient run sees of the data of an element. -/
def glimpse (e : FlowElement) : List Attributes := e.kind.glimpse e.base.blocks

theorem LooksLike.glimpse_eq {e e' : FlowElement} (h : e.LooksLike e') (kind : e.kind = e'.kind) :
    e.glimpse = e'.glimpse := by
  unfold glimpse
  rw [← kind]
  by_cases seen : e.kind.isTask = true ∨ e.kind = .sequenceFlow
  · have empty : e.base.blocks.isEmpty = e'.base.blocks.isEmpty := by
      rw [Bool.eq_iff_iff, List.isEmpty_iff, List.isEmpty_iff]
      exact h.empty seen
    have probability :
        (e.kind == .sequenceFlow && (blockValue? e.base.blocks "probability").isSome) =
          (e.kind == .sequenceFlow && (blockValue? e'.base.blocks "probability").isSome) := by
      by_cases flow : e.kind = .sequenceFlow
      · have same := h.probability flow
        rw [← isSome_blockValue?_iff, ← isSome_blockValue?_iff, ← Bool.eq_iff_iff] at same
        rw [same]
      · rw [beq_false_of_ne flow, Bool.false_and, Bool.false_and]
    unfold FlowKind.glimpse
    rw [empty, probability]
  · have unseen : (e.kind.isTask || e.kind == .sequenceFlow) = false := by simpa using seen
    have flow : (e.kind == .sequenceFlow) = false := (Bool.or_eq_false_iff.mp unseen).2
    unfold FlowKind.glimpse
    rw [unseen, flow]
    simp

end FlowElement

/-! ## Trees -/

theorem forall₂_of_append {α β : Type} {R : α → β → Prop} {as as' : List α} {bs bs' : List β}
    (length : as.length = bs.length) (h : List.Forall₂ R (as ++ as') (bs ++ bs')) :
    List.Forall₂ R as bs ∧ List.Forall₂ R as' bs' := by
  have first := List.forall₂_take_append _ _ _ h
  have rest := List.forall₂_drop_append _ _ _ h
  rw [← length, List.take_left] at first
  rw [← length, List.drop_left] at rest
  exact ⟨first, rest⟩

/-- Where data are out of sight, a glimpse leaves none. -/
theorem EventDefinition.retouch_glimpsed (d : EventDefinition) :
    d.retouch .glimpsed = d.retouch .withoutBlocks := by
  cases d <;> rfl

/-- To leave a glimpse of the data is to leave them out and to put the glimpse there. -/
theorem FlowLeaf.retouch_glimpsed (l : FlowLeaf) :
    l.retouch .glimpsed =
      (l.retouch .withoutBlocks).mapParts
        (fun base => { base with blocks := (FlowElement.leaf l).glimpse }) id := by
  have definitions := funext EventDefinition.retouch_glimpsed
  cases l <;>
    first
    | rfl
    | (simp only [FlowLeaf.retouch, FlowLeaf.mapParts, Event.mapParts, definitions, List.map_id]
       rfl)

mutual

theorem FlowElement.retouch_glimpsed_eq {e e' : FlowElement}
    (same : e.retouch .withoutBlocks = e'.retouch .withoutBlocks)
    (look : List.Forall₂ LooksLike e.subtree e'.subtree) :
    e.retouch .glimpsed = e'.retouch .glimpsed := by
  have kind : e.kind = e'.kind := by
    rw [← e.kind_retouch (f := .withoutBlocks), same, e'.kind_retouch]
  cases e with
  | leaf l =>
    cases e' with
    | leaf l' =>
      have leaves : l.retouch .withoutBlocks = l'.retouch .withoutBlocks := by
        injection same
      have glimpses := (List.forall₂_cons.mp look).1.glimpse_eq kind
      rw [retouch, retouch, l.retouch_glimpsed, l'.retouch_glimpsed, leaves, glimpses]
    | subProcess node es triggered => cases same
  | subProcess node es triggered =>
    cases e' with
    | leaf l => cases same
    | subProcess node' es' triggered' =>
      injection same with nodes inside triggers
      have owned := FlowElement.retouchAll_glimpsed_eq inside (List.forall₂_cons.mp look).2
      rw [retouch, retouch, owned, triggers]
      exact congrArg (subProcess · _ _) nodes

theorem FlowElement.retouchAll_glimpsed_eq {es es' : List FlowElement}
    (same : retouchAll .withoutBlocks es = retouchAll .withoutBlocks es')
    (look : List.Forall₂ LooksLike (preorder es) (preorder es')) :
    retouchAll .glimpsed es = retouchAll .glimpsed es' := by
  cases es with
  | nil =>
    cases es' with
    | nil => rfl
    | cons e' es' => cases same
  | cons e es =>
    cases es' with
    | nil => cases same
    | cons e' es' =>
      injection same with first rest
      have length : e.subtree.length = e'.subtree.length := by
        have := congrArg (List.length ∘ subtree) first
        simpa [subtree_retouch] using this
      rw [preorder, preorder] at look
      obtain ⟨lookFirst, lookRest⟩ := forall₂_of_append length look
      rw [retouchAll, retouchAll, FlowElement.retouch_glimpsed_eq first lookFirst,
        FlowElement.retouchAll_glimpsed_eq rest lookRest]

end

/-! ## Documents -/

theorem Process.retouch_glimpsed_eq {p p' : Process}
    (same : p.retouch .withoutBlocks = p'.retouch .withoutBlocks)
    (look : List.Forall₂ FlowElement.LooksLike (preorder p.flowElements)
      (preorder p'.flowElements)) : p.retouch .glimpsed = p'.retouch .glimpsed := by
  have owned : p.flowElements.map (·.retouch .glimpsed) =
      p'.flowElements.map (·.retouch .glimpsed) := by
    have inside := congrArg Process.flowElements same
    rw [retouch, retouch, ← FlowElement.retouchAll_eq_map, ← FlowElement.retouchAll_eq_map]
      at inside
    rw [← FlowElement.retouchAll_eq_map, ← FlowElement.retouchAll_eq_map]
    exact FlowElement.retouchAll_glimpsed_eq inside look
  calc p.retouch .glimpsed
      = { p.retouch .withoutBlocks with
          flowElements := p.flowElements.map (·.retouch .glimpsed) } := rfl
    _ = { p'.retouch .withoutBlocks with
          flowElements := p'.flowElements.map (·.retouch .glimpsed) } := by rw [same, owned]
    _ = p'.retouch .glimpsed := rfl

theorem RootElement.retouch_glimpsed_eq {r r' : RootElement}
    (same : r.retouch .withoutBlocks = r'.retouch .withoutBlocks)
    (look : ∀ p p', r.process? = some p → r'.process? = some p' →
      List.Forall₂ FlowElement.LooksLike (preorder p.flowElements) (preorder p'.flowElements)) :
    r.retouch .glimpsed = r'.retouch .glimpsed := by
  cases r with
  | process p =>
    cases r' with
    | process p' =>
      injection same with processes
      exact congrArg process (Process.retouch_glimpsed_eq processes (look p p' rfl rfl))
    | _ => cases same
  | _ => cases r' <;> first | exact same | cases same

theorem Process.length_preorder {f : Retouch} {p p' : Process} (h : p.retouch f = p'.retouch f) :
    (preorder p.flowElements).length = (preorder p'.flowElements).length := by
  have kept : ∀ es : List FlowElement,
      (preorder (es.map (·.retouch f))).length = (preorder es).length := by
    intro es
    rw [← FlowElement.retouchAll_eq_map, FlowElement.preorder_retouchAll, List.length_map]
  have inside := congrArg (fun p => (preorder p.flowElements).length) h
  exact (kept p.flowElements).symm.trans (inside.trans (kept p'.flowElements))

theorem RootElement.map_retouch_glimpsed_eq {rs rs' : List RootElement}
    (same : List.Forall₂ (fun r r' => r.retouch .withoutBlocks = r'.retouch .withoutBlocks) rs rs')
    (look : List.Forall₂ FlowElement.LooksLike
      ((rs.filterMap process?).flatMap fun p => preorder p.flowElements)
      ((rs'.filterMap process?).flatMap fun p => preorder p.flowElements)) :
    rs.map (·.retouch .glimpsed) = rs'.map (·.retouch .glimpsed) := by
  induction same with
  | nil => rfl
  | @cons r r' rs rs' first rest ih =>
    have processes := congrArg RootElement.process? first
    rw [process?_retouch, process?_retouch] at processes
    rw [List.map_cons, List.map_cons]
    cases hp : r.process? with
    | none =>
      rw [hp, Option.map_none, eq_comm, Option.map_eq_none_iff] at processes
      rw [List.filterMap_cons_none hp, List.filterMap_cons_none processes] at look
      rw [ih look, RootElement.retouch_glimpsed_eq first fun p _ h => by cases hp ▸ h]
    | some p =>
      rw [hp, Option.map_some, eq_comm, Option.map_eq_some_iff] at processes
      obtain ⟨p', hp', equal⟩ := processes
      rw [List.filterMap_cons_some hp, List.filterMap_cons_some hp', List.flatMap_cons,
        List.flatMap_cons] at look
      obtain ⟨lookFirst, lookRest⟩ := forall₂_of_append (Process.length_preorder equal.symm) look
      rw [ih lookRest, RootElement.retouch_glimpsed_eq first fun q q' h h' => ?_]
      obtain rfl : p = q := Option.some.inj (hp.symm.trans h)
      obtain rfl : p' = q' := Option.some.inj (hp'.symm.trans h')
      exact lookFirst

theorem Definitions.retouch_glimpsed_eq {d d' : Definitions}
    (same : d.retouch .withoutBlocks = d'.retouch .withoutBlocks)
    (look : List.Forall₂ FlowElement.LooksLike d.flowElements d'.flowElements) :
    d.retouch .glimpsed = d'.retouch .glimpsed := by
  have roots : d.rootElements.map (·.retouch .glimpsed) =
      d'.rootElements.map (·.retouch .glimpsed) :=
    RootElement.map_retouch_glimpsed_eq (Definitions.rootElements_equalUnder same) look
  calc d.retouch .glimpsed
      = { d.retouch .withoutBlocks with
          rootElements := d.rootElements.map (·.retouch .glimpsed) } := rfl
    _ = { d'.retouch .withoutBlocks with
          rootElements := d'.rootElements.map (·.retouch .glimpsed) } := by rw [same, roots]
    _ = d'.retouch .glimpsed := rfl

/-- Two lenient batches, of documents that are equal but for the data of their elements. If at every
task and at every sequence flow there are data in both documents or in neither, and at every
sequence flow some block has a probability in both or in neither, then the reports say the same of
elements of the same ids and types, in the same order. -/
theorem Settings.outcome_document_lenient {settings : Settings}
    (lenient : settings.strictSimulation = false) {request request' : Request} {n : Nat}
    {d d' : Definitions} (h : request.AsksFor settings n d) (h' : request'.AsksFor settings n d')
    (same : d.retouch .withoutBlocks = d'.retouch .withoutBlocks)
    (look : List.Forall₂ FlowElement.LooksLike d.flowElements d'.flowElements) :
    ∃ found found' : List Diagnostic,
      (settings.answer request).outcome = .ok (.ofDiagnostics found) ∧
      (settings.answer request').outcome = .ok (.ofDiagnostics found') ∧
      found.map (fun x => (x.level, x.message, x.elementId, x.elementType)) =
        found'.map (fun x => (x.level, x.message, x.elementId, x.elementType)) := by
  have unnoticed : Retouch.glimpsed.Unnoticed settings.strictSimulation := by
    rw [lenient]
    exact Retouch.unnoticed_glimpsed
  have found := Definitions.findings_equalUnder unnoticed
    (Definitions.retouch_glimpsed_eq same look) [n]
  refine ⟨_, _, outcome_document h.root h.mode, outcome_document h'.root h'.mode, ?_⟩
  refine map_eq_map_of_forall₂ (fun x x' related => ?_) found
  obtain ⟨level, message, id, type⟩ := Diagnostic.says_eq unnoticed related
  rw [level, message, id, type]

/-- A document with a task and two sequence flows inside a subprocess, with some data each. -/
def Definitions.measured (task heavy light subProcess : List Attributes) : Definitions where
  rootElements := [.process {
    flowElements := [
      .leaf (.exclusiveGateway { outgoing := ["outside"] }),
      .subProcess { blocks := subProcess } [
        .leaf (.userTask { incoming := ["heavy"], blocks := task }),
        .leaf (.exclusiveGateway { outgoing := ["heavy", "light"] }),
        .leaf (.sequenceFlow { id := some "heavy", blocks := heavy }),
        .leaf (.sequenceFlow { id := some "light", blocks := light })] false] }]

/-- Two lenient batches of the document: one with sound data, and one with odd data. -/
theorem Settings.outcome_measured :
    let d : Definitions := .measured
      [.ofList [("staffAvailability", "2"), ("duration", "1")]] [.ofList [("probability", "100")]]
      [.ofList [("cost", "3")]] []
    let d' : Definitions := .measured
      [{}, {}] [{}, .ofList [("probability", "heads")]] [{}] [.ofList [("probability", "7")]]
    let request : Request := { root := .plain (.element ⟨[0], .definitions d⟩) }
    let request' : Request := { root := .plain (.element ⟨[0], .definitions d'⟩) }
    ∃ found found' : List Diagnostic,
      (Settings.answer {} request).outcome = .ok (.ofDiagnostics found) ∧
      (Settings.answer {} request').outcome = .ok (.ofDiagnostics found') ∧
      found.map (fun x => (x.level, x.message, x.elementId, x.elementType)) =
        found'.map (fun x => (x.level, x.message, x.elementId, x.elementType)) ∧
      (found'.filter (·.problem = .noProbability)).map (·.elementId) = [some "light"] := by
  intro d d' request request'
  have asks : request.AsksFor {} 0 d := ⟨rfl, rfl⟩
  have asks' : request'.AsksFor {} 0 d' := ⟨rfl, rfl⟩
  have same : d.retouch .withoutBlocks = d'.retouch .withoutBlocks := rfl
  have look : List.Forall₂ FlowElement.LooksLike d.flowElements d'.flowElements := by decide
  obtain ⟨found, found', first, second, equal⟩ :=
    outcome_document_lenient rfl asks asks' same look
  refine ⟨found, found', first, second, equal, ?_⟩
  have reported := second.symm.trans (outcome_document asks'.root asks'.mode)
  rw [show found' = _ from congrArg Report.diagnostics (Except.ok.inj reported)]
  decide

end BpmnAudit
