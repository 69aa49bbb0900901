import BpmnAudit.Proofs.Decimal.Special
import BpmnAudit.Proofs.Rules.Branches
import BpmnAudit.Proofs.Run.Reachable
import BpmnAudit.Proofs.Tree.Lookup

/-!
# Probabilities of gateways

What the rule for the probabilities of a gateway finds in a run
(`Run.Reachable.applyRule_gatewayProbabilities`). Its branches are the sequence flows right inside
the container at hand that its outgoing ids name, one for each occurrence of an id and the last flow
of each id (`Surroundings.branches`). A branch with simulation data but no probability is told of;
the numbers of the others are added up, and in strict runs a sum that is not one hundred is told of
last.

A strict run that does not tell of the sum has finite probabilities that add up to one hundred,
unless the sum is no number (`Run.Reachable.probabilitySum_not_mem_iff`).
-/

namespace BpmnAudit

/-! ## Branches by themselves -/

namespace FlowElement

/-- The element has simulation data, but none of its blocks has a probability. -/
def LacksProbability (e : FlowElement) : Prop :=
  e.base.blocks ≠ [] ∧ ∀ block ∈ e.base.blocks, block.get? "probability" = none

instance (e : FlowElement) : Decidable e.LacksProbability :=
  inferInstanceAs (Decidable (_ ∧ _))

/-- The number that the first probability over the blocks is, if it is one. -/
def probability? (e : FlowElement) : Option Float :=
  (e.base.blocks.findSome? (·.get? "probability")).bind Decimal.readNumber

theorem lacksProbability_iff (e : FlowElement) :
    e.LacksProbability ↔
      e.base.blocks ≠ [] ∧ blockValue? e.base.blocks "probability" = none := by
  rw [LacksProbability, blockValue?, List.findSome?_eq_none_iff]

end FlowElement

namespace Surroundings

/-- The sequence flow of an id right inside the container: the last one that has it. -/
def namedFlow? (surroundings : Surroundings) (id : String) : Option Placed :=
  surroundings.owner?.bind fun owner =>
    owner.children.reverse.find? (·.element.flowId? == some id)

theorem flow?_eq_namedFlow? (surroundings : Surroundings) (id : String) :
    surroundings.flow? id = surroundings.namedFlow? id := by
  unfold flow? namedFlow?
  simp only [lookup_sequenceFlowsById]

/-- The sequence flows that outgoing ids name, in their order and with repetitions. -/
def branches (surroundings : Surroundings) (outgoing : List String) : List Placed :=
  outgoing.filterMap surroundings.namedFlow?

/-- The probabilities of these branches. -/
def probabilities (surroundings : Surroundings) (outgoing : List String) : List Float :=
  (surroundings.branches outgoing).filterMap (·.element.probability?)

end Surroundings

/-- The sum of probabilities, from left to right. -/
def sumOf (probabilities : List Float) : Float := probabilities.foldl (· + ·) 0

/-- No more is missing to one hundred than the tolerance exactly if the sum is no number, or if all
probabilities are finite and add up to it. -/
theorem not_tolerance_lt_iff (probabilities : List Float) :
    ¬ (sumOf probabilities - 100).abs > 1e-9 ↔
      (sumOf probabilities).isNaN ∨
        (∀ x ∈ probabilities, x.isFinite) ∧ (sumOf probabilities - 100).abs ≤ 1e-9 := by
  have tolerance : (1e-9 : Float).isFinite = true ∧ (1e-9 : Float).isNaN = false := by decide
  have hundred : (100 : Float).isFinite = true := by decide
  generalize hsum : sumOf probabilities = sum
  constructor
  · intro h
    rcases Decimal.isFinite_or sum with finite | infinite | nan
    · have number := Decimal.isNaN_sub_of_isFinite finite hundred
      rw [← Decimal.isNaN_abs] at number
      rw [← hsum] at finite
      exact .inr ⟨(Decimal.isFinite_of_isFinite_foldl finite).2,
        (Decimal.not_lt_iff_le tolerance.2 number).mp h⟩
    · exact (h (Decimal.lt_abs_of_isInf tolerance.1 (Decimal.isInf_sub infinite hundred))).elim
    · exact .inl nan
  · rintro (nan | ⟨-, close⟩)
    · refine Decimal.not_lt_of_isNaN ?_ _
      rw [Decimal.isNaN_abs]
      exact Decimal.isNaN_sub_left nan 100
    · cases number : (sum - 100).abs.isNaN with
      | true => exact Decimal.not_lt_of_isNaN number _
      | false => exact (Decimal.not_lt_iff_le tolerance.2 number).mpr close

/-! ## What the rule finds -/

theorem Element.node?_of_gateway? {e : Element} {gateway : Gateway}
    (h : e.gateway? = some gateway) : e.node? = some gateway.toFlowNode := by
  cases e with
  | flow e =>
    cases e with
    | leaf l => cases l <;> first | cases h; rfl | cases h
    | subProcess => cases h
  | outline o => cases o <;> first | cases h; rfl | cases h
  | _ => cases h

/-- What is found item by item is found with the items that are there and chosen. -/
theorem flatMap_elim_eq {α β γ : Type} (f : α → Option β) (p : β → Prop) [DecidablePred p]
    (g : β → γ) (items : List α) :
    (items.flatMap fun a => (f a).elim [] fun b => if p b then [g b] else []) =
      ((items.filterMap f).filter p).map g := by
  induction items with
  | nil => rfl
  | cons a items ih =>
    rw [List.flatMap_cons, ih, List.filterMap_cons]
    cases f a with
    | none => rfl
    | some b =>
      rw [Option.elim_some]
      dsimp only
      by_cases hb : p b
      · rw [if_pos hb, List.filter_cons_of_pos (by simpa using hb)]
        rfl
      · rw [if_neg hb, List.filter_cons_of_neg (by simpa using hb)]
        rfl

theorem diagnostics_branches (settings : Settings) (adHoc : Bool) (surroundings : Surroundings)
    (outgoing : List String) :
    ((outgoing.map (Branch.ofId (.inside settings adHoc surroundings))).flatMap
        Branch.remarks).filterMap Remark.diagnostic? =
      ((surroundings.branches outgoing).filter (·.element.LacksProbability)).map fun flow =>
        ⟨.error, .noProbability, some flow.located⟩ := by
  rw [List.flatMap_map, List.filterMap_flatMap, Surroundings.branches,
    ← flatMap_elim_eq surroundings.namedFlow? (·.element.LacksProbability)]
  congr 1
  funext id
  rw [Branch.diagnostics_ofId]
  simp only [Scope.inside, Surroundings.flow?_eq_namedFlow?, FlowElement.lacksProbability_iff]

theorem probabilities_branches (settings : Settings) (adHoc : Bool) (surroundings : Surroundings)
    (outgoing : List String) :
    (outgoing.map (Branch.ofId (.inside settings adHoc surroundings))).filterMap
        Branch.probability? =
      if settings.strictSimulation then surroundings.probabilities outgoing else [] := by
  rw [List.filterMap_map]
  have single : ∀ id, (Branch.ofId (.inside settings adHoc surroundings) id).probability? =
      if settings.strictSimulation then
        (surroundings.namedFlow? id).bind (·.element.probability?) else none := by
    intro id
    rw [Branch.probability?_ofId]
    simp only [Scope.inside, Surroundings.flow?_eq_namedFlow?]
    rfl
  simp only [Function.comp_def, single]
  cases settings.strictSimulation with
  | true => exact (List.filterMap_filterMap ..).symm
  | false => exact List.filterMap_none ..

/-- What a gateway's outgoing flows are found to lack, and that they miss one hundred. -/
def probabilityFindings (strict : Bool) (surroundings : Surroundings) (l : Located)
    (outgoing : List String) : List Diagnostic :=
  let probabilities := surroundings.probabilities outgoing
  (((surroundings.branches outgoing).filter (·.element.LacksProbability)).map fun flow =>
      ⟨.error, .noProbability, some flow.located⟩) ++
    if strict = true ∧ probabilities ≠ [] ∧ (sumOf probabilities - 100).abs > 1e-9
    then [⟨.error, .probabilitySum, some l⟩] else []

theorem probabilitySum_mem_iff {strict : Bool} {surroundings : Surroundings} {l : Located}
    {outgoing : List String} :
    ⟨.error, .probabilitySum, some l⟩ ∈ probabilityFindings strict surroundings l outgoing ↔
      strict = true ∧ surroundings.probabilities outgoing ≠ [] ∧
        (sumOf (surroundings.probabilities outgoing) - 100).abs > 1e-9 := by
  unfold probabilityFindings
  dsimp only
  rw [List.mem_append]
  constructor
  · rintro (h | h)
    · obtain ⟨flow, -, heq⟩ := List.mem_map.mp h
      cases heq
    · split at h
      · next missed => exact missed
      · cases h
  · intro missed
    rw [if_pos missed]
    exact .inr (List.mem_singleton_self _)

theorem diagnostics_probabilityRemarks (settings : Settings) (adHoc : Bool)
    (surroundings : Surroundings) (l : Located) (outgoing : List String) :
    (probabilityRemarks (.inside settings adHoc surroundings) l outgoing).filterMap
        Remark.diagnostic? =
      probabilityFindings settings.strictSimulation surroundings l outgoing := by
  rw [probabilityRemarks, List.filterMap_append, diagnostics_branches, probabilities_branches,
    Located.diagnostics_remarks, probabilityFindings]
  congr 1
  cases settings.strictSimulation with
  | false => rfl
  | true =>
    rw [if_pos rfl]
    cases surroundings.probabilities outgoing with
    | nil => rfl
    | cons x more =>
      have sum : missesHundred (x :: more) = true ↔ (sumOf (x :: more) - 100).abs > 1e-9 :=
        decide_eq_true_iff
      unfold Problem.when
      by_cases h : (sumOf (x :: more) - 100).abs > 1e-9 <;> simp [sum, h]

theorem NodeRule.remarks_probabilities (scope : Scope) {l : Located} {node : FlowNode}
    (h : l.element.node? = some node) :
    remarks scope l .gatewayProbabilities = probabilityProgress scope l node.outgoing := by
  unfold remarks problems
  rw [h]
  rfl

theorem NodeRule.remarks_gatewayProbabilities (scope : Scope) {l : Located} {gateway : Gateway}
    (h : l.element.gateway? = some gateway) :
    remarks scope l .gatewayProbabilities = probabilityProgress scope l gateway.outgoing :=
  remarks_probabilities scope (Element.node?_of_gateway? h)

theorem Surroundings.branches_of_noFlows {surroundings : Surroundings} {misfit : Misfit}
    (h : surroundings.noFlows = some misfit) (outgoing : List String) :
    surroundings.branches outgoing = [] := by
  cases surroundings with
  | barren l => exact List.filterMap_none ..
  | _ => cases h

theorem NodeRule.findings_probabilities (settings : Settings) (adHoc : Bool)
    (surroundings : Surroundings) {l : Located} {node : FlowNode}
    (h : l.element.node? = some node) :
    findings (.inside settings adHoc surroundings) l .gatewayProbabilities =
      probabilityFindings settings.strictSimulation surroundings l node.outgoing := by
  rw [findings, remarks_probabilities _ h, probabilityProgress]
  have around : (Scope.inside settings adHoc surroundings).noFlows = surroundings.noFlows := rfl
  cases hn : surroundings.noFlows with
  | none =>
    simp only [around, hn]
    exact diagnostics_probabilityRemarks ..
  | some misfit =>
    -- Nothing is looked up where there are no flows, and nothing is found without branches.
    have alone := Surroundings.branches_of_noFlows hn node.outgoing
    simp only [around, hn, probabilityFindings, Surroundings.probabilities, alone]
    split <;> simp

theorem NodeRule.findings_gatewayProbabilities (settings : Settings) (adHoc : Bool)
    (surroundings : Surroundings) {l : Located} {gateway : Gateway}
    (h : l.element.gateway? = some gateway) :
    findings (.inside settings adHoc surroundings) l .gatewayProbabilities =
      probabilityFindings settings.strictSimulation surroundings l gateway.outgoing :=
  findings_probabilities settings adHoc surroundings (Element.node?_of_gateway? h)

namespace Run.Reachable

variable {documents : Documents} {run : Run}

theorem diagnostics_gatewayProbabilities (h : run.Reachable documents) {l : Located}
    {gateway : Gateway} (hg : l.element.gateway? = some gateway) :
    (run.applyRule l .gatewayProbabilities).result.diagnostics.toList =
      run.diagnostics.toList ++
        probabilityFindings run.settings.strictSimulation run.container l gateway.outgoing := by
  rw [(h.sound.applyRule l .gatewayProbabilities).diagnostics, Run.plainScope,
    NodeRule.findings_gatewayProbabilities _ _ _ hg]

/-- In a reachable run, whatever container it stands in, the rule for probabilities adds what
gateways are found to lack in this container, and stops nowhere unless what is around the gateway
cannot have sequence flows. -/
theorem applyRule_gatewayProbabilities (h : run.Reachable documents) {l : Located}
    {gateway : Gateway} (hg : l.element.gateway? = some gateway) :
    (run.applyRule l .gatewayProbabilities).result.diagnostics.toList =
      run.diagnostics.toList ++
        probabilityFindings run.settings.strictSimulation run.container l gateway.outgoing ∧
      (run.container.noFlows = none → (run.applyRule l .gatewayProbabilities).misfit = none) := by
  refine ⟨h.diagnostics_gatewayProbabilities hg, fun hn => ?_⟩
  obtain ⟨kept, -, applied⟩ := h.sound.applyRule_eq l .gatewayProbabilities
  have looked : run.plainScope.noFlows = none := hn
  rw [applied]
  show (NodeRule.remarks run.plainScope l .gatewayProbabilities).misfit = none
  rw [NodeRule.remarks_gatewayProbabilities _ hg, probabilityProgress, looked]

def strictlyInside (process : Element) : Run :=
  ({ settings := { strictSimulation := true } } : Run).perform
    (.enterContainer (some ⟨[0], process⟩))

theorem reachable_strictlyInside (process : Element) :
    (strictlyInside process).Reachable fun _ => some process :=
  .perform (.start _) _ fun l hl => by
    obtain rfl := List.mem_singleton.mp hl
    rfl

/-- A process with a subprocess in it, which owns a flow as well. -/
def splittingProcess : Element :=
  let flow (id : String) (blocks : List (List (String × String))) : FlowElement :=
    .leaf (.sequenceFlow { id := some id, blocks := blocks.map .ofList })
  .root (.process {
    flowElements :=
      [flow "f" [[("probability", "7")]], flow "g" [[("note", "")]],
        flow "f" [[], [("probability", "40")], [("probability", "1")]],
        flow "odd" [[("probability", "a lot")]], flow "bare" [],
        .subProcess {} [flow "inner" [[("note", "")]]] false] })

/-- A gateway names a flow twice that hides another with the same id, one without probability, and
one that a subprocess owns. -/
theorem applyRule_gatewayProbabilities_splittingProcess :
    let gateway : Located := ⟨[1, 0], .flow (.leaf (.exclusiveGateway
      { id := some "x", outgoing := ["f", "g", "inner", "odd", "bare", "f", "g"] }))⟩
    let run := strictlyInside splittingProcess
    (run.applyRule gateway .gatewayProbabilities).result.diagnostics.toList.map
        (fun d => (d.problem, d.element.bind (·.element.id))) =
      [(.noProbability, some "g"), (.noProbability, some "g"), (.probabilitySum, some "x")] := by
  intro gateway run
  have reachable := reachable_strictlyInside splittingProcess
  rw [(reachable.applyRule_gatewayProbabilities rfl).1]
  decide

/-- A strict run in which some branch of a gateway has a probability does not tell of their sum
exactly if the sum is no number, or if all probabilities are finite and add up to one hundred. -/
theorem probabilitySum_not_mem_iff (h : run.Reachable documents) {l : Located}
    {gateway : Gateway} (hg : l.element.gateway? = some gateway)
    (strict : run.settings.strictSimulation = true)
    (weighted : run.container.probabilities gateway.outgoing ≠ []) :
    let probabilities := run.container.probabilities gateway.outgoing
    ∃ found, (run.applyRule l .gatewayProbabilities).result.diagnostics.toList =
        run.diagnostics.toList ++ found ∧
      (⟨.error, .probabilitySum, some l⟩ ∉ found ↔
        (sumOf probabilities).isNaN ∨
          (∀ x ∈ probabilities, x.isFinite) ∧ (sumOf probabilities - 100).abs ≤ 1e-9) := by
  refine ⟨_, h.diagnostics_gatewayProbabilities hg, ?_⟩
  rw [probabilitySum_mem_iff, ← not_tolerance_lt_iff]
  constructor
  · exact fun untold missed => untold ⟨strict, weighted, missed⟩
  · exact fun kept told => kept told.2.2

/-- A process whose flows have probabilities, each with its probability as id. -/
def weightedProcess (texts : List String) : Element :=
  .root (.process {
    flowElements := texts.map fun text =>
      .leaf (.sequenceFlow { id := some text, blocks := [.ofList [("probability", text)]] }) })

/-- A gateway that these flows leave. -/
def weightedGateway (texts : List String) : Located :=
  ⟨[9, 0], .flow (.leaf (.exclusiveGateway { id := some "x", outgoing := texts }))⟩

/-- Finite probabilities that add up to one hundred are not told of. -/
theorem probabilitySum_not_mem_weightedProcess :
    let run := strictlyInside (weightedProcess ["60.5", "39.5"])
    let gateway := weightedGateway ["60.5", "39.5"]
    ⟨.error, .probabilitySum, some gateway⟩ ∉
      (run.applyRule gateway .gatewayProbabilities).result.diagnostics.toList := by
  intro run gateway
  have reachable := reachable_strictlyInside (weightedProcess ["60.5", "39.5"])
  obtain ⟨found, all, untold⟩ :=
    reachable.probabilitySum_not_mem_iff (l := gateway) rfl rfl (by decide)
  rw [all]
  exact untold.mpr (.inr (by decide))

/-- A probability that is no number is not told of. -/
theorem applyRule_notANumber :
    let run := strictlyInside (weightedProcess ["nan"])
    let gateway := weightedGateway ["nan"]
    run.container.probabilities ["nan"] ≠ [] ∧
      (¬ ∀ x ∈ run.container.probabilities ["nan"], x.isFinite) ∧
      (run.applyRule gateway .gatewayProbabilities).result.diagnostics.toList = [] := by
  decide

end Run.Reachable

end BpmnAudit
