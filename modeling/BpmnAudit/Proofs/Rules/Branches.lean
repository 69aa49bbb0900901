import BpmnAudit.Proofs.Run.Rules

/-!
# Branches of gateways

What a gateway reads off the sequence flow of a branch is the text of a probability, that there is
none, or nothing at all (`readProbability`). The branch depends on nothing else (`Branch.ofId_eq`):
a missing probability is all that is found with it, and only a text that was read can give it one.
-/

namespace BpmnAudit

/-- What a gateway reads off the blocks of a sequence flow: nothing, that no probability is there,
or the text of the probability. -/
def readProbability (strict : Bool) (blocks : List Attributes) : Option (Option String) :=
  if blocks.isEmpty then none
  else
    match blockValue? blocks "probability" with
    | none => some none
    | some text => if strict then some (some text) else none

theorem readProbability_eq_some_none_iff {strict : Bool} {blocks : List Attributes} :
    readProbability strict blocks = some none ↔
      blocks ≠ [] ∧ blockValue? blocks "probability" = none := by
  unfold readProbability
  cases blocks with
  | nil => simp
  | cons block blocks =>
    cases blockValue? (block :: blocks) "probability" <;> cases strict <;> simp

theorem join_readProbability (strict : Bool) (blocks : List Attributes) :
    (readProbability strict blocks).join =
      if strict then blockValue? blocks "probability" else none := by
  unfold readProbability
  cases blocks with
  | nil => cases strict <;> rfl
  | cons block blocks =>
    cases blockValue? (block :: blocks) "probability" <;> cases strict <;> rfl

namespace Branch

/-- The branch along a sequence flow, by what is read off its blocks. -/
def along (flow : Placed) : Option (Option String) → Branch
  | none => silent
  | some none => unweighted flow
  | some (some text) =>
    match Decimal.readNumber text with
    | some x => weighted x
    | none => odd flow text

theorem ofId_eq (scope : Scope) (id : String) :
    ofId scope id =
      (scope.flow? id).elim silent fun flow =>
        along flow (readProbability scope.strict flow.element.base.blocks) := by
  unfold ofId readProbability
  cases scope.flow? id with
  | none => rfl
  | some flow =>
    rw [Option.elim_some]
    by_cases hb : flow.element.base.blocks.isEmpty = true
    · simp [hb, along]
    · cases hp : blockValue? flow.element.base.blocks "probability" with
      | none => simp [hb, hp, along]
      | some text =>
        cases hs : scope.strict with
        | false => simp [hb, hp, along]
        | true => cases hr : Decimal.readNumber text <;> simp [hb, hp, along, hr]

/-- All that is found with a branch is that its probability is missing. -/
theorem diagnostics_along (flow : Placed) (reading : Option (Option String)) :
    (along flow reading).remarks.filterMap Remark.diagnostic? =
      if reading = some none then [⟨.error, .noProbability, some flow.located⟩] else [] := by
  match reading with
  | none => rfl
  | some none => rfl
  | some (some text) =>
    simp only [along]
    generalize Decimal.readNumber text = number
    cases number <;> rfl

theorem probability?_along (flow : Placed) (reading : Option (Option String)) :
    (along flow reading).probability? = reading.join.bind Decimal.readNumber := by
  match reading with
  | none => rfl
  | some none => rfl
  | some (some text) =>
    show (along flow (some (some text))).probability? = Decimal.readNumber text
    simp only [along]
    generalize Decimal.readNumber text = number
    cases number <;> rfl

/-- What is found with the branch of an id: that the sequence flow has simulation data without a
probability, in strict and in lenient runs alike. -/
theorem diagnostics_ofId (scope : Scope) (id : String) :
    (ofId scope id).remarks.filterMap Remark.diagnostic? =
      (scope.flow? id).elim [] fun flow =>
        if flow.element.base.blocks ≠ [] ∧ blockValue? flow.element.base.blocks "probability" = none
        then [⟨.error, .noProbability, some flow.located⟩] else [] := by
  rw [ofId_eq]
  cases scope.flow? id with
  | none => rfl
  | some flow =>
    simp only [Option.elim_some, diagnostics_along, readProbability_eq_some_none_iff]

theorem eq_of_mem_diagnostics_ofId {scope : Scope} {id : String} {x : Diagnostic}
    (h : x ∈ (ofId scope id).remarks.filterMap Remark.diagnostic?) :
    ∃ flow, scope.flow? id = some flow ∧ x = ⟨.error, .noProbability, some flow.located⟩ := by
  rw [diagnostics_ofId] at h
  cases hflow : scope.flow? id with
  | none =>
    rw [hflow, Option.elim_none] at h
    cases h
  | some flow =>
    rw [hflow, Option.elim_some] at h
    split at h
    · exact ⟨flow, rfl, List.mem_singleton.mp h⟩
    · cases h

theorem probability?_ofId (scope : Scope) (id : String) :
    (ofId scope id).probability? =
      if scope.strict then
        (scope.flow? id).bind fun flow =>
          (blockValue? flow.element.base.blocks "probability").bind Decimal.readNumber
      else none := by
  rw [ofId_eq]
  cases scope.flow? id with
  | none => cases scope.strict <;> rfl
  | some flow =>
    rw [Option.elim_some, probability?_along, join_readProbability]
    cases scope.strict <;> rfl

end Branch

end BpmnAudit
