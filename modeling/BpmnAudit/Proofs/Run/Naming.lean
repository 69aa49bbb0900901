import BpmnAudit.Proofs.Text.Names
import BpmnAudit.Proofs.WellFormed.Audit

/-!
# Names in a run

What the rules make of the tests of texts. The three tests are made differently, by trimming, by
looking for white space and by word characters, and go together on all texts: what passes as a name
is not blank and has no white space, and what is blank and not empty is all white space. So the rule
for ids says one thing at most, and nothing exactly of names; and the rule for data objects says
nothing of names (`Run.naming_consistent`).
-/

namespace BpmnAudit

open Text (isBlank isNcName hasSpace isSpace)

/-! ## What remarks add -/

namespace Run

theorem diagnostics_add (run : Run) (d : Diagnostic) :
    (run.add d).result.diagnostics.toList = run.diagnostics.toList ++ [d] := by
  unfold add
  split
  · simp [tell]
  · split <;> simp [tell]

theorem diagnostics_note (run : Run) (remark : Remark) :
    (run.note remark).diagnostics.toList =
      run.diagnostics.toList ++ remark.diagnostic?.toList := by
  cases remark with
  | problem p element => exact run.diagnostics_add _
  | oddProbability flow text => exact (List.append_nil _).symm

theorem diagnostics_noteAll (run : Run) (remarks : List Remark) :
    (run.noteAll remarks).diagnostics.toList =
      run.diagnostics.toList ++ remarks.filterMap Remark.diagnostic? := by
  unfold noteAll
  induction remarks generalizing run with
  | nil => exact (List.append_nil _).symm
  | cons remark remarks ih =>
    rw [List.foldl_cons, ih, diagnostics_note, List.append_assoc]
    cases h : remark.diagnostic? with
    | none => rw [List.filterMap_cons_none h]; rfl
    | some d => rw [List.filterMap_cons_some h]; rfl

end Run

/-! ## Ids of processes -/

namespace ProcessRule

/-- An id without a name in it has one problem: that there is none if it is missing or white space
all through, and else that it is no name. -/
theorem exists_idProblems_eq {text : Option String} (h : isNcName text = false) :
    ∃ problem ∈ [Problem.noProcessId, .invalidProcessId], idProblems text = [problem] ∧
      (problem.message = "Process has no id." ↔
        text = none ∨ ∃ s, text = some s ∧ ∀ c ∈ s.toList, isSpace c = true) := by
  have blank : isBlank text = true ↔
      text = none ∨ ∃ s, text = some s ∧ ∀ c ∈ s.toList, isSpace c = true := by
    cases text with
    | none => exact iff_of_true rfl (.inl rfl)
    | some s => simp [Text.isBlank_some_iff]
  rw [← blank]
  unfold idProblems
  cases isBlank text with
  | true => exact ⟨.noProcessId, by decide, rfl, iff_of_true rfl rfl⟩
  | false =>
    rw [h]
    exact ⟨.invalidProcessId, by decide, rfl, iff_of_false (by decide) Bool.false_ne_true⟩

end ProcessRule

/-! ## Names of data objects -/

theorem NodeRule.remarks_dataObject {scope : Scope} {place : Place} {d : DataObject}
    (h : isNcName d.name = true) :
    remarks scope ⟨place, .flow (.leaf (.dataObject d))⟩ .dataObject = ⟨[], none⟩ := by
  have filled := Text.isBlank_eq_false_iff.mpr (Text.says_of_isNcName h)
  have whole : hasSpace d.name = false := by
    obtain ⟨s, hs, -⟩ := Text.says_of_isNcName h
    rw [hs] at h ⊢
    exact Text.hasSpace_of_isNcName h
  show Progress.map _ ⟨Problem.when _ (isBlank d.name) ++ Problem.when _ (hasSpace d.name), none⟩ = _
  rw [filled, whole]
  rfl

/-! ## The tests and the rules -/

/-- On every text the tests go together: a name is not blank and has no white space, a blank text
that is not empty has white space, and a text is blank exactly if it is white space all through. So
of every process, in whatever state the run is, the rule for ids stops at nothing; it finds nothing
exactly if the id is a name, else one thing, which is that there is no id exactly if the id is
missing or white space all through. And the rule for data objects finds nothing with those whose
name is one. -/
theorem Run.naming_consistent (run : Run) (place : Place) (s : String) (p : Process)
    (d : DataObject) :
    (isNcName (some s) = true → isBlank (some s) = false ∧ hasSpace (some s) = false) ∧
      (s ≠ "" → isBlank (some s) = true → hasSpace (some s) = true) ∧
      (isBlank (some s) = true ↔ ∀ c ∈ s.toList, isSpace c = true) ∧
      (∃ after found, run.applyProcessRule ⟨place, .root (.process p)⟩ .id = ⟨after, none⟩ ∧
        after.diagnostics.toList = run.diagnostics.toList ++ found ∧
        (found = [] ↔ isNcName p.id = true) ∧
        (isNcName p.id = false → ∃ problem ∈ [Problem.noProcessId, .invalidProcessId],
          found = [⟨.error, problem, none⟩] ∧
            (problem.message = "Process has no id." ↔
              p.id = none ∨ ∃ t, p.id = some t ∧ ∀ c ∈ t.toList, isSpace c = true))) ∧
      (isNcName d.name = true →
        run.applyRule ⟨place, .flow (.leaf (.dataObject d))⟩ .dataObject = ⟨run, none⟩) := by
  refine ⟨fun name => ⟨?_, Text.hasSpace_of_isNcName name⟩, Text.hasSpace_of_isBlank,
    Text.isBlank_some_iff, ?_, fun name => ?_⟩
  · exact Text.isBlank_eq_false_iff.mpr (Text.says_of_isNcName name)
  · have found := ProcessRule.findings_eq_map (.root (.process p)) .id
    refine ⟨_, ProcessRule.findings (.root (.process p)) .id, rfl, run.diagnostics_noteAll _,
      (ProcessRule.findings_eq_nil_iff .id), fun unnamed => ?_⟩
    obtain ⟨problem, hp, one, missing⟩ := ProcessRule.exists_idProblems_eq unnamed
    refine ⟨problem, hp, ?_, missing⟩
    rw [found]
    exact congrArg (List.map fun p => (⟨.error, p, none⟩ : Diagnostic)) one
  · show Progress.map _ (NodeRule.remarks _ _ _) = _
    rw [NodeRule.remarks_dataObject name]
    rfl

end BpmnAudit
