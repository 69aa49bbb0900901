import BpmnAudit.Proofs.Run.Naming
import BpmnAudit.Proofs.WellFormed.Rules

/-!
# Event definitions

The rules for catch and throw events go through the event definitions of an event and find with
each what is wrong with this definition, whatever the others are (`Run.applyRule_eventDefinitions`).
They agree on definitions that need a reference: either it is there, or each rule says once that it
is missing. They do not agree on timers. To wait for a timer any of its three texts will do; to set
one off takes a date and a duration, and no cycle. So whatever timer can be set off can be waited
for, and one that cannot be waited for has two problems if it is set off.
-/

namespace BpmnAudit

open Text (Says)

instance (text : Option String) : Decidable (Says text) :=
  decidable_of_iff (Text.isBlank text = false) Text.isBlank_eq_false_iff

theorem Problem.when_isBlank (p : Problem) (text : Option String) :
    p.when (Text.isBlank text) = if Says text then [] else [p] := by
  simp only [← Text.isBlank_eq_false_iff]
  cases Text.isBlank text <;> rfl

theorem Problem.when_not_isBlank (p : Problem) (text : Option String) :
    p.when (!Text.isBlank text) = if Says text then [p] else [] := by
  simp only [← Text.isBlank_eq_false_iff]
  cases Text.isBlank text <;> rfl

namespace EventDefinition

instance (d : EventDefinition) : Decidable d.Refers :=
  decidable_of_iff (d.missing? = none) missing?_eq_none_iff

/-! ## References -/

/-- The reference that an event definition needs; a timer needs none. -/
def reference? : EventDefinition → Option EventDetail
  | timer _ => none
  | signal _ => some .signalRef
  | error _ => some .errorRef
  | conditional _ => some .condition
  | escalation _ => some .escalationRef
  | message _ => some .messageRef
  | compensate _ => some .activityRef

theorem missing?_eq_ite (d : EventDefinition) :
    d.missing? = if d.Refers then none else d.reference? := by
  by_cases h : d.Refers
  · rw [if_pos h, missing?_eq_none_iff.mpr h]
  · rw [if_neg h]
    rw [← missing?_eq_none_iff] at h
    cases d <;> simp_all [missing?, reference?]

/-- An event that waits for something else than a timer misses the reference at most, and so does
one that sets it off. -/
theorem problems_of_reference? {d : EventDefinition} {detail : EventDetail}
    (h : d.reference? = some detail) :
    d.catchProblems = (if d.Refers then [] else [.catchWithout detail]) ∧
      d.throwProblems = if d.Refers then [] else [.throwWithout detail] := by
  have missing := d.missing?_eq_ite
  rw [h] at missing
  cases d with
  | timer d => cases h
  | _ =>
    unfold catchProblems throwProblems
    dsimp only
    rw [missing]
    split <;> exact ⟨rfl, rfl⟩

/-! ## Timers -/

theorem messages_catchProblems_timer (d : TimerDefinition) :
    (timer d).catchProblems.map Problem.message =
      if Says d.timeDate ∨ Says d.timeDuration ∨ Says d.timeCycle then []
      else ["Catch Event has no timedate.", "Catch Event has no timeduration.",
        "Catch Event has no timecycle."] := by
  simp only [catchProblems, ← Text.isBlank_eq_false_iff]
  cases Text.isBlank d.timeDate <;> cases Text.isBlank d.timeDuration <;>
    cases Text.isBlank d.timeCycle <;> decide

theorem messages_throwProblems_timer (d : TimerDefinition) :
    (timer d).throwProblems.map Problem.message =
      (if Says d.timeDate then [] else ["Throw Event has no timedate."]) ++
        (if Says d.timeDuration then [] else ["Throw Event has no timeduration."]) ++
        if Says d.timeCycle then ["Throw Event has no timecycle."] else [] := by
  simp only [throwProblems, ← Text.isBlank_eq_false_iff]
  cases Text.isBlank d.timeDate <;> cases Text.isBlank d.timeDuration <;>
    cases Text.isBlank d.timeCycle <;> decide

theorem Throwable.catchable {d : EventDefinition} (h : d.Throwable) : d.Catchable := by
  cases d with
  | timer d => exact .inl h.1
  | _ => exact h

/-- A timer that an event cannot wait for lacks two things if the event sets it off. -/
theorem throwProblems_of_not_catchable {d : TimerDefinition} (h : (timer d).catchProblems ≠ []) :
    (timer d).throwProblems = [.throwWithout .timeDate, .throwWithout .timeDuration] := by
  rw [ne_eq, catchProblems_eq_nil_iff, Catchable, not_or, not_or] at h
  obtain ⟨date, duration, cycle⟩ := h
  rw [throwProblems, Problem.when_isBlank, Problem.when_isBlank, Problem.when_not_isBlank,
    if_neg date, if_neg duration, if_neg cycle]
  rfl

/-- Of the two rules, the one for throw events is the harder on timers: what it accepts the other
one accepts, and if the other one does not, it has two problems. -/
theorem timer_catch_of_throw (d : TimerDefinition) :
    ((timer d).throwProblems = [] → (timer d).catchProblems = []) ∧
      ((timer d).catchProblems ≠ [] → (timer d).throwProblems.length = 2) := by
  constructor
  · rw [throwProblems_eq_nil_iff, catchProblems_eq_nil_iff]
    exact Throwable.catchable
  · intro rejected
    rw [throwProblems_of_not_catchable rejected]
    rfl

end EventDefinition

/-! ## Events -/

namespace Run

/-- A rule that judges one field adds what is wrong with it, and does not stop where the field is
there. -/
theorem applyRule_of_problems_eq (run : Run) {l : Located} {rule : NodeRule}
    {problems : List Problem} (flows : rule.readsFlows = false)
    (h : rule.problems run.settings.strictSimulation run.adHoc l.element = ⟨problems, none⟩) :
    (run.applyRule l rule).misfit = none ∧
      (run.applyRule l rule).result.diagnostics.toList =
        run.diagnostics.toList ++ problems.map fun p => ⟨.error, p, some l⟩ := by
  have told : rule.remarks run.scope l = ⟨l.remarks problems, none⟩ := by
    unfold NodeRule.remarks
    rw [flows, if_neg Bool.false_ne_true]
    exact congrArg (Progress.map l.remarks) h
  have still : rule.looksUp l.element = false := by rw [NodeRule.looksUp, flows, Bool.false_and]
  unfold applyRule
  rw [still, if_neg Bool.false_ne_true]
  dsimp only
  rw [told]
  refine ⟨rfl, ?_⟩
  rw [← Located.diagnostics_remarks]
  exact run.diagnostics_noteAll _

/-- Whatever a run did before, the rules for catch and throw events add what is wrong with the event
definitions of an event, one after the other, each judged by itself. With a definition that needs a
reference the two find the same: that it is missing, or nothing. With a timer the one finds three
things if none of its texts is there, and else nothing; the other asks for each of the texts, and
finds something wrong with the cycle if it is there. A timer that can be set off can be waited for,
and one that cannot be waited for has two problems if it is set off. -/
theorem applyRule_eventDefinitions (run : Run) {l : Located} {definitions : List EventDefinition}
    (h : l.element.eventDefinitions? = some definitions) :
    ((run.applyRule l .catchEvent).misfit = none ∧
      (run.applyRule l .catchEvent).result.diagnostics.toList =
        run.diagnostics.toList ++
          definitions.flatMap fun d => d.catchProblems.map fun p => ⟨.error, p, some l⟩) ∧
      ((run.applyRule l .throwEvent).misfit = none ∧
        (run.applyRule l .throwEvent).result.diagnostics.toList =
          run.diagnostics.toList ++
            definitions.flatMap fun d => d.throwProblems.map fun p => ⟨.error, p, some l⟩) ∧
      ∀ d : EventDefinition,
        (∀ detail, d.reference? = some detail →
          d.Refers ∧ d.catchProblems = [] ∧ d.throwProblems = [] ∨
          ¬ d.Refers ∧ d.catchProblems = [.catchWithout detail] ∧
            d.throwProblems = [.throwWithout detail]) ∧
        (d.reference? = none → ∃ timer, d = .timer timer ∧
          d.catchProblems.map Problem.message =
            (if Says timer.timeDate ∨ Says timer.timeDuration ∨ Says timer.timeCycle then []
            else ["Catch Event has no timedate.", "Catch Event has no timeduration.",
              "Catch Event has no timecycle."]) ∧
          d.throwProblems.map Problem.message =
            (if Says timer.timeDate then [] else ["Throw Event has no timedate."]) ++
              (if Says timer.timeDuration then [] else ["Throw Event has no timeduration."]) ++
              (if Says timer.timeCycle then ["Throw Event has no timecycle."] else []) ∧
          (d.throwProblems = [] → d.catchProblems = []) ∧
          (d.catchProblems ≠ [] → d.throwProblems.length = 2)) := by
  refine ⟨?_, ?_, fun d => ⟨fun detail needed => ?_, fun unneeded => ?_⟩⟩
  · rw [← List.map_flatMap]
    refine run.applyRule_of_problems_eq rfl ?_
    unfold NodeRule.problems
    rw [h]
    rfl
  · rw [← List.map_flatMap]
    refine run.applyRule_of_problems_eq rfl ?_
    unfold NodeRule.problems
    rw [h]
    rfl
  · obtain ⟨caught, thrown⟩ := EventDefinition.problems_of_reference? needed
    rw [caught, thrown]
    by_cases refers : d.Refers
    · rw [if_pos refers, if_pos refers]
      exact .inl ⟨refers, rfl, rfl⟩
    · rw [if_neg refers, if_neg refers]
      exact .inr ⟨refers, rfl, rfl⟩
  · cases d with
    | timer timer =>
      exact ⟨timer, rfl, EventDefinition.messages_catchProblems_timer timer,
        EventDefinition.messages_throwProblems_timer timer,
        EventDefinition.timer_catch_of_throw timer⟩
    | _ => cases unneeded

/-- An event with a bare timer, an error that has no code, a signal that it refers to and a timer
that has its three texts, of which the last one is for catch events only. -/
theorem applyRule_eventDefinitions_mixed :
    let definitions : List EventDefinition :=
      [.timer {}, .error { errorRef := some {} }, .signal { signalRef := some "s" },
        .timer { timeDate := some "d", timeDuration := some " t ", timeCycle := some "c" }]
    let event : Located := ⟨[0], .flow (.leaf (.intermediateCatchEvent { definitions }))⟩
    (({} : Run).applyRule event .catchEvent).result.diagnostics.toList.map (·.message) =
        ["Catch Event has no timedate.", "Catch Event has no timeduration.",
          "Catch Event has no timecycle.", "Catch Event has no errorref."] ∧
      (({} : Run).applyRule event .throwEvent).result.diagnostics.toList.map (·.message) =
        ["Throw Event has no timedate.", "Throw Event has no timeduration.",
          "Throw Event has no errorref.", "Throw Event has no timecycle."] := by
  intro definitions event
  have has : event.element.eventDefinitions? = some definitions := rfl
  obtain ⟨⟨-, caught⟩, ⟨-, thrown⟩, -⟩ := ({} : Run).applyRule_eventDefinitions has
  rw [caught, thrown]
  decide

end Run

end BpmnAudit
