import BpmnAudit.Audit.Misfit
import BpmnAudit.Finding.Problem

/-!
# Scopes and remarks

What a rule may read of its run (`ValidationContext`) besides the element that it checks, and what
it may say to it.
-/

namespace BpmnAudit

/-- What a rule may read besides its element. -/
structure Scope where
  /-- Whether simulation data are read. -/
  strict : Bool
  /-- Whether the process leaves the order of its nodes open. -/
  adHoc : Bool
  /-- The sequence flow of an id among the siblings of the element. -/
  flow? : String → Option Placed
  /-- Why sequence flows cannot be looked up, if they cannot. -/
  noFlows : Option Misfit := none

/-- What a rule says. -/
inductive Remark where
  /-- A problem of an element, or of the process as a whole. -/
  | problem (problem : Problem) (element : Option Located)
  /-- The probability of a sequence flow is no number. -/
  | oddProbability (flow : Placed) (text : String)
  deriving DecidableEq

/-- The problems of an element as remarks. -/
def Located.remarks (l : Located) (problems : List Problem) : List Remark :=
  problems.map fun p => .problem p (some l)

/-- What is wrong with a field of an element. -/
def Element.judge {α : Type} (e : Element) (field : String) (value : Option α)
    (problems : α → List Problem) : Progress (List Problem) :=
  match value with
  | some a => ⟨problems a, none⟩
  | none => ⟨[], some (.lacks e.label field)⟩

/-- A problem if a condition holds. -/
def Problem.when (p : Problem) (condition : Bool) : List Problem := if condition then [p] else []

end BpmnAudit
