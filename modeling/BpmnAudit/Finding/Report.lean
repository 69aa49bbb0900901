import BpmnAudit.Finding.Problem
import BpmnAudit.Json.Display
import BpmnAudit.Model.Tree

/-!
# Reports

A diagnostic is a problem with its level and the element that has it. A report (`ValidationResult`)
keeps the diagnostics of a run in order and counts them by level, the levels in the order in which
they first come up.
-/

namespace BpmnAudit

/-- How grave a problem is. -/
inductive Level where
  | warning
  | error
  deriving DecidableEq, Repr

namespace Level

def tag : Level → String
  | warning => "warning"
  | error => "error"

def ofTag? (s : String) : Option Level := [warning, error].find? (·.tag == s)

/-- Reads the word for a level; any other value is refused in words. -/
def read : Json → Except String Level
  | .text s =>
    match ofTag? s with
    | some level => .ok level
    | none => .error (refusal (.text s))
  | value => .error (refusal value)
where
  /-- The refusal of a value. -/
  refusal (value : Json) : String := value.display ++ " is not a valid ValidationLevel"

end Level

/-- A problem of an element, or of the document as a whole. -/
structure Diagnostic where
  level : Level
  problem : Problem
  element : Option Located
  deriving DecidableEq

namespace Diagnostic

def message (d : Diagnostic) : String := d.problem.message

/-- The id of the element, if there are both. -/
def elementId (d : Diagnostic) : Option String := d.element.bind (·.element.id)

/-- The tag of the element, if there are both. -/
def elementType (d : Diagnostic) : Option String := d.element.bind (·.element.typeTag)

def toJson (d : Diagnostic) : Json :=
  .object
    [("level", .text d.level.tag),
     ("message", .text d.message),
     ("element_id", .optionalText d.elementId),
     ("element_type", .optionalText d.elementType)]

end Diagnostic

/-- Adds one to the count of a level. -/
def countLevel (level : Level) : List (Level × Nat) → List (Level × Nat)
  | [] => [(level, 1)]
  | (l, n) :: rest => if l = level then (l, n + 1) :: rest else (l, n) :: countLevel level rest

/-- The outcome of a run. -/
structure Report where
  diagnostics : List Diagnostic
  issuesByLevel : List (Level × Nat)
  deriving DecidableEq

namespace Report

def ofDiagnostics (diagnostics : List Diagnostic) : Report :=
  ⟨diagnostics, diagnostics.foldl (fun counts d => countLevel d.level counts) []⟩

/-- Whether nothing was found. -/
def ok (r : Report) : Bool := r.diagnostics.isEmpty

def total (r : Report) : Nat := r.diagnostics.length

def ofLevel (r : Report) (level : Level) : List Diagnostic :=
  r.diagnostics.filter (·.level = level)

/-- The diagnostics that are errors. -/
def errors (r : Report) : List Diagnostic := r.ofLevel .error

/-- The diagnostics that are warnings. -/
def warnings (r : Report) : List Diagnostic := r.ofLevel .warning

def messages (r : Report) : List String := r.diagnostics.map (·.message)

/-- The diagnostics of the elements with an id. No id at all is an id of its own. -/
def forElement (r : Report) (id : Option String) : List Diagnostic :=
  r.diagnostics.filter (·.elementId = id)

def toJson (r : Report) : Json :=
  .object
    [("ok", .bool r.ok),
     ("total_issues", .nat r.total),
     ("issues_by_level", .object (r.issuesByLevel.map fun (level, n) => (level.tag, .nat n))),
     ("diagnostics", .array (r.diagnostics.map Diagnostic.toJson))]

end Report

end BpmnAudit
