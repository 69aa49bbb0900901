import BpmnAudit.Audit.Scope
import BpmnAudit.Text.Case
import BpmnAudit.Text.Predicates

/-!
# Rules for processes

Each rule (`check_process_id` and so on) looks at one aspect of a process. What it finds wrong is
told of the document as a whole and of no element.
-/

namespace BpmnAudit

/-- Whether the text of the attribute `adHoc` says yes. -/
def isAdHocText : Option String → Bool
  | none => false
  | some text => Text.isWordInAnyCase "true" (Text.trim text.toList)

/-- Whether a process leaves the order of its nodes open. -/
def Element.isAdHoc (e : Element) : Bool :=
  isAdHocText (e.base?.bind fun b => b.attributes.get? "adHoc")

/-- A rule for processes. -/
inductive ProcessRule where
  | id
  | packageName
  | name
  | startEnd
  deriving DecidableEq, Repr

namespace ProcessRule

def tag : ProcessRule → String
  | id => "check_process_id"
  | packageName => "check_process_package_name"
  | name => "check_process_name"
  | startEnd => "check_process_start_end"

/-- Every rule, in the order in which they are applied. -/
def all : List ProcessRule := [id, packageName, name, startEnd]

/-- What is wrong with the id of a process. -/
def idProblems (text : Option String) : List Problem :=
  if Text.isBlank text then [.noProcessId]
  else Problem.invalidProcessId.when !(Text.isNcName text)

/-- What a rule finds wrong with a process. -/
def problems (e : Element) : ProcessRule → Progress (List Problem)
  | id => e.judge "id" e.base? fun b => idProblems b.id
  | packageName =>
    e.judge "extension_attributes" e.base? fun b =>
      Problem.noPackageName.when (Text.isBlank (b.attributes.get? "packageName"))
  | name => e.judge "name" e.base? fun b => Problem.noProcessName.when (Text.isBlank b.name)
  | startEnd =>
    e.judge "flow_elements" e.flowElements? fun es =>
      Problem.noStartNode.when (!es.any (·.kind == .startEvent) && !e.isAdHoc) ++
        Problem.noEndNode.when (!es.any (·.kind == .endEvent) && !e.isAdHoc)

/-- What a rule says of a process. -/
def remarks (e : Element) (rule : ProcessRule) : Progress (List Remark) :=
  (rule.problems e).map (·.map fun p => .problem p none)

end ProcessRule

end BpmnAudit
