/-!
# Log records

What a run tells while it works: records, each with its severity and the part that speaks.
-/

namespace BpmnAudit

/-- How much a record matters. -/
inductive Severity where
  | debug
  | info
  | warning
  deriving DecidableEq, Repr

def Severity.tag : Severity → String
  | debug => "DEBUG"
  | info => "INFO"
  | warning => "WARNING"

/-- The part that speaks. -/
inductive LogSource where
  | run
  | rules
  | walk
  | process
  | validator
  | commandLine
  deriving DecidableEq, Repr

/-- The name under which a part speaks. -/
def LogSource.tag : LogSource → String
  | run => "bpmn_validator.validation.context"
  | rules => "bpmn_validator.validation.node_rules"
  | walk => "bpmn_validator.validation.traversal"
  | process => "bpmn_validator.validation.process_rules"
  | validator => "bpmn_validator.validation.validator.BPMNValidator"
  | commandLine => "bpmn_validator.tools.cli"

structure LogRecord where
  severity : Severity
  source : LogSource
  message : String
  deriving DecidableEq, Repr

def shownId (id : Option String) : String := id.getD "None"

end BpmnAudit
