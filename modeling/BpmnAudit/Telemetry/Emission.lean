import BpmnAudit.Json.Basic
import BpmnAudit.Log

/-!
# Emissions

What the library tells its host besides its answers: log records, times taken (`Timer`), and amounts
(`record_metric`).
-/

namespace BpmnAudit

/-- An amount to measure: a number, or a truth value that counts as none or one. Any other value
can be shown as an amount but not measured. -/
inductive Amount where
  | number (n : Number)
  | truth (b : Bool)
  | other (value : Json)

/-- Why an amount cannot be measured. -/
inductive AmountFault where
  /-- A whole number that is nearest to no finite double. -/
  | tooLarge
  | notNumber (typeName : String)
  deriving DecidableEq, Repr

def AmountFault.message : AmountFault → String
  | tooLarge => "int too large to convert to float"
  | notNumber typeName => "must be real number, not " ++ typeName

/-- The name of the time that a validation takes. -/
def validationTimer : String := "validation"

/-- The name under which the time of a name is measured. -/
def durationName (timer : String) : String := timer ++ "_duration"

inductive Emission where
  | record (record : LogRecord)
  /-- The time that something took. -/
  | elapsed (name : String)
  | measured (name : String) (amount : Amount) (attributes : Json.Members)

end BpmnAudit
