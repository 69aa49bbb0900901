import BpmnAudit.Document.Elements
import BpmnAudit.Json.Parser
import BpmnAudit.Json.Printer

/-!
# Documents as texts

Loading a text as an element of a shape (`model_validate_json`), and dumping an element as a text
(`model_dump_json`). A dump loads again as the same shape, and gives the same element.
-/

namespace BpmnAudit

/-- Why a text did not load. -/
inductive LoadFailure where
  /-- The text is no JSON value. -/
  | malformed
  /-- The value is no element of the shape; every fault of it, in the order of its layout. -/
  | faulty (faults : List Fault)
  deriving DecidableEq, Repr

/-- The number of faults that a report of the failure counts. -/
def LoadFailure.count : LoadFailure → Nat
  | malformed => 1
  | faulty faults => faults.length

namespace Element

/-- Loads a text as an element of a shape. -/
def load (shape : Shape) (text : List Char) : Except LoadFailure Element :=
  match Json.parse text with
  | none => .error .malformed
  | some json =>
    match read shape json with
    | .ok e => .ok e
    | .error faults => .error (.faulty faults)

/-- The text of an element: every field of it, on one line. -/
def dump (e : Element) : String := e.toJson.compact

/-- Whether the dump of an element loads as the element. -/
def reloads (e : Element) : Bool :=
  match load e.shape e.dump.toList with
  | .ok reloaded => reloaded == e
  | .error _ => false

end Element

end BpmnAudit
