import BpmnAudit.Document.Codec
import BpmnAudit.Text.Case
import BpmnAudit.Text.Predicates

/-!
# Settings

What a user may choose (`ValidatorConfig`): the mode of runs, whether simulation data are read, and
what is logged and measured. Settings come from a document or from environment variables
(`from_env`).
-/

namespace BpmnAudit

/-- How a validation is meant: of everything, or of one change as it is made. -/
inductive Mode where
  | batch
  | live
  deriving DecidableEq, Repr

namespace Mode

def tag : Mode → String
  | batch => "batch"
  | live => "live"

def all : List Mode := [batch, live]

def ofTag? (s : String) : Option Mode := all.find? (·.tag == s)

end Mode

structure Settings where
  defaultMode : Mode := .batch
  strictSimulation : Bool := false
  logLevel : String := "INFO"
  jsonLogs : Bool := false
  enableTracing : Bool := false
  enableMetrics : Bool := true
  deriving DecidableEq, Repr

namespace Settings

/-- The layout of settings in documents. -/
def layout : Codec Unit Settings Settings :=
  Settings.mk
    <$> .field (.word "default_mode" (Mode.all.map Mode.tag) Mode.ofTag? Mode.tag (some .batch))
          (·.defaultMode)
    <*> .field (.flag "strict_simulation" false) (·.strictSimulation)
    <*> .field (.text "log_level" "INFO") (·.logLevel)
    <*> .field (.flag "json_logs" false) (·.jsonLogs)
    <*> .field (.flag "enable_tracing" false) (·.enableTracing)
    <*> .field (.flag "enable_metrics" true) (·.enableMetrics)

def read : Json → Outcome Settings
  | .object members => layout.read members (.ok ())
  | _ => .fault .notElement

def toJson (settings : Settings) : Json := .object (layout.write settings .null)

/-! ## Environment variables -/

/-- Whether a variable's text means that a switch is on. -/
def isOn (text : String) : Bool :=
  let word := Text.trim text.toList
  ["1", "true", "yes", "on"].any (Text.isWordInAnyCase · word)

/-- The mode that a variable's text names; any other text means a batch. -/
def modeOf (text : String) : Mode :=
  let word := Text.trim text.toList
  (Mode.all.find? fun mode => Text.isWordInAnyCase mode.tag word).getD .batch

/-- The environment variables that settings are read from. -/
inductive Variable where
  | mode
  | strictSimulation
  | logLevel
  | jsonLogs
  | enableTracing
  | enableMetrics
  deriving DecidableEq, Repr

namespace Variable

def tag : Variable → String
  | mode => "BPMN_VALIDATOR_MODE"
  | strictSimulation => "BPMN_VALIDATOR_STRICT_SIMULATION"
  | logLevel => "BPMN_VALIDATOR_LOG_LEVEL"
  | jsonLogs => "BPMN_VALIDATOR_JSON_LOGS"
  | enableTracing => "BPMN_VALIDATOR_ENABLE_TRACING"
  | enableMetrics => "BPMN_VALIDATOR_ENABLE_METRICS"

def all : List Variable :=
  [mode, strictSimulation, logLevel, jsonLogs, enableTracing, enableMetrics]

end Variable

/-- The settings that environment variables choose. -/
def ofEnvironment (environment : String → Option String) : Settings :=
  let text (v : Variable) : Option String := environment v.tag
  let switch (v : Variable) (default : Bool) : Bool := ((text v).map isOn).getD default
  { defaultMode := ((text .mode).map modeOf).getD .batch
    strictSimulation := switch .strictSimulation false
    logLevel := Text.upper ((text .logLevel).getD "INFO")
    jsonLogs := switch .jsonLogs false
    enableTracing := switch .enableTracing false
    enableMetrics := switch .enableMetrics true }

end Settings

end BpmnAudit
