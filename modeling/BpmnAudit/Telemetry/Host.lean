import BpmnAudit.Decimal.Binary64
import BpmnAudit.Json.Display
import BpmnAudit.Settings
import BpmnAudit.Telemetry.AttributeSet
import BpmnAudit.Telemetry.Emission
import BpmnAudit.Telemetry.Line

/-!
# The host's telemetry

What a host makes of emissions. Nothing is printed or measured before a manager
(`ObservabilityManager`) is started (`initialize`); the first manager stays until the host is reset.
A manager prints the lines of its level and above, and keeps a sum for each set of attributes of a
counter and a count for each one of a histogram. Whole amounts are summed exactly; a double turns
the sum into a double, if the sum is near to one.
-/

namespace BpmnAudit

/-! ## Levels -/

/-- The names of levels, with how much each matters. -/
def lineLevels : List (String × Int) :=
  [("TRACE", 5), ("DEBUG", 10), ("INFO", 20), ("SUCCESS", 25), ("WARNING", 30), ("ERROR", 40),
    ("CRITICAL", 50)]

/-- How a line is labelled, and how much it matters. -/
structure LineLevel where
  name : String
  rank : Int
  deriving DecidableEq, Repr

namespace LineLevel

def debug : LineLevel := ⟨"DEBUG", 10⟩

def info : LineLevel := ⟨"INFO", 20⟩

def warning : LineLevel := ⟨"WARNING", 30⟩

def error : LineLevel := ⟨"ERROR", 40⟩

def critical : LineLevel := ⟨"CRITICAL", 50⟩

/-- The level of a rank: one of five by name, any other one by its number. -/
def ofRank (rank : Int) : LineLevel :=
  ([debug, info, warning, error, critical].find? (·.rank == rank)).getD
    ⟨"Level " ++ toString rank, rank⟩

end LineLevel

/-- The level of a log record's line. -/
def Severity.lineLevel : Severity → LineLevel
  | debug => .debug
  | info => .info
  | warning => .warning

/-! ## Managers -/

/-- What a manager is started with. -/
structure HostSettings where
  service : String := "bpmn-validator"
  logLevel : String := "INFO"
  jsonLogs : Bool := false
  enableTracing : Bool := false
  enableMetrics : Bool := true
  deriving DecidableEq, Repr

/-- The settings of a service under the settings of its validator. -/
def HostSettings.ofSettings (settings : Settings) (service : String) : HostSettings :=
  { service
    logLevel := settings.logLevel
    jsonLogs := settings.jsonLogs
    enableTracing := settings.enableTracing
    enableMetrics := settings.enableMetrics }

/-- The sum of a counter for a set of attributes; none if a double came to a whole sum that is
nearest to no finite double. -/
structure CounterPoint where
  attributes : Json.Members
  sum : Option Number

/-- The count of a histogram for a set of attributes. -/
structure HistogramPoint where
  attributes : Json.Members
  count : Nat

structure Manager where
  settings : HostSettings
  /-- The least rank of the lines it prints. -/
  threshold : Int
  counter : List CounterPoint := []
  histogram : List HistogramPoint := []

/-- A host: its manager, if one was started, and the lines printed so far. -/
structure Host where
  manager : Option Manager := none
  lines : Array HostLine := #[]

/-! ## Amounts -/

namespace Number

/-- Whether a number is nearest to a finite double. -/
def isFinite : Number → Bool
  | whole n => Decimal.nearestBits n.natAbs 1 != Decimal.infinityBits
  | real x => x.isFinite

/-- A number as a double; none for whole numbers that are nearest to no finite one. -/
def toFloat? : Number → Option Float
  | whole n => if (whole n).isFinite then some (Float.ofInt n) else none
  | real x => some x

/-- A sum; whole only if both numbers are. -/
def add? : Number → Number → Option Number
  | whole a, whole b => some (whole (a + b))
  | a, b =>
    match a.toFloat?, b.toFloat? with
    | some x, some y => some (real (x + y))
    | _, _ => none

/-- Whether a number is below zero. -/
def isNegative : Number → Bool
  | whole n => n < 0
  | real x => x < 0

end Number

namespace Amount

/-- The number that an amount counts as. -/
def value? : Amount → Option Number
  | number n => some n
  | truth b => some (.whole (if b then 1 else 0))
  | other _ => none

/-- Whether an amount is counted one by one. -/
def isWhole : Amount → Bool
  | number (.whole _) => true
  | number (.real _) => false
  | truth _ => true
  | other _ => false

/-- Why an amount cannot be measured, if it cannot. Amounts below zero and doubles that are not
finite are no fault, they go nowhere; but whether a number is near to a finite double is asked
before its sign. -/
def fault? : Amount → Option AmountFault
  | number (.whole n) => if (Number.whole n).isFinite then none else some .tooLarge
  | number (.real _) | truth _ => none
  | other value => some (.notNumber value.typeName)

/-- The number that an amount adds to what is measured. -/
def measurable? (amount : Amount) : Option Number :=
  amount.value?.filter fun n => !n.isNegative && n.isFinite

def display : Amount → String
  | number n => Json.displayNumber n
  | truth b => Json.display (.bool b)
  | other value => value.bareText

end Amount

/-! ## Points -/

/-- Adds an amount to the sum for a set of attributes. -/
def addPoint (attributes : Json.Members) (n : Number) : List CounterPoint → List CounterPoint
  | [] => [⟨attributes, Number.add? (.whole 0) n⟩]
  | p :: rest =>
    if sameAttributes p.attributes attributes then
      { p with sum := p.sum.bind (·.add? n) } :: rest
    else p :: addPoint attributes n rest

/-- Adds one to the count for a set of attributes. -/
def countPoint (attributes : Json.Members) : List HistogramPoint → List HistogramPoint
  | [] => [⟨attributes, 1⟩]
  | p :: rest =>
    if sameAttributes p.attributes attributes then { p with count := p.count + 1 } :: rest
    else p :: countPoint attributes rest

namespace Manager

/-- Why a manager cannot measure an amount, if it cannot. -/
def fault? (manager : Manager) (amount : Amount) : Option AmountFault :=
  if manager.settings.enableMetrics then amount.fault? else none

/-- Takes an amount in: whole amounts and totals go to the counter, others to the histogram. What
cannot be measured, is below zero or is not finite goes nowhere. -/
def measure (manager : Manager) (name : String) (amount : Amount) (attributes : Json.Members) :
    Manager :=
  if !manager.settings.enableMetrics then manager
  else
    let attributes := namedMembers attributes
    match amount.measurable? with
    | none => manager
    | some n =>
      if name.endsWith "_total" || amount.isWhole then
        { manager with counter := addPoint attributes n manager.counter }
      else { manager with histogram := countPoint attributes manager.histogram }

/-- Takes in the time that something took. -/
def measureTime (manager : Manager) (name : String) : Manager :=
  manager.measure name (.number (.real 0)) []

def pointJson (name : String) (attributes : Json.Members) (n : Number) : Json :=
  .array
    [.text name,
     .array ((sortedAttributes attributes).map fun (key, value) => .array [.text key, value]),
     .number n]

/-- A point of the counter as a value, if its sum is a number. -/
def counterJson? (p : CounterPoint) : Option Json :=
  p.sum.map (pointJson "validation_diagnostics_total" p.attributes)

/-- A point of the histogram as a value. -/
def histogramJson (p : HistogramPoint) : Json :=
  pointJson "validation_duration_ms" p.attributes (.whole p.count)

/-- Every point, by its text; none at all if a sum is none. -/
def points? (manager : Manager) : Option (List Json) :=
  match manager.counter.mapM counterJson? with
  | none => none
  | some counter =>
    some ((counter ++ manager.histogram.map histogramJson).mergeSort
      fun a b => a.compactAscii ≤ b.compactAscii)

end Manager

/-! ## What a host does -/

namespace Host

/-- Prints a line if the manager's level lets it through. -/
def print (host : Host) (level : LineLevel) (message : String) (extra : Json.Members := [])
    (exception : Option String := none) : Host :=
  match host.manager with
  | none => host
  | some manager =>
    if manager.threshold ≤ level.rank then
      { host with
        lines := host.lines.push
          { json := manager.settings.jsonLogs, level := level.name, message, extra, exception } }
    else host

/-- Prints a line for whoever debugs. -/
def debug (host : Host) (message : String) : Host := host.print .debug message

/-- Starts a manager, unless there is one; whether there was one. A level without a name that is
known starts none. -/
def start (host : Host) (settings : HostSettings) : Option Bool × Host :=
  match host.manager with
  | some _ => (some true, host)
  | none =>
    match lineLevels.lookup settings.logLevel with
    | none => (none, host)
    | some threshold =>
      let host := { host with manager := some { settings, threshold } }
      let host :=
        if settings.enableTracing then host.debug "OpenTelemetry tracing initialized" else host
      let host :=
        if settings.enableMetrics then host.debug "OpenTelemetry metrics initialized" else host
      (some false, host.debug
        ("Observability initialized: service=" ++ settings.service ++ ", log_level=" ++
          settings.logLevel))

/-- The refusal of a level's name. -/
def unknownLevelMessage (name : String) : String := "Level '" ++ name ++ "' does not exist"

/-- Forgets the manager. -/
def reset (host : Host) : Host := { host with manager := none }

/-- Takes an amount in, unless the manager cannot measure it. -/
def measure (host : Host) (name : String) (amount : Amount) (attributes : Json.Members) :
    Except AmountFault Host :=
  match host.manager.bind (·.fault? amount) with
  | some fault => .error fault
  | none =>
    let host : Host :=
      { host with manager := host.manager.map (·.measure name amount attributes) }
    .ok (host.debug (measuredMessage name amount.display))

/-- Takes in the time that something took. -/
def elapsed (host : Host) (name : String) : Host :=
  let host := host.debug (timerMessage name hiddenTime)
  let name := durationName name
  let host : Host := { host with manager := host.manager.map (·.measureTime name) }
  host.debug (measuredMessage name hiddenTime)

/-- The span of an activity and the attributes it keeps, if activities are traced. -/
def span? (host : Host) (name : String) (attributes : Json.Members) :
    Option (String × Json.Members) :=
  match host.manager with
  | none => none
  | some manager =>
    if manager.settings.enableTracing then
      some (name, spanAttributes attributes)
    else none

/-- Takes an emission in. An amount that cannot be measured leaves the host as it is. -/
def receive (host : Host) : Emission → Host
  | .record record => host.print record.severity.lineLevel record.message
  | .elapsed name => host.elapsed name
  | .measured name amount attributes =>
    match host.measure name amount attributes with
    | .ok host => host
    | .error _ => host

/-- Takes emissions in, one after the other. -/
def receiveAll (host : Host) (emissions : List Emission) : Host := emissions.foldl receive host

end Host

end BpmnAudit
