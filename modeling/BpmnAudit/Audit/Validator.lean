import BpmnAudit.Audit.Walk
import BpmnAudit.Json.Display
import BpmnAudit.Telemetry.Emission

/-!
# Validation

One request to a validator (`BPMNValidator.validate`): what to validate, in which mode, and where to
find the container of a single element. A batch audits a whole document, or the container that owns
the element; a live validation only tells of the change. Each request gets a run of its own; only
the elements reported to the host outlive it.
-/

namespace BpmnAudit

/-- What a host can hand over: nothing, an element of a document, or a value of its own. -/
inductive Content where
  | nothing
  | element (located : Located)
  | value (value : Json)

/-- The subject of a request: content as it is, or drawn as a diagram. -/
inductive Subject where
  | plain (content : Content)
  | diagram (content : Content)

/-- The name of a content's sort in log records. -/
def Content.label : Content → String
  | nothing => "NoneType"
  | element l => l.element.label
  | value v => v.typeName

/-- The id of content, if there is one. -/
def Content.id : Content → Option String
  | element l => l.element.id
  | _ => none

/-- The element, of content that is one. -/
def Content.located? : Content → Option Located
  | element l => some l
  | _ => none

namespace Subject

/-- The name of a subject's sort in log records. -/
def label : Subject → String
  | plain content => content.label
  | diagram _ => "BPMNDiagram"

/-- The id of a subject; a diagram has none. -/
def id : Subject → Option String
  | plain content => content.id
  | diagram _ => none

/-- What a subject is about: a diagram is about its content. -/
def content : Subject → Content
  | plain content => content
  | diagram content => content

/-- The element, of subjects that are one. -/
def located? : Subject → Option Located
  | plain content => content.located?
  | diagram _ => none

def isNothing : Subject → Bool
  | plain .nothing => true
  | _ => false

end Subject

structure Request where
  root : Subject
  /-- The container that owns the root. -/
  container : Subject := .plain .nothing
  /-- Where to look for the container that owns the root. -/
  definitions : Subject := .plain .nothing
  /-- The mode; null stands for the mode of the settings. -/
  mode : Json := .null
  /-- The new value, in live mode. -/
  change : Json := .null

/-- Why a request has no report. -/
inductive Refusal where
  | noRoot
  | unknownMode (value : Json)
  /-- What the request names for a look-up or a walk does not allow it. -/
  | misfit (misfit : Misfit)

def Refusal.message : Refusal → String
  | noRoot => "Validation root must not be None"
  | unknownMode value => value.display ++ " is not a valid ValidationMode"
  | misfit m => m.message

/-- The mode of a request under settings. -/
def Request.mode? (request : Request) (settings : Settings) : Option Mode :=
  match request.mode with
  | .null => some settings.defaultMode
  | .text word => Mode.ofTag? word
  | _ => none

/-- The answer to a request: a report or a refusal, the elements reported to the host, and what
was told on the way. -/
structure Answer where
  outcome : Except Refusal Report
  reported : List Located := []
  emissions : List Emission := []

/-- The container that a subject is by its tag. -/
def Subject.owner (subject : Subject) : Except Misfit (Option Owner) :=
  match subject.located? with
  | none => .ok none
  | some l => if l.element.kind?.any (·.isContainer) then l.asOwner.map some else .ok none

/-- The container in a subject that owns the element at a place. -/
def Subject.containerOf (subject : Subject) (place : Place) : Except Misfit (Option Owner) :=
  match subject.located?.bind (·.owners?) with
  | none => .error (.lacks subject.label "find_container_of")
  | some owners => .ok (owners.findSome? (·.containerOf? place))

/-- The container to audit for a flow element: the one that the request names, or else the one
that owns the element. -/
def Request.owner (request : Request) (l : Located) : Except Misfit (Option Owner) :=
  if !request.container.isNothing then request.container.owner
  else if request.definitions.isNothing then .ok none
  else (request.definitions.containerOf l.place).map (·.filter (·.isTagged))

namespace Run

/-- Tells something in the name of the validator. -/
def validatorTells (run : Run) (severity : Severity) (message : String) : Run :=
  run.tell ⟨severity, .validator, message⟩

/-- Audits what a request is about. -/
def audit (run : Run) (request : Request) : Progress Run :=
  let nothingFor := "Nothing to validate for " ++ request.root.content.label
  match request.root.content with
  | .element ⟨place, .definitions d⟩ => ⟨run.auditDefinitions place d, none⟩
  | .element l =>
    if l.element.isFlowElement then
      match request.owner l with
      | .error misfit => ⟨run, some misfit⟩
      | .ok (some owner) => ⟨((run.enterProcess none).result.walk owner).2, none⟩
      | .ok none =>
        ⟨run.validatorTells .debug
          ("No flow elements container found for " ++ shownId l.element.id), none⟩
    else ⟨run.validatorTells .debug nothingFor, none⟩
  | _ => ⟨run.validatorTells .debug nothingFor, none⟩

end Run

/-- What a batch measures when metrics are on. -/
def Settings.measures (settings : Settings) (emissions : List Emission) : List Emission :=
  if settings.enableMetrics then emissions else []

/-- The word for a truth value in log records. -/
def shownBool (b : Bool) : String := if b then "True" else "False"

namespace Settings

/-- Answers a batch request. A misfit ends it without a report, but its time is taken all the
same. -/
def answerBatch (settings : Settings) (request : Request) : Answer :=
  let label := request.root.label
  let run : Run := { settings }
  let run :=
    run.validatorTells .debug ("Batch: validating " ++ label ++ " " ++ shownId request.root.id)
  let ⟨run, misfit⟩ := run.audit request
  let reported := run.reported.toList
  let emissions :=
    run.log.toList.map .record ++ settings.measures [.elapsed validationTimer]
  match misfit with
  | some misfit => { outcome := .error (.misfit misfit), reported, emissions }
  | none =>
    let report := Report.ofDiagnostics run.diagnostics.toList
    let last : LogRecord := ⟨.info, .validator,
      "Validated " ++ label ++ ": ok=" ++ shownBool report.ok ++ ", diagnostics=" ++
        toString report.total⟩
    { outcome := .ok report
      reported
      emissions :=
        emissions ++
          settings.measures
            [.measured "validation_diagnostics_total" (.number (.whole report.total))
              [("root_type", .text label)]] ++
          [.record last] }

def answerLive (request : Request) : Answer :=
  { outcome := .ok (Report.ofDiagnostics [])
    emissions :=
      [.record ⟨.info, .validator,
        "Live: " ++ request.root.label ++ " " ++ shownId request.root.id ++ ": " ++
          request.change.display⟩] }

/-- Answers a request. A missing root is refused before the mode is looked at. -/
def answer (settings : Settings) (request : Request) : Answer :=
  if request.root.isNothing then { outcome := .error .noRoot }
  else
    match request.mode? settings with
    | none => { outcome := .error (.unknownMode request.mode) }
    | some .live => answerLive request
    | some .batch => settings.answerBatch request

end Settings

/-- A validator: its settings, and the elements reported to its host so far. -/
structure Validator where
  settings : Settings := {}
  reported : Array Located := #[]

/-- Answers a request, and reports to the host. -/
def Validator.validate (validator : Validator) (request : Request) : Answer × Validator :=
  let answer := validator.settings.answer request
  (answer, { validator with reported := validator.reported ++ answer.reported.toArray })

end BpmnAudit
