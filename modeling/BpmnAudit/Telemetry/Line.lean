import BpmnAudit.Json.Basic
import BpmnAudit.Telemetry.Emission
import BpmnAudit.Text.Predicates

/-!
# Printed lines

A line that a host printed, and how it is read back. A line is an object or a text; a text ends
at the first line end in its message, and what comes after stands below it on its own. Times are
not shown: neither the one in a timer's message nor the one that a validation took.
-/

namespace BpmnAudit

/-- A line that a manager printed. -/
structure HostLine where
  /-- Whether the line is an object. -/
  json : Bool
  level : String
  message : String
  /-- What the line carries besides its message. -/
  extra : Json.Members := []
  /-- The last line of an exception's trace. -/
  exception : Option String := none

/-! ## Times -/

/-- What a line shows instead of a time. -/
def hiddenTime : String := "<time>"

def timerMessage (name time : String) : String := "Timer '" ++ name ++ "': " ++ time

def measuredMessage (name shown : String) : String := "Metric recorded: " ++ name ++ "=" ++ shown

/-- Whether a character may stand in the seconds of a timer's message. -/
def isTimeChar (c : Char) : Bool := Text.isDigit c || c == '.'

/-- The text between two others that open and close a text. -/
def between? (opening closing cs : List Char) : Option (List Char) :=
  (opening.isPrefixOf? cs).bind closing.isSuffixOf?

/-- The name in a timer's message, if a message is one. -/
def timerName? (message : List Char) : Option (List Char) :=
  match message.reverse with
  | 's' :: rest =>
    let name := rest.dropWhile isTimeChar
    if name.length < rest.length then between? "Timer '".toList "': ".toList name.reverse else none
  | _ => none

/-- A message with its time hidden. -/
def withoutTime (message : String) : String :=
  let cs := message.toList
  if cs.contains '\n' then message
  else
    match timerName? cs with
    | some name => timerMessage (String.ofList name) hiddenTime
    | none =>
      let opening := measuredMessage (durationName validationTimer) ""
      if opening.toList.isPrefixOf cs then opening ++ hiddenTime else message

/-! ## Reading back -/

namespace HostLine

/-- The message as it stands on the line itself. -/
def shownMessage (line : HostLine) : String :=
  withoutTime
    (if line.json then line.message
     else String.ofList (line.message.toList.takeWhile (· != '\n')))

/-- What stands below the line: the rest of its message. -/
def below (line : HostLine) : String :=
  if line.json then ""
  else String.join (((line.message.splitOn "\n").drop 1).map (· ++ "\n"))

/-- A line as a value: whether it is an object, its level, its message, and what it carries. -/
def toJson (line : HostLine) : Json :=
  let head :=
    [.text (if line.json then "json" else "text"), .text line.level, .text line.shownMessage]
  let extra := if line.json && !line.extra.isEmpty then [.object line.extra] else []
  let exception := if line.json then (line.exception.map Json.text).toList else []
  .array (head ++ extra ++ exception)

end HostLine

/-- The last line of the trace of an exception of a kind with a text; line ends after it do not
count. -/
def lastTraceLine (kind text : String) : String :=
  let trace := if text = "" then kind else kind ++ ": " ++ text
  String.ofList ((trace.toList.reverse.dropWhile (· == '\n')).takeWhile (· != '\n')).reverse

end BpmnAudit
