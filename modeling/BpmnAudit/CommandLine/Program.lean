import BpmnAudit.Audit.Validator
import BpmnAudit.CommandLine.Arguments
import BpmnAudit.CommandLine.Folder
import BpmnAudit.Document.Text
import BpmnAudit.Telemetry.Host
import BpmnAudit.Text.Terminal
import BpmnAudit.Text.Utf8

/-!
# The program

The command line (`validate`, `rules`, `info`) as a function: from arguments, environment variables
and files to the exit status, the two outputs, and the lines that the host printed. The status of a
validation is 0 for a document without diagnostics, 1 for one with some, and 2 if no document could
be loaded.
-/

namespace BpmnAudit

/-- What the program is called with. -/
structure Invocation where
  arguments : List String
  /-- The value of an environment variable. -/
  environment : String → Option String := fun _ => none
  /-- What a path leads to. -/
  entryAt : String → Option Entry := fun _ => none

/-- What stops the program short. -/
inductive Crash where
  /-- A path holds the character that ends paths. -/
  | brokenPath
  | unknownLevel (name : String)
  | badBytes (fault : Text.Utf8Fault)
  deriving DecidableEq, Repr

def shownByte (b : UInt8) : String := "0x" ++ String.ofList (Text.hexDigits 2 b.toNat)

/-- The wording of bytes that are not UTF-8. -/
def utf8Message (fault : Text.Utf8Fault) : String :=
  let which :=
    if fault.length = 1 then
      "byte " ++ shownByte fault.first ++ " in position " ++ toString fault.start
    else
      "bytes in position " ++ toString fault.start ++ "-" ++
        toString (fault.start + fault.length - 1)
  "'utf-8' codec can't decode " ++ which ++ ": " ++ fault.cause.message

def Crash.message : Crash → String
  | brokenPath => "embedded null byte"
  | unknownLevel name => Host.unknownLevelMessage name
  | badBytes fault => utf8Message fault

/-- How a call of the program ends. -/
structure Completion where
  status : Nat
  stdout : String := ""
  stderr : String := ""
  crash : Option Crash := none
  /-- The lines that the host printed. -/
  lines : List HostLine := []

/-- The exit status of a validation: no diagnostics, some, no document. -/
def exitOk : Nat := 0

@[inherit_doc exitOk] def exitDiagnostics : Nat := 1

@[inherit_doc exitOk] def exitLoadError : Nat := 2

/-! ## Usage -/

def programName : String := "cli"

inductive Command where
  | validate
  | rules
  | info
  deriving DecidableEq, Repr

namespace Command

def tag : Command → String
  | validate => "validate"
  | rules => "rules"
  | info => "info"

/-- Every command, in the order of the help page. -/
def all : List Command := [info, rules, validate]

/-- What the help page says of a command. -/
def summary : Command → String
  | validate => "Validate a BPMN definitions document stored as JSON."
  | rules => "List the rules applied to each element type."
  | info => "Show validator version and configuration information."

def ofTag? (s : String) : Option Command := all.find? (·.tag == s)

end Command

/-- The name of the argument that is the document. -/
def fileArgument : String := "BPMN_FILE"

/-- How the program, or a command of it, is used. -/
def usage : Option Command → String
  | none => programName ++ " [OPTIONS] COMMAND [ARGS]..."
  | some .validate => programName ++ " validate [OPTIONS] " ++ fileArgument
  | some command => programName ++ " " ++ command.tag ++ " [OPTIONS]"

/-- The name of the program, or of a command of it. -/
def fullName : Option Command → String
  | none => programName
  | some command => programName ++ " " ++ command.tag

/-- The line of a command on the help page. -/
def Command.line (command : Command) : String :=
  "  " ++ String.ofList (command.tag.toList ++ List.replicate (10 - command.tag.length) ' ') ++
    command.summary ++ "\n"

def helpPage : String :=
  "Usage: " ++ usage none ++ "\n\n" ++
    "  BPMN Validator CLI - Structural checks for BPMN 2.0 process models.\n\n" ++
    "Options:\n  --help  Show this message and exit.\n\n" ++
    "Commands:\n" ++ String.join (Command.all.map Command.line)

/-- The end of a call with faulty arguments. -/
def usageError (command : Option Command) (fault : ArgumentFault) : Completion :=
  let error := "Error: " ++ fault.message ++ "\n"
  { status := 2
    stderr :=
      if fault.showsUsage then
        "Usage: " ++ usage command ++ "\nTry '" ++ fullName command ++ " --help' for help.\n\n" ++
          error
      else error }

/-! ## Switches -/

/-- The switches of `validate`. -/
inductive ValidateKey where
  | format
  | strictSimulation
  | element
  | verbose
  | help
  deriving DecidableEq, Repr

def validateSwitches : List (Switch ValidateKey) :=
  [{ key := .format, long := "--format", hasValue := true },
   { key := .strictSimulation, long := "--strict-simulation" },
   { key := .element, long := "--element", letter := some 'e', hasValue := true },
   { key := .verbose, long := "--verbose", letter := some 'v' },
   { key := .help, long := "--help" }]

/-- The one switch of every other command, and of the program itself. -/
def helpSwitches : List (Switch Unit) := [{ key := (), long := "--help" }]

/-- How diagnostics are printed. -/
inductive OutputFormat where
  | text
  | json
  deriving DecidableEq, Repr

namespace OutputFormat

def tag : OutputFormat → String
  | text => "text"
  | json => "json"

def all : List OutputFormat := [text, json]

def ofTag? (s : String) : Option OutputFormat := all.find? (·.tag == s)

end OutputFormat

/-- What `validate` is asked to do. -/
structure ValidateOrder where
  path : String
  bytes : List UInt8
  format : OutputFormat := .text
  strictSimulation : Bool := false
  element : Option String := none
  verbose : Bool := false

/-- Why the arguments of `validate` make no order. -/
inductive OrderFailure where
  | usage (fault : ArgumentFault)
  | crash (crash : Crash)
  deriving DecidableEq, Repr

/-- Checks the format that was asked for. -/
def checkFormat : Option String → Except OrderFailure OutputFormat
  | none => .ok .text
  | some word =>
    match OutputFormat.ofTag? word with
    | some format => .ok format
    | none => .error (.usage (.notOneOf "--format" word (OutputFormat.all.map OutputFormat.tag)))

/-- Checks that there is a file to read. -/
def checkFile (entryAt : String → Option Entry) :
    List String → Except OrderFailure (String × List UInt8)
  | [] => .error (.usage (.missing fileArgument))
  | path :: _ =>
    if path.contains '\x00' then .error (.crash .brokenPath)
    else
      match entryAt path with
      | none => .error (.usage (.noFile fileArgument path))
      | some .folder => .error (.usage (.isFolder fileArgument path))
      | some (.file bytes) => .ok (path, bytes)

/-- Checks the arguments of `validate`: the format, then the file, then what is left over. -/
def checkOrder (entryAt : String → Option Entry) (arguments : Arguments ValidateKey) :
    Except OrderFailure ValidateOrder :=
  match checkFormat (arguments.value? .format), checkFile entryAt arguments.positional with
  | .error failure, _ => .error failure
  | .ok _, .error failure => .error failure
  | .ok format, .ok (path, bytes) =>
    match arguments.positional.drop 1 with
    | [] =>
      .ok
        { path, bytes, format
          strictSimulation := arguments.has .strictSimulation
          element := arguments.value? .element
          verbose := arguments.has .verbose }
    | rest => .error (.usage (.extra rest))

/-! ## Output -/

def Diagnostic.line (d : Diagnostic) : String :=
  let who := match d.elementId with
    | none => "-"
    | some id => if id = "" then "-" else id
  let who := match d.elementType with
    | none => who
    | some tag => who ++ " (" ++ tag ++ ")"
  "  [" ++ d.level.tag ++ "] " ++ who ++ ": " ++ d.message ++ "\n"

def Report.text (path : String) (report : Report) : String :=
  "File: " ++ path ++ "\nValid: " ++ shownBool report.ok ++ "\nDiagnostics: " ++
    toString report.total ++ "\n" ++ String.join (report.diagnostics.map Diagnostic.line)

def Report.json (path : String) (report : Report) : String :=
  match report.toJson with
  | .object members => (Json.object (("file", .text path) :: members)).indented ++ "\n"
  | value => value.indented ++ "\n"

def Report.print (path : String) (report : Report) : OutputFormat → String
  | .text => report.text path
  | .json => report.json path

/-- The rules of each kind as an object. -/
def catalogJson : Json :=
  .object (catalog.map fun (kind, rules) => (kind.tag, .texts (rules.map NodeRule.tag)))

/-- What `info` shows under settings. -/
def infoJson (settings : Settings) : Json :=
  .object
    [("name", .text "BPMN Validator"),
     ("version", .text "0.1.0"),
     ("description", .text "Structural validation of BPMN 2.0 process models"),
     ("modes", .texts (Mode.all.map Mode.tag)),
     ("config", settings.toJson),
     ("checked_element_types",
       .texts ((catalog.map fun (kind, _) => kind.tag).mergeSort fun a b => a ≤ b))]

/-! ## Commands -/

/-- The settings of a call of `validate`: those of the environment, and what the switches add. -/
def ValidateOrder.settings (order : ValidateOrder) (environment : Settings) : Settings :=
  { environment with
    strictSimulation := environment.strictSimulation || order.strictSimulation
    logLevel := if order.verbose then "DEBUG" else environment.logLevel }

/-- The place of the document that the program loads. -/
def documentPlace : Place := [0]

/-- The request of a call of `validate`; none if there is no element of the id asked for. -/
def ValidateOrder.request? (order : ValidateOrder) (document : Located) : Option Request :=
  let mode := Json.text Mode.batch.tag
  match order.element with
  | none => some { root := .plain (.element document), mode }
  | some id =>
    (document.find? (some id)).map fun p =>
      { root := .plain (.element p.located)
        definitions := .plain (.element document)
        mode }

def firstTwoLines (s : String) : String := "\n".intercalate ((s.splitOn "\n").take 2)

/-- The end of a call whose document did not load; a report of two lines at most. -/
def loadError (path : String) (failure : LoadFailure) : Completion :=
  let errors := if failure.count = 1 then " validation error for " else " validation errors for "
  { status := exitLoadError
    stderr :=
      firstTwoLines
        ("Invalid BPMN document " ++ path ++ ":\n" ++ toString failure.count ++ errors ++
          (Shape.element .definitions).label) }

/-- The number of processes of a document. -/
def Element.processCount : Element → Nat
  | definitions d => d.processes.length
  | _ => 0

/-- Validates a document that loaded. -/
def ValidateOrder.validate (order : ValidateOrder) (settings : Settings) (host : Host)
    (e : Element) : Completion :=
  let host := host.receive (.record ⟨.debug, .commandLine,
    "Loaded " ++ toString e.processCount ++ " process(es) from " ++ order.path⟩)
  match order.request? ⟨documentPlace, e⟩ with
  | none =>
    { status := exitLoadError
      stderr := "Error: no flow element with id '" ++ order.element.getD "" ++ "'\n"
      lines := host.lines.toList }
  | some request =>
    let answer := settings.answer request
    let lines := (host.receiveAll answer.emissions).lines.toList
    match answer.outcome with
    | .error refusal => { status := 1, stderr := refusal.message, lines }
    | .ok report =>
      { status := if report.ok then exitOk else exitDiagnostics
        stdout := report.print order.path order.format
        lines }

def ValidateOrder.run (order : ValidateOrder) (environment : Settings) : Completion :=
  let settings := order.settings environment
  let (started, host) := ({} : Host).start (.ofSettings settings "bpmn-validator-cli")
  if started.isNone then { status := 1, crash := some (.unknownLevel settings.logLevel) }
  else
    match Text.decodeUtf8 order.bytes with
    | .error fault => { status := 1, crash := some (.badBytes fault), lines := host.lines.toList }
    | .ok text =>
      match Element.load (.element .definitions) text with
      | .error failure => { loadError order.path failure with lines := host.lines.toList }
      | .ok e => order.validate settings host e

/-- Runs a command with its arguments. -/
def runCommand (invocation : Invocation) (command : Command) (rest : List String) : Completion :=
  let usageError := usageError (some command)
  let help : Completion := { status := 0, stdout := "Usage: " ++ usage (some command) ++ "\n" }
  match command with
  | .validate =>
    match readArguments validateSwitches true {} rest with
    | .error fault => usageError fault
    | .ok arguments =>
      if arguments.has .help then help
      else
        match checkOrder invocation.entryAt arguments with
        | .error (.usage fault) => usageError fault
        | .error (.crash crash) => { status := 1, crash := some crash }
        | .ok order => order.run (.ofEnvironment invocation.environment)
  | .rules | .info =>
    match readArguments helpSwitches true {} rest with
    | .error fault => usageError fault
    | .ok arguments =>
      if arguments.has () then help
      else if !arguments.positional.isEmpty then usageError (.extra arguments.positional)
      else if command = .rules then { status := 0, stdout := catalogJson.indented ++ "\n" }
      else
        let settings := Settings.ofEnvironment invocation.environment
        { status := 0, stdout := (infoJson settings).indented ++ "\n" }

/-- Runs the command that positional arguments name. A name that begins with a dash is read as a
switch first. -/
def runNamed (invocation : Invocation) : List String → Completion
  | [] => usageError none .noCommand
  | name :: rest =>
    match Command.ofTag? name with
    | some command => runCommand invocation command rest
    | none =>
      match readArguments helpSwitches false {} (name :: rest) with
      | .error fault => usageError none fault
      | .ok arguments =>
        if arguments.has () then { status := 0, stdout := helpPage }
        else
          let similar := Text.closeWords hintCount name (Command.all.map Command.tag)
          usageError none (.unknownCommand name similar)

/-- Runs the program with its outputs as a terminal would get them. -/
def runOnTerminal (invocation : Invocation) : Completion :=
  if invocation.arguments.isEmpty then { status := 2, stderr := helpPage }
  else
    match readArguments helpSwitches false {} invocation.arguments with
    | .error fault => usageError none fault
    | .ok arguments =>
      if arguments.has () then { status := 0, stdout := helpPage }
      else runNamed invocation arguments.positional

/-- A line away from a terminal. The carriage return at its end counts too. -/
def HostLine.withoutReturns (line : HostLine) : HostLine :=
  if line.json then line
  else
    let message := Text.dropReturns (line.message.toList ++ ['\n'])
    { line with message := String.ofList message.dropLast }

/-- Runs the program. -/
def runProgram (invocation : Invocation) : Completion :=
  let completion := runOnTerminal invocation
  { completion with
    stdout := Text.withoutTerminal completion.stdout
    stderr := Text.withoutTerminal completion.stderr
    lines := completion.lines.map HostLine.withoutReturns }

/-- The error output without the lines themselves: what stands below them, then all else. -/
def Completion.besideLines (completion : Completion) : String :=
  String.join (completion.lines.map HostLine.below) ++ completion.stderr

end BpmnAudit
