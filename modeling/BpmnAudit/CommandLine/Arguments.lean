import BpmnAudit.Text.Quoted
import BpmnAudit.Text.Similar

/-!
# Arguments of commands

How the arguments of a command are told apart. A switch begins with a dash: a long name after two
dashes, with its value after an equals sign or as the next argument, or a run of letters after one
dash, of which one may be followed by its value. Two dashes alone end the switches. All other
arguments stand by their position.
-/

namespace BpmnAudit

/-- A switch that a command knows: its long name with the dashes, its letter, and whether a value
belongs to it. -/
structure Switch (κ : Type) where
  key : κ
  long : String
  letter : Option Char := none
  hasValue : Bool := false

/-- A switch that was given. -/
structure Setting (κ : Type) where
  key : κ
  value : Option String := none

/-- What is wrong with arguments. -/
inductive ArgumentFault where
  | noSwitch (name : String) (similar : List String)
  /-- The switch at the end lacks its value. -/
  | noValue (name : String)
  /-- The switch has a value that does not belong to it. -/
  | strayValue (name : String)
  | noCommand
  | unknownCommand (name : String) (similar : List String)
  | missing (name : String)
  | notOneOf (name value : String) (choices : List String)
  | noFile (name path : String)
  | isFolder (name path : String)
  | extra (arguments : List String)
  deriving DecidableEq, Repr

/-- The most names that a hint gives. -/
def hintCount : Nat := 3

namespace ArgumentFault

/-- A hint at names that look like the one given, in alphabetical order. -/
def hint : List String → String
  | [] => ""
  | [name] => " Did you mean " ++ Text.quoted name ++ "?"
  | names =>
    " (Did you mean one of: " ++
      ", ".intercalate ((names.mergeSort fun a b => a ≤ b).map Text.quoted) ++ "?)"

def message : ArgumentFault → String
  | noSwitch name similar => "No such option " ++ Text.quoted name ++ "." ++ hint similar
  | noValue name => "Option " ++ Text.quoted name ++ " requires an argument."
  | strayValue name => "Option " ++ Text.quoted name ++ " does not take a value."
  | noCommand => "Missing command."
  | unknownCommand name similar =>
    "No such command " ++ Text.quoted name ++ "." ++ hint similar
  | missing name => "Missing argument '" ++ name ++ "'."
  | notOneOf name value choices =>
    "Invalid value for '" ++ name ++ "': " ++ Text.quoted value ++ " is not one of " ++
      ", ".intercalate (choices.map Text.quoted) ++ "."
  | noFile name path =>
    "Invalid value for '" ++ name ++ "': File " ++ Text.quoted path ++ " does not exist."
  | isFolder name path =>
    "Invalid value for '" ++ name ++ "': File " ++ Text.quoted path ++ " is a directory."
  | extra [argument] => "Got unexpected extra argument (" ++ argument ++ ")"
  | extra arguments =>
    "Got unexpected extra arguments (" ++ " ".intercalate arguments ++ ")"

/-- Whether the usage of the command is shown before the fault. -/
def showsUsage : ArgumentFault → Bool
  | noValue _ | strayValue _ => false
  | _ => true

end ArgumentFault

/-- What one argument with a dash sets: switches that are complete, and perhaps one whose value
is the next argument. -/
structure Reading (κ : Type) where
  complete : List (Setting κ) := []
  /-- The switch that wants the next argument, and its name as given. -/
  wanting : Option (κ × String) := none

variable {κ : Type}

/-- The text before the first equals sign, and the text after it. -/
def splitAssignment (argument : String) : String × Option String :=
  let cs := argument.toList
  let name := cs.takeWhile (· != '=')
  match cs.drop name.length with
  | [] => (argument, none)
  | _ :: value => (String.ofList name, some (String.ofList value))

/-- Reads the letters after one dash. -/
def readLetters (switches : List (Switch κ)) (done : List (Setting κ)) :
    List Char → Except ArgumentFault (Reading κ)
  | [] => .ok { complete := done }
  | c :: rest =>
    let name := String.ofList ['-', c]
    match switches.find? (·.letter == some c) with
    | none => .error (.noSwitch name [])
    | some switch =>
      if switch.hasValue then
        if rest.isEmpty then .ok { complete := done, wanting := some (switch.key, name) }
        else .ok { complete := done ++ [⟨switch.key, some (String.ofList rest)⟩] }
      else readLetters switches (done ++ [⟨switch.key, none⟩]) rest

/-- Reads an argument that begins with a dash. -/
def readSwitch (switches : List (Switch κ)) (argument : String) :
    Except ArgumentFault (Reading κ) :=
  let (name, value) := splitAssignment argument
  match switches.find? (·.long == name) with
  | some switch =>
    match switch.hasValue, value with
    | true, some value => .ok { complete := [⟨switch.key, some value⟩] }
    | true, none => .ok { wanting := some (switch.key, name) }
    | false, some _ => .error (.strayValue name)
    | false, none => .ok { complete := [⟨switch.key, none⟩] }
  | none =>
    match argument.toList with
    | '-' :: '-' :: _ =>
      .error (.noSwitch name (Text.closeWords hintCount name (switches.map (·.long))))
    | cs => readLetters switches [] (cs.drop 1)

/-- Whether an argument begins with a dash and is more than a dash. -/
def isSwitch (argument : String) : Bool :=
  match argument.toList with
  | '-' :: _ :: _ => true
  | _ => false

/-- Arguments told apart. -/
structure Arguments (κ : Type) where
  /-- The switches, in the order in which they were given. -/
  settings : List (Setting κ) := []
  positional : List String := []

/-- Tells arguments apart. Unless switches may be mixed with other arguments, the first of these
ends them. -/
def readArguments (switches : List (Switch κ)) (mixed : Bool) (done : Arguments κ) :
    List String → Except ArgumentFault (Arguments κ)
  | [] => .ok done
  | argument :: rest =>
    if argument = "--" then .ok { done with positional := done.positional ++ rest }
    else if isSwitch argument then
      match readSwitch switches argument with
      | .error fault => .error fault
      | .ok ⟨complete, none⟩ =>
        readArguments switches mixed { done with settings := done.settings ++ complete } rest
      | .ok ⟨complete, some (key, name)⟩ =>
        match rest with
        | [] => .error (.noValue name)
        | value :: rest =>
          readArguments switches mixed
            { done with settings := done.settings ++ complete ++ [⟨key, some value⟩] } rest
    else if mixed then
      readArguments switches mixed { done with positional := done.positional ++ [argument] } rest
    else .ok { done with positional := done.positional ++ argument :: rest }

namespace Arguments

def has [BEq κ] (arguments : Arguments κ) (key : κ) : Bool :=
  arguments.settings.any (·.key == key)

def value? [BEq κ] (arguments : Arguments κ) (key : κ) : Option String :=
  (arguments.settings.reverse.find? (·.key == key)).bind (·.value)

end Arguments

end BpmnAudit
