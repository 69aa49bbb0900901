import BpmnAudit.Document.Fault
import BpmnAudit.Model.Attributes

/-!
# Layouts of objects

A layout lists the fields of an object (those that a class of elements declares) in order, each with
how its value is read and written, and says how the values make up the whole. From one layout come
reading and writing. Reading looks fields up by name, so that neither their order nor fields of
other names matter, and reports the faults of all fields in the order of the layout.

One field may be left to the caller: the flow elements that an element owns, which contain objects
of the same sort.
-/

namespace BpmnAudit

/-- A field: its name, how its value is read and written, and its value where it is absent. -/
structure Field (α : Type) where
  name : String
  read : Json → Outcome α
  write : α → Json
  absent : Option α

namespace Field

/-- The field's value in an object. -/
def get {α : Type} (f : Field α) (members : Json.Members) : Outcome α :=
  match Json.get? members f.name with
  | some value => (f.read value).under (.key f.name)
  | none =>
    match f.absent with
    | some a => .ok a
    | none => (Outcome.fault .missing).under (.key f.name)

end Field

/-- The name of the field left to the caller. -/
def childrenName : String := "flow_elements"

/-- A layout of objects with parts of a whole `ω`; `χ` is the type of what the whole owns. -/
inductive Codec (χ ω : Type) : Type → Type 1 where
  | pure {α : Type} (a : α) : Codec χ ω α
  | field {α : Type} (f : Field α) (get : ω → α) : Codec χ ω α
  | children (get : ω → χ) : Codec χ ω χ
  | ap {α β : Type} (head : Codec χ ω (α → β)) (last : Codec χ ω α) : Codec χ ω β

namespace Codec

variable {χ ω : Type}

instance : Applicative (Codec χ ω) where
  pure := Codec.pure
  seq head last := .ap head (last ())

/-- The names of the fields, in order. -/
def names : {α : Type} → Codec χ ω α → List String
  | _, .pure _ => []
  | _, .field f _ => [f.name]
  | _, .children _ => [childrenName]
  | _, .ap head last => head.names ++ last.names

/-- Reads the members of an object, given what it owns. -/
def read (members : Json.Members) (children : Outcome χ) : {α : Type} → Codec χ ω α → Outcome α
  | _, .pure a => .ok a
  | _, .field f _ => f.get members
  | _, .children _ => children
  | _, .ap head last => .ap (head.read members children) (last.read members children)

/-- Writes a whole as the members of an object, given how what it owns is written. -/
def write (whole : ω) (children : Json) : {α : Type} → Codec χ ω α → Json.Members
  | _, .pure _ => []
  | _, .field f get => [(f.name, f.write (get whole))]
  | _, .children _ => [(childrenName, children)]
  | _, .ap head last => head.write whole children ++ last.write whole children

/-- What the parts of a whole make up. -/
def rebuild (whole : ω) : {α : Type} → Codec χ ω α → α
  | _, .pure a => a
  | _, .field _ get => get whole
  | _, .children get => get whole
  | _, .ap head last => (head.rebuild whole) (last.rebuild whole)

end Codec

/-- A layout together with what its wholes are to a larger type. -/
structure Form (χ α : Type) : Type 1 where
  Content : Type
  layout : Codec χ Content Content
  make : Content → α

namespace Form

variable {χ α : Type}

/-- Reads the members of an object, given what it owns. -/
def read (form : Form χ α) (members : Json.Members) (children : Outcome χ) : Outcome α :=
  (form.layout.read members children).map form.make

end Form

/-! ## Values of fields -/

def readText : Json → Outcome String
  | .text s => .ok s
  | _ => .fault .notText

def readOptionalText : Json → Outcome (Option String)
  | .null => .ok none
  | .text s => .ok (some s)
  | _ => .fault .notText

def readList {α : Type} (read : Json → Outcome α) : Json → Outcome (List α)
  | .array items => .collect 0 (items.map read)
  | _ => .fault .notList

def falseWords : List String := ["0", "off", "f", "false", "n", "no"]

def trueWords : List String := ["1", "on", "t", "true", "y", "yes"]

/-- The whole number that a double is, if it is one. -/
def wholeNumber? (x : Float) : Option Int :=
  match Decimal.value x with
  | .finite negative m e _ =>
    let sign (n : Nat) : Int := if negative then -n else n
    if 0 ≤ e then some (sign (m * Nat.pow 2 e.toNat))
    else if m % Nat.pow 2 (-e).toNat = 0 then some (sign (m / Nat.pow 2 (-e).toNat))
    else none
  | _ => none

/-- One more than the largest 64-bit word. -/
def wordBound : Int := Nat.pow 2 63

/-- A whole number as a truth value. One that is neither of the two values is unclear from `least`
up to the last 64-bit word, and none at all outside. -/
def boolOfInt (least n : Int) : Outcome Bool :=
  if n = 0 then .ok false
  else if n = 1 then .ok true
  else if least ≤ n ∧ n < wordBound then .fault .unclearBool
  else .fault .notBool

/-- Reads a truth value, also from a number or a word for it. Whole numbers may be unclear from the
least 64-bit word on, doubles with a whole value only above it. -/
def readBool : Json → Outcome Bool
  | .bool b => .ok b
  | .number (.whole n) => boolOfInt (-wordBound) n
  | .number (.real x) =>
    match wholeNumber? x with
    | some n => boolOfInt (-wordBound + 1) n
    | none => .fault .notBool
  | .text s =>
    let word := String.ofList (s.toList.map Char.toLower)
    if falseWords.contains word then .ok false
    else if trueWords.contains word then .ok true
    else .fault .unclearBool
  | _ => .fault .notBool

/-- Reads attributes, each fault under its name. Every value of a repeated name has to be a text. -/
def readAttributes : Json → Outcome Attributes
  | .object members => (readEntries members).map Attributes.ofList
  | _ => .fault .notObject
where
  /-- Reads names and values one after the other. -/
  readEntries : Json.Members → Outcome (List (String × String))
    | [] => .ok []
    | (name, value) :: rest =>
      .ap (((readText value).under (.key name)).map fun s => ((name, s) :: ·)) (readEntries rest)

def writeAttributes (attributes : Attributes) : Json :=
  .object (attributes.entries.map fun (name, value) => (name, .text value))

def readWord {α : Type} (words : List String) (ofWord? : String → Option α) : Json → Outcome α
  | .text s =>
    match ofWord? s with
    | some a => .ok a
    | none => .fault (.notOneOf words)
  | _ => .fault (.notOneOf words)

/-- Reads a member of a tagged list: its tag says which kind it is read as. -/
def readTagged {κ α : Type} (field : String) (tags : List String) (ofTag? : String → Option κ)
    (read : κ → Outcome α) (members : Json.Members) : Outcome α :=
  match Json.get? members field with
  | none => .fault (.noTag field)
  | some (.text tag) =>
    match ofTag? tag with
    | some kind => (read kind).under (.tag tag)
    | none => .fault (.unknownTag tag field tags)
  | some value => .fault (.unknownTag value.settled.bareText field tags)

/-! ## Fields by sort -/

namespace Field

/-- A text that may be null or absent. -/
def optionalText (name : String) : Field (Option String) :=
  ⟨name, readOptionalText, Json.optionalText, some none⟩

def text (name default : String) : Field String := ⟨name, readText, .text, some default⟩

def flag (name : String) (default : Bool) : Field Bool := ⟨name, readBool, .bool, some default⟩

def texts (name : String) : Field (List String) := ⟨name, readList readText, Json.texts, some []⟩

def attributes (name : String) : Field Attributes :=
  ⟨name, readAttributes, writeAttributes, some {}⟩

def blocks (name : String) : Field (List Attributes) :=
  ⟨name, readList readAttributes, fun bs => .array (bs.map writeAttributes), some []⟩

/-- A word that is always the same. -/
def constant (name word : String) : Field Unit :=
  ⟨name, fun json =>
    match json with
    | .text s => if s = word then .ok () else .fault (.notConstant word)
    | _ => .fault (.notConstant word), fun _ => .text word, some ()⟩

def word {α : Type} (name : String) (words : List String) (ofWord? : String → Option α)
    (toWord : α → String) (default : Option α) : Field α :=
  ⟨name, readWord words ofWord?, fun a => .text (toWord a), default⟩

def optionalWord {α : Type} (name : String) (words : List String) (ofWord? : String → Option α)
    (toWord : α → String) : Field (Option α) :=
  ⟨name, fun json =>
    match json with
    | .null => .ok none
    | json => (readWord words ofWord? json).map some,
    fun a => Json.optionalText (a.map toWord), some none⟩

/-- An object of a layout, or null. -/
def optionalObject {α : Type} (name : String) (layout : Codec Unit α α) : Field (Option α) :=
  ⟨name, fun json =>
    match json with
    | .null => .ok none
    | .object members => (layout.read members (.ok ())).map some
    | _ => .fault .notElement,
    fun a =>
      match a with
      | none => .null
      | some a => .object (layout.write a .null), some none⟩

end Field

end BpmnAudit
