import BpmnAudit.Json.Display
import BpmnAudit.Text.Quoted

/-!
# Faults of documents

What can be wrong with a document, and where (the type, the location and the message of an error of
loading). A reading yields a value or every fault at once; two readings side by side report the
faults of both, the first ones first.
-/

namespace BpmnAudit

/-- One step of the way to a part of a document. -/
inductive Step where
  | key (name : String)
  | index (n : Nat)
  /-- The tag that chose the kind of a list's member; it leads to no other part. -/
  | tag (name : String)
  deriving DecidableEq, Repr

/-- What is wrong with a part of a document. -/
inductive Cause where
  | missing
  /-- An element has to be an object. -/
  | notElement
  /-- Attributes, and members of tagged lists, have to be objects. -/
  | notObject
  | notList
  | notText
  | notBool
  /-- A text or number that is neither of the two values. -/
  | unclearBool
  | notOneOf (words : List String)
  | notConstant (word : String)
  | noTag (field : String)
  | unknownTag (tag field : String) (tags : List String)
  deriving DecidableEq, Repr

namespace Cause

def wordList (words : List String) : String := ", ".intercalate (words.map Text.quoted)

/-- Words in quotes, after commas but for the last one. -/
def wordChoice (words : List String) : String :=
  match words.reverse with
  | [] => ""
  | [word] => Text.quoted word
  | last :: others => wordList others.reverse ++ " or " ++ Text.quoted last

def code : Cause → String
  | missing => "missing"
  | notElement => "model_type"
  | notObject => "dict_type"
  | notList => "list_type"
  | notText => "string_type"
  | notBool => "bool_type"
  | unclearBool => "bool_parsing"
  | notOneOf _ => "enum"
  | notConstant _ => "literal_error"
  | noTag _ => "union_tag_not_found"
  | unknownTag .. => "union_tag_invalid"

def message : Cause → String
  | missing => "Field required"
  | notElement => "Input should be an object"
  | notObject => "Input should be an object"
  | notList => "Input should be a valid array"
  | notText => "Input should be a valid string"
  | notBool => "Input should be a valid boolean"
  | unclearBool => "Input should be a valid boolean, unable to interpret input"
  | notOneOf words => "Input should be " ++ wordChoice words
  | notConstant word => "Input should be '" ++ word ++ "'"
  | noTag field => "Unable to extract tag using discriminator '" ++ field ++ "'"
  | unknownTag tag field tags =>
    "Input tag '" ++ tag ++ "' found using '" ++ field ++
      "' does not match any of the expected tags: " ++ wordList tags

end Cause

/-- A fault: the way to the part that is wrong, and what is wrong with it. -/
structure Fault where
  path : List Step
  cause : Cause
  deriving DecidableEq, Repr

/-- What a reading yields: a value, or every fault. -/
abbrev Outcome (α : Type) := Except (List Fault) α

namespace Outcome

/-- A reading that failed right here. -/
def fault {α : Type} (cause : Cause) : Outcome α := .error [⟨[], cause⟩]

/-- A reading of the part that a step leads to, told from where the step is taken. -/
def under {α : Type} (step : Step) : Outcome α → Outcome α
  | .ok a => .ok a
  | .error faults => .error (faults.map fun f => { f with path := step :: f.path })

/-- Two readings side by side. -/
def ap {α β : Type} : Outcome (α → β) → Outcome α → Outcome β
  | .ok f, .ok a => .ok (f a)
  | .ok _, .error faults => .error faults
  | .error faults, .ok _ => .error faults
  | .error faults, .error others => .error (faults ++ others)

/-- Readings of a list's members, told by their indexes from `i` on. -/
def collect {α : Type} (i : Nat) : List (Outcome α) → Outcome (List α)
  | [] => .ok []
  | o :: rest => ap ((o.under (.index i)).map List.cons) (collect (i + 1) rest)

def faults {α : Type} : Outcome α → List Fault
  | .ok _ => []
  | .error faults => faults

end Outcome

end BpmnAudit
