import BpmnAudit.Json.Printer

/-!
# Attributes of amounts and spans

An amount (`record_metric`) or a span (`span`) carries attributes, each with a name and any value.
Members without a name are dropped at every depth. Two sets of attributes are the same if they
differ only in the order of members and in the signs of zeros; a whole number and a double never are
the same.
-/

namespace BpmnAudit

/-! ## Members with names -/

mutual

/-- A value without the members that have no name. -/
def named : Json → Json
  | .array items => .array (namedItems items)
  | .object members => .object (namedMembers members)
  | value => value

/-- The items of an array, each one without the members that have no name. -/
def namedItems : List Json → List Json
  | [] => []
  | item :: items => named item :: namedItems items

/-- The members of an object that have a name, the same for their values. -/
def namedMembers : List (String × Json) → List (String × Json)
  | [] => []
  | (name, value) :: members =>
    if name = "" then namedMembers members else (name, named value) :: namedMembers members

end

/-! ## Sameness -/

def sortedAttributes (attributes : Json.Members) : Json.Members :=
  attributes.mergeSort fun a b => a.1 ≤ b.1

mutual

/-- The form that a value shares with all values that are the same. -/
def canonical : Json → Json
  | .number (.real x) => .number (.real (if x == 0 then 0 else x))
  | .array items => .array (canonicalItems items)
  | .object members => .object (sortedAttributes (canonicalMembers members))
  | value => value

/-- The items of an array in the form that they share. -/
def canonicalItems : List Json → List Json
  | [] => []
  | item :: items => canonical item :: canonicalItems items

/-- The members of an object with their values in the form that they share. -/
def canonicalMembers : List (String × Json) → List (String × Json)
  | [] => []
  | (name, value) :: members => (name, canonical value) :: canonicalMembers members

end

/-- Whether two sets of attributes are the same. -/
def sameAttributes (a b : Json.Members) : Bool :=
  (canonical (.object a)).compact == (canonical (.object b)).compact

/-! ## Spans -/

/-- The most attributes that a span keeps. -/
def spanLimit : Nat := 128

/-- The attributes that a span keeps: those with a name, and of too many the last ones. -/
def spanAttributes (attributes : Json.Members) : Json.Members :=
  let attributes := namedMembers attributes
  sortedAttributes (attributes.drop (attributes.length - spanLimit))

end BpmnAudit
