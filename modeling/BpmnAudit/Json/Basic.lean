/-!
# JSON values

A value with its objects in written order. An object may repeat a key: then its last value counts,
at the place of the first one.
-/

namespace BpmnAudit

/-- A number: whole, or a double. -/
inductive Number where
  | whole (n : Int)
  | real (x : Float)

inductive Json where
  | null
  | bool (b : Bool)
  | number (n : Number)
  | text (s : String)
  | array (items : List Json)
  | object (members : List (String × Json))
  deriving Inhabited

namespace Json

/-- The keys and values of an object, in written order and with every repetition. -/
abbrev Members := List (String × Json)

end Json

/-! ## Association lists in written order -/

/-- Writes a key: over its old value, or after all other keys. -/
def putKey {α : Type} (key : String) (value : α) : List (String × α) → List (String × α)
  | [] => [(key, value)]
  | (k, v) :: rest => if k = key then (k, value) :: rest else (k, v) :: putKey key value rest

/-- Writes keys one after the other. -/
def putKeys {α : Type} (start entries : List (String × α)) : List (String × α) :=
  entries.foldl (fun done (k, v) => putKey k v done) start

namespace Json

/-- The value of a key: the last one written. -/
def get? (members : Members) (key : String) : Option Json := members.reverse.lookup key

mutual

/-- A value with each key once in every object. -/
def settled : Json → Json
  | .array items => .array (settledItems items)
  | .object members => .object (putKeys [] (settledMembers members))
  | value => value

/-- The items of an array, settled. -/
def settledItems : List Json → List Json
  | [] => []
  | item :: items => settled item :: settledItems items

/-- The members of an object, each one settled. -/
def settledMembers : List (String × Json) → List (String × Json)
  | [] => []
  | (key, value) :: members => (key, settled value) :: settledMembers members

end

def int (n : Int) : Json := .number (.whole n)

def nat (n : Nat) : Json := .number (.whole n)

def optionalText : Option String → Json
  | none => .null
  | some s => .text s

def texts (items : List String) : Json := .array (items.map .text)

end Json

end BpmnAudit
