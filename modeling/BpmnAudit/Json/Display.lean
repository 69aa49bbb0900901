import BpmnAudit.Decimal.Shortest
import BpmnAudit.Json.Basic
import BpmnAudit.Text.Quoted

/-!
# Values in messages

How messages and log records show a value: texts in quotes, the words `None`, `True` and `False`,
and containers with their members after commas and blanks. A text that stands for itself is shown
without quotes.
-/

namespace BpmnAudit.Json

def displayNumber : Number → String
  | .whole n => toString n
  | .real x => Decimal.render x

mutual

def display : Json → String
  | .null => "None"
  | .bool b => if b then "True" else "False"
  | .number n => displayNumber n
  | .text s => Text.quoted s
  | .array items => "[" ++ ", ".intercalate (displayItems items) ++ "]"
  | .object members => "\x7b" ++ ", ".intercalate (displayMembers members) ++ "\x7d"

def displayItems : List Json → List String
  | [] => []
  | item :: items => display item :: displayItems items

def displayMembers : List (String × Json) → List String
  | [] => []
  | (key, value) :: members =>
    (Text.quoted key ++ ": " ++ display value) :: displayMembers members

end

/-- A value as a text of its own: a text as it is, any other value as messages show it. -/
def bareText : Json → String
  | .text s => s
  | value => display value

/-- The name of a value's type; null has none of its own to be asked for. -/
def typeName : Json → String
  | .null => "NoneType"
  | .bool _ => "bool"
  | .number (.whole _) => "int"
  | .number (.real _) => "float"
  | .text _ => "str"
  | .array _ => "list"
  | .object _ => "dict"

end BpmnAudit.Json
