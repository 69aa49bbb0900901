import BpmnAudit.Decimal.Shortest
import BpmnAudit.Json.Basic
import BpmnAudit.Text.Quoted

/-!
# Writing JSON

Two ways to write a value: compactly on one line, and over several lines with an indent. Each
function writes in front of the text that follows, so that nothing is copied twice. A text style
says which characters are written by their code units; quotes, backslashes and control characters
always are escaped.
-/

namespace BpmnAudit.Json

/-- Which characters of a text are written as they are: those below `limit`, unless `hidesDelete`
and the character is the delete character. -/
structure TextStyle where
  limit : Nat
  hidesDelete : Bool

/-- Every character that needs no escape is written as it is. -/
def plainStyle : TextStyle := ⟨0x110000, false⟩

/-- Only printable ASCII is written as it is. -/
def asciiStyle : TextStyle := ⟨0x80, true⟩

/-- A code unit by its four digits. -/
def escapedUnit (n : Nat) : List Char := '\\' :: 'u' :: Text.hexDigits 4 n

def escapedUnits (n : Nat) : List Char :=
  if n < 0x10000 then escapedUnit n
  else escapedUnit (0xd800 + (n - 0x10000) / 1024) ++ escapedUnit (0xdc00 + (n - 0x10000) % 1024)

def writtenChar (style : TextStyle) (c : Char) : List Char :=
  if c = '"' then ['\\', '"']
  else if c = '\\' then ['\\', '\\']
  else if c = '\x08' then ['\\', 'b']
  else if c = '\x0c' then ['\\', 'f']
  else if c = '\n' then ['\\', 'n']
  else if c = '\r' then ['\\', 'r']
  else if c = '\t' then ['\\', 't']
  else if c.toNat < 0x20 then escapedUnit c.toNat
  else if style.limit ≤ c.toNat ∨ (style.hidesDelete ∧ c.toNat = 0x7f) then escapedUnits c.toNat
  else [c]

/-- A string in front of `rest`. -/
def writeText (style : TextStyle) (s : String) (rest : List Char) : List Char :=
  '"' :: s.toList.foldr (fun c done => writtenChar style c ++ done) ('"' :: rest)

def numberText : Number → String
  | .whole n => toString n
  | .real x =>
    let text := Decimal.render x
    if text = "nan" then "NaN"
    else if text = "inf" then "Infinity"
    else if text = "-inf" then "-Infinity"
    else text

/-- A value without members, if it is one, in front of `rest`. -/
def writeScalar (style : TextStyle) (rest : List Char) : Json → List Char
  | .null => "null".toList ++ rest
  | .bool b => (if b then "true".toList else "false".toList) ++ rest
  | .number n => (numberText n).toList ++ rest
  | .text s => writeText style s rest
  | .array _ | .object _ => rest

/-! ## On one line -/

mutual

/-- A value on one line without blanks, in front of `rest`. -/
def write (style : TextStyle) : Json → List Char → List Char
  | .array [], rest => '[' :: ']' :: rest
  | .array (item :: items), rest => '[' :: write style item (writeItems style items rest)
  | .object [], rest => '\x7b' :: '\x7d' :: rest
  | .object ((key, value) :: members), rest =>
    '\x7b' :: writeText style key (':' :: write style value (writeMembers style members rest))
  | value, rest => writeScalar style rest value

/-- The items after the first, and the end of the array. -/
def writeItems (style : TextStyle) : List Json → List Char → List Char
  | [], rest => ']' :: rest
  | item :: items, rest => ',' :: write style item (writeItems style items rest)

/-- The members after the first, and the end of the object. -/
def writeMembers (style : TextStyle) : List (String × Json) → List Char → List Char
  | [], rest => '\x7d' :: rest
  | (key, value) :: members, rest =>
    ',' :: writeText style key (':' :: write style value (writeMembers style members rest))

end

/-- A value on one line, every character as it is where it may be. -/
def compact (value : Json) : String := String.ofList (write plainStyle value [])

def compactAscii (value : Json) : String := String.ofList (write asciiStyle value [])

/-! ## Over several lines -/

/-- A line end and the indent of a depth. -/
def newLine (depth : Nat) (rest : List Char) : List Char :=
  '\n' :: (List.replicate (2 * depth) ' ' ++ rest)

mutual

/-- A value with its members on lines of their own, indented by twice the depth; an empty
container stays on its line. -/
def writeLines (style : TextStyle) (depth : Nat) : Json → List Char → List Char
  | .array [], rest => '[' :: ']' :: rest
  | .array (item :: items), rest =>
    '[' :: newLine (depth + 1)
      (writeLines style (depth + 1) item (writeItemLines style depth items rest))
  | .object [], rest => '\x7b' :: '\x7d' :: rest
  | .object ((key, value) :: members), rest =>
    '\x7b' :: newLine (depth + 1) (writeText style key (':' :: ' ' ::
      writeLines style (depth + 1) value (writeMemberLines style depth members rest)))
  | value, rest => writeScalar style rest value

/-- The items after the first, and the end of the array. -/
def writeItemLines (style : TextStyle) (depth : Nat) : List Json → List Char → List Char
  | [], rest => newLine depth (']' :: rest)
  | item :: items, rest =>
    ',' :: newLine (depth + 1)
      (writeLines style (depth + 1) item (writeItemLines style depth items rest))

/-- The members after the first, and the end of the object. -/
def writeMemberLines (style : TextStyle) (depth : Nat) :
    List (String × Json) → List Char → List Char
  | [], rest => newLine depth ('\x7d' :: rest)
  | (key, value) :: members, rest =>
    ',' :: newLine (depth + 1) (writeText style key (':' :: ' ' ::
      writeLines style (depth + 1) value (writeMemberLines style depth members rest)))

end

/-- A value over several lines, in ASCII. -/
def indented (value : Json) : String := String.ofList (writeLines asciiStyle 0 value [])

end BpmnAudit.Json
