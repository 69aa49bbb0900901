import BpmnAudit.Decimal.Reading
import BpmnAudit.Json.Token

/-!
# Reading JSON texts

Tokens build a value on a stack of containers that are still open. The grammar is strict, with the
three words for doubles without digits. Texts are bounded: by how many containers may be open
around a value, and by the digits of a whole number.
-/

namespace BpmnAudit.Json

/-- How large a text may grow. -/
structure Limits where
  /-- The containers around a value; a container without members does not count. -/
  depth : Nat
  /-- The digits before a point. -/
  digits : Nat

def documentLimits : Limits := ⟨200, 4300⟩

/-- A container that is still open. -/
inductive Frame where
  /-- The items so far, in reverse. -/
  | array (done : List Json)
  /-- The members so far, in reverse. -/
  | object (done : Members)
  /-- The members so far, in reverse, and the key whose value comes next. -/
  | member (done : Members) (key : String)

/-- What the text owes next. -/
inductive Await where
  | value
  /-- A first item, or the end of the array. -/
  | firstItem
  /-- A first key, or the end of the object. -/
  | firstKey
  | key
  | colon
  /-- A comma, or the end of the container. -/
  | more
  /-- Nothing: the value is complete. -/
  | nothing (value : Json)

/-- The reader's state: open containers, the innermost first, and what comes next. -/
structure Reader where
  stack : List Frame := []
  await : Await := .value

def readWord (limits : Limits) (cs : List Char) : Option Json :=
  if cs = "true".toList then some (.bool true)
  else if cs = "false".toList then some (.bool false)
  else if cs = "null".toList then some .null
  else if cs = "NaN".toList then some (.number (.real (Float.ofBits 0x7ff8000000000000)))
  else if cs = "Infinity".toList then
    some (.number (.real (Decimal.ofBits false Decimal.infinityBits)))
  else if cs = "-Infinity".toList then
    some (.number (.real (Decimal.ofBits true Decimal.infinityBits)))
  else
    (Decimal.readWritten limits.digits cs).map fun written =>
      if written.isWhole then
        let n : Int := written.literal.digits
        int (if written.literal.negative then -n else n)
      else .number (.real written.literal.toFloat)

/-- Puts a complete value where it belongs. -/
def Reader.put (value : Json) : List Frame → Option Reader
  | [] => some ⟨[], .nothing value⟩
  | .array done :: rest => some ⟨.array (value :: done) :: rest, .more⟩
  | .member done key :: rest => some ⟨.object ((key, value) :: done) :: rest, .more⟩
  | .object _ :: _ => none

/-- A token that opens or is a value. -/
def Reader.begin (limits : Limits) (stack : List Frame) : Token → Option Reader
  | .openArray => some ⟨.array [] :: stack, .firstItem⟩
  | .openObject => some ⟨.object [] :: stack, .firstKey⟩
  | .string cs => put (.text (String.ofList cs)) stack
  | .word cs =>
    match readWord limits cs with
    | none => none
    | some value => put value stack
  | _ => none

/-- A token that is a key of the innermost object. -/
def Reader.key (stack : List Frame) : Token → Option Reader
  | .string cs =>
    match stack with
    | .object done :: rest => some ⟨.member done (String.ofList cs) :: rest, .colon⟩
    | _ => none
  | _ => none

/-- One token of a text. -/
def Reader.step (limits : Limits) (reader : Reader) (token : Token) : Option Reader :=
  match reader.await, reader.stack, token with
  | .value, stack, token => begin limits stack token
  | .firstItem, .array done :: rest, .closeArray => put (.array done.reverse) rest
  | .firstItem, stack, token =>
    if stack.length ≤ limits.depth then begin limits stack token else none
  | .firstKey, .object done :: rest, .closeObject => put (.object done.reverse) rest
  | .firstKey, stack, token => if stack.length ≤ limits.depth then key stack token else none
  | .key, stack, token => key stack token
  | .colon, stack, .colon => some ⟨stack, .value⟩
  | .more, .array done :: rest, .closeArray => put (.array done.reverse) rest
  | .more, .object done :: rest, .closeObject => put (.object done.reverse) rest
  | .more, .array done :: rest, .comma => some ⟨.array done :: rest, .value⟩
  | .more, .object done :: rest, .comma => some ⟨.object done :: rest, .key⟩
  | _, _, _ => none

/-- Reads tokens one after the other. -/
def Reader.run (limits : Limits) : Reader → List Token → Option Reader
  | reader, [] => some reader
  | reader, token :: rest =>
    match reader.step limits token with
    | none => none
    | some next => next.run limits rest

/-- The value of a text within limits. -/
def parseWithin (limits : Limits) (cs : List Char) : Option Json :=
  match tokens? cs with
  | none => none
  | some tokens =>
    match Reader.run limits {} tokens with
    | some ⟨_, .nothing value⟩ => some value
    | _ => none

/-- The value of a document's text. -/
def parse (cs : List Char) : Option Json := parseWithin documentLimits cs

end BpmnAudit.Json
