import BpmnAudit.Json.Basic

/-!
# Tokens of JSON texts

A text is cut into brackets, commas, colons, strings and words in one pass over its characters. A
word is a longest run of characters that are neither blanks nor marks; whether it is a number or a
literal is decided later. A string is read to its characters: escapes are resolved, two escaped
halves of a surrogate pair become one character, and a lone half or a bare control character
refuses the text.
-/

namespace BpmnAudit.Json

inductive Token where
  | openArray
  | closeArray
  | openObject
  | closeObject
  | comma
  | colon
  | string (cs : List Char)
  | word (cs : List Char)
  deriving DecidableEq, Repr

/-- Where the scan stands. Characters read so far are in reverse. -/
inductive ScanMode where
  | between
  | inWord (done : List Char)
  | inString (done : List Char)
  /-- After a backslash. -/
  | inEscape (done : List Char)
  /-- In the four digits of a code unit, `high` being the first half of a pair. -/
  | inUnit (done : List Char) (high : Option Nat) (left value : Nat)
  /-- After the first half of a pair. -/
  | afterHigh (done : List Char) (high : Nat)
  /-- After the first half of a pair and a backslash. -/
  | afterHighEscape (done : List Char) (high : Nat)
  deriving DecidableEq, Repr

/-- The scan's state: the mode and the tokens found, in reverse. -/
structure Scan where
  mode : ScanMode := .between
  tokens : List Token := []

/-- Blanks between tokens. -/
def isJsonBlank (c : Char) : Bool := c == ' ' || c == '\t' || c == '\n' || c == '\r'

def markToken? (c : Char) : Option Token :=
  if c = '[' then some .openArray
  else if c = ']' then some .closeArray
  else if c = '\x7b' then some .openObject
  else if c = '\x7d' then some .closeObject
  else if c = ',' then some .comma
  else if c = ':' then some .colon
  else none

/-- The character that a one-letter escape stands for. -/
def escapeChar? (c : Char) : Option Char :=
  if c = '"' ∨ c = '\\' ∨ c = '/' then some c
  else if c = 'b' then some '\x08'
  else if c = 'f' then some '\x0c'
  else if c = 'n' then some '\n'
  else if c = 'r' then some '\r'
  else if c = 't' then some '\t'
  else none

/-- The value of a hexadecimal digit. -/
def hexValue? (c : Char) : Option Nat :=
  if '0' ≤ c ∧ c ≤ '9' then some (c.toNat - 48)
  else if 'a' ≤ c ∧ c ≤ 'f' then some (c.toNat - 87)
  else if 'A' ≤ c ∧ c ≤ 'F' then some (c.toNat - 55)
  else none

/-- One character outside strings, with the tokens found so far. -/
def scanOutside (tokens : List Token) (c : Char) : Scan :=
  if isJsonBlank c then ⟨.between, tokens⟩
  else if c = '"' then ⟨.inString [], tokens⟩
  else
    match markToken? c with
    | some mark => ⟨.between, mark :: tokens⟩
    | none => ⟨.inWord [c], tokens⟩

/-- What follows a complete code unit. -/
def closeUnit (done : List Char) (high : Option Nat) (unit : Nat) : Option ScanMode :=
  let isHigh := 0xd800 ≤ unit ∧ unit < 0xdc00
  let isLow := 0xdc00 ≤ unit ∧ unit < 0xe000
  match high with
  | some h =>
    if isLow then
      some (.inString (Char.ofNat (0x10000 + (h - 0xd800) * 1024 + (unit - 0xdc00)) :: done))
    else none
  | none =>
    if isHigh then some (.afterHigh done unit)
    else if isLow then none
    else some (.inString (Char.ofNat unit :: done))

/-- One character of a text. -/
def Scan.step (scan : Scan) (c : Char) : Option Scan :=
  let inMode (mode : Option ScanMode) : Option Scan := mode.map (⟨·, scan.tokens⟩)
  match scan.mode with
  | .between => some (scanOutside scan.tokens c)
  | .inWord done =>
    if isJsonBlank c ∨ c = '"' ∨ (markToken? c).isSome then
      some (scanOutside (.word done.reverse :: scan.tokens) c)
    else inMode (some (.inWord (c :: done)))
  | .inString done =>
    if c = '"' then some ⟨.between, .string done.reverse :: scan.tokens⟩
    else if c = '\\' then inMode (some (.inEscape done))
    else if c.toNat < 0x20 then none
    else inMode (some (.inString (c :: done)))
  | .inEscape done =>
    if c = 'u' then inMode (some (.inUnit done none 4 0))
    else inMode ((escapeChar? c).map fun e => .inString (e :: done))
  | .inUnit done high left value =>
    match hexValue? c with
    | none => none
    | some digit =>
      let value := value * 16 + digit
      if left ≤ 1 then inMode (closeUnit done high value)
      else inMode (some (.inUnit done high (left - 1) value))
  | .afterHigh done high => if c = '\\' then inMode (some (.afterHighEscape done high)) else none
  | .afterHighEscape done high =>
    if c = 'u' then inMode (some (.inUnit done (some high) 4 0)) else none

/-- Scans characters one after the other. -/
def Scan.run : Scan → List Char → Option Scan
  | scan, [] => some scan
  | scan, c :: cs =>
    match scan.step c with
    | none => none
    | some next => next.run cs

/-- The tokens at the end of the text, in order. A string must be closed. -/
def Scan.finish (scan : Scan) : Option (List Token) :=
  match scan.mode with
  | .between => some scan.tokens.reverse
  | .inWord done => some (.word done.reverse :: scan.tokens).reverse
  | _ => none

def tokens? (cs : List Char) : Option (List Token) :=
  match Scan.run {} cs with
  | none => none
  | some scan => scan.finish

end BpmnAudit.Json
