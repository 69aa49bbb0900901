import BpmnAudit.Decimal.Binary64
import BpmnAudit.Text.Predicates

/-!
# Reading numbers

Two grammars of decimals. The lenient one reads what people write in an attribute: white space
around the number, digits of any script, single low lines between digits, and the words for
infinity and not-a-number in any case. The strict one is the number of a document.
-/

namespace BpmnAudit.Decimal

/-- A number in decimal notation, `± digits * 10 ^ exponent`. -/
structure Literal where
  negative : Bool
  digits : Nat
  exponent : Int
  deriving DecidableEq, Repr

/-- The double nearest to a literal. Magnitudes far outside the range of doubles are settled
without computing the power of ten. -/
def Literal.toFloat (l : Literal) : Float :=
  let size : Int := (toString l.digits).length + l.exponent
  let bits :=
    if l.digits = 0 ∨ size < -400 then 0
    else if 400 < size then infinityBits
    else if 0 ≤ l.exponent then nearestBits (l.digits * Nat.pow 10 l.exponent.toNat) 1
    else nearestBits l.digits (Nat.pow 10 (-l.exponent).toNat)
  ofBits l.negative bits

/-- The digits at the start, as a number and their count, and what follows them. -/
def takeDigits (cs : List Char) : Nat × Nat × List Char :=
  let digits := cs.takeWhile Char.isDigit
  (digits.foldl (fun n c => 10 * n + (c.toNat - 48)) 0, digits.length, cs.dropWhile Char.isDigit)

/-- A sign at the start, and what follows it. -/
def takeSign : List Char → Bool × List Char
  | '-' :: rest => (true, rest)
  | '+' :: rest => (false, rest)
  | rest => (false, rest)

/-- An exponent that makes up the whole text, or nothing at all. -/
def readExponent : List Char → Option Int
  | [] => some 0
  | c :: rest =>
    if c = 'e' ∨ c = 'E' then
      let (negative, rest) := takeSign rest
      let (n, count, rest) := takeDigits rest
      if count = 0 ∨ rest ≠ [] then none else some (if negative then -n else n)
    else none

/-- A fraction at the start, as its digits and their count, and what follows it. -/
def takeFraction : List Char → Option (Nat × Nat × List Char)
  | '.' :: rest => some (takeDigits rest)
  | _ => none

/-- An unsigned decimal with digits before or after the point. -/
def readUnsigned (negative : Bool) (cs : List Char) : Option Literal :=
  let (whole, wholeCount, rest) := takeDigits cs
  let (part, partCount, rest) := (takeFraction rest).getD (0, 0, rest)
  if wholeCount + partCount = 0 then none
  else
    (readExponent rest).map fun e =>
      ⟨negative, whole * Nat.pow 10 partCount + part, e - partCount⟩

/-! ## Numbers in attributes -/

/-- Leaves out each low line that stands between two digits. -/
def joinDigits : (afterDigit : Bool) → List Char → List Char
  | true, '_' :: c :: rest =>
    if c.isDigit then c :: joinDigits true rest else '_' :: joinDigits false (c :: rest)
  | _, c :: rest => c :: joinDigits c.isDigit rest
  | _, [] => []

/-- White space that ASCII numbers are trimmed of. -/
def isAsciiSpace (c : Char) : Bool :=
  c == ' ' || (9 ≤ c.toNat && c.toNat ≤ 13)

/-- A character as ASCII where it has an equal there: white space of other scripts is a space, and
a digit of any script the ASCII one. ASCII stays as it is, information separators included. -/
def plainChar (c : Char) : Char :=
  if c.toNat < 127 then c
  else if Text.isSpace c then ' '
  else ((Text.digitValue? c).map fun n => Char.ofNat (48 + n)).getD c

/-- The characters without ASCII white space at either end. -/
def trimAscii (cs : List Char) : List Char :=
  ((cs.dropWhile isAsciiSpace).reverse.dropWhile isAsciiSpace).reverse

/-- The double that an attribute's text writes, if it writes a number. -/
def readNumber (s : String) : Option Float :=
  let cs := joinDigits false (trimAscii (s.toList.map plainChar))
  let (negative, body) := takeSign cs
  let word := body.map Char.toLower
  if word = "inf".toList ∨ word = "infinity".toList then some (ofBits negative infinityBits)
  else if word = "nan".toList then some (Float.ofBits 0x7ff8000000000000)
  else (readUnsigned negative body).map Literal.toFloat

/-! ## Numbers in documents -/

/-- A number of a document: a literal, whole unless it has a fraction or an exponent. -/
structure Written where
  literal : Literal
  isWhole : Bool
  deriving DecidableEq, Repr

/-- Reads a document's number: no sign but a minus, no needless leading zero, digits on both sides
of a point, and at most `maxWhole` digits before it. -/
def readWritten (maxWhole : Nat) (cs : List Char) : Option Written :=
  let (negative, body) := match cs with
    | '-' :: rest => (true, rest)
    | _ => (false, cs)
  let (whole, count, rest) := takeDigits body
  if count = 0 ∨ maxWhole < count ∨ (1 < count ∧ body.head? = some '0') then none
  else
    match takeFraction rest with
    | none => (readExponent rest).map fun e => ⟨⟨negative, whole, e⟩, rest = []⟩
    | some (part, partCount, rest) =>
      if partCount = 0 then none
      else (readExponent rest).map fun e =>
        ⟨⟨negative, whole * Nat.pow 10 partCount + part, e - partCount⟩, false⟩

end BpmnAudit.Decimal
