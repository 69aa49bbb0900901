import BpmnAudit.Decimal.Binary64

/-!
# The shortest decimal of a double

The fewest digits that read back as the double, and of the decimals with that many digits the one
nearest to it. A decimal reads back if it lies between the midpoints to the neighbouring doubles,
the midpoints themselves included if the significand is even.
-/

namespace BpmnAudit.Decimal

/-- A decimal `digits * 10 ^ exponent`. -/
structure Digits where
  digits : Nat
  exponent : Int
  deriving DecidableEq, Repr

/-- `m * 2 ^ e` as a fraction. -/
def binaryFraction (m : Nat) (e : Int) : Nat × Nat :=
  if 0 ≤ e then (m * Nat.pow 2 e.toNat, 1) else (m, Nat.pow 2 (-e).toNat)

/-- `num / den` over ten to the power of `k`, as a fraction. -/
def perPowerOfTen (num den : Nat) (k : Int) : Nat × Nat :=
  if 0 ≤ k then (num, den * Nat.pow 10 k.toNat) else (num * Nat.pow 10 (-k).toNat, den)

/-- The exponent of the leading digit of `num / den`. -/
def leadingExponent (num den : Nat) : Int :=
  let guess : Int := (((num.log2 : Int) - den.log2) * 30103).fdiv 100000
  let atLeast (k : Int) : Bool :=
    let (n, d) := perPowerOfTen num den k
    d ≤ n
  if atLeast (guess + 1) then guess + 1 else if atLeast guess then guess else guess - 1

/-- The decimal on the grid of `10 ^ k` that reads back, if any; of two, the nearer, and of two as
near the even one. -/
def onGrid (significand : Nat) (exponent : Int) (isPower : Bool) (k : Int) : Option Nat :=
  -- in quarters of the last bit, so that both midpoints are whole
  let low := if isPower then 4 * significand - 1 else 4 * significand - 2
  let high := 4 * significand + 2
  let scaled (m : Nat) : Nat × Nat :=
    let (n, d) := binaryFraction m (exponent - 2)
    perPowerOfTen n d k
  let (n, d) := scaled (4 * significand)
  let (lowN, lowD) := scaled low
  let (highN, highD) := scaled high
  let inside (c : Nat) : Bool :=
    if significand % 2 = 0 then lowN ≤ c * lowD && c * highD ≤ highN
    else lowN < c * lowD && c * highD < highN
  let floor := n / d
  match inside floor, inside (floor + 1) with
  | true, true => some (roundHalfEven n d)
  | true, false => some floor
  | false, true => some (floor + 1)
  | false, false => none

/-- The first grid with a decimal that reads back, from one digit to seventeen. -/
def shortestFrom (significand : Nat) (exponent : Int) (isPower : Bool) (leading : Int) :
    (left : Nat) → Digits
  | 0 => ⟨0, 0⟩
  | left + 1 =>
    let k := leading - (16 - left : Int)
    match onGrid significand exponent isPower k with
    | some c => ⟨c, k⟩
    | none => shortestFrom significand exponent isPower leading left

/-- A decimal without its closing zeros; `fuel` bounds their number. -/
def dropZeros : (fuel : Nat) → Digits → Digits
  | 0, d => d
  | fuel + 1, d =>
    if d.digits ≠ 0 ∧ d.digits % 10 = 0 then dropZeros fuel ⟨d.digits / 10, d.exponent + 1⟩ else d

/-- The shortest decimal of a positive finite double. -/
def shortest (significand : Nat) (exponent : Int) (isPower : Bool) : Digits :=
  let (n, d) := binaryFraction significand exponent
  dropZeros 20 (shortestFrom significand exponent isPower (leadingExponent n d) 17)

/-- Decimals are written positionally if the point falls from three places before the first digit
to sixteen after it, with at least one digit on either side of the point. -/
def positional (digits : List Char) (point : Int) : List Char :=
  if point ≤ 0 then
    '0' :: '.' :: List.replicate (-point).toNat '0' ++ digits
  else if digits.length ≤ point.toNat then
    digits ++ List.replicate (point.toNat - digits.length) '0' ++ ['.', '0']
  else digits.take point.toNat ++ '.' :: digits.drop point.toNat

/-- Other decimals are written with one digit before the point and an exponent of at least two
digits that always bears a sign. -/
def scientific (digits : List Char) (point : Int) : List Char :=
  let e := point - 1
  let mark := if e < 0 then ['e', '-'] else ['e', '+']
  let width := (toString e.natAbs).toList
  let padded := if width.length < 2 then '0' :: width else width
  let body := match digits with
    | [] => []
    | [c] => [c]
    | c :: rest => c :: '.' :: rest
  body ++ mark ++ padded

/-- The text of a double: the shortest decimal, `inf`, `-inf` or `nan`. -/
def render (x : Float) : String :=
  match value x with
  | .nan => "nan"
  | .infinite negative => if negative then "-inf" else "inf"
  | .finite negative significand exponent isPower =>
    let body :=
      if significand = 0 then ['0', '.', '0']
      else
        let d := shortest significand exponent isPower
        let digits := (toString d.digits).toList
        let point := digits.length + d.exponent
        if -4 < point ∧ point ≤ 16 then positional digits point else scientific digits point
    String.ofList (if negative then '-' :: body else body)

end BpmnAudit.Decimal
