/-!
# The double nearest to a fraction

Doubles with 53 significant bits. `nearestBits` rounds a fraction of naturals to the nearest one, a
tie to the even significand, and `value` takes a finite double apart into a natural times a power
of two.
-/

namespace BpmnAudit.Decimal

/-- The bits of positive infinity. -/
def infinityBits : Nat := 0x7ff0000000000000

/-- A quotient rounded to the nearest natural, a half to the even one. -/
def roundHalfEven (num den : Nat) : Nat :=
  let q := num / den
  let r := num % den
  if 2 * r < den ∨ (2 * r = den ∧ q % 2 = 0) then q else q + 1

/-- `num / den` over two to the power of `e`, as a fraction. -/
def scaleDown (num den : Nat) (e : Int) : Nat × Nat :=
  if 0 ≤ e then (num, den * Nat.pow 2 e.toNat) else (num * Nat.pow 2 (-e).toNat, den)

/-- The power of two that the last bit of the double next to `num / den` stands for. -/
def unitExponent (num den : Nat) : Int :=
  let e : Int := (num.log2 : Int) - den.log2 - 53
  let (n, d) := scaleDown num den e
  max (if Nat.pow 2 53 ≤ n / d then e + 1 else e) (-1074)

/-- The bits of the double nearest to `num / den`, infinity past the largest. A carry out of the
significand moves the exponent field up by one, as it has to. -/
def nearestBits (num den : Nat) : Nat :=
  if num = 0 then 0
  else
    let e := unitExponent num den
    let (n, d) := scaleDown num den e
    min ((e + 1074).toNat * Nat.pow 2 52 + roundHalfEven n d) infinityBits

/-- The double of a sign and a magnitude's bits. -/
def ofBits (negative : Bool) (bits : Nat) : Float :=
  Float.ofBits (UInt64.ofNat (if negative then Nat.pow 2 63 + bits else bits))

/-- What a double stands for. -/
inductive Value where
  | nan
  | infinite (negative : Bool)
  /-- The number `significand * 2 ^ exponent`; `isPower` marks a double whose lower neighbour is
  only half as far as its upper one. -/
  | finite (negative : Bool) (significand : Nat) (exponent : Int) (isPower : Bool)
  deriving DecidableEq, Repr

def value (x : Float) : Value :=
  let bits : Nat := x.toBits.toNat
  let negative : Bool := Nat.pow 2 63 ≤ bits
  let field : Nat := bits / Nat.pow 2 52 % Nat.pow 2 11
  let fraction : Nat := bits % Nat.pow 2 52
  if field = 2047 then if fraction = 0 then .infinite negative else .nan
  else if field = 0 then .finite negative fraction (-1074) false
  else
    let significand := Nat.pow 2 52 + fraction
    .finite negative significand ((field : Int) - 1075) (fraction = 0 && 1 < field)

end BpmnAudit.Decimal
