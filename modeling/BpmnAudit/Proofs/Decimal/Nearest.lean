import BpmnAudit.Decimal.Binary64
import Mathlib.Algebra.Order.Group.Nat
import Mathlib.Tactic.NormNum

/-!
# Doubles nearest to naturals

The nearest double of a natural is infinity only past the largest double, which is far beyond what
a list can have as its length (`nearestBits_ne_infinityBits`).
-/

namespace BpmnAudit.Decimal

theorem roundHalfEven_le (num den : Nat) : roundHalfEven num den ≤ num / den + 1 := by
  unfold roundHalfEven
  dsimp only
  split <;> omega

/-- In units of the last of its 54 first bits, or of a higher one, a natural has 54 bits at most. -/
theorem scaleDown_lt {n : Nat} {e : Int} (he : (n.log2 : Int) - 53 ≤ e) :
    (scaleDown n 1 e).1 / (scaleDown n 1 e).2 < 2 ^ 54 := by
  have top : n < 2 ^ (n.log2 + 1) := Nat.lt_log2_self
  unfold scaleDown
  split
  · next h =>
    show n / (1 * 2 ^ e.toNat) < 2 ^ 54
    rw [one_mul]
    refine Nat.div_lt_of_lt_mul ?_
    refine lt_of_lt_of_le top ?_
    rw [← pow_add]
    exact Nat.pow_le_pow_right (by norm_num) (by omega)
  · next h =>
    show n * 2 ^ (-e).toNat / 1 < 2 ^ 54
    rw [Nat.div_one]
    calc n * 2 ^ (-e).toNat
        < 2 ^ (n.log2 + 1) * 2 ^ (-e).toNat := Nat.mul_lt_mul_of_pos_right top (Nat.two_pow_pos _)
      _ = 2 ^ (n.log2 + 1 + (-e).toNat) := (pow_add ..).symm
      _ ≤ 2 ^ 54 := Nat.pow_le_pow_right (by norm_num) (by omega)

/-- A natural of at most 63 bits is nearest to a finite double. -/
theorem nearestBits_ne_infinityBits {n : Nat} (h : n < 2 ^ 63) :
    nearestBits n 1 ≠ infinityBits := by
  by_cases zero : n = 0
  · subst zero
    decide
  have size : n.log2 < 63 := (Nat.log2_lt zero).mpr h
  have unit : (n.log2 : Int) - 53 ≤ unitExponent n 1 ∧ unitExponent n 1 ≤ n.log2 - 52 := by
    unfold unitExponent
    rw [show Nat.log2 1 = 0 from by decide]
    dsimp only
    split <;> omega
  have significand := roundHalfEven_le (scaleDown n 1 (unitExponent n 1)).1
    (scaleDown n 1 (unitExponent n 1)).2
  have small := scaleDown_lt unit.1
  have field : (unitExponent n 1 + 1074).toNat ≤ 1085 := by omega
  unfold nearestBits
  rw [if_neg zero]
  dsimp only
  refine ne_of_lt (lt_of_le_of_lt (min_le_left _ _) ?_)
  calc (unitExponent n 1 + 1074).toNat * 2 ^ 52 + _
      ≤ 1085 * 2 ^ 52 + 2 ^ 54 :=
        Nat.add_le_add (Nat.mul_le_mul_right _ field) (significand.trans small)
    _ < infinityBits := by norm_num [infinityBits]

end BpmnAudit.Decimal
