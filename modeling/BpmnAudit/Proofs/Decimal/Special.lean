/-!
# Sums with special doubles

What becomes of infinities, and of doubles that are no numbers, in sums, differences and
comparisons. A sum is finite only if all that was added is (`isFinite_of_isFinite_foldl`); it need
not be infinite otherwise, since opposite infinities cancel to no number. Numbers are compared in
full (`not_lt_iff_le`), and an infinity is beyond every finite bound (`lt_abs_of_isInf`), but
nothing holds of a comparison with what is no number (`not_lt_of_isNaN`).
-/

namespace BpmnAudit.Decimal

open Float.Model (UnpackedFloat Format)
open Float.Model.UnpackedFloat (Sign)

/-! ## Packing -/

/-- A double taken apart: no number, a signed infinity or zero, or a finite number. -/
def unpacked (x : Float) : UnpackedFloat := x.toModel.unpack

/-- What is left of the parts of a double once they are put together. -/
def repacked (u : UnpackedFloat) : UnpackedFloat := (Float.Model.pack u).unpack

theorem repacked_notANumber : repacked .notANumber = .notANumber := rfl

theorem repacked_infinity (s : Sign) : repacked (.infinity s) = .infinity s := by
  cases s <;> rfl

theorem isFinite_unpack {b : BitVec Format.binary64.numBits}
    (h : UnpackedFloat.unpackExponent b ≠ -1#_) : (UnpackedFloat.unpack .binary64 b).isFinite := by
  unfold UnpackedFloat.unpack
  dsimp only
  rw [if_neg h]
  by_cases small : UnpackedFloat.unpackExponent b = 0#_
  · rw [if_pos small]
    by_cases zero : UnpackedFloat.unpackMantissa b = 0#_
    · rw [dif_pos zero]
      rfl
    · rw [dif_neg zero]
      rfl
  · rw [if_neg small]
    rfl

/-- A finite number is put together to a finite one, or overflows. -/
theorem repacked_finite (s : Sign) (m : Nat) (e : Int) (hm : 0 < m) :
    repacked (.finite s m e hm) = .infinity s ∨ (repacked (.finite s m e hm)).isFinite := by
  show UnpackedFloat.unpack .binary64 (UnpackedFloat.pack .binary64 _) = _ ∨
    (UnpackedFloat.unpack .binary64 (UnpackedFloat.pack .binary64 _)).isFinite
  unfold UnpackedFloat.pack
  dsimp only
  split
  · exact .inl (repacked_infinity s)
  · next fits =>
    refine .inr (isFinite_unpack ?_)
    split
    · -- The exponent of a normal double has a bit that is not set.
      rw [UnpackedFloat.unpackExponent_packComponents, BitVec.neg_one_eq_allOnes]
      intro h
      have bits := congrArg BitVec.toNat h
      rw [BitVec.toNat_allOnes, BitVec.toNat_ofNat, Nat.mod_eq_of_lt (by omega)] at bits
      omega
    · rw [UnpackedFloat.unpackExponent_packComponents]
      decide

theorem isNaN_repacked (u : UnpackedFloat) : (repacked u).isNaN = u.isNaN := by
  cases u with
  | notANumber => rfl
  | infinity s => rw [repacked_infinity]
  | zero s => cases s <;> rfl
  | finite s m e hm =>
    rcases repacked_finite s m e hm with h | h
    · rw [h]
      rfl
    · cases hr : repacked (.finite s m e hm) with
      | notANumber =>
        rw [hr] at h
        cases h
      | _ => rfl

/-! ## Sorts of doubles -/

variable {x y : Float}

theorem isFinite_eq (x : Float) : x.isFinite = (unpacked x).isFinite := rfl

theorem isInf_eq (x : Float) : x.isInf = (unpacked x).isInf := rfl

theorem isNaN_eq (x : Float) : x.isNaN = (unpacked x).isNaN := rfl

theorem unpacked_of_isNaN (h : x.isNaN) : unpacked x = .notANumber := by
  rw [isNaN_eq] at h
  cases hx : unpacked x with
  | notANumber => rfl
  | _ =>
    rw [hx] at h
    cases h

theorem unpacked_of_isInf (h : x.isInf) : ∃ s, unpacked x = .infinity s := by
  rw [isInf_eq] at h
  cases hx : unpacked x with
  | infinity s => exact ⟨s, rfl⟩
  | _ =>
    rw [hx] at h
    cases h

theorem unpacked_add (x y : Float) :
    unpacked (x + y) = repacked (.add .binary64 (unpacked x) (unpacked y)) := rfl

theorem unpacked_sub (x y : Float) :
    unpacked (x - y) = repacked (.sub .binary64 (unpacked x) (unpacked y)) := rfl

theorem unpacked_abs (x : Float) : unpacked x.abs = repacked (unpacked x).abs := rfl

theorem isFinite_or (x : Float) : x.isFinite ∨ x.isInf ∨ x.isNaN := by
  rw [isFinite_eq, isInf_eq, isNaN_eq]
  cases unpacked x with
  | notANumber => exact .inr (.inr rfl)
  | infinity => exact .inr (.inl rfl)
  | _ => exact .inl rfl

/-! ## Sums and differences -/

/-- A sum with an infinity, or with what is no number, is one of these again. -/
theorem add_of_not_isFinite {u w : UnpackedFloat} (h : ¬ (u.isFinite ∧ w.isFinite)) :
    u.add .binary64 w = .notANumber ∨ ∃ s, u.add .binary64 w = .infinity s := by
  cases u with
  | notANumber => exact .inl rfl
  | infinity s =>
    cases w with
    | notANumber => exact .inl rfl
    | infinity t => cases s <;> cases t <;> first | exact .inl rfl | exact .inr ⟨_, rfl⟩
    | _ => exact .inr ⟨s, rfl⟩
  | _ =>
    cases w with
    | notANumber => exact .inl rfl
    | infinity t => exact .inr ⟨t, rfl⟩
    | _ => exact (h ⟨rfl, rfl⟩).elim

theorem isFinite_of_isFinite_add (h : (x + y).isFinite) : x.isFinite ∧ y.isFinite := by
  refine Decidable.byContradiction fun hxy => ?_
  rw [isFinite_eq, unpacked_add] at h
  rw [isFinite_eq x, isFinite_eq y] at hxy
  rcases add_of_not_isFinite hxy with hsum | ⟨s, hsum⟩
  · rw [hsum, repacked_notANumber] at h
    cases h
  · rw [hsum, repacked_infinity] at h
    cases h

/-- A sum from left to right is finite only if all summands are. -/
theorem isFinite_of_isFinite_foldl {start : Float} {xs : List Float}
    (h : (xs.foldl (· + ·) start).isFinite) : start.isFinite ∧ ∀ x ∈ xs, x.isFinite := by
  induction xs generalizing start with
  | nil => exact ⟨h, nofun⟩
  | cons x xs ih =>
    obtain ⟨first, rest⟩ := ih h
    obtain ⟨hstart, hx⟩ := isFinite_of_isFinite_add first
    exact ⟨hstart, List.forall_mem_cons.mpr ⟨hx, rest⟩⟩

theorem isNaN_sub_left (h : x.isNaN) (y : Float) : (x - y).isNaN := by
  rw [isNaN_eq, unpacked_sub, isNaN_repacked, unpacked_of_isNaN h]
  rfl

theorem isInf_sub (hx : x.isInf) (hy : y.isFinite) : (x - y).isInf := by
  obtain ⟨s, hs⟩ := unpacked_of_isInf hx
  rw [isFinite_eq] at hy
  have same : UnpackedFloat.sub .binary64 (.infinity s) (unpacked y) = .infinity s := by
    cases hw : unpacked y with
    | notANumber | infinity =>
      rw [hw] at hy
      cases hy
    | _ => rfl
  rw [isInf_eq, unpacked_sub, hs, same, repacked_infinity]
  rfl

theorem isNaN_round (s : Sign) (m : Nat) (e : Int) :
    (UnpackedFloat.round .binary64 s m e).isNaN = false := by
  unfold UnpackedFloat.round UnpackedFloat.roundWithAccuracy
  dsimp only
  rw [apply_dite UnpackedFloat.isNaN]
  exact ite_self false

theorem isNaN_normalize (m e : Int) (s : Sign) :
    (UnpackedFloat.normalize .binary64 m e s).isNaN = false := by
  unfold UnpackedFloat.normalize
  split
  · exact isNaN_round ..
  · rfl
  · exact isNaN_round ..

theorem isNaN_sub_of_isFinite (hx : x.isFinite) (hy : y.isFinite) : (x - y).isNaN = false := by
  rw [isFinite_eq] at hx hy
  rw [isNaN_eq, unpacked_sub, isNaN_repacked]
  revert hx hy
  cases unpacked x with
  | notANumber | infinity => rintro ⟨⟩
  | zero s =>
    cases unpacked y with
    | notANumber | infinity => rintro _ ⟨⟩
    | zero t => cases s <;> cases t <;> exact fun _ _ => rfl
    | finite => exact fun _ _ => rfl
  | finite =>
    cases unpacked y with
    | notANumber | infinity => rintro _ ⟨⟩
    | zero => exact fun _ _ => rfl
    | finite => exact fun _ _ => isNaN_normalize ..

theorem isNaN_abs (x : Float) : x.abs.isNaN = x.isNaN := by
  rw [isNaN_eq, isNaN_eq, unpacked_abs, isNaN_repacked]
  cases unpacked x <;> rfl

/-! ## Comparisons -/

theorem lt_iff : x < y ↔ (unpacked x).compare (unpacked y) = some .lt :=
  decide_eq_true_iff.trans beq_iff_eq

theorem le_iff : x ≤ y ↔ ((unpacked x).compare (unpacked y)).any (·.isLE) = true :=
  decide_eq_true_iff

theorem exists_compare {u w : UnpackedFloat} (hu : u.isNaN = false) (hw : w.isNaN = false) :
    ∃ o, u.compare w = some o ∧ w.compare u = some o.swap := by
  cases u with
  | notANumber => cases hu
  | infinity s =>
    cases w with
    | notANumber => cases hw
    | infinity t => cases s <;> cases t <;> exact ⟨_, rfl, rfl⟩
    | zero => cases s <;> exact ⟨_, rfl, rfl⟩
    | finite t => cases s <;> cases t <;> exact ⟨_, rfl, rfl⟩
  | zero =>
    cases w with
    | notANumber => cases hw
    | zero => exact ⟨_, rfl, rfl⟩
    | infinity t | finite t => cases t <;> exact ⟨_, rfl, rfl⟩
  | finite s m e hm =>
    cases w with
    | notANumber => cases hw
    | zero => cases s <;> exact ⟨_, rfl, rfl⟩
    | infinity t => cases s <;> cases t <;> exact ⟨_, rfl, rfl⟩
    | finite t n k hn =>
      -- Magnitudes are compared by exponent and then mantissa, in reverse under minus signs.
      have turned : (compare k e).then (compare n m) =
          ((compare e k).then (compare m n)).swap := by
        rw [Ordering.swap_then, ← Std.OrientedCmp.eq_swap, ← Std.OrientedCmp.eq_swap]
      cases s <;> cases t
      · exact ⟨_, rfl, congrArg (fun o : Ordering => some o.swap) turned⟩
      · exact ⟨_, rfl, rfl⟩
      · exact ⟨_, rfl, rfl⟩
      · exact ⟨_, rfl, congrArg some turned⟩

/-- Nothing is below what is no number. -/
theorem not_lt_of_isNaN (h : y.isNaN) (x : Float) : ¬ x < y := by
  rw [lt_iff, unpacked_of_isNaN h]
  cases unpacked x <;> rintro ⟨⟩

/-- The magnitude of an infinity is beyond every finite double. -/
theorem lt_abs_of_isInf (hx : x.isFinite) (hy : y.isInf) : x < y.abs := by
  obtain ⟨s, hs⟩ := unpacked_of_isInf hy
  have magnitude : unpacked y.abs = .infinity .positive := by
    rw [unpacked_abs, hs]
    exact repacked_infinity .positive
  rw [isFinite_eq] at hx
  rw [lt_iff, magnitude]
  cases hu : unpacked x with
  | notANumber | infinity =>
    rw [hu] at hx
    cases hx
  | zero => rfl
  | finite t => cases t <;> rfl

/-- Numbers are compared in full. -/
theorem not_lt_iff_le (hx : x.isNaN = false) (hy : y.isNaN = false) : ¬ x < y ↔ y ≤ x := by
  obtain ⟨o, hxy, hyx⟩ := exists_compare hx hy
  rw [lt_iff, le_iff, show (unpacked x).compare (unpacked y) = some o from hxy,
    show (unpacked y).compare (unpacked x) = some o.swap from hyx]
  cases o <;> decide

end BpmnAudit.Decimal
