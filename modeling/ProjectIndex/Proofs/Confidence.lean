import Mathlib
import ProjectIndex.Classify.Basic

/-!
Contract: doubles in the order the detector and the classifier compare them.

Scores, thresholds and confidences are doubles, compared as IEEE 754 compares them: `NaN` is
unordered, the two zeros are equal, and every other double has one place on the line. Reasoning
about acceptance needs the laws of that order, and `Float` has none in the library: its comparisons
are only defined through `Float.Model`, the unpacked form of the bits.

Owns:
* `lineCompare`, a key order on unpacked doubles (class on the line, then exponent, then mantissa,
  negated for negative doubles), and `compare_eq_lineCompare`, which says that IEEE comparison is
  that order away from `NaN`. The key order is lexicographic, so its laws come from the library.
* the laws of `<` and `≤` on `Float` that follow: transitivity, irreflexivity of `<`, and totality
  away from `NaN`.
* `Confidence.toFloat_isNaN`: no confidence is `NaN`, so confidences are totally ordered.
-/

namespace ProjectIndex

open Float.Model Float.Model.UnpackedFloat

namespace Number

/-! ### The line of doubles -/

/-- Where an unpacked double lies on the line: −∞, negative, zero, positive, +∞. -/
def lineClass : UnpackedFloat → Int
  | .infinity .negative => -2
  | .finite .negative .. => -1
  | .zero _ => 0
  | .notANumber => 0
  | .finite .positive .. => 1
  | .infinity .positive => 2

/-- The exponent of a finite double, negated when the double is negative. -/
def lineExponent : UnpackedFloat → Int
  | .finite .positive _ e _ => e
  | .finite .negative _ e _ => -e
  | _ => 0

/-- The mantissa of a finite double, negated when the double is negative. -/
def lineMantissa : UnpackedFloat → Int
  | .finite .positive m _ _ => m
  | .finite .negative m _ _ => -m
  | _ => 0

/-- The order of unpacked doubles by class, then exponent, then mantissa. -/
def lineCompare : UnpackedFloat → UnpackedFloat → Ordering :=
  compareLex (compareOn lineClass) (compareLex (compareOn lineExponent) (compareOn lineMantissa))

instance : Std.TransCmp lineCompare :=
  inferInstanceAs (Std.TransCmp (compareLex _ _))

theorem lineCompare_self (a : UnpackedFloat) : lineCompare a a = .eq :=
  Std.ReflCmp.compare_self

theorem lineCompare_swap (a b : UnpackedFloat) : lineCompare a b = (lineCompare b a).swap :=
  Std.OrientedCmp.eq_swap

theorem int_compare_neg (a b : Int) : compare (-a) (-b) = (compare a b).swap := by
  cases comparison : compare a b with
  | lt =>
      rw [Int.compare_eq_lt] at comparison
      exact Int.compare_eq_gt.mpr (by omega)
  | eq =>
      rw [Int.compare_eq_eq] at comparison
      subst comparison
      exact Int.compare_eq_eq.mpr rfl
  | gt =>
      rw [Int.compare_eq_gt] at comparison
      exact Int.compare_eq_lt.mpr (by omega)

theorem int_compare_natCast (a b : Nat) : compare (a : Int) (b : Int) = compare a b := by
  cases comparison : compare a b with
  | lt =>
      rw [Nat.compare_eq_lt] at comparison
      exact Int.compare_eq_lt.mpr (by omega)
  | eq =>
      rw [Nat.compare_eq_eq] at comparison
      subst comparison
      exact Int.compare_eq_eq.mpr rfl
  | gt =>
      rw [Nat.compare_eq_gt] at comparison
      exact Int.compare_eq_gt.mpr (by omega)

/-- **IEEE comparison is the key order away from `NaN`.** Two negative doubles compare by the
swapped lexicographic order of exponent and mantissa, which is the order of the negated keys. -/
theorem compare_eq_lineCompare {a b : UnpackedFloat} (numberA : a.isNaN = false)
    (numberB : b.isNaN = false) : a.compare b = some (lineCompare a b) := by
  -- Every pair of shapes, NaN included (the hypotheses discharge those); the literal comparisons
  -- of classes that remain reduce by `rfl`.
  rcases a with ⟨_ | _⟩ | _ | ⟨_ | _⟩ | ⟨_ | _, m, e, _⟩ <;>
    rcases b with ⟨_ | _⟩ | _ | ⟨_ | _⟩ | ⟨_ | _, m', e', _⟩ <;>
    simp_all [UnpackedFloat.compare, UnpackedFloat.isNaN, lineCompare, compareLex, compareOn,
      lineClass, lineExponent, lineMantissa, int_compare_neg, int_compare_natCast,
      Ordering.swap_then] <;>
    rfl

theorem isNaN_left_of_compare {a b : UnpackedFloat} {o : Ordering}
    (comparison : a.compare b = some o) : a.isNaN = false := by
  cases a <;> first | rfl | simp [UnpackedFloat.compare] at comparison

theorem isNaN_right_of_compare {a b : UnpackedFloat} {o : Ordering}
    (comparison : a.compare b = some o) : b.isNaN = false := by
  cases b <;> first | rfl | (cases a <;> simp [UnpackedFloat.compare] at comparison)

/-! ### Comparisons of doubles -/

theorem float_lt_iff (x y : Float) :
    x < y ↔ x.toModel.unpack.compare y.toModel.unpack = some .lt := by
  show x.lt y = true ↔ _
  simp [Float.lt, LT.lt, Float.Model.lt, UnpackedFloat.lt]

theorem float_le_iff (x y : Float) :
    x ≤ y ↔ ∃ o, x.toModel.unpack.compare y.toModel.unpack = some o ∧ o.isLE := by
  show x.le y = true ↔ _
  simp [Float.le, LE.le, Float.Model.le, UnpackedFloat.le, Option.any_eq_true]

section Laws

variable {x y z : Float}

theorem float_lt_of_lt_of_le (lessXY : x < y) (leYZ : y ≤ z) : x < z := by
  rw [float_lt_iff] at lessXY ⊢
  obtain ⟨o, comparisonYZ, isLE⟩ := (float_le_iff y z).mp leYZ
  have numberX := isNaN_left_of_compare lessXY
  have numberY := isNaN_left_of_compare comparisonYZ
  have numberZ := isNaN_right_of_compare comparisonYZ
  rw [compare_eq_lineCompare numberX numberY, Option.some.injEq] at lessXY
  rw [compare_eq_lineCompare numberY numberZ, Option.some.injEq] at comparisonYZ
  rw [compare_eq_lineCompare numberX numberZ,
    Std.TransCmp.lt_of_lt_of_isLE lessXY (comparisonYZ ▸ isLE)]

theorem float_lt_of_le_of_lt (leXY : x ≤ y) (lessYZ : y < z) : x < z := by
  rw [float_lt_iff] at lessYZ ⊢
  obtain ⟨o, comparisonXY, isLE⟩ := (float_le_iff x y).mp leXY
  have numberX := isNaN_left_of_compare comparisonXY
  have numberY := isNaN_right_of_compare comparisonXY
  have numberZ := isNaN_right_of_compare lessYZ
  rw [compare_eq_lineCompare numberX numberY, Option.some.injEq] at comparisonXY
  rw [compare_eq_lineCompare numberY numberZ, Option.some.injEq] at lessYZ
  rw [compare_eq_lineCompare numberX numberZ,
    Std.TransCmp.lt_of_isLE_of_lt (comparisonXY ▸ isLE) lessYZ]

theorem float_le_of_lt (lessXY : x < y) : x ≤ y :=
  (float_le_iff x y).mpr ⟨.lt, (float_lt_iff x y).mp lessXY, rfl⟩

/-- Away from `NaN`, a double that is not below another is at or above it. -/
theorem float_le_of_not_lt (numberX : x.isNaN = false) (numberY : y.isNaN = false)
    (notLess : ¬ x < y) : y ≤ x := by
  rw [float_lt_iff, compare_eq_lineCompare numberX numberY, Option.some.injEq] at notLess
  refine (float_le_iff y x).mpr ⟨_, compare_eq_lineCompare numberY numberX, ?_⟩
  rw [lineCompare_swap]
  cases comparison : lineCompare x.toModel.unpack y.toModel.unpack <;> simp_all

theorem float_le_refl (numberX : x.isNaN = false) : x ≤ x :=
  (float_le_iff x x).mpr ⟨.eq, by rw [compare_eq_lineCompare numberX numberX,
    lineCompare_self], rfl⟩

theorem float_lt_irrefl (x : Float) : ¬ x < x := by
  intro less
  have number := isNaN_left_of_compare ((float_lt_iff x x).mp less)
  rw [float_lt_iff, compare_eq_lineCompare number number, lineCompare_self] at less
  cases less

theorem float_not_le_of_lt (less : x < y) : ¬ y ≤ x :=
  fun atMost => float_lt_irrefl x (float_lt_of_lt_of_le less atMost)

/-- Nothing is below `NaN`. -/
theorem float_not_lt_of_isNaN (undefined : y.isNaN = true) : ¬ x < y := by
  intro less
  have number : y.toModel.unpack.isNaN = false := isNaN_right_of_compare ((float_lt_iff x y).mp less)
  exact absurd undefined (by rw [Bool.not_eq_true]; exact number)

/-- A number is below nothing that is `NaN`, and otherwise not below exactly what it is at or
above. -/
theorem float_not_lt_iff (numberX : x.isNaN = false) : ¬ x < y ↔ y ≤ x ∨ y.isNaN = true := by
  constructor
  · intro notLess
    cases numberY : y.isNaN with
    | false => exact Or.inl (float_le_of_not_lt numberX numberY notLess)
    | true => exact Or.inr rfl
  · rintro (atMost | undefined) less
    · exact float_not_le_of_lt less atMost
    · exact float_not_lt_of_isNaN undefined less

end Laws

/-! ### Rounding never makes a `NaN` -/

theorem isNaN_unpack_packComponents {spec : Format} {s : Sign} {e : BitVec spec.exponentBits}
    {m : BitVec spec.mantissaBitsWithoutImplicit} (notAllOnes : e ≠ -1#_ ∨ m = 0#_) :
    (UnpackedFloat.unpack spec (packComponents spec s e m)).isNaN = false := by
  simp only [UnpackedFloat.unpack, unpackMantissa_packComponents, unpackExponent_packComponents]
  split
  · rename_i allOnes
    rcases notAllOnes with notAllOnes | mantissaZero
    · exact absurd allOnes notAllOnes
    · simp [mantissaZero, UnpackedFloat.isNaN]
  · split
    · split <;> rfl
    · rfl

/-- Packing a double that is no `NaN` writes an exponent field other than all ones, or an empty
mantissa, so unpacking it gives no `NaN` back. -/
theorem isNaN_unpack_pack {spec : Format} {x : UnpackedFloat} (numberX : x.isNaN = false) :
    (UnpackedFloat.unpack spec (pack spec x)).isNaN = false := by
  fun_cases pack spec x with
  | case1 => simp [UnpackedFloat.isNaN] at numberX
  | case2 s => exact isNaN_unpack_packComponents (Or.inr rfl)
  | case3 s => exact isNaN_unpack_packComponents (Or.inr rfl)
  | case4 s m e hm biasedExponent overflow => exact isNaN_unpack_packComponents (Or.inr rfl)
  | case5 s m e hm actualMantissaBits biasedExponent inRange normal =>
      refine isNaN_unpack_packComponents (Or.inl ?_)
      intro allOnes
      have bits := congrArg BitVec.toNat allOnes
      simp [BitVec.toNat_ofNat, BitVec.neg_one_eq_allOnes] at bits
      rw [Nat.mod_eq_of_lt (by omega)] at bits
      omega
  | case6 s m e hm actualMantissaBits biasedExponent inRange subnormal =>
      refine isNaN_unpack_packComponents (Or.inl ?_)
      intro allOnes
      have bits := congrArg BitVec.toNat allOnes
      have widthPos := spec.he
      simp [BitVec.neg_one_eq_allOnes] at bits
      have : 1 < 2 ^ spec.exponentBits := Nat.one_lt_two_pow (by omega)
      omega

theorem isNaN_roundWithAccuracy {spec : Format} {s : Sign} {m : Nat} {e : Int}
    {accuracy : Accuracy} : (roundWithAccuracy spec s m e accuracy).isNaN = false := by
  unfold roundWithAccuracy
  split
  dsimp only
  split <;> rfl

theorem isNaN_ofNat {spec : Format} {n : Nat} : (UnpackedFloat.ofNat spec n).isNaN = false := by
  simp only [UnpackedFloat.ofNat, UnpackedFloat.ofInt, UnpackedFloat.normalize,
    UnpackedFloat.round]
  split <;> first | rfl | exact isNaN_roundWithAccuracy

theorem isNaN_ofScientific {spec : Format} {m : Nat} {e : Int} :
    (UnpackedFloat.ofScientific spec m e).isNaN = false := by
  unfold UnpackedFloat.ofScientific
  split
  · rfl
  · split
    · rfl
    · split
      · rfl
      · split <;> exact isNaN_roundWithAccuracy

theorem isNaN_div_finite {spec : Format} {a : UnpackedFloat} {s : Sign} {m : Nat} {e : Int}
    {positive : 0 < m} : (UnpackedFloat.div spec a (.finite s m e positive)).isNaN = a.isNaN := by
  cases a <;> first | rfl | exact isNaN_roundWithAccuracy

end Number

open Number in
/-- **No confidence is `NaN`.** Below `2^53` units the double is the quotient of two exact doubles,
one of them `10^4`; above, it comes from the model's decimal conversion. Either way it is rounded
from a finite quotient. -/
theorem Confidence.toFloat_isNaN (c : Confidence) : c.toFloat.isNaN = false := by
  unfold Confidence.toFloat Float.ofScientific
  split
  · simp only [if_true]
    show (UnpackedFloat.unpack _ (UnpackedFloat.pack _ (UnpackedFloat.div _ _ _))).isNaN = false
    have tenThousand : Float.exactlyRepresentablePowersOfTen[4].toModel.unpack =
        .finite .positive (10000 * 2 ^ 39) (-39) (by decide) := rfl
    rw [tenThousand]
    apply isNaN_unpack_pack
    rw [isNaN_div_finite]
    show (UnpackedFloat.unpack _ (UnpackedFloat.pack _ (UnpackedFloat.ofNat _ _))).isNaN = false
    exact isNaN_unpack_pack isNaN_ofNat
  · exact isNaN_unpack_pack isNaN_ofScientific

end ProjectIndex
