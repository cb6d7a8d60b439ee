import Mathlib
import ProjectIndex.Proofs.Roles

/-!
Contract: every classification of a checked configuration is well formed.

A classification names one of the seven roles and gives at least one reason. A path tier is sure of
its answer; the heuristic tier reports a confidence that its accept threshold admits and that is at
most one. The last part is the subtle one: a scorer's confidence is its score capped at one and
rounded to four places, read from the score's bits, and the bits of a `NaN` or a negative score
would read as a large magnitude. Every weight a scorer finds is a non-negative double, and adding
non-negative doubles never leaves them, so the score read is a double between zero and one.

Owns: `isNonNeg`, `Confidence.ofScore_units_le`, `Classification.WellFormed`,
`classify_wellFormed`.
-/

namespace ProjectIndex

namespace Number

open Float.Model Float.Model.UnpackedFloat

/-! ### Non-negative doubles -/

/-- An unpacked double that is a zero, positive or `+∞`: neither `NaN` nor below zero. -/
def isNonNeg : UnpackedFloat → Bool
  | .zero _ => true
  | .finite .positive .. => true
  | .infinity .positive => true
  | _ => false

/-- A double that is a zero, positive or `+∞`. -/
def nonNegative (x : Float) : Bool :=
  isNonNeg x.toModel.unpack

theorem isNonNeg_roundWithAccuracy {spec : Format} {m : Nat} {e : Int} {accuracy : Accuracy} :
    isNonNeg (roundWithAccuracy spec .positive m e accuracy) = true := by
  unfold roundWithAccuracy
  split
  dsimp only
  split <;> rfl

theorem isNonNeg_normalize {spec : Format} {mantissa e : Int} {zeroSign : Sign}
    (nonneg : 0 ≤ mantissa) : isNonNeg (UnpackedFloat.normalize spec mantissa e zeroSign) = true := by
  unfold UnpackedFloat.normalize
  split
  · rename_i below
    rw [Int.compare_eq_lt] at below
    omega
  · rfl
  · exact isNonNeg_roundWithAccuracy

theorem isNonNeg_add {spec : Format} {a b : UnpackedFloat} (nonNegA : isNonNeg a = true)
    (nonNegB : isNonNeg b = true) : isNonNeg (UnpackedFloat.add spec a b) = true := by
  rcases a with ⟨_ | _⟩ | _ | ⟨_ | _⟩ | ⟨_ | _, m, e, _⟩ <;>
    rcases b with ⟨_ | _⟩ | _ | ⟨_ | _⟩ | ⟨_ | _, m', e', _⟩ <;>
    simp_all [isNonNeg, UnpackedFloat.add]
  exact isNonNeg_normalize (by simp only [Sign.apply]; positivity)

theorem unpackSign_packComponents {spec : Format} {sign exponent mantissa} :
    unpackSign (packComponents spec sign exponent mantissa) = sign.toBitVec := by
  ext i hi
  obtain rfl : i = 0 := by omega
  simp [unpackSign, packComponents, BitVec.getLsbD_append, BitVec.getLsbD_eq_getElem,
    BitVec.getElem_append]

theorem isNonNeg_unpack_packComponents {spec : Format} {e : BitVec spec.exponentBits}
    {m : BitVec spec.mantissaBitsWithoutImplicit}
    (number : (UnpackedFloat.unpack spec (packComponents spec .positive e m)).isNaN = false) :
    isNonNeg (UnpackedFloat.unpack spec (packComponents spec .positive e m)) = true := by
  revert number
  simp only [UnpackedFloat.unpack, unpackMantissa_packComponents, unpackExponent_packComponents,
    unpackSign_packComponents]
  split_ifs <;> simp [isNonNeg, UnpackedFloat.isNaN, Sign.ofBitVec, Sign.toBitVec]

theorem isNonNeg_unpack_pack {spec : Format} {x : UnpackedFloat} (nonNeg : isNonNeg x = true) :
    isNonNeg (UnpackedFloat.unpack spec (UnpackedFloat.pack spec x)) = true := by
  have number : x.isNaN = false := by
    cases x <;> simp_all [isNonNeg, UnpackedFloat.isNaN]
  have packed : (UnpackedFloat.unpack spec (UnpackedFloat.pack spec x)).isNaN = false :=
    isNaN_unpack_pack number
  -- packing writes the sign it is given, and a zero of either sign reads back as a zero
  revert packed
  rcases x with ⟨_ | _⟩ | _ | s | ⟨_ | _, m, e, _⟩ <;>
    simp only [isNonNeg, Bool.false_eq_true] at nonNeg
  case infinity.positive =>
    simp only [UnpackedFloat.pack, packedInfinity]
    exact isNonNeg_unpack_packComponents
  case zero =>
    intro _
    have zeroExponent : (0#_ : BitVec spec.exponentBits) ≠ -1#_ := by
      intro allOnes
      have bits := congrArg BitVec.toNat allOnes
      have widthPos := spec.he
      simp [BitVec.neg_one_eq_allOnes] at bits
      have : 1 < 2 ^ spec.exponentBits := Nat.one_lt_two_pow (by omega)
      omega
    simp only [UnpackedFloat.pack, packedZero, UnpackedFloat.unpack, unpackMantissa_packComponents,
      unpackExponent_packComponents]
    simp [zeroExponent, isNonNeg]
  case finite.positive =>
    simp only [UnpackedFloat.pack, packedInfinity]
    split_ifs <;> exact isNonNeg_unpack_packComponents

theorem nonNegative_add {x y : Float} (nonNegX : nonNegative x = true)
    (nonNegY : nonNegative y = true) : nonNegative (x + y) = true := by
  show isNonNeg (UnpackedFloat.unpack _
    (UnpackedFloat.pack _ (UnpackedFloat.add _ x.toModel.unpack y.toModel.unpack))) = true
  exact isNonNeg_unpack_pack (isNonNeg_add nonNegX nonNegY)

theorem isNaN_of_nonNegative {x : Float} (nonNeg : nonNegative x = true) : x.isNaN = false := by
  show x.toModel.unpack.isNaN = false
  unfold nonNegative at nonNeg
  cases unpacked : x.toModel.unpack <;> simp_all [isNonNeg, UnpackedFloat.isNaN]

/-! ### The bits of a double -/

theorem unpackExponent_toNat (b : UInt64) :
    (@unpackExponent Format.binary64 b.toBitVec).toNat = ((b >>> 52) &&& 0x7FF).toNat := by
  simp [unpackExponent]
  rw [show (2047 : Nat) = 2 ^ 11 - 1 by norm_num, Nat.and_two_pow_sub_one_eq_mod]

theorem unpackMantissa_toNat (b : UInt64) :
    (@unpackMantissa Format.binary64 b.toBitVec).toNat = (b &&& 0xFFFFFFFFFFFFF).toNat := by
  simp [unpackMantissa]
  rw [show (4503599627370495 : Nat) = 2 ^ 52 - 1 by norm_num, Nat.and_two_pow_sub_one_eq_mod]

theorem ofBits_of_unpack_finite {b : UInt64} {s : Sign} {m : Nat} {e : Int} {positive : 0 < m}
    (unpacked : UnpackedFloat.unpack Format.binary64 b.toBitVec = .finite s m e positive) :
    (Binary.ofBits b).m = m ∧ (Binary.ofBits b).q = e ∧ m < 2 ^ 53 := by
  have mantissaBound := (@unpackMantissa Format.binary64 b.toBitVec).isLt
  unfold UnpackedFloat.unpack at unpacked
  unfold Binary.ofBits
  rw [← unpackExponent_toNat, ← unpackMantissa_toNat]
  dsimp only at unpacked ⊢
  generalize @unpackExponent Format.binary64 b.toBitVec = E at *
  have bias : (Format.binary64.exponentBias : Int) = 1023 := by decide
  split_ifs at unpacked
  · -- a subnormal double: no implicit bit, least exponent
    cases unpacked
    have exponentZero : E.toNat = 0 := by simp [‹E = 0#11›]
    simp only [exponentZero, beq_self_eq_true, if_true, true_and]
    exact ⟨by rw [bias]; norm_num, by simp at mantissaBound; omega⟩
  · -- a normal double: the implicit bit in front of the field
    cases unpacked
    have exponentNonzero : E.toNat ≠ 0 := fun zero =>
      ‹¬E = 0#11› (BitVec.eq_of_toNat_eq (by simpa using zero))
    have implicit : (1#1 ++ @unpackMantissa Format.binary64 b.toBitVec).toNat =
        2 ^ 52 + (@unpackMantissa Format.binary64 b.toBitVec).toNat := by
      rw [BitVec.toNat_append, ← Nat.shiftLeft_add_eq_or_of_lt (BitVec.isLt _)]
      simp [Nat.shiftLeft_eq]
    simp only [exponentNonzero, beq_iff_eq, if_false, implicit, Nat.pow_eq, true_and]
    exact ⟨by rw [bias]; ring, by simp at mantissaBound; omega⟩

theorem ofBits_of_unpack_zero {b : UInt64} {s : Sign}
    (unpacked : UnpackedFloat.unpack Format.binary64 b.toBitVec = .zero s) :
    (Binary.ofBits b).m = 0 := by
  unfold UnpackedFloat.unpack at unpacked
  unfold Binary.ofBits
  rw [← unpackExponent_toNat, ← unpackMantissa_toNat]
  dsimp only at unpacked ⊢
  split_ifs at unpacked
  have exponentZero : (@unpackExponent Format.binary64 b.toBitVec).toNat = 0 := by
    simp [‹@unpackExponent Format.binary64 b.toBitVec = 0#11›]
  have mantissaZero : (@unpackMantissa Format.binary64 b.toBitVec).toNat = 0 := by
    simp [‹@unpackMantissa Format.binary64 b.toBitVec = 0#52›]
  simp [exponentZero, mantissaZero]

/-- A value at most one rounds to at most `10^places` units. -/
theorem Binary.roundPlaces_le_of_le_one (x : Binary) (places : Nat)
    (atMostOne : x.m * 2 ^ x.q.toNat ≤ 2 ^ (-x.q).toNat) : x.roundPlaces places ≤ 10 ^ places := by
  unfold Binary.roundPlaces
  simp only [Nat.pow_eq]
  have denPos : 0 < 2 ^ (-x.q).toNat := by positivity
  generalize 10 ^ places = unit at *
  generalize 2 ^ (-x.q).toNat = den at *
  have bound : x.m * 2 ^ x.q.toNat * unit ≤ unit * den := by
    rw [mul_comm unit]
    exact Nat.mul_le_mul_right unit atMostOne
  generalize x.m * 2 ^ x.q.toNat * unit = num at *
  have split := Nat.div_add_mod num den
  have quotientLe : num / den ≤ unit := Nat.div_le_of_le_mul (mul_comm unit den ▸ bound)
  -- at the top the division is exact, so nothing rounds up past it
  have exactAtTop : num / den = unit → num % den = 0 := by
    intro top
    rw [top] at split
    rw [mul_comm] at bound
    omega
  split_ifs <;> omega

/-! ### Doubles at most one -/

theorem unpack_one :
    (1.0 : Float).toModel.unpack = .finite .positive (2 ^ 52) (-52) (by decide) :=
  rfl

/-- A non-negative double at most one has bits whose value is at most one. -/
theorem ofBits_le_one {x : Float} (nonNeg : nonNegative x = true) (atMost : x ≤ 1.0) :
    (Binary.ofBits x.toBits).m * 2 ^ (Binary.ofBits x.toBits).q.toNat ≤
      2 ^ (-(Binary.ofBits x.toBits).q).toNat := by
  obtain ⟨o, compared, isLE⟩ := (float_le_iff x 1.0).mp atMost
  rw [unpack_one] at compared
  unfold nonNegative at nonNeg
  cases unpacked : x.toModel.unpack with
  | zero s =>
    rw [ofBits_of_unpack_zero (b := x.toBits) unpacked]
    simp
  | finite s m e positive =>
    cases s
    · simp [unpacked, isNonNeg] at nonNeg
    · obtain ⟨mantissa, exponent, below⟩ := ofBits_of_unpack_finite (b := x.toBits) unpacked
      rw [mantissa, exponent]
      rw [unpacked] at compared
      simp only [UnpackedFloat.compare, Option.some.injEq] at compared
      subst compared
      -- below one: a smaller exponent, or the exponent of one and a mantissa at most its own
      cases comparison : compare e (-52) with
      | lt =>
        rw [Int.compare_eq_lt] at comparison
        rw [Int.toNat_eq_zero.mpr (by omega), pow_zero, mul_one]
        calc m ≤ 2 ^ 53 := below.le
          _ ≤ 2 ^ (-e).toNat := Nat.pow_le_pow_right (by norm_num) (by omega)
      | eq =>
        rw [Int.compare_eq_eq] at comparison
        subst comparison
        simp only [Int.compare_eq_eq.mpr rfl, Ordering.eq_then] at isLE
        have small : m ≤ 2 ^ 52 := by simpa [Nat.isLE_compare] using isLE
        simpa using small
      | gt =>
        rw [comparison] at isLE
        simp at isLE
  | infinity s =>
    cases s
    · simp [unpacked, isNonNeg] at nonNeg
    · rw [unpacked] at compared
      simp [UnpackedFloat.compare] at compared
      subst compared
      simp at isLE
  | notANumber => simp [unpacked, isNonNeg] at nonNeg

end Number

/-- **A score's confidence is at most one.** A non-negative score, capped at one, rounds to at most
`10^4` units. -/
theorem Confidence.ofScore_units_le {score : Float} (nonNeg : Number.nonNegative score = true) :
    (Confidence.ofScore score).units ≤ 10000 := by
  unfold Confidence.ofScore
  dsimp only
  split
  · decide
  · rename_i notAbove
    have atMost : score ≤ 1.0 :=
      Number.float_le_of_not_lt (by decide) (Number.isNaN_of_nonNegative nonNeg) notAbove
    exact Number.Binary.roundPlaces_le_of_le_one _ 4 (Number.ofBits_le_one nonNeg atMost)

namespace Heuristic

open ProjectIndex.Number
open ProjectIndex.Config

/-! ### Weights of the findings -/

theorem nonNegative_cappedCount (n : Nat) : nonNegative (0.2 * (min n 3).toFloat) = true := by
  have counts : ∀ k < 4, nonNegative (0.2 * k.toFloat) = true := by decide
  exact counts _ (by omega)

theorem nonNegative_exportCount (n : Nat) :
    nonNegative (0.3 + 0.1 * (min n 5).toFloat) = true := by
  have counts : ∀ k < 6, nonNegative (0.3 + 0.1 * k.toFloat) = true := by decide
  exact counts _ (by omega)

/-- A property that every step keeps holds of a fold's result. -/
theorem foldl_invariant {α β : Type} {f : β → α → β} (P : β → Prop) {l : List α}
    (keeps : ∀ b, ∀ a ∈ l, P b → P (f b a)) {b : β} (start : P b) : P (l.foldl f b) := by
  induction l generalizing b with
  | nil => exact start
  | cons a rest ih =>
    exact ih (fun b' a' member => keeps b' a' (List.mem_cons_of_mem a member))
      (keeps b a List.mem_cons_self start)

/-- Appending a finding of non-negative weight keeps every weight non-negative. -/
theorem weights_concat {fs : List Finding} {r : String} {w : Float}
    (kept : ∀ f ∈ fs, nonNegative f.weight = true) (weight : nonNegative w = true) :
    ∀ f ∈ fs ++ [found r w], nonNegative f.weight = true :=
  List.forall_mem_append.mpr ⟨kept, fun g new => by rw [List.mem_singleton.mp new]; exact weight⟩

theorem hookFindings_weights (d : Script.Document) :
    ∀ f ∈ hookFindings d, nonNegative f.weight = true := by
  unfold hookFindings
  dsimp only
  intro f member
  simp only [List.mem_append] at member
  rcases member with (named | primitives) | custom
  · refine foldl_invariant
      (fun acc : List Finding × List String => ∀ f ∈ acc.1, nonNegative f.weight = true) ?_
      (by simp) f named
    -- only a declared hook name adds a finding
    intro acc node _ kept
    split
    · split_ifs
      · exact weights_concat kept (by decide)
      all_goals exact kept
    · split_ifs <;> exact kept
  · split at primitives
    · cases primitives
    · rw [List.mem_singleton] at primitives
      subst primitives
      exact nonNegative_cappedCount _
  · split at custom
    · cases custom
    · rw [List.mem_singleton] at custom
      subst custom
      exact (by decide : nonNegative 0.1 = true)

theorem componentFindings_weights (d : Script.Document) :
    ∀ f ∈ componentFindings d, nonNegative f.weight = true := by
  unfold componentFindings
  dsimp only
  intro f member
  simp only [List.mem_append] at member
  rcases member with (elements | props) | ext
  · split at elements
    · cases elements
    · rcases List.mem_append.mp elements with markup | many
      · rw [List.mem_singleton.mp markup]
        exact (by decide : nonNegative 0.5 = true)
      · split at many
        · rw [List.mem_singleton.mp many]
          exact (by decide : nonNegative 0.2 = true)
        · cases many
  · split at props
    · rw [List.mem_singleton.mp props]
      exact (by decide : nonNegative 0.2 = true)
    · cases props
  · split at ext
    · rw [List.mem_singleton.mp ext]
      exact (by decide : nonNegative 0.1 = true)
    · cases ext

theorem apiFindings_weights (d : Script.Document) :
    ∀ f ∈ apiFindings d, nonNegative f.weight = true := by
  unfold apiFindings
  dsimp only
  intro f member
  simp only [List.mem_append] at member
  rcases member with handlers | imported
  · split at handlers
    · cases handlers
    · rw [List.mem_singleton.mp handlers]
      exact (by decide : nonNegative 0.6 = true)
  · obtain ⟨source, _, made⟩ := List.exists_of_findSome?_eq_some (Option.mem_toList.mp imported)
    split at made
    · cases made
    · cases made
      exact (by decide : nonNegative 0.3 = true)

theorem serviceFindings_weights (d : Script.Document) :
    ∀ f ∈ serviceFindings d, nonNegative f.weight = true := by
  unfold serviceFindings
  dsimp only
  intro f member
  simp only [List.mem_append] at member
  rcases member with ((classes | fetches) | clients) | async
  · refine foldl_invariant (fun t : ServiceTally => ∀ f ∈ t.classes, nonNegative f.weight = true)
      ?_ (by simp) f classes
    -- only a service-like class adds a finding
    intro t node _ kept
    split
    · split
      · split
        · exact weights_concat kept (by decide)
        · exact kept
      · exact kept
    · split_ifs <;> exact kept
  · split at fetches
    · cases fetches
    · rw [List.mem_singleton.mp fetches]
      exact nonNegative_cappedCount _
  · split at clients
    · cases clients
    · rw [List.mem_singleton.mp clients]
      exact nonNegative_cappedCount _
  · split at async
    · rw [List.mem_singleton.mp async]
      exact (by decide : nonNegative 0.15 = true)
    · cases async

theorem utilityFindings_weights {d : Script.Document} {fs : List Finding}
    (gathered : utilityFindings d = some fs) : ∀ f ∈ fs, nonNegative f.weight = true := by
  unfold utilityFindings at gathered
  dsimp only at gathered
  split at gathered
  · cases gathered
  split at gathered
  · cases gathered
  cases gathered
  intro f member
  rcases List.mem_append.mp member with count | helpers
  · split at count
    · cases count
    · rw [List.mem_singleton.mp count]
      exact nonNegative_exportCount _
  · split at helpers
    · cases helpers
    · rw [List.mem_singleton.mp helpers]
      exact (by decide : nonNegative 0.2 = true)

/-! ### Scores and detections -/

theorem score_nonNegative {fs : List Finding} (weights : ∀ f ∈ fs, nonNegative f.weight = true) :
    nonNegative (Finding.score fs) = true :=
  foldl_invariant (fun acc : Float => nonNegative acc = true)
    (fun _ f member kept => nonNegative_add kept (weights f member)) (by decide)

/-- A detection made from findings of non-negative weight has a reason and a confidence of at most
one. -/
theorem conclude_bounds {role : Role} {threshold : Float} {fs : List Finding} {x : Detection}
    (weights : ∀ f ∈ fs, nonNegative f.weight = true) (found : conclude role threshold fs = some x) :
    x.reasons ≠ [] ∧ x.confidence.units ≤ 10000 := by
  unfold conclude at found
  dsimp only at found
  split at found
  · cases found
  · rename_i enough
    cases found
    simp only [Bool.or_eq_true, decide_eq_true_eq, not_or, List.isEmpty_iff] at enough
    exact ⟨enough.2, Confidence.ofScore_units_le (score_nonNegative weights)⟩

theorem scorer_bounds {d : Script.Document} {t : Thresholds} {x : Detection}
    {scorer : String × (Script.Document → Thresholds → Option Detection)} (member : scorer ∈ scorers)
    (found : scorer.2 d t = some x) : x.reasons ≠ [] ∧ x.confidence.units ≤ 10000 := by
  simp only [scorers, List.mem_cons, List.not_mem_nil, or_false] at member
  rcases member with rfl | rfl | rfl | rfl | rfl
  · exact conclude_bounds (hookFindings_weights d) found
  · exact conclude_bounds (componentFindings_weights d) found
  · exact conclude_bounds (apiFindings_weights d) found
  · exact conclude_bounds (serviceFindings_weights d) found
  · obtain ⟨fs, gathered, concluded⟩ := Option.bind_eq_some_iff.mp found
    exact conclude_bounds (utilityFindings_weights gathered) concluded

/-- **Every detection has a reason and a confidence of at most one.** -/
theorem detect_bounds {d : Script.Document} {t : Thresholds} {x : Detection}
    (found : detect d t = some x) : x.reasons ≠ [] ∧ x.confidence.units ≤ 10000 := by
  rw [detect_eq_pickBest] at found
  obtain ⟨scorer, member, made⟩ := List.mem_map.mp (pickBest_mem found)
  exact scorer_bounds member made

end Heuristic

/-! ### Classifications -/

/-- What every classification of a checked configuration satisfies. Its tier is one of the eight
tiers by its type. -/
structure Classification.WellFormed (accept : Float) (cl : Classification) : Prop where
  /-- The role is one of the seven roles. -/
  named : ∃ r, cl.role = .role r
  /-- At least one reason is given. -/
  reasoned : cl.reasons ≠ []
  /-- A path tier is sure of its answer. -/
  sure : cl.tier ≠ .heuristic → cl.confidence = .full
  /-- The accept threshold admits the heuristic tier's confidence, which is at most one. -/
  bounded : cl.tier = .heuristic →
    accept ≤ cl.confidence.toFloat ∧ cl.confidence.units ≤ Confidence.full.units

namespace Classify

open ProjectIndex.Number
open ProjectIndex.Config
open ProjectIndex.Heuristic

theorem sure_fields {role : Data.Value} {reason : String} {tier : Tier} :
    (sure role reason tier).confidence = .full ∧ (sure role reason tier).reasons ≠ [] :=
  ⟨rfl, List.cons_ne_nil _ _⟩

namespace PathClassifier

variable {c : PathClassifier} {path : String} {cl : Classification}

/-- A path tier is sure of its answer and gives a reason. -/
theorem classifyPath_sure (classified : c.classifyPath path = some cl) :
    cl.confidence = .full ∧ cl.reasons ≠ [] := by
  obtain ⟨tier, member, decided⟩ := classifyPath_from_tier classified
  simp only [List.mem_cons, List.not_mem_nil, or_false] at member
  rcases member with rfl | rfl | rfl | rfl | rfl | rfl | rfl
  · obtain ⟨_, _, rfl⟩ := Option.map_eq_some_iff.mp decided
    exact sure_fields
  · obtain ⟨_, _, rfl⟩ := Option.map_eq_some_iff.mp decided
    exact sure_fields
  · obtain ⟨_, _, chosen⟩ := List.exists_of_findSome?_eq_some decided
    obtain ⟨_, _, rfl⟩ := Option.map_eq_some_iff.mp chosen
    exact sure_fields
  · obtain ⟨_, _, chosen⟩ := List.exists_of_findSome?_eq_some decided
    obtain ⟨_, _, rfl⟩ := Option.map_eq_some_iff.mp chosen
    exact sure_fields
  · obtain ⟨_, _, rfl⟩ := Option.map_eq_some_iff.mp decided
    exact sure_fields
  · unfold pagesTier at decided
    dsimp only at decided
    split at decided
    · cases decided
      exact sure_fields
    · cases decided
  · obtain ⟨_, _, rfl⟩ := Option.map_eq_some_iff.mp decided
    exact ⟨rfl, List.cons_ne_nil _ _⟩

end PathClassifier

/-- A checked configuration's accept threshold is a number. -/
theorem accept_isNaN {config : IndexConfig} (valid : config.problems = []) :
    config.thresholds.accept.isNaN = false := by
  simp only [IndexConfig.problems, List.append_eq_nil_iff] at valid
  have inRange := List.filterMap_eq_nil_iff.mp valid.2 ("accept", config.thresholds.accept)
    (by simp [Thresholds.toList])
  simp only [ite_eq_left_iff, reduceCtorEq, imp_false, not_not,
    Bool.and_eq_true, decide_eq_true_eq] at inRange
  obtain ⟨o, compared, _⟩ := (float_le_iff _ _).mp inRange.1
  exact isNaN_right_of_compare compared

/-- **Classifications are well formed.** Under a configuration that passes its check, a file is
either left unclassified or classified into one of the seven roles, with a reason; a path tier is
sure of it, and the heuristic tier's confidence lies between the accept threshold and one. -/
theorem classify_wellFormed {config : IndexConfig} (valid : config.problems = []) (u : SourceUnit) :
    (PathClassifier.ofConfig config).classify u = none ∨
      ∃ cl, (PathClassifier.ofConfig config).classify u = some cl ∧
        cl.WellFormed config.thresholds.accept := by
  cases classified : (PathClassifier.ofConfig config).classify u with
  | none => exact Or.inl rfl
  | some cl =>
    refine Or.inr ⟨cl, rfl, ?_⟩
    have named := PathClassifier.classify_role (PathClassifier.rolesChecked_ofConfig valid) classified
    by_cases heuristic : cl.tier = .heuristic
    · -- no path tier decided, so a detection did and the accept threshold admitted it
      unfold PathClassifier.classify at classified
      split at classified
      · rename_i byPath
        cases classified
        exact absurd heuristic (PathClassifier.classifyPath_tier byPath)
      · split at classified
        · cases classified
        · obtain ⟨x, detected, accepts⟩ := Option.bind_eq_some_iff.mp classified
          obtain ⟨reasoned, atMostOne⟩ := detect_bounds detected
          have admitted : config.thresholds.accept ≤ x.confidence.toFloat := by
            unfold accepted at accepts
            split at accepts
            · cases accepts
            · rename_i enough
              exact float_le_of_not_lt (Confidence.toFloat_isNaN _) (accept_isNaN valid) enough
          rw [accepted_eq accepts] at named ⊢
          exact ⟨named, reasoned, fun notHeuristic => absurd rfl notHeuristic,
            fun _ => ⟨admitted, atMostOne⟩⟩
    · obtain ⟨full, reasoned⟩ :=
        PathClassifier.classifyPath_sure (classifyPath_of_classify classified heuristic)
      exact ⟨named, reasoned, fun _ => full, fun isHeuristic => absurd isHeuristic heuristic⟩

/-- A script whose only sign is a hook, outside every folder the path tiers know, reaches the
heuristic tier; its classification, if any, is well formed. -/
theorem classify_wellFormed_hook_script :
    ({} : IndexConfig).problems = [] ∧
      let text := "export function useX() { useState(0) }"
      let u : SourceUnit := ⟨"src/x.ts", text, .script, ".ts",
        .script ⟨(Script.parseTree text .typescript).1, (Script.parseTree text .typescript).2,
          "src/x.ts"⟩⟩
      (PathClassifier.ofConfig {}).classify u = none ∨
        ∃ cl, (PathClassifier.ofConfig {}).classify u = some cl ∧
          cl.WellFormed ({} : IndexConfig).thresholds.accept :=
  ⟨by decide, classify_wellFormed (by decide) _⟩

end Classify

end ProjectIndex
