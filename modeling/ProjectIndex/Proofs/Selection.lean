import Mathlib
import ProjectIndex.Proofs.Detection
import ProjectIndex.Proofs.Scores

/-!
Contract: detection returns the earliest of the most confident detections, and a scorer detects
exactly when it has a reason and its score is not below its threshold.

The selection over the scorers' results ends with the earliest detection of greatest confidence
(`pickBest_eq_some_iff`). What is left is when a scorer detects at all. A scorer refuses a score
below its threshold. Scores are sums of non-negative weights and never `NaN`; a `NaN` threshold is
neither below nor above any score, so it refuses none (`conclude_accepts`,
`conclude_of_isNaN_threshold`).

Owns: `Scoring`, `scorings`, `conclude_accepts`, `conclude_of_isNaN_threshold`,
`detect_first_most_confident`.
-/

namespace ProjectIndex

namespace Heuristic

open ProjectIndex.Number
open ProjectIndex.Config

/-! ### Acceptance -/

/-- What one scorer weighs on a script: its role, its threshold and its findings. -/
structure Scoring where
  role : Role
  threshold : Float
  findings : List Finding

/-- The five scorers' weighings of a script, in tie-break order. A utility scorer that rules the
script out gathers no findings. -/
def scorings (d : Script.Document) (t : Thresholds) : List Scoring :=
  [⟨.hook, t.hook, hookFindings d⟩, ⟨.component, t.component, componentFindings d⟩,
   ⟨.api, t.api, apiFindings d⟩, ⟨.service, t.service, serviceFindings d⟩,
   ⟨.utility, t.utility, (utilityFindings d).getD []⟩]

/-- Every scorer concludes from its weighing; a utility scorer that rules the script out
concludes nothing, as no findings give no reason. -/
theorem scorers_eq_scorings (d : Script.Document) (t : Thresholds) :
    scorers.map (fun scorer => scorer.2 d t) =
      (scorings d t).map fun s => conclude s.role s.threshold s.findings := by
  have utility : (utilityFindings d).bind (conclude .utility t.utility) =
      conclude .utility t.utility ((utilityFindings d).getD []) := by
    cases utilityFindings d with
    | none => simp [conclude]
    | some fs => rfl
  simp only [scorers, scorings, List.map_cons, List.map_nil, scoreHook, scoreComponent, scoreApi,
    scoreService, scoreUtility, utility]

theorem scorings_weights {d : Script.Document} {t : Thresholds} {s : Scoring}
    (member : s ∈ scorings d t) : ∀ f ∈ s.findings, nonNegative f.weight = true := by
  simp only [scorings, List.mem_cons, List.not_mem_nil, or_false] at member
  rcases member with rfl | rfl | rfl | rfl | rfl
  · exact hookFindings_weights d
  · exact componentFindings_weights d
  · exact apiFindings_weights d
  · exact serviceFindings_weights d
  · cases gathered : utilityFindings d with
    | none => simp
    | some fs => exact utilityFindings_weights gathered

theorem conclude_eq_some_iff {role : Role} {threshold : Float} {fs : List Finding} {x : Detection} :
    conclude role threshold fs = some x ↔
      ¬ Finding.score fs < threshold ∧ fs.filterMap (·.reason) ≠ [] ∧
        x = ⟨role, Confidence.ofScore (Finding.score fs), fs.filterMap (·.reason)⟩ := by
  unfold conclude
  dsimp only
  split
  · rename_i refused
    simp only [Bool.or_eq_true, decide_eq_true_eq, List.isEmpty_iff] at refused
    simp only [reduceCtorEq, false_iff, not_and]
    rcases refused with below | unreasoned
    · exact fun notBelow => absurd below notBelow
    · exact fun _ reasoned => absurd unreasoned reasoned
  · rename_i enough
    simp only [Bool.or_eq_true, decide_eq_true_eq, not_or, List.isEmpty_iff] at enough
    simp only [Option.some.injEq, enough, not_false_eq_true, ne_eq, true_and]
    exact eq_comm

/-- **A scorer accepts exactly a reasoned score not below its threshold.** The score is never
`NaN`, so it is not below the threshold exactly when it reaches it or the threshold is `NaN`. -/
theorem conclude_accepts {role : Role} {threshold : Float} {fs : List Finding} {x : Detection}
    (weights : ∀ f ∈ fs, nonNegative f.weight = true) :
    conclude role threshold fs = some x ↔
      (threshold ≤ Finding.score fs ∨ threshold.isNaN = true) ∧ fs.filterMap (·.reason) ≠ [] ∧
        x = ⟨role, Confidence.ofScore (Finding.score fs), fs.filterMap (·.reason)⟩ := by
  rw [conclude_eq_some_iff, float_not_lt_iff (isNaN_of_nonNegative (score_nonNegative weights))]

/-- **A `NaN` threshold refuses no reasoned score.** No double is below `NaN`, so every scorer
with a `NaN` threshold detects as soon as one of its findings gives a reason, whatever the score. -/
theorem conclude_of_isNaN_threshold {role : Role} {threshold : Float} {fs : List Finding}
    (undefined : threshold.isNaN = true) (reasoned : fs.filterMap (·.reason) ≠ []) :
    conclude role threshold fs =
      some ⟨role, Confidence.ofScore (Finding.score fs), fs.filterMap (·.reason)⟩ :=
  conclude_eq_some_iff.mpr ⟨float_not_lt_of_isNaN undefined, reasoned, rfl⟩

example : (conclude .hook (0.0 / 0.0) [found "r" 0.4]).isSome := by
  decide

/-! ### Detection -/

/-- **Detection keeps the earliest of the most confident accepted results.** It is empty exactly
when no scorer detects anything; otherwise it is the result of the earliest scorer, in the order
hook, component, API route, service, utility, whose confidence is greatest among the detections.
A scorer detects exactly when its score is not below its threshold (it reaches the threshold, or
the threshold is `NaN`) and it has a reason. -/
theorem detect_first_most_confident (d : Script.Document) (t : Thresholds) :
    let found := scorers.map fun scorer => scorer.2 d t
    (detect d t = none ↔ ∀ r ∈ found, r = none) ∧
      (∀ x, detect d t = some x ↔ FirstMostConfident (found.filterMap id) x) ∧
      found = (scorings d t).map (fun s => conclude s.role s.threshold s.findings) ∧
      ∀ s ∈ scorings d t, ∀ x, conclude s.role s.threshold s.findings = some x ↔
        (s.threshold ≤ Finding.score s.findings ∨ s.threshold.isNaN = true) ∧
          s.findings.filterMap (·.reason) ≠ [] ∧
          x = ⟨s.role, Confidence.ofScore (Finding.score s.findings), s.findings.filterMap (·.reason)⟩ := by
  intro found
  refine ⟨?_, fun x => ?_, scorers_eq_scorings d t, fun s member x => ?_⟩
  · rw [detect_eq_pickBest, pickBest_eq_none_iff]
  · rw [detect_eq_pickBest, pickBest_eq_some_iff]
  · exact conclude_accepts (scorings_weights member)

end Heuristic

end ProjectIndex
