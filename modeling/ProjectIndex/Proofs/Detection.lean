import ProjectIndex.Classify.Classifier
import ProjectIndex.Proofs.Confidence

/-!
Contract: heuristic detection keeps the most confident scorer, and lowering thresholds can only
make it more confident.

`detect` folds over the five scorers, keeping a scorer's detection only when it is strictly more
confident than the best so far. Read as a selection over the list of the scorers' results, the
fold skips the scorers that detected nothing. With the best so far put in front of the detections
still to come, it ends with the earliest detection of greatest confidence (`foldl_better_first`):
a strictly more confident one takes the front, and any other leaves the winner where it was.
Confidences compare as doubles; none is `NaN`, so they compare as a total preorder and there is
only one earliest of the most confident (`FirstMostConfident.unique`, `pickBest_eq_some_iff`).

No scorer's findings read the thresholds: a threshold only decides whether the score is enough.
Lowering a threshold therefore keeps every detection a scorer made, and the selection over a list
that keeps its detections can only be as confident or more (`detect_of_atMost`). The classifier
accepts a detection by comparing its confidence with a threshold in the same way, and its path
tiers read no threshold at all (`classify_of_atMost`).

Owns: `pickBest`, `FirstMostConfident`, `pickBest_eq_some_iff`, `Thresholds.AtMost`,
`detect_of_atMost`, `classify_of_atMost`.
-/

namespace ProjectIndex

open ProjectIndex.Number
open ProjectIndex.Config

namespace Config

/-- Each threshold of `t` is at most the same threshold of `t'`. -/
structure Thresholds.AtMost (t t' : Thresholds) : Prop where
  hook : t.hook ≤ t'.hook
  component : t.component ≤ t'.component
  api : t.api ≤ t'.api
  service : t.service ≤ t'.service
  utility : t.utility ≤ t'.utility
  accept : t.accept ≤ t'.accept

end Config

namespace Heuristic

/-! ### Detection as a selection -/

/-- One step of the fold `detect` makes: a scorer's detection replaces the best so far only when
strictly more confident. -/
def pickStep (best found : Option Detection) : Option Detection :=
  match found with
  | some next => some (better best next)
  | none => best

/-- The most confident of the scorers' detections, the earliest on a tie. -/
def pickBest (found : List (Option Detection)) : Option Detection :=
  found.foldl pickStep none

theorem detect_eq_pickBest (d : Script.Document) (t : Thresholds) :
    detect d t = pickBest (scorers.map fun scorer => scorer.2 d t) := by
  rw [pickBest, List.foldl_map]
  rfl

section Selection

variable {x y : Detection}

/-- `winner` is the earliest of the detections whose confidence is greatest: those before it are
strictly less confident, those after it at most as confident. -/
def FirstMostConfident (found : List Detection) (winner : Detection) : Prop :=
  ∃ before after, found = before ++ winner :: after ∧
    (∀ y ∈ before, y.confidence.toFloat < winner.confidence.toFloat) ∧
    ∀ y ∈ after, y.confidence.toFloat ≤ winner.confidence.toFloat

namespace FirstMostConfident

variable {found : List Detection} {winner other : Detection}

theorem mem (first : FirstMostConfident found winner) : winner ∈ found := by
  obtain ⟨before, after, rfl, -, -⟩ := first
  exact List.mem_append_right _ List.mem_cons_self

theorem bound (first : FirstMostConfident found winner) (member : other ∈ found) :
    other.confidence.toFloat ≤ winner.confidence.toFloat := by
  obtain ⟨before, after, rfl, below, atMost⟩ := first
  rcases List.mem_append.mp member with early | late
  · exact float_le_of_lt (below other early)
  · rcases List.mem_cons.mp late with rfl | later
    · exact float_le_refl (Confidence.toFloat_isNaN _)
    · exact atMost other later

theorem cons_lt (first : FirstMostConfident found winner)
    (less : other.confidence.toFloat < winner.confidence.toFloat) :
    FirstMostConfident (other :: found) winner := by
  obtain ⟨before, after, rfl, below, atMost⟩ := first
  refine ⟨other :: before, after, rfl, ?_, atMost⟩
  intro y member
  rcases List.mem_cons.mp member with rfl | early
  · exact less
  · exact below y early

/-- A detection no more confident than the one in front of it leaves the winner as it was. -/
theorem insert {best : Detection} (first : FirstMostConfident (best :: found) winner)
    (atMost : other.confidence.toFloat ≤ best.confidence.toFloat) :
    FirstMostConfident (best :: other :: found) winner := by
  obtain ⟨before, after, split, below, atMostWinner⟩ := first
  cases before with
  | nil =>
    -- the one in front is the winner
    simp only [List.nil_append, List.cons.injEq] at split
    obtain ⟨rfl, rfl⟩ := split
    refine ⟨[], other :: found, rfl, by simp, ?_⟩
    intro y member
    rcases List.mem_cons.mp member with rfl | later
    · exact atMost
    · exact atMostWinner y later
  | cons front before =>
    simp only [List.cons_append, List.cons.injEq] at split
    obtain ⟨rfl, rfl⟩ := split
    refine ⟨best :: other :: before, after, rfl, ?_, atMostWinner⟩
    have frontBelow := below best List.mem_cons_self
    intro y member
    rcases List.mem_cons.mp member with rfl | member
    · exact frontBelow
    · rcases List.mem_cons.mp member with rfl | early
      · exact float_lt_of_le_of_lt atMost frontBelow
      · exact below y (List.mem_cons_of_mem _ early)

/-- Only one detection is the earliest of the most confident. -/
theorem unique {rival : Detection} (first : FirstMostConfident found winner)
    (second : FirstMostConfident found rival) : winner = rival := by
  obtain ⟨before, after, split, below, atMost⟩ := first
  obtain ⟨before', after', split', below', atMost'⟩ := second
  rw [split'] at split
  -- the two stand at the same place, or the earlier one is strictly below the later one and yet
  -- at least as confident
  rcases List.append_eq_append_iff.mp split with ⟨between, rfl, rest⟩ | ⟨between, rfl, rest⟩
  · cases between with
    | nil => exact (List.cons.inj rest).1.symm
    | cons y between =>
      simp only [List.cons_append, List.cons.injEq] at rest
      obtain ⟨rfl, rfl⟩ := rest
      have less := below rival (List.mem_append_right _ List.mem_cons_self)
      exact absurd (atMost' winner (List.mem_append_right _ List.mem_cons_self))
        (float_not_le_of_lt less)
  · cases between with
    | nil => exact (List.cons.inj rest).1
    | cons y between =>
      simp only [List.cons_append, List.cons.injEq] at rest
      obtain ⟨rfl, rfl⟩ := rest
      have less := below' winner (List.mem_append_right _ List.mem_cons_self)
      exact absurd (atMost rival (List.mem_append_right _ List.mem_cons_self))
        (float_not_le_of_lt less)

end FirstMostConfident

/-- A scorer that made no detection leaves the selection as it was, so the selection runs over
the detections alone. -/
theorem foldl_pickStep_filterMap : ∀ (found : List (Option Detection)) (start : Option Detection),
    found.foldl pickStep start =
      (found.filterMap id).foldl (fun best next => some (better best next)) start
  | [], _ => rfl
  | none :: rest, start => foldl_pickStep_filterMap rest start
  | some next :: rest, start => foldl_pickStep_filterMap rest (some (better start next))

/-- From a best so far at the front, the selection ends with the earliest of the most
confident. -/
theorem foldl_better_first : ∀ (rest : List Detection) (best : Detection),
    ∃ winner, rest.foldl (fun best next => some (better best next)) (some best) = some winner ∧
      FirstMostConfident (best :: rest) winner
  | [], best => ⟨best, rfl, [], [], rfl, by simp, by simp⟩
  | next :: rest, best => by
      rw [List.foldl_cons]
      by_cases moreConfident : best.confidence.toFloat < next.confidence.toFloat
      · have replaced : better (some best) next = next := if_pos moreConfident
        rw [replaced]
        obtain ⟨winner, folded, first⟩ := foldl_better_first rest next
        refine ⟨winner, folded, first.cons_lt ?_⟩
        exact float_lt_of_lt_of_le moreConfident (first.bound List.mem_cons_self)
      · have kept : better (some best) next = best := if_neg moreConfident
        rw [kept]
        obtain ⟨winner, folded, first⟩ := foldl_better_first rest best
        refine ⟨winner, folded, first.insert ?_⟩
        exact float_le_of_not_lt (Confidence.toFloat_isNaN _) (Confidence.toFloat_isNaN _)
          moreConfident

theorem pickBest_eq_none_iff {found : List (Option Detection)} :
    pickBest found = none ↔ ∀ r ∈ found, r = none := by
  have allNone : (∀ r ∈ found, r = none) ↔ found.filterMap id = [] := by
    simp [List.filterMap_eq_nil_iff]
  rw [pickBest, foldl_pickStep_filterMap, allNone]
  cases found.filterMap id with
  | nil => simp
  | cons first rest =>
    obtain ⟨winner, folded, -⟩ := foldl_better_first rest first
    rw [List.foldl_cons, show better none first = first from rfl, folded]
    simp

theorem pickBest_eq_some_iff {found : List (Option Detection)} {x : Detection} :
    pickBest found = some x ↔ FirstMostConfident (found.filterMap id) x := by
  rw [pickBest, foldl_pickStep_filterMap]
  cases found.filterMap id with
  | nil =>
    refine ⟨fun empty => absurd empty (by simp), ?_⟩
    rintro ⟨before, after, split, -, -⟩
    simp at split
  | cons first rest =>
    obtain ⟨winner, folded, chosen⟩ := foldl_better_first rest first
    rw [List.foldl_cons, show better none first = first from rfl, folded, Option.some.injEq]
    exact ⟨fun same => same ▸ chosen, fun other => chosen.unique other⟩

theorem pickBest_mem {found : List (Option Detection)} (result : pickBest found = some y) :
    some y ∈ found := by
  obtain ⟨o, member, picked⟩ := List.mem_filterMap.mp (pickBest_eq_some_iff.mp result).mem
  have same : o = some y := picked
  exact same ▸ member

/-- **The selection is at least as confident as every detection.** -/
theorem pickBest_above {found : List (Option Detection)} (result : pickBest found = some y)
    (present : some x ∈ found) : x.confidence.toFloat ≤ y.confidence.toFloat :=
  (pickBest_eq_some_iff.mp result).bound (List.mem_filterMap.mpr ⟨some x, present, rfl⟩)

theorem pickBest_isSome {found : List (Option Detection)} (present : some x ∈ found) :
    (pickBest found).isSome := by
  cases picked : pickBest found with
  | none => exact absurd (pickBest_eq_none_iff.mp picked (some x) present) (Option.some_ne_none x)
  | some _ => rfl

end Selection

/-! ### Lower thresholds -/

/-- A score enough for a threshold is enough for any lower one. -/
theorem conclude_of_le {role : Role} {low high : Float} {findings : List Finding}
    (below : low ≤ high) (found : conclude role high findings = some x) :
    conclude role low findings = some x := by
  unfold conclude at found ⊢
  dsimp only at found ⊢
  split at found
  · cases found
  · rename_i enough
    rw [if_neg]
    · exact found
    · simp only [Bool.or_eq_true, decide_eq_true_eq, not_or] at enough ⊢
      exact ⟨fun less => enough.1 (float_lt_of_lt_of_le less below), enough.2⟩

variable {t t' : Thresholds} {d : Script.Document}

theorem scorer_of_atMost (below : t.AtMost t') :
    ∀ scorer ∈ scorers, scorer.2 d t' = some x → scorer.2 d t = some x := by
  intro scorer member found
  simp only [scorers, List.mem_cons, List.not_mem_nil, or_false] at member
  rcases member with rfl | rfl | rfl | rfl | rfl
  · exact conclude_of_le below.hook found
  · exact conclude_of_le below.component found
  · exact conclude_of_le below.api found
  · exact conclude_of_le below.service found
  · simp only [scoreUtility, Option.bind_eq_some_iff] at found ⊢
    obtain ⟨findings, gathered, concluded⟩ := found
    exact ⟨findings, gathered, conclude_of_le below.utility concluded⟩

/-- **Lower thresholds detect at least as confidently.** Every detection a scorer makes under
`t'` it makes under `t`, so the selection under `t` meets the detection chosen under `t'`. -/
theorem detect_of_atMost (below : t.AtMost t') (found : detect d t' = some x') :
    ∃ x, detect d t = some x ∧ x'.confidence.toFloat ≤ x.confidence.toFloat := by
  rw [detect_eq_pickBest] at found ⊢
  have presentHigh := pickBest_mem found
  have presentLow : some x' ∈ scorers.map fun scorer => scorer.2 d t := by
    obtain ⟨scorer, member, made⟩ := List.mem_map.mp presentHigh
    exact List.mem_map.mpr ⟨scorer, member, scorer_of_atMost below scorer member made⟩
  obtain ⟨x, chosen⟩ := Option.isSome_iff_exists.mp (pickBest_isSome presentLow)
  exact ⟨x, chosen, pickBest_above chosen presentLow⟩

end Heuristic

namespace Classify

open ProjectIndex.Heuristic

/-- The path tiers read no threshold. -/
theorem classifyPath_withThresholds (c : IndexConfig) (t : Thresholds) (path : String) :
    (PathClassifier.ofConfig { c with thresholds := t }).classifyPath path =
      (PathClassifier.ofConfig c).classifyPath path := rfl

namespace PathClassifier

variable {c : PathClassifier} {path : String} {cl : Classification}

theorem migrationTier_tier (decided : c.migrationTier path = some cl) : cl.tier = .migration := by
  obtain ⟨_, _, rfl⟩ := Option.map_eq_some_iff.mp decided
  rfl

theorem fileNameTier_tier (decided : c.fileNameTier path = some cl) : cl.tier = .filename := by
  obtain ⟨_, _, rfl⟩ := Option.map_eq_some_iff.mp decided
  rfl

theorem segmentTier_tier (decided : c.segmentTier path = some cl) : cl.tier = .pathSegment := by
  obtain ⟨_, _, found⟩ := List.exists_of_findSome?_eq_some decided
  obtain ⟨_, _, rfl⟩ := Option.map_eq_some_iff.mp found
  rfl

theorem folderTier_tier (decided : c.folderTier path = some cl) : cl.tier = .folder := by
  obtain ⟨_, _, found⟩ := List.exists_of_findSome?_eq_some decided
  obtain ⟨_, _, rfl⟩ := Option.map_eq_some_iff.mp found
  rfl

theorem globTier_tier (decided : c.globTier path = some cl) : cl.tier = .glob := by
  obtain ⟨_, _, rfl⟩ := Option.map_eq_some_iff.mp decided
  rfl

theorem pagesTier_tier (decided : pagesTier path = some cl) : cl.tier = .pages := by
  unfold pagesTier at decided
  dsimp only at decided
  split at decided
  · cases decided
    rfl
  · cases decided

theorem nameConventionTier_tier (decided : nameConventionTier path = some cl) :
    cl.tier = .nameConvention := by
  obtain ⟨_, _, rfl⟩ := Option.map_eq_some_iff.mp decided
  rfl

/-- A path classification is the answer of one of the tiers. -/
theorem classifyPath_from_tier (classified : c.classifyPath path = some cl) :
    ∃ tier ∈ [c.migrationTier, c.fileNameTier, c.segmentTier, c.folderTier, c.globTier,
      pagesTier, nameConventionTier], tier (normalizePath path) = some cl := by
  unfold classifyPath at classified
  dsimp only at classified
  split at classified
  · exact ⟨c.migrationTier, List.mem_cons_self, classified⟩
  · obtain ⟨tier, member, decided⟩ := List.exists_of_findSome?_eq_some classified
    refine ⟨tier, ?_, decided⟩
    -- the four orders of the later tiers all draw on the same six
    revert member
    split <;> split <;>
      simp only [List.cons_append, List.nil_append, List.append_nil, List.mem_cons,
        List.not_mem_nil, or_false] <;>
      rintro (rfl | rfl | rfl | rfl | rfl | rfl) <;> simp

/-- No path tier is the heuristic tier. -/
theorem classifyPath_tier (classified : c.classifyPath path = some cl) :
    cl.tier ≠ .heuristic := by
  obtain ⟨tier, member, decided⟩ := classifyPath_from_tier classified
  simp only [List.mem_cons, List.not_mem_nil, or_false] at member
  rcases member with rfl | rfl | rfl | rfl | rfl | rfl | rfl
  · rw [migrationTier_tier decided]; decide
  · rw [fileNameTier_tier decided]; decide
  · rw [segmentTier_tier decided]; decide
  · rw [folderTier_tier decided]; decide
  · rw [globTier_tier decided]; decide
  · rw [pagesTier_tier decided]; decide
  · rw [nameConventionTier_tier decided]; decide

/-- A path tier's classification is the file's classification. -/
theorem classify_of_classifyPath {u : SourceUnit} (classified : c.classifyPath u.path = some cl) :
    c.classify u = some cl := by
  unfold classify
  rw [classified]

end PathClassifier

/-- An accepted detection is a heuristic classification with the detection's role, confidence and
reasons. -/
theorem accepted_eq {accept : Float} {x : Detection} (accepts : accepted accept x = some cl) :
    cl = { role := .role x.role, confidence := x.confidence, reasons := x.reasons,
           tier := .heuristic } := by
  unfold accepted at accepts
  split at accepts
  · cases accepts
  · cases accepts
    rfl

/-- A detection at least as confident as one a threshold accepts is accepted by any lower
threshold. -/
theorem accepted_isSome {low high : Float} {x x' : Detection} (below : low ≤ high)
    (moreConfident : x'.confidence.toFloat ≤ x.confidence.toFloat)
    (accepts : (accepted high x').isSome) : (accepted low x).isSome := by
  unfold accepted at accepts ⊢
  split at accepts
  · cases accepts
  · rename_i enough
    rw [if_neg]
    · rfl
    · intro less
      exact enough (float_lt_of_lt_of_le (float_lt_of_le_of_lt moreConfident less) below)

/-- A classification that is not heuristic comes from the path tiers. -/
theorem classifyPath_of_classify {c : PathClassifier} {u : SourceUnit}
    (classified : c.classify u = some cl) (notHeuristic : cl.tier ≠ .heuristic) :
    c.classifyPath u.path = some cl := by
  unfold PathClassifier.classify at classified
  split at classified
  · rename_i byPath
    rw [byPath, classified]
  · split at classified
    · cases classified
    · obtain ⟨x, _, accepts⟩ := Option.bind_eq_some_iff.mp classified
      rw [accepted_eq accepts] at notHeuristic
      exact absurd rfl notHeuristic

variable {c : IndexConfig} {t t' : Thresholds} {u : SourceUnit}

/-- Thresholds leave a path tier's classification alone. -/
theorem classify_withThresholds_of_tier
    (classified : (PathClassifier.ofConfig c).classify u = some cl)
    (notHeuristic : cl.tier ≠ .heuristic) :
    (PathClassifier.ofConfig { c with thresholds := t }).classify u = some cl := by
  apply PathClassifier.classify_of_classifyPath
  rw [classifyPath_withThresholds]
  exact classifyPath_of_classify classified notHeuristic

/-- **Lower thresholds classify every file the higher ones do.** A path tier's classification
stays, and a heuristic one stays heuristic and at least as confident. -/
theorem classify_of_atMost (below : t.AtMost t')
    (classified : (PathClassifier.ofConfig { c with thresholds := t' }).classify u = some cl') :
    ∃ cl, (PathClassifier.ofConfig { c with thresholds := t }).classify u = some cl ∧
      (cl'.tier ≠ .heuristic → cl = cl') ∧
      (cl'.tier = .heuristic →
        cl.tier = .heuristic ∧ cl'.confidence.toFloat ≤ cl.confidence.toFloat) := by
  by_cases byPath : cl'.tier = .heuristic
  · -- no path tier decided, so the detection did, under the higher accept threshold
    have undecided : (PathClassifier.ofConfig c).classifyPath u.path = none := by
      cases decided : (PathClassifier.ofConfig c).classifyPath u.path with
      | none => rfl
      | some found =>
          have same := PathClassifier.classify_of_classifyPath
            (c := PathClassifier.ofConfig { c with thresholds := t' })
            (by rw [classifyPath_withThresholds]; exact decided)
          rw [same, Option.some.injEq] at classified
          exact absurd (classified ▸ byPath) (PathClassifier.classifyPath_tier decided)
    unfold PathClassifier.classify at classified ⊢
    rw [classifyPath_withThresholds, undecided] at classified ⊢
    dsimp only at classified ⊢
    split at classified
    · cases classified
    · obtain ⟨x', detected', accepts'⟩ := Option.bind_eq_some_iff.mp classified
      change detect _ t' = some x' at detected'
      change accepted t'.accept x' = some cl' at accepts'
      obtain ⟨x, detected, moreConfident⟩ := Heuristic.detect_of_atMost below detected'
      obtain ⟨cl, accepts⟩ := Option.isSome_iff_exists.mp
        (accepted_isSome below.accept moreConfident (by rw [accepts']; rfl))
      refine ⟨cl, ?_, fun notHeuristic => absurd byPath notHeuristic, fun _ => ?_⟩
      · show (detect _ t).bind (accepted t.accept) = some cl
        rw [detected, Option.bind_some, accepts]
      · rw [accepted_eq accepts', accepted_eq accepts]
        exact ⟨rfl, moreConfident⟩
  · refine ⟨cl', ?_, fun _ => rfl, fun isHeuristic => absurd isHeuristic byPath⟩
    have decided := classifyPath_of_classify classified byPath
    rw [classifyPath_withThresholds] at decided
    exact classify_withThresholds_of_tier (PathClassifier.classify_of_classifyPath decided) byPath

end Classify

end ProjectIndex
