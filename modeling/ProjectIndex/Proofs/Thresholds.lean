import ProjectIndex.Proofs.Report

/-!
Contract: lowering thresholds keeps a run's errors and every file it indexes, keeps every path
tier's classification, and keeps every heuristic classification heuristic and at least as
confident; the run may then stop on a file it newly indexes.

Thresholds are read by the heuristic detection and its acceptance alone (`classify_of_atMost`),
so a file reads and parses the same under two configurations that differ in them, and fails with
the same error (`analyzeFile_error_congr`). A file the higher thresholds index, the lower ones
index too, and with the same analysis unless a heuristic classified it
(`analyzeFile_of_atMost`). A run under the lower thresholds therefore indexes every path the
other indexes and keeps its errors. A path it adds can be one whose id cannot be digested, and
then that run stops where the other gives a report (`lowered_thresholds_run`).

Owns: `analyzeFile_of_atMost`, `lowered_thresholds_run`.
-/

namespace ProjectIndex

open ProjectIndex.Classify
open ProjectIndex.Config

section OneFile

variable {config : IndexConfig} {t t' : Thresholds} {read : FileReader} {path : String}

/-- Which files are left out reads no threshold. -/
theorem isExcludedSql_withThresholds (config : IndexConfig) (t t' : Thresholds) (path : String) :
    (PathClassifier.ofConfig { config with thresholds := t }).isExcludedSql path =
      (PathClassifier.ofConfig { config with thresholds := t' }).isExcludedSql path := rfl

/-- **Lower thresholds index every file the higher ones do, and fail the same files.** A file's
error is the same under both; an analysis under the higher thresholds has one under the lower,
the same one unless a heuristic classified it, and then still heuristic and at least as
confident; an analysis the lower thresholds classify by path is the higher ones' too. -/
theorem analyzeFile_of_atMost (below : t.AtMost t') :
    (∀ e, analyzeFile (.ofConfig { config with thresholds := t }) read path = .error e ↔
      analyzeFile (.ofConfig { config with thresholds := t' }) read path = .error e) ∧
    (∀ a', analyzeFile (.ofConfig { config with thresholds := t' }) read path = .ok (some a') →
      ∃ a, analyzeFile (.ofConfig { config with thresholds := t }) read path = .ok (some a) ∧
        (a'.classification.tier ≠ .heuristic → a = a') ∧
        (a'.classification.tier = .heuristic → a.classification.tier = .heuristic ∧
          a'.classification.confidence.toFloat ≤ a.classification.confidence.toFloat)) ∧
    (∀ a, analyzeFile (.ofConfig { config with thresholds := t }) read path = .ok (some a) →
      a.classification.tier ≠ .heuristic →
        analyzeFile (.ofConfig { config with thresholds := t' }) read path = .ok (some a)) := by
  have excluded := isExcludedSql_withThresholds config t t'
  refine ⟨fun e => analyzeFile_error_congr excluded rfl e, fun a' indexed' => ?_,
    fun a indexed notHeuristic => ?_⟩
  · obtain ⟨included', text, u, reading, parsing, classified', _⟩ :=
      analyzeFile_eq_some indexed'
    change parseSource path text config.strictSyntax = .ok u at parsing
    obtain ⟨cl, classified, same, stronger⟩ :=
      classify_of_atMost (c := config) below classified'
    obtain ⟨a, indexed, chosen⟩ :=
      analyzeFile_of_classify (c := .ofConfig { config with thresholds := t })
        (by rw [excluded]; exact included') reading parsing classified
    refine ⟨a, indexed, fun notHeuristic => ?_, fun heuristic => chosen ▸ stronger heuristic⟩
    -- a path tier decided, so both classifiers give the file the same outcome
    have sameOutcome := analyzeFile_eq_of_classify_eq excluded rfl reading parsing
      (by rw [classified, classified', same notHeuristic])
    rw [sameOutcome, indexed'] at indexed
    exact (Option.some.inj (Except.ok.inj indexed)).symm
  · obtain ⟨_, text, u, reading, parsing, classified, _⟩ := analyzeFile_eq_some indexed
    change parseSource path text config.strictSyntax = .ok u at parsing
    have kept := classify_withThresholds_of_tier (c := { config with thresholds := t }) (t := t')
      classified notHeuristic
    rw [← indexed]
    exact (analyzeFile_eq_of_classify_eq excluded rfl reading parsing
      (by rw [classified]; exact kept.symm)).symm

end OneFile

section Run

variable {config : IndexConfig} {t t' : Thresholds} {ws : Workspace} {entries : List String}

/-- A workspace in memory finds its files whatever the thresholds. -/
theorem inMemory_discover_withThresholds (files : List (String × Except String String))
    (t : Thresholds) :
    (Workspace.inMemory files).discover { config with thresholds := t } =
      (Workspace.inMemory files).discover config := rfl

/-- A workspace on a folder finds its files whatever the thresholds. -/
theorem ofFolder_discover_withThresholds (folder : Folder) (t : Thresholds) :
    (Workspace.ofFolder folder).discover { config with thresholds := t } =
      (Workspace.ofFolder folder).discover config := rfl

/-- A run fails the same files under any thresholds. -/
theorem failedFiles_withThresholds (t t' : Thresholds) :
    failedFiles (runOutcomes { config with thresholds := t } ws entries) =
      failedFiles (runOutcomes { config with thresholds := t' } ws entries) := by
  have excluded := isExcludedSql_withThresholds config t t'
  unfold failedFiles runOutcomes
  rw [List.filterMap_map, List.filterMap_map]
  refine List.filterMap_congr fun p _ => ?_
  dsimp only [Function.comp]
  cases low : analyzeFile (.ofConfig { config with thresholds := t }) ws.read p with
  | error e => rw [(analyzeFile_error_congr excluded rfl e).mp low]
  | ok v =>
      cases high : analyzeFile (.ofConfig { config with thresholds := t' }) ws.read p with
      | error e =>
          rw [(analyzeFile_error_congr excluded rfl e).mpr high] at low
          cases low
      | ok v' => rfl

/-- **Lowering thresholds.** Take two configurations that pass their check and differ only in
their thresholds, the lower `t` at most the higher `t'` in every field, and a workspace whose
discovery reads no threshold. Every project path fails the same way under both; a path the higher
thresholds index, the lower ones index too, with the same analysis unless a heuristic classified
it, and then heuristically and at least as confidently; a path the lower thresholds classify by
path is indexed alike under the higher. If the lower run gives a report so does the higher, and
then both list the same errors, and every path the higher one indexes the lower one indexes. The
lower run stops where the higher one does not only over a path that it alone indexes and whose id
cannot be digested. -/
theorem lowered_thresholds_run (config : IndexConfig) (t t' : Thresholds) (below : t.AtMost t')
    (valid : { config with thresholds := t }.problems = [])
    (valid' : { config with thresholds := t' }.problems = [])
    (source : Option String) (ws : Workspace) (files : Option (List String))
    (discovery : ws.discover { config with thresholds := t } =
      ws.discover { config with thresholds := t' }) :
    let low : IndexConfig := { config with thresholds := t }
    let high : IndexConfig := { config with thresholds := t' }
    let entries := files.getD (ws.discover high)
    (∀ p ∈ projectPaths ws entries,
      (∀ e, analyzeFile (.ofConfig low) ws.read p = .error e ↔
        analyzeFile (.ofConfig high) ws.read p = .error e) ∧
      (∀ a', analyzeFile (.ofConfig high) ws.read p = .ok (some a') →
        ∃ a, analyzeFile (.ofConfig low) ws.read p = .ok (some a) ∧
          (a'.classification.tier ≠ .heuristic → a = a') ∧
          (a'.classification.tier = .heuristic → a.classification.tier = .heuristic ∧
            a'.classification.confidence.toFloat ≤ a.classification.confidence.toFloat)) ∧
      (∀ a, analyzeFile (.ofConfig low) ws.read p = .ok (some a) →
        a.classification.tier ≠ .heuristic →
          analyzeFile (.ofConfig high) ws.read p = .ok (some a))) ∧
    ((∃ r, analyzeProject low source ws files = .ok r) →
      ∃ r', analyzeProject high source ws files = .ok r') ∧
    (∀ r r', analyzeProject low source ws files = .ok r →
      analyzeProject high source ws files = .ok r' →
        r.parseErrors = r'.parseErrors ∧
          ∀ p ∈ r'.items.map (·.path), p ∈ r.items.map (·.path)) ∧
    (∀ err r', analyzeProject low source ws files = .error err →
      analyzeProject high source ws files = .ok r' →
        ∃ p a report, p ∉ r'.items.map (·.path) ∧
          analyzeFile (.ofConfig low) ws.read p = .ok (some a) ∧
          Text.utf8Fault? (config.projectId ++ ":" ++ p) = some report ∧
          err = .unencodable report) := by
  intro low high entries
  have fitLow := runOutcomes_fit valid ws entries
  have fitHigh := runOutcomes_fit valid' ws entries
  rw [analyzeProject_eq low valid, analyzeProject_eq high valid', discovery]
  refine ⟨fun p _ => analyzeFile_of_atMost below, fun ran => ?_, fun r r' ran ran' => ?_,
    fun err r' stopped ran' => ?_⟩
  · rw [run_ok_iff fitLow] at ran
    rw [run_ok_iff fitHigh]
    intro p listed a' indexed'
    obtain ⟨a, indexed, _⟩ := (analyzeFile_of_atMost below).2.1 a' indexed'
    exact ran p listed a indexed
  · obtain ⟨items, errors⟩ := collectReport_ok ran
    obtain ⟨items', errors'⟩ := collectReport_ok ran'
    refine ⟨by rw [errors, errors', failedFiles_withThresholds t t'], fun p listed => ?_⟩
    rw [items'] at listed
    rw [items]
    obtain ⟨onList, a', indexed'⟩ := (run_item_iff fitHigh p).mp listed
    obtain ⟨a, indexed, _⟩ := (analyzeFile_of_atMost below).2.1 a' indexed'
    exact (run_item_iff fitLow p).mpr ⟨onList, a, indexed⟩
  · obtain ⟨p, a, report, listed, indexed, faulty, rfl⟩ := run_error fitLow stopped
    refine ⟨p, a, report, fun indexedHigh => ?_, indexed, faulty, rfl⟩
    -- every path the higher run indexes has a digestible id
    rw [(collectReport_ok ran').1] at indexedHigh
    obtain ⟨_, a', indexed'⟩ := (run_item_iff fitHigh p).mp indexedHigh
    have digestible := (run_ok_iff fitHigh).mp ⟨r', ran'⟩ p listed a' indexed'
    rw [faulty] at digestible
    cases digestible

/-- Raising the accept threshold to `0.9` leaves out a hook the default thresholds index
heuristically at confidence `0.6`; both runs give a report, with the same errors, and the
higher run indexes nothing the default run does not. -/
theorem lowered_thresholds_run_hook_file :
    ({ ({} : IndexConfig) with thresholds := {} } : IndexConfig).problems = [] ∧
      ({ ({} : IndexConfig) with thresholds := { accept := 0.9 } } : IndexConfig).problems = [] ∧
      (∃ r', analyzeProject { ({} : IndexConfig) with thresholds := { accept := 0.9 } } none
        (Workspace.inMemory [("src/x.ts", .ok "export function useX() { useState(0) }"),
          ("db/schema.sql", .ok "CREATE TABLE users (id INT);")]) none = .ok r') ∧
      ∀ r r', analyzeProject { ({} : IndexConfig) with thresholds := {} } none
          (Workspace.inMemory [("src/x.ts", .ok "export function useX() { useState(0) }"),
            ("db/schema.sql", .ok "CREATE TABLE users (id INT);")]) none = .ok r →
        analyzeProject { ({} : IndexConfig) with thresholds := { accept := 0.9 } } none
          (Workspace.inMemory [("src/x.ts", .ok "export function useX() { useState(0) }"),
            ("db/schema.sql", .ok "CREATE TABLE users (id INT);")]) none = .ok r' →
          r.parseErrors = r'.parseErrors ∧ ∀ p ∈ r'.items.map (·.path), p ∈ r.items.map (·.path) := by
  have below : ({} : Thresholds).AtMost { accept := 0.9 } :=
    ⟨by decide, by decide, by decide, by decide, by decide, by decide⟩
  have valid : ({ ({} : IndexConfig) with thresholds := {} } : IndexConfig).problems = [] := by
    decide
  have valid' : ({ ({} : IndexConfig) with thresholds := { accept := 0.9 } } : IndexConfig).problems =
      [] := by
    decide
  refine ⟨valid, valid', ?_, ?_⟩
  · -- the default run gives a report, as both listed paths digest
    exact (lowered_thresholds_run {} {} { accept := 0.9 } below valid valid' none _ none
      (by rfl)).2.1 (analyzeProject_inMemory_ok valid none _ none (by decide))
  · exact (lowered_thresholds_run {} {} { accept := 0.9 } below valid valid' none _ none
      (by rfl)).2.2.1

end Run

end ProjectIndex
