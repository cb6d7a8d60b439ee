import ProjectIndex.Proofs.Report

/-!
Contract: a file's record depends on the rest of the project only through its edges and the
resolved paths of its imports.

Indexing a file reads that file and nothing else, so two runs that give it the same text give it
the same outcome (`analyzeFile_read_congr`), and it is indexed in both or in neither. Linking
changes nothing in an analysis but its imports' resolved paths (`resolvedEdge_unresolved`), and
the graph gives the edges; every other field of the record is read off the analysis
(`record_agreeUpToLinks`).

A run can still stop because of the other files: one whose path cannot be digested into an id
stops the whole run, and then no record is given at all (`record_local`).

Owns: `IndexRecord.AgreeUpToLinks`, `record_local`.
-/

namespace ProjectIndex

open ProjectIndex.Graph
open ProjectIndex.Classify

/-- An import with its resolved path forgotten. -/
def ImportEdge.unresolved (edge : ImportEdge) : ImportEdge := { edge with resolvedPath := none }

/-- Two records of one file that differ at most in what linking gives them: their edges, and the
resolved paths of their imports. -/
structure IndexRecord.AgreeUpToLinks (i i' : IndexRecord) : Prop where
  id : i.id = i'.id
  projectId : i.projectId = i'.projectId
  role : i.role = i'.role
  name : i.name = i'.name
  path : i.path = i'.path
  keywords : i.keywords = i'.keywords
  searchText : i.searchText = i'.searchText
  otherMetadata : i.metadata.filter (·.1 != "imports") = i'.metadata.filter (·.1 != "imports")
  imports : ∃ edges edges' : List ImportEdge,
    i.metadata.lookup "imports" = some (.list (edges.map ImportEdge.toValue)) ∧
      i'.metadata.lookup "imports" = some (.list (edges'.map ImportEdge.toValue)) ∧
      edges.map ImportEdge.unresolved = edges'.map ImportEdge.unresolved

/-! ### One file -/

/-- Indexing a file reads only that file. -/
theorem analyzeFile_read_congr {c : PathClassifier} {read read' : FileReader} {path : String}
    (sameText : read path = read' path) : analyzeFile c read path = analyzeFile c read' path := by
  unfold analyzeFile analyzeFileWith
  rw [sameText]

/-- Records of one analysis whose imports differ only in their resolved paths agree up to links,
whatever edges each is given. -/
theorem record_agreeUpToLinks (a : FileAnalysis) (config : IndexConfig)
    {edges edges' : List ImportEdge}
    (unlinked : edges.map ImportEdge.unresolved = edges'.map ImportEdge.unresolved)
    (entry entry' : GraphEntry) :
    IndexRecord.AgreeUpToLinks ({ a with imports := edges }.record config entry)
      ({ a with imports := edges' }.record config entry') := by
  refine ⟨rfl, rfl, rfl, rfl, rfl, rfl, rfl, ?_,
    edges, edges', record_lookup_imports _ config entry, record_lookup_imports _ config entry',
    unlinked⟩
  -- the imports are the only field of the record's own metadata that the two differ in
  simp [FileAnalysis.record, List.filter_append]

/-- However an analysis is linked, its record agrees up to links. -/
theorem linkedAnalysis_agreeUpToLinks (a : FileAnalysis) (config : IndexConfig)
    (set set' : PathSet) (keys keys' : List String) (entry entry' : GraphEntry) :
    IndexRecord.AgreeUpToLinks ((linkedAnalysis set keys a).record config entry)
      ((linkedAnalysis set' keys' a).record config entry') := by
  have unlinked : ∀ (s : PathSet) (ks : List String),
      (a.imports.map (resolvedEdge s ks a.path)).map ImportEdge.unresolved =
        a.imports.map ImportEdge.unresolved := by
    intro s ks
    simp only [List.map_map]
    exact List.map_congr_left fun edge _ => resolvedEdge_unresolved
  exact record_agreeUpToLinks a config ((unlinked set keys).trans (unlinked set' keys').symm)
    entry entry'

/-! ### Two runs -/

section Run

variable {config : IndexConfig} {ws : Workspace} {entries : List String}

/-- A record of a run is the linked record of the file's own outcome. -/
theorem run_record_of_mem (fit : OutcomesFit (runOutcomes config ws entries)) {i : IndexRecord}
    (member : i ∈ linkedRecords config (sortedAnalyses (runOutcomes config ws entries))) :
    ∃ a set keys entry,
      analyzeFile (PathClassifier.ofConfig config) ws.read i.path = .ok (some a) ∧
        i = (linkedAnalysis set keys a).record config entry := by
  obtain ⟨a, sorted, rfl⟩ := mem_linkedRecords.mp member
  obtain ⟨_, indexed⟩ := (mem_indexedAnalyses_run fit).mp (List.mem_mergeSort.mp sorted)
  exact ⟨a, _, _, _, indexed, rfl⟩

/-- **A file's record is local**: given the same text, a listed file gets the same outcome in
any two runs of a checked configuration; when both runs report, it is indexed in both or in
neither, and its two records agree up to links; and a run that stops while the other reports
stops over another file. -/
theorem record_local (config : IndexConfig) (valid : config.problems = [])
    (source source' : Option String) (ws ws' : Workspace) (files files' : Option (List String))
    (p : String) (listed : p ∈ projectPaths ws (files.getD (ws.discover config)))
    (listed' : p ∈ projectPaths ws' (files'.getD (ws'.discover config)))
    (sameText : ws.read p = ws'.read p) :
    let entries' := files'.getD (ws'.discover config)
    analyzeFile (PathClassifier.ofConfig config) ws.read p =
        analyzeFile (PathClassifier.ofConfig config) ws'.read p ∧
      (∀ r r', analyzeProject config source ws files = .ok r →
        analyzeProject config source' ws' files' = .ok r' →
        (p ∈ r.items.map (·.path) ↔ p ∈ r'.items.map (·.path)) ∧
          ∀ i ∈ r.items, ∀ i' ∈ r'.items, i.path = p → i'.path = p →
            i.AgreeUpToLinks i') ∧
      ∀ r err, analyzeProject config source ws files = .ok r →
        analyzeProject config source' ws' files' = .error err →
        ∃ q ≠ p, ∃ a report, q ∈ projectPaths ws' entries' ∧
          analyzeFile (PathClassifier.ofConfig config) ws'.read q = .ok (some a) ∧
          Text.utf8Fault? (config.projectId ++ ":" ++ q) = some report ∧
          err = .unencodable report := by
  intro entries'
  change p ∈ projectPaths ws' entries' at listed'
  have fit := runOutcomes_fit valid ws (files.getD (ws.discover config))
  have fit' := runOutcomes_fit valid ws' entries'
  have sameOutcome := analyzeFile_read_congr (c := PathClassifier.ofConfig config) sameText
  rw [analyzeProject_eq config valid, analyzeProject_eq config valid]
  refine ⟨sameOutcome, fun r r' ran ran' => ⟨?_, ?_⟩, fun r err ran stopped => ?_⟩
  · rw [(collectReport_ok ran).1, (collectReport_ok ran').1, run_item_iff fit, run_item_iff fit',
      sameOutcome]
    simp only [listed, listed', true_and]
  · intro i member i' member' atPath atPath'
    rw [(collectReport_ok ran).1] at member
    rw [(collectReport_ok ran').1] at member'
    obtain ⟨a, set, keys, entry, indexed, rfl⟩ := run_record_of_mem fit member
    obtain ⟨a', set', keys', entry', indexed', rfl⟩ := run_record_of_mem fit' member'
    -- both records are of the one analysis the file's text gives
    have same : a = a' := by
      have both : analyzeFile (PathClassifier.ofConfig config) ws.read p = .ok (some a') :=
        sameOutcome.trans (atPath' ▸ indexed')
      rw [← atPath] at both
      simpa using indexed.symm.trans both
    subst same
    exact linkedAnalysis_agreeUpToLinks a config set set' keys keys' entry entry'
  · obtain ⟨q, a, report, listedQ, indexed, faulty, rfl⟩ := run_error fit' stopped
    refine ⟨q, ?_, a, report, listedQ, indexed, faulty, rfl⟩
    -- the file itself cannot be the one: the first run indexes it too, and reports
    rintro rfl
    have digestible := (run_ok_iff fit).mp ⟨r, ran⟩ q listed a (sameOutcome.trans indexed)
    rw [faulty] at digestible
    cases digestible

/-- A file indexed beside another file, and alone. -/
theorem record_local_beside_other_file :
    let p := ((Workspace.inMemory []).relative? "lib/a.ts").getD ""
    analyzeFile (PathClassifier.ofConfig {})
        (Workspace.inMemory
          [("lib/b.ts", .ok "export const b = 2;"), (p, .ok "export const a = 1;")]).read p =
      analyzeFile (PathClassifier.ofConfig {})
        (Workspace.inMemory [(p, .ok "export const a = 1;")]).read p := by
  intro p
  have normalised : ∀ files, (Workspace.inMemory files).relative? "lib/a.ts" = some p := by
    intro files
    simp [p, Workspace.relative?]
  exact (record_local {} (by decide) none none _ _ (some ["lib/b.ts", "lib/a.ts"])
    (some ["lib/a.ts"]) p
    (mem_projectPaths.mpr ⟨"lib/a.ts", by simp, normalised _⟩)
    (mem_projectPaths.mpr ⟨"lib/a.ts", by simp, normalised _⟩)
    (by simp [Workspace.inMemory])).1

end Run

end ProjectIndex
