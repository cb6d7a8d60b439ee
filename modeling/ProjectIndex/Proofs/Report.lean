import ProjectIndex.Proofs.Outcomes

/-!
Contract: the report of a run is well formed, and a run stops only over an id it cannot digest.

`collectReport` sorts the analyses by path, links them (`linkImports`) and turns each into a
record; before that it looks for an indexed path that the id digest cannot encode
(`collectReport_eq`). Its records are sorted strictly by path, carry the seven roles and a sound
graph, and resolve imports only to indexed paths (`RecordsWellFormed`). Its errors come one per
key, sorted by key, each message reading `key: ...` (`ErrorsKeyed`).

Over a whole run (`analyzeProject_report`) the keys are the project paths that failed and the
absolute entries outside the root. The two kinds of key can meet: an entry outside the root is
keyed by its own spelling, which may also be the project path another entry normalises to, and
then that path is both a record and an error key.

Owns: `sortedAnalyses`, `linkedRecords`, `RecordsWellFormed`, `ErrorsKeyed`,
`analyzeProject_report`.
-/

namespace ProjectIndex

open ProjectIndex.Graph
open ProjectIndex.Classify

/-! ### The collector, unfolded -/

/-- The analyses among the outcomes, in path order. -/
def sortedAnalyses (outcomes : List (String × FileOutcome)) : List FileAnalysis :=
  (indexedAnalyses outcomes).mergeSort fun a b => decide (a.path ≤ b.path)

/-- The records of analyses in path order, each linked against all of them and given its
edges. -/
def linkedRecords (config : IndexConfig) (sorted : List FileAnalysis) : List IndexRecord :=
  let keys := sorted.map (·.path)
  let set := PathSet.ofPaths keys config.pathAliases
  sorted.map fun a =>
    (linkedAnalysis set keys a).record config (graphEntry (linkImports set sorted).2 a.path)

/-- The encoder's report on the first analysis whose id cannot be digested, if any. -/
def idFault? (config : IndexConfig) (sorted : List FileAnalysis) : Option String :=
  sorted.findSome? fun a => Text.utf8Fault? (config.projectId ++ ":" ++ a.path)

theorem collectReport_eq (config : IndexConfig) (outside : List (String × String))
    (outcomes : List (String × FileOutcome)) :
    collectReport config outside outcomes =
      match idFault? config (sortedAnalyses outcomes) with
      | some report => .error (.unencodable report)
      | none => .ok { projectId := config.projectId,
                      items := linkedRecords config (sortedAnalyses outcomes),
                      parseErrors := errorsByKey (failedFiles outcomes ++ outside) } := by
  unfold collectReport
  dsimp only
  rw [linkImports_fst, List.findSome?_map, List.map_map]
  rfl

/-! ### Sorting by a text key -/

/-- A merge sort by a text key leaves the keys in order. -/
theorem pairwise_mergeSort_key {α : Type} (key : α → String) (l : List α) :
    (l.mergeSort fun a b => decide (key a ≤ key b)).Pairwise fun a b => key a ≤ key b := by
  have trans : ∀ a b c : α, decide (key a ≤ key b) = true →
      decide (key b ≤ key c) = true → decide (key a ≤ key c) = true :=
    fun a b c ab bc => decide_eq_true (le_trans (of_decide_eq_true ab) (of_decide_eq_true bc))
  have total : ∀ a b : α, (decide (key a ≤ key b) || decide (key b ≤ key a)) = true := by
    intro a b
    rcases le_total (key a) (key b) with ab | ba
    · simp [ab]
    · simp [ba]
  exact (List.pairwise_mergeSort trans total l).imp of_decide_eq_true

/-- Texts in order and without repeats are strictly increasing. -/
theorem strict_of_sorted_nodup {l : List String} (inOrder : l.Pairwise (· ≤ ·))
    (nodup : l.Nodup) : l.Pairwise (· < ·) :=
  (inOrder.and nodup).imp fun ⟨le, ne⟩ => lt_of_le_of_ne le ne

/-! ### Analyses in path order -/

section Sorted

variable {outcomes : List (String × FileOutcome)}

theorem mem_indexedAnalyses {a : FileAnalysis} :
    a ∈ indexedAnalyses outcomes ↔ ∃ p, (p, (.ok (some a) : FileOutcome)) ∈ outcomes := by
  unfold indexedAnalyses
  rw [List.mem_filterMap]
  constructor
  · rintro ⟨⟨p, r⟩, member, picked⟩
    rcases r with _ | _ | a'
    · cases picked
    · cases picked
    · cases picked
      exact ⟨p, member⟩
  · rintro ⟨p, member⟩
    exact ⟨(p, .ok (some a)), member, rfl⟩

theorem mem_sortedAnalyses {a : FileAnalysis} :
    a ∈ sortedAnalyses outcomes ↔ ∃ p, (p, (.ok (some a) : FileOutcome)) ∈ outcomes := by
  rw [sortedAnalyses, List.mem_mergeSort, mem_indexedAnalyses]

/-- The analyses' paths, among the outcomes' paths in the same order. -/
theorem indexedAnalyses_paths_sublist :
    ∀ outcomes : List (String × FileOutcome),
      (∀ p a, (p, (.ok (some a) : FileOutcome)) ∈ outcomes → a.path = p) →
        ((indexedAnalyses outcomes).map (·.path)).Sublist (outcomes.map (·.1))
  | [], _ => List.Sublist.slnil
  | (p, r) :: rest, atPath => by
      have restAtPath : ∀ q a, (q, (.ok (some a) : FileOutcome)) ∈ rest → a.path = q :=
        fun q a member => atPath q a (List.mem_cons_of_mem _ member)
      have below := indexedAnalyses_paths_sublist rest restAtPath
      unfold indexedAnalyses at below ⊢
      rw [List.filterMap_cons, List.map_cons]
      rcases r with _ | _ | a
      · exact below.cons p
      · exact below.cons p
      · rw [List.map_cons, atPath p a List.mem_cons_self]
        exact below.cons_cons p

theorem sortedAnalyses_nodup (fit : OutcomesFit outcomes) :
    ((sortedAnalyses outcomes).map (·.path)).Nodup := by
  have perm : ((sortedAnalyses outcomes).map FileAnalysis.path).Perm
      ((indexedAnalyses outcomes).map FileAnalysis.path) :=
    (List.mergeSort_perm _ _).map _
  exact perm.nodup_iff.mpr ((indexedAnalyses_paths_sublist outcomes fit.analysis_path).nodup
    fit.keys_nodup)

/-- **The analyses come in strictly increasing path order.** -/
theorem sortedAnalyses_strict (fit : OutcomesFit outcomes) :
    ((sortedAnalyses outcomes).map (·.path)).Pairwise (· < ·) :=
  strict_of_sorted_nodup (List.pairwise_map.mpr (pairwise_mergeSort_key FileAnalysis.path _))
    (sortedAnalyses_nodup fit)

end Sorted

/-! ### Records -/

/-- What the records of a report promise: strictly increasing paths, one of the seven roles
each, a sound graph over their paths, and imports resolved only to their paths. -/
structure RecordsWellFormed (items : List IndexRecord) : Prop where
  sorted : (items.map (·.path)).Pairwise (· < ·)
  roles : ∀ i ∈ items, ∃ role, i.role = .role role
  calls_known : ∀ i ∈ items, ∀ q ∈ i.calls, q ∈ items.map (·.path)
  calledBy_known : ∀ i ∈ items, ∀ q ∈ i.calledBy, q ∈ items.map (·.path)
  calls_nodup : ∀ i ∈ items, i.calls.Nodup
  calledBy_nodup : ∀ i ∈ items, i.calledBy.Nodup
  not_mem_calls_self : ∀ i ∈ items, i.path ∉ i.calls
  not_mem_calledBy_self : ∀ i ∈ items, i.path ∉ i.calledBy
  mem_calls_iff : ∀ i ∈ items, ∀ j ∈ items, j.path ∈ i.calls ↔ i.path ∈ j.calledBy
  resolved_known : ∀ i ∈ items, ∃ edges : List ImportEdge,
    i.metadata.lookup "imports" = some (.list (edges.map ImportEdge.toValue)) ∧
      ∀ e ∈ edges, ∀ q, e.resolvedPath = some q → q ∈ items.map (·.path)

theorem record_lookup_imports (a : FileAnalysis) (config : IndexConfig) (entry : GraphEntry) :
    (a.record config entry).metadata.lookup "imports" =
      some (.list (a.imports.map ImportEdge.toValue)) := by
  simp [FileAnalysis.record, List.lookup]

section Linked

variable {config : IndexConfig} {sorted : List FileAnalysis}

@[simp] theorem linkedRecords_paths :
    (linkedRecords config sorted).map (·.path) = sorted.map (·.path) := by
  simp only [linkedRecords, List.map_map]
  rfl

theorem mem_linkedRecords {i : IndexRecord} :
    i ∈ linkedRecords config sorted ↔ ∃ a ∈ sorted,
      i = (linkedAnalysis (PathSet.ofPaths (sorted.map (·.path)) config.pathAliases)
        (sorted.map (·.path)) a).record config
          (graphEntry (linkImports (PathSet.ofPaths (sorted.map (·.path)) config.pathAliases)
            sorted).2 a.path) := by
  simp only [linkedRecords, List.mem_map]
  constructor
  · rintro ⟨a, member, rfl⟩
    exact ⟨a, member, rfl⟩
  · rintro ⟨a, member, rfl⟩
    exact ⟨a, member, rfl⟩

/-- **Linked records are well formed**, for analyses in strictly increasing path order with
roles and unresolved imports. -/
theorem linkedRecords_wellFormed (strict : (sorted.map (·.path)).Pairwise (· < ·))
    (roles : ∀ a ∈ sorted, ∃ r, a.role = .role r)
    (unresolved : ∀ a ∈ sorted, ∀ e ∈ a.imports, e.resolvedPath = none) :
    RecordsWellFormed (linkedRecords config sorted) := by
  have sound := linkImports_sound (PathSet.ofPaths (sorted.map (·.path)) config.pathAliases) sorted
  have keys := linkImports_keys (PathSet.ofPaths (sorted.map (·.path)) config.pathAliases) sorted
  refine ⟨?_, ?_, ?_, ?_, ?_, ?_, ?_, ?_, ?_, ?_⟩
  · rw [linkedRecords_paths]
    exact strict
  · intro i member
    obtain ⟨a, inSorted, rfl⟩ := mem_linkedRecords.mp member
    exact roles a inSorted
  · intro i member q listed
    obtain ⟨a, _, rfl⟩ := mem_linkedRecords.mp member
    rw [linkedRecords_paths, ← keys]
    exact sound.calls_known _ q listed
  · intro i member q listed
    obtain ⟨a, _, rfl⟩ := mem_linkedRecords.mp member
    rw [linkedRecords_paths, ← keys]
    exact sound.calledBy_known q _ listed
  · intro i member
    obtain ⟨a, _, rfl⟩ := mem_linkedRecords.mp member
    exact sound.calls_nodup _
  · intro i member
    obtain ⟨a, _, rfl⟩ := mem_linkedRecords.mp member
    exact sound.calledBy_nodup _
  · intro i member
    obtain ⟨a, _, rfl⟩ := mem_linkedRecords.mp member
    exact sound.not_mem_calls_self _
  · intro i member
    obtain ⟨a, _, rfl⟩ := mem_linkedRecords.mp member
    exact sound.not_mem_calledBy_self _
  · intro i member j member'
    obtain ⟨a, _, rfl⟩ := mem_linkedRecords.mp member
    obtain ⟨b, _, rfl⟩ := mem_linkedRecords.mp member'
    exact sound.mem_calls_iff _ _
  · intro i member
    obtain ⟨a, inSorted, rfl⟩ := mem_linkedRecords.mp member
    refine ⟨_, record_lookup_imports _ config _, fun e linked q resolved => ?_⟩
    obtain ⟨original, inImports, rfl⟩ := List.mem_map.mp linked
    rcases resolvedEdge_resolvedPath resolved with known | already
    · rw [linkedRecords_paths]
      exact known
    · rw [unresolved a inSorted original inImports] at already
      cases already

end Linked

/-- Records that all carry one of the seven roles are counted once each by role. -/
theorem count_sum_of_roles :
    ∀ items : List IndexRecord, (∀ i ∈ items, ∃ role, i.role = .role role) →
      (Role.all.map fun role => (items.filter (·.role.isRole role)).length).sum = items.length
  | [], _ => rfl
  | i :: rest, roles => by
      have restCounted :=
        count_sum_of_roles rest fun j member => roles j (List.mem_cons_of_mem _ member)
      obtain ⟨role, hasRole⟩ := roles i List.mem_cons_self
      simp only [Role.all, List.map_cons, List.map_nil, List.sum_cons, List.sum_nil,
        List.filter_cons, hasRole, RoleTag.isRole] at restCounted ⊢
      cases role <;> simp <;> omega

/-! ### Errors by key -/

/-- Error messages listed under their keys: in strictly increasing key order, each message
reading `key: ...`. -/
structure ErrorsKeyed (messages : List String) (keyed : List (String × String)) : Prop where
  sorted : keyed.Pairwise fun e f => e.1 < f.1
  reads : ∀ e ∈ keyed, ∃ rest, e.2 = e.1 ++ ": " ++ rest
  messages_eq : messages = keyed.map (·.2)

section Keyed

variable {errors : List (String × String)} {k m : String}

theorem lastMessage_mem (found : lastMessage errors k = some m) : (k, m) ∈ errors := by
  obtain ⟨e, foundEntry, rfl⟩ := Option.map_eq_some_iff.mp found
  have atKey : e.1 = k := by simpa using List.find?_some foundEntry
  rw [← List.mem_reverse, ← atKey]
  exact List.mem_of_find?_eq_some foundEntry

theorem lastMessage_isSome (listed : k ∈ errors.map (·.1)) : (lastMessage errors k).isSome := by
  obtain ⟨e, member, rfl⟩ := List.mem_map.mp listed
  unfold lastMessage
  rw [Option.isSome_map, List.find?_isSome]
  exact ⟨e, List.mem_reverse.mpr member, by simp⟩

theorem keyedErrors_keys :
    (keyedErrors errors).map (·.1) =
      (firstOccurrences (errors.map (·.1))).mergeSort fun a b => decide (a ≤ b) := by
  unfold keyedErrors
  -- every sorted key has a message, so filtering keeps each key
  generalize keys :
    (firstOccurrences (errors.map (·.1))).mergeSort (fun a b => decide (a ≤ b)) = ks
  have listed : ∀ k ∈ ks, k ∈ errors.map (·.1) := by
    intro k member
    rw [← keys, List.mem_mergeSort, mem_firstOccurrences] at member
    exact member
  clear keys
  induction ks with
  | nil => rfl
  | cons k rest inductionHypothesis =>
      obtain ⟨m, found⟩ :=
        Option.isSome_iff_exists.mp (lastMessage_isSome (listed k List.mem_cons_self))
      rw [List.filterMap_cons, found]
      dsimp only [Option.map_some]
      rw [List.map_cons,
        inductionHypothesis fun k' member => listed k' (List.mem_cons_of_mem _ member)]

theorem mem_keyedErrors_keys :
    k ∈ (keyedErrors errors).map (·.1) ↔ k ∈ errors.map (·.1) := by
  rw [keyedErrors_keys, List.mem_mergeSort, mem_firstOccurrences]

/-- **Errors by key are keyed**, when every message reads `key: ...`. -/
theorem errorsByKey_keyed (reads : ∀ e ∈ errors, ∃ rest, e.2 = e.1 ++ ": " ++ rest) :
    ErrorsKeyed (errorsByKey errors) (keyedErrors errors) := by
  refine ⟨?_, ?_, rfl⟩
  · -- the keys are the sorted first occurrences, hence strictly increasing
    have strict := strict_of_sorted_nodup (pairwise_mergeSort_key (fun k => k) _)
      ((List.mergeSort_perm _ _).nodup_iff.mpr (nodup_firstOccurrences (errors.map (·.1))))
    rw [← keyedErrors_keys] at strict
    exact List.pairwise_map.mp strict
  · intro e member
    obtain ⟨k, _, made⟩ := List.mem_filterMap.mp member
    obtain ⟨m, found, rfl⟩ := Option.map_eq_some_iff.mp made
    exact reads _ (lastMessage_mem found)

end Keyed

/-! ### A whole run -/

section Collect

variable {config : IndexConfig} {outside : List (String × String)}
  {outcomes : List (String × FileOutcome)}

/-- The collector gives a report exactly when every indexed path can be digested into an id. -/
theorem collectReport_ok_iff :
    (∃ r, collectReport config outside outcomes = .ok r) ↔
      ∀ a ∈ indexedAnalyses outcomes,
        Text.utf8Fault? (config.projectId ++ ":" ++ a.path) = none := by
  have noFault : idFault? config (sortedAnalyses outcomes) = none ↔
      ∀ a ∈ indexedAnalyses outcomes,
        Text.utf8Fault? (config.projectId ++ ":" ++ a.path) = none := by
    rw [idFault?, List.findSome?_eq_none_iff]
    simp only [sortedAnalyses, List.mem_mergeSort]
  rw [collectReport_eq, ← noFault]
  cases idFault? config (sortedAnalyses outcomes) with
  | some report => simp
  | none => simp

theorem collectReport_ok {r : Report} (ran : collectReport config outside outcomes = .ok r) :
    r.items = linkedRecords config (sortedAnalyses outcomes) ∧
      r.parseErrors = errorsByKey (failedFiles outcomes ++ outside) := by
  rw [collectReport_eq] at ran
  split at ran
  · cases ran
  · cases ran
    exact ⟨rfl, rfl⟩

/-- The collector stops only over an indexed path whose id cannot be digested. -/
theorem collectReport_error {err : RunError}
    (stopped : collectReport config outside outcomes = .error err) :
    ∃ a ∈ indexedAnalyses outcomes, ∃ report,
      Text.utf8Fault? (config.projectId ++ ":" ++ a.path) = some report ∧
        err = .unencodable report := by
  rw [collectReport_eq] at stopped
  split at stopped
  · rename_i report fault
    obtain ⟨a, member, faulty⟩ := List.exists_of_findSome?_eq_some fault
    cases stopped
    exact ⟨a, List.mem_mergeSort.mp member, report, faulty, rfl⟩
  · cases stopped

theorem mem_failedFiles {k m : String} :
    (k, m) ∈ failedFiles outcomes ↔
      ∃ e, (k, (.error e : FileOutcome)) ∈ outcomes ∧ e.message = m := by
  unfold failedFiles
  rw [List.mem_filterMap]
  constructor
  · rintro ⟨⟨p, r⟩, member, picked⟩
    rcases r with e | _
    · cases picked
      exact ⟨e, member, rfl⟩
    · cases picked
  · rintro ⟨e, member, rfl⟩
    exact ⟨_, member, rfl⟩

end Collect

section Outside

variable {ws : Workspace} {entries : List String}

theorem mem_outsideEntries {k m : String} :
    (k, m) ∈ outsideEntries ws entries ↔
      k ∈ entries ∧ ws.relative? k = none ∧
        m = k ++ ": outside project root " ++ ws.root := by
  unfold outsideEntries
  rw [List.mem_filterMap]
  constructor
  · rintro ⟨e, member, picked⟩
    split at picked
    · rename_i outsideRoot
      cases picked
      exact ⟨member, Option.isNone_iff_eq_none.mp outsideRoot, rfl⟩
    · cases picked
  · rintro ⟨member, outsideRoot, rfl⟩
    exact ⟨k, member, by simp [outsideRoot]⟩

/-- Every error of a run reads `key: ...`: a failed file's under its path, an outside entry's
under the entry. -/
theorem runErrors_read {outcomes : List (String × FileOutcome)} (fit : OutcomesFit outcomes) :
    ∀ e ∈ failedFiles outcomes ++ outsideEntries ws entries,
      ∃ rest, e.2 = e.1 ++ ": " ++ rest := by
  rintro ⟨k, m⟩ member
  rcases List.mem_append.mp member with failed | outsideRoot
  · obtain ⟨e, inOutcomes, rfl⟩ := mem_failedFiles.mp failed
    rw [← fit.error_path k e inOutcomes]
    exact e.message_reads
  · obtain ⟨_, _, rfl⟩ := mem_outsideEntries.mp outsideRoot
    have literal : ": outside project root " = ": " ++ "outside project root " := by decide
    exact ⟨"outside project root " ++ ws.root, by rw [literal]; simp only [String.append_assoc]⟩

end Outside

section Run

variable {config : IndexConfig} {ws : Workspace} {entries : List String}

theorem mem_indexedAnalyses_run (fit : OutcomesFit (runOutcomes config ws entries))
    {a : FileAnalysis} :
    a ∈ indexedAnalyses (runOutcomes config ws entries) ↔
      a.path ∈ projectPaths ws entries ∧
        analyzeFile (PathClassifier.ofConfig config) ws.read a.path = .ok (some a) := by
  rw [mem_indexedAnalyses]
  constructor
  · rintro ⟨p, member⟩
    rw [fit.analysis_path p a member]
    exact mem_runOutcomes.mp member
  · rintro indexed
    exact ⟨a.path, mem_runOutcomes.mpr indexed⟩

/-- A run's records are its indexed project paths. -/
theorem run_item_iff (fit : OutcomesFit (runOutcomes config ws entries)) (p : String) :
    p ∈ (linkedRecords config (sortedAnalyses (runOutcomes config ws entries))).map (·.path) ↔
      p ∈ projectPaths ws entries ∧
        ∃ a, analyzeFile (PathClassifier.ofConfig config) ws.read p = .ok (some a) := by
  rw [linkedRecords_paths, List.mem_map]
  constructor
  · rintro ⟨a, member, rfl⟩
    obtain ⟨listed, indexed⟩ :=
      (mem_indexedAnalyses_run fit).mp (List.mem_mergeSort.mp member)
    exact ⟨listed, a, indexed⟩
  · rintro ⟨listed, a, indexed⟩
    have atPath := analyzeFile_path indexed
    refine ⟨a, List.mem_mergeSort.mpr ((mem_indexedAnalyses_run fit).mpr ?_), atPath⟩
    rw [atPath]
    exact ⟨listed, indexed⟩

/-- A run's error keys are its failed project paths and its entries outside the root. -/
theorem run_errorKey_iff (k : String) :
    k ∈ (failedFiles (runOutcomes config ws entries) ++ outsideEntries ws entries).map (·.1) ↔
      (k ∈ projectPaths ws entries ∧
        ∃ e, analyzeFile (PathClassifier.ofConfig config) ws.read k = .error e) ∨
      (k ∈ entries ∧ ws.relative? k = none) := by
  rw [List.map_append, List.mem_append]
  apply or_congr
  · constructor
    · rintro listed
      obtain ⟨⟨_, m⟩, member, rfl⟩ := List.mem_map.mp listed
      obtain ⟨e, inOutcomes, _⟩ := mem_failedFiles.mp member
      obtain ⟨onList, failed⟩ := mem_runOutcomes.mp inOutcomes
      exact ⟨onList, e, failed⟩
    · rintro ⟨onList, e, failed⟩
      exact List.mem_map.mpr ⟨(k, e.message),
        mem_failedFiles.mpr ⟨e, mem_runOutcomes.mpr ⟨onList, failed⟩, rfl⟩, rfl⟩
  · constructor
    · rintro listed
      obtain ⟨⟨_, m⟩, member, rfl⟩ := List.mem_map.mp listed
      obtain ⟨onList, outsideRoot, _⟩ := mem_outsideEntries.mp member
      exact ⟨onList, outsideRoot⟩
    · rintro ⟨onList, outsideRoot⟩
      exact List.mem_map.mpr ⟨_, mem_outsideEntries.mpr ⟨onList, outsideRoot, rfl⟩, rfl⟩

/-- A run gives a report exactly when every project path it indexes can be digested into an
id. -/
theorem run_ok_iff (fit : OutcomesFit (runOutcomes config ws entries))
    {outside : List (String × String)} :
    (∃ r, collectReport config outside (runOutcomes config ws entries) = .ok r) ↔
      ∀ p ∈ projectPaths ws entries, ∀ a,
        analyzeFile (PathClassifier.ofConfig config) ws.read p = .ok (some a) →
          Text.utf8Fault? (config.projectId ++ ":" ++ p) = none := by
  rw [collectReport_ok_iff]
  constructor
  · intro digestible p listed a indexed
    have atPath := analyzeFile_path indexed
    exact atPath ▸
      digestible a ((mem_indexedAnalyses_run fit).mpr (atPath ▸ ⟨listed, indexed⟩))
  · intro digestible a member
    obtain ⟨listed, indexed⟩ := (mem_indexedAnalyses_run fit).mp member
    exact digestible a.path listed a indexed

/-- A run stops only over a project path it indexes whose id cannot be digested. -/
theorem run_error (fit : OutcomesFit (runOutcomes config ws entries))
    {outside : List (String × String)} {err : RunError}
    (stopped : collectReport config outside (runOutcomes config ws entries) = .error err) :
    ∃ p a report, p ∈ projectPaths ws entries ∧
      analyzeFile (PathClassifier.ofConfig config) ws.read p = .ok (some a) ∧
      Text.utf8Fault? (config.projectId ++ ":" ++ p) = some report ∧
      err = .unencodable report := by
  obtain ⟨a, member, report, faulty, rfl⟩ := collectReport_error stopped
  obtain ⟨listed, indexed⟩ := (mem_indexedAnalyses_run fit).mp member
  exact ⟨a.path, a, report, listed, indexed, faulty, rfl⟩

/-- A run's records are well formed: its analyses have distinct paths, roles, and imports not
yet resolved. -/
theorem run_records_wellFormed (fit : OutcomesFit (runOutcomes config ws entries)) :
    RecordsWellFormed (linkedRecords config (sortedAnalyses (runOutcomes config ws entries))) := by
  refine linkedRecords_wellFormed (sortedAnalyses_strict fit) (fun a member => ?_)
    (fun a member => ?_)
  · obtain ⟨p, inOutcomes⟩ := mem_sortedAnalyses.mp member
    exact fit.analysis_role p a inOutcomes
  · obtain ⟨p, inOutcomes⟩ := mem_sortedAnalyses.mp member
    exact fit.analysis_unresolved p a inOutcomes

/-- **A run's report, and when there is one.** Under a configuration that passes its check, a
run gives a report exactly when every indexed path can be digested into an id. Its records are
the indexed project paths, well formed and counted once each by role. Its errors, sorted by key
and each reading `key: ...`, are keyed by the project paths that failed and by the entries
outside the root; a record's path is an error key exactly when an entry outside the root is
spelled like it. -/
theorem analyzeProject_report (config : IndexConfig) (valid : config.problems = [])
    (source : Option String) (ws : Workspace) (files : Option (List String)) :
    let entries := files.getD (ws.discover config)
    let outcome := analyzeFile (PathClassifier.ofConfig config) ws.read
    ((∃ r, analyzeProject config source ws files = .ok r) ↔
      ∀ p ∈ projectPaths ws entries, ∀ a, outcome p = .ok (some a) →
        Text.utf8Fault? (config.projectId ++ ":" ++ p) = none) ∧
    ∀ r, analyzeProject config source ws files = .ok r →
      RecordsWellFormed r.items ∧
      (Role.all.map r.count).sum = r.items.length ∧
      (∀ p, p ∈ r.items.map (·.path) ↔
        p ∈ projectPaths ws entries ∧ ∃ a, outcome p = .ok (some a)) ∧
      ∃ keyed, ErrorsKeyed r.parseErrors keyed ∧
        (∀ k, k ∈ keyed.map (·.1) ↔
          (k ∈ projectPaths ws entries ∧ ∃ e, outcome k = .error e) ∨
            (k ∈ entries ∧ ws.relative? k = none)) ∧
        ∀ p ∈ r.items.map (·.path),
          p ∈ keyed.map (·.1) ↔ p ∈ entries ∧ ws.relative? p = none := by
  intro entries outcome
  have fit := runOutcomes_fit valid ws entries
  rw [analyzeProject_eq config valid]
  refine ⟨run_ok_iff fit, fun r ran => ?_⟩
  obtain ⟨items, errors⟩ := collectReport_ok ran
  have wellFormed : RecordsWellFormed r.items := items ▸ run_records_wellFormed fit
  have itemPaths : ∀ p, p ∈ r.items.map (·.path) ↔
      p ∈ projectPaths ws entries ∧ ∃ a, outcome p = .ok (some a) := by
    rw [items]
    exact run_item_iff fit
  have keys : ∀ k, k ∈ (keyedErrors (failedFiles (runOutcomes config ws entries) ++
      outsideEntries ws entries)).map (·.1) ↔
        (k ∈ projectPaths ws entries ∧ ∃ e, outcome k = .error e) ∨
          (k ∈ entries ∧ ws.relative? k = none) := fun k => by
    rw [mem_keyedErrors_keys]
    exact run_errorKey_iff k
  refine ⟨wellFormed, count_sum_of_roles r.items wellFormed.roles, itemPaths, _,
    errors ▸ errorsByKey_keyed (runErrors_read fit), keys, fun p listed => ?_⟩
  -- an indexed path did not fail, so only an outside entry can key it
  obtain ⟨_, a, indexed⟩ := (itemPaths p).mp listed
  rw [keys]
  constructor
  · rintro (⟨_, e, failed⟩ | outsideRoot)
    · rw [show outcome p = _ from indexed] at failed
      cases failed
    · exact outsideRoot
  · exact Or.inr

/-- An in-memory workspace reads only the paths it lists. -/
theorem Workspace.mem_of_inMemory_read {files : List (String × Except String String)}
    {p text : String} (reading : (Workspace.inMemory files).read p = .ok text) :
    p ∈ files.map (·.1) := by
  simp only [Workspace.inMemory] at reading
  cases found : files.reverse.find? (·.1 == p) with
  | none => rw [found] at reading; cases reading
  | some entry =>
    have named : entry.1 = p := by simpa using List.find?_some found
    have listed : entry ∈ files := List.mem_reverse.mp (List.mem_of_find?_eq_some found)
    exact List.mem_map.mpr ⟨entry, listed, named⟩

/-- An in-memory workspace indexes only the paths it lists. -/
theorem Workspace.mem_of_inMemory_indexed {c : PathClassifier}
    {files : List (String × Except String String)} {p : String} {a : FileAnalysis}
    (indexed : analyzeFile c (Workspace.inMemory files).read p = .ok (some a)) :
    p ∈ files.map (·.1) := by
  obtain ⟨_, text, _, reading, _⟩ := analyzeFile_eq_some indexed
  exact Workspace.mem_of_inMemory_read reading

/-- A run over an in-memory workspace gives a report when every path it lists digests into an id:
it can index no other path. -/
theorem analyzeProject_inMemory_ok (valid : config.problems = []) (source : Option String)
    (files : List (String × Except String String)) (listing : Option (List String))
    (digestible : ∀ p ∈ files.map (·.1), Text.utf8Fault? (config.projectId ++ ":" ++ p) = none) :
    ∃ r, analyzeProject config source (Workspace.inMemory files) listing = .ok r := by
  rw [analyzeProject_eq config valid, run_ok_iff (runOutcomes_fit valid _ _)]
  intro p _ a indexed
  exact digestible p (Workspace.mem_of_inMemory_indexed indexed)

/-- A run over a migration and a script gives a report: the only paths it can index are the two
listed ones, and both digest. -/
theorem analyzeProject_report_two_files :
    ∃ r, analyzeProject {} none
      (Workspace.inMemory [("db/schema.sql", .ok "CREATE TABLE users (id INT);"),
        ("lib/useUser.ts", .ok "export function useUser() { useState(0) }")]) none = .ok r :=
  (analyzeProject_report {} (by decide) none _ none).1.mpr fun p _ a indexed => by
    have listed := Workspace.mem_of_inMemory_indexed indexed
    simp only [List.map_cons, List.map_nil, List.mem_cons, List.not_mem_nil, or_false] at listed
    rcases listed with rfl | rfl <;> decide

end Run

end ProjectIndex
