import ProjectIndex.Proofs.Report

/-!
Contract: a run's report depends on the entries of its list as a set: not on their order or
repeats, not on the order in which its files finish, and not on how many workers index them.

The collector sorts the analyses by path before it links them, and no two analyses share a path,
so any arrangement of the same outcomes sorts into the same list (`sortedAnalyses_perm`). Its
errors are read by key: the keys are sorted too, and under each the last message counts. A key
of a failed file has one message, an entry outside the root always gets the same one, and the
outside messages come after the failures (`keyedErrors_congr`, `collectReport_congr`). Lists with
the same entries give the same project paths in some order (`projectPaths_perm`), and nothing
but the configuration check reads the worker count.

Owns: `report_independent_of_order`.
-/

namespace ProjectIndex

open ProjectIndex.Classify

/-! ### Sorted text keys -/

/-- Merge sorting texts forgets their order. -/
theorem mergeSort_eq_of_perm {l l' : List String} (perm : l.Perm l') :
    l.mergeSort (fun a b => decide (a ≤ b)) = l'.mergeSort (fun a b => decide (a ≤ b)) :=
  List.Perm.eq_of_pairwise (fun a b _ _ (ab : a ≤ b) (ba : b ≤ a) => le_antisymm ab ba)
    (pairwise_mergeSort_key (fun k => k) l) (pairwise_mergeSort_key (fun k => k) l')
    (((List.mergeSort_perm l _).trans perm).trans (List.mergeSort_perm l' _).symm)

/-! ### Errors by key -/

section LastMessage

variable {errors errors' : List (String × String)} {k m : String}

theorem lastMessage_append (front back : List (String × String)) (k : String) :
    lastMessage (front ++ back) k = (lastMessage back k).or (lastMessage front k) := by
  unfold lastMessage
  rw [List.reverse_append, List.find?_append]
  cases (back.reverse.find? (·.1 == k)) <;> rfl

theorem lastMessage_eq_none (absent : k ∉ errors.map (·.1)) : lastMessage errors k = none := by
  unfold lastMessage
  rw [Option.map_eq_none_iff, List.find?_eq_none]
  intro e member atKey
  exact absent (List.mem_map.mpr ⟨e, List.mem_reverse.mp member, by simpa using atKey⟩)

/-- A key with one message has that message last. -/
theorem lastMessage_eq_of_unique (present : (k, m) ∈ errors)
    (unique : ∀ m', (k, m') ∈ errors → m' = m) : lastMessage errors k = some m := by
  obtain ⟨m', found⟩ :=
    Option.isSome_iff_exists.mp (lastMessage_isSome (List.mem_map.mpr ⟨_, present, rfl⟩))
  rw [found, unique m' (lastMessage_mem found)]

/-- Under keys without repeats, the last message is the only one, in any order. -/
theorem lastMessage_perm (perm : errors'.Perm errors) (nodup : (errors.map (·.1)).Nodup)
    (k : String) : lastMessage errors' k = lastMessage errors k := by
  by_cases present : k ∈ errors.map (·.1)
  · obtain ⟨⟨k', m⟩, member, rfl⟩ := List.mem_map.mp present
    have unique : ∀ m', (k', m') ∈ errors → m' = m := fun m' other =>
      (Prod.mk.inj (List.inj_on_of_nodup_map nodup other member rfl)).2
    rw [lastMessage_eq_of_unique member unique,
      lastMessage_eq_of_unique (perm.mem_iff.mpr member)
        fun m' other => unique m' (perm.mem_iff.mp other)]
  · have absent' : k ∉ errors'.map (·.1) :=
      fun listed => present ((perm.map _).mem_iff.mp listed)
    rw [lastMessage_eq_none present, lastMessage_eq_none absent']

/-- **Errors by key read only the keys and the last message under each.** -/
theorem keyedErrors_congr (sameKeys : ∀ k, k ∈ errors.map (·.1) ↔ k ∈ errors'.map (·.1))
    (sameLast : ∀ k, lastMessage errors k = lastMessage errors' k) :
    keyedErrors errors = keyedErrors errors' := by
  have keys : (firstOccurrences (errors.map (·.1))).Perm (firstOccurrences (errors'.map (·.1))) :=
    (List.perm_ext_iff_of_nodup (nodup_firstOccurrences _) (nodup_firstOccurrences _)).mpr
      fun k => by rw [mem_firstOccurrences, mem_firstOccurrences, sameKeys]
  unfold keyedErrors
  dsimp only
  rw [mergeSort_eq_of_perm keys]
  simp only [sameLast]

end LastMessage

section Outside

variable {ws : Workspace} {entries entries' : List String}

theorem mem_outsideEntries_keys {k : String} :
    k ∈ (outsideEntries ws entries).map (·.1) ↔ k ∈ entries ∧ ws.relative? k = none := by
  constructor
  · intro listed
    obtain ⟨⟨_, m⟩, member, rfl⟩ := List.mem_map.mp listed
    obtain ⟨onList, outsideRoot, _⟩ := mem_outsideEntries.mp member
    exact ⟨onList, outsideRoot⟩
  · rintro ⟨onList, outsideRoot⟩
    exact List.mem_map.mpr ⟨_, mem_outsideEntries.mpr ⟨onList, outsideRoot, rfl⟩, rfl⟩

/-- An entry outside the root always gets the same message. -/
theorem lastMessage_outsideEntries (k : String) :
    lastMessage (outsideEntries ws entries) k =
      if k ∈ entries ∧ ws.relative? k = none then
        some (k ++ ": outside project root " ++ ws.root)
      else none := by
  split
  · rename_i outsideRoot
    exact lastMessage_eq_of_unique (mem_outsideEntries.mpr ⟨outsideRoot.1, outsideRoot.2, rfl⟩)
      fun m' member => (mem_outsideEntries.mp member).2.2
  · rename_i inside
    exact lastMessage_eq_none fun listed => inside (mem_outsideEntries_keys.mp listed)

theorem outsideEntries_congr (ws : Workspace)
    (sameEntries : ∀ e, e ∈ entries ↔ e ∈ entries') :
    (∀ k, k ∈ (outsideEntries ws entries).map (·.1) ↔
      k ∈ (outsideEntries ws entries').map (·.1)) ∧
      ∀ k, lastMessage (outsideEntries ws entries) k =
        lastMessage (outsideEntries ws entries') k := by
  refine ⟨fun k => ?_, fun k => ?_⟩
  · rw [mem_outsideEntries_keys, mem_outsideEntries_keys, sameEntries]
  · simp only [lastMessage_outsideEntries, sameEntries]

end Outside

/-! ### Outcomes in any order -/

section Collect

variable {outcomes outcomes' : List (String × FileOutcome)}

theorem OutcomesFit.perm (fit : OutcomesFit outcomes) (perm : outcomes'.Perm outcomes) :
    OutcomesFit outcomes' :=
  ⟨(perm.map _).nodup_iff.mpr fit.keys_nodup,
    fun p a member => fit.analysis_path p a (perm.mem_iff.mp member),
    fun p e member => fit.error_path p e (perm.mem_iff.mp member),
    fun p a member => fit.analysis_role p a (perm.mem_iff.mp member),
    fun p a member => fit.analysis_unresolved p a (perm.mem_iff.mp member)⟩

/-- **Analyses sort the same in any order.** -/
theorem sortedAnalyses_perm (fit : OutcomesFit outcomes) (perm : outcomes'.Perm outcomes) :
    sortedAnalyses outcomes' = sortedAnalyses outcomes := by
  have strict' := List.pairwise_map.mp (sortedAnalyses_strict (fit.perm perm))
  have strict := List.pairwise_map.mp (sortedAnalyses_strict fit)
  exact List.Perm.eq_of_pairwise
    (fun a b _ _ (ab : a.path < b.path) (ba : b.path < a.path) =>
      absurd (lt_trans ab ba) (lt_irrefl _))
    strict' strict
    (((List.mergeSort_perm _ _).trans (perm.filterMap _)).trans (List.mergeSort_perm _ _).symm)

/-- The paths of the failures, among the outcomes' paths in the same order. -/
theorem failedFiles_keys_sublist :
    ∀ outcomes : List (String × FileOutcome),
      ((failedFiles outcomes).map (·.1)).Sublist (outcomes.map (·.1))
  | [] => List.Sublist.slnil
  | (p, r) :: rest => by
      have below := failedFiles_keys_sublist rest
      unfold failedFiles at below ⊢
      rw [List.filterMap_cons, List.map_cons]
      cases r with
      | error e => exact below.cons_cons p
      | ok _ => exact below.cons p

/-- **The collector reads its outcomes in any order**, and its outside errors by key. -/
theorem collectReport_congr {config : IndexConfig} {outside outside' : List (String × String)}
    (fit : OutcomesFit outcomes) (perm : outcomes'.Perm outcomes)
    (sameOutside : ∀ k, k ∈ outside'.map (·.1) ↔ k ∈ outside.map (·.1))
    (sameLastOutside : ∀ k, lastMessage outside' k = lastMessage outside k) :
    collectReport config outside' outcomes' = collectReport config outside outcomes := by
  have failedPerm : (failedFiles outcomes').Perm (failedFiles outcomes) := perm.filterMap _
  have failedNodup : ((failedFiles outcomes).map (·.1)).Nodup :=
    (failedFiles_keys_sublist outcomes).nodup fit.keys_nodup
  have sameKeys : ∀ k, k ∈ (failedFiles outcomes' ++ outside').map (·.1) ↔
      k ∈ (failedFiles outcomes ++ outside).map (·.1) := by
    intro k
    rw [List.map_append, List.map_append, List.mem_append, List.mem_append,
      (failedPerm.map _).mem_iff, sameOutside]
  have sameLast : ∀ k, lastMessage (failedFiles outcomes' ++ outside') k =
      lastMessage (failedFiles outcomes ++ outside) k := by
    intro k
    rw [lastMessage_append, lastMessage_append, sameLastOutside,
      lastMessage_perm failedPerm failedNodup]
  rw [collectReport_eq, collectReport_eq, sortedAnalyses_perm fit perm, errorsByKey, errorsByKey,
    keyedErrors_congr sameKeys sameLast]

end Collect

/-! ### Whole runs -/

section Run

variable {ws : Workspace} {entries entries' : List String}

theorem projectPaths_perm (sameEntries : ∀ e, e ∈ entries ↔ e ∈ entries') :
    (projectPaths ws entries).Perm (projectPaths ws entries') :=
  (List.perm_ext_iff_of_nodup (nodup_projectPaths ws entries) (nodup_projectPaths ws entries')).mpr
    fun p => by simp only [mem_projectPaths, sameEntries]

/-- The worker count is read by the configuration check alone. -/
theorem runOutcomes_withWorkers (config : IndexConfig) (workers : Int) :
    runOutcomes { config with workers := workers } ws entries = runOutcomes config ws entries := by
  have paths : ∀ path,
      (PathClassifier.ofConfig { config with workers := workers }).classifyPath path =
        (PathClassifier.ofConfig config).classifyPath path := fun _ => rfl
  have excluded : ∀ path,
      (PathClassifier.ofConfig { config with workers := workers }).isExcludedSql path =
        (PathClassifier.ofConfig config).isExcludedSql path := fun _ => rfl
  unfold runOutcomes
  simp only [analyzeFile_congr (classify_congr paths rfl) excluded rfl]

theorem problems_withWorkers {config : IndexConfig} (valid : config.problems = [])
    {workers : Int} (atLeastOne : 1 ≤ workers) :
    { config with workers := workers }.problems = [] := by
  simp only [IndexConfig.problems, List.append_eq_nil_iff] at valid ⊢
  obtain ⟨⟨⟨⟨⟨⟨⟨⟨projectId, includes⟩, endpoint⟩, _⟩, globs⟩, folders⟩, fileNames⟩,
    segments⟩, thresholds⟩ := valid
  refine ⟨⟨⟨⟨⟨⟨⟨⟨projectId, includes⟩, endpoint⟩, ?_⟩, globs⟩, folders⟩, fileNames⟩,
    segments⟩, thresholds⟩
  rw [if_neg (by omega)]

/-- **A run does not depend on order, repeats, completion order or workers.** Under a
configuration that passes its check, any worker count of at least one, and two lists with the
same entries, the runs give the same result; and however the files of the second run finish,
its collector gives that result too. -/
theorem report_independent_of_order (config : IndexConfig) (valid : config.problems = [])
    (workers : Int) (atLeastOne : 1 ≤ workers) (source : Option String) (ws : Workspace)
    (entries entries' : List String) (sameEntries : ∀ e, e ∈ entries ↔ e ∈ entries') :
    analyzeProject { config with workers := workers } source ws (some entries') =
        analyzeProject config source ws (some entries) ∧
      ∀ outcomes, outcomes.Perm (runOutcomes { config with workers := workers } ws entries') →
        collectReport { config with workers := workers } (outsideEntries ws entries') outcomes =
          analyzeProject config source ws (some entries) := by
  -- any completion order of the second run is an order of the first run's outcomes
  have anyOrder : ∀ outcomes,
      outcomes.Perm (runOutcomes { config with workers := workers } ws entries') →
      collectReport { config with workers := workers } (outsideEntries ws entries') outcomes =
        analyzeProject config source ws (some entries) := by
    intro outcomes completion
    rw [runOutcomes_withWorkers] at completion
    have perm : outcomes.Perm (runOutcomes config ws entries) :=
      completion.trans ((projectPaths_perm sameEntries).symm.map _)
    obtain ⟨sameOutside, sameLastOutside⟩ := outsideEntries_congr ws sameEntries
    rw [analyzeProject_eq config valid]
    exact collectReport_congr (runOutcomes_fit valid ws entries) perm
      (fun k => (sameOutside k).symm) (fun k => (sameLastOutside k).symm)
  refine ⟨?_, anyOrder⟩
  rw [analyzeProject_eq _ (problems_withWorkers valid atLeastOne)]
  exact anyOrder _ (List.Perm.refl _)

/-- Four workers over a list with a repeat and another order give the one-worker report. -/
theorem report_independent_of_order_repeats :
    analyzeProject { ({} : IndexConfig) with workers := 4 } none
        (Workspace.inMemory [("a.ts", .ok "export const a = 1;"), ("b.ts", .ok "")])
        (some ["b.ts", "a.ts", "b.ts"]) =
      analyzeProject {} none
        (Workspace.inMemory [("a.ts", .ok "export const a = 1;"), ("b.ts", .ok "")])
        (some ["a.ts", "b.ts"]) :=
  (report_independent_of_order {} (by decide) 4 (by decide) none _ ["a.ts", "b.ts"]
    ["b.ts", "a.ts", "b.ts"]
    fun e => by simp only [List.mem_cons, List.not_mem_nil, or_false]; tauto).1

end Run

end ProjectIndex
