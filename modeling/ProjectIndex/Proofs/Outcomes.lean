import ProjectIndex.Proofs.Linking
import ProjectIndex.Proofs.Roles

/-!
Contract: what one file's outcome promises, and which outcomes a run collects.

Indexing a file either fails with an error naming that file, or leaves it out, or gives an
analysis under the file's own path whose imports are not yet resolved; under a checked
configuration its role is one of the seven (`analyzeFile_eq_some`, `analyzeFile_error_path`).
A run indexes each project path of its list once: the list entries, read relative to the root,
without repeats (`mem_projectPaths`, `nodup_projectPaths`). Together these are what the collector
relies on (`OutcomesFit`).

Owns: `OutcomesFit`, `runOutcomes`, `runOutcomes_fit`.
-/

namespace ProjectIndex

open ProjectIndex.Classify

/-! ### Repeats dropped -/

section FirstOccurrences

theorem foldl_appendAbsent_mem :
    ∀ (xs acc : List String) (x : String),
      x ∈ xs.foldl appendAbsent acc ↔ x ∈ acc ∨ x ∈ xs
  | [], acc, x => by simp
  | y :: rest, acc, x => by
      rw [List.foldl_cons, foldl_appendAbsent_mem rest, mem_appendAbsent, List.mem_cons]
      constructor
      · rintro ((old | rfl) | later)
        · exact Or.inl old
        · exact Or.inr (Or.inl rfl)
        · exact Or.inr (Or.inr later)
      · rintro (old | rfl | later)
        · exact Or.inl (Or.inl old)
        · exact Or.inl (Or.inr rfl)
        · exact Or.inr later

theorem foldl_appendAbsent_nodup :
    ∀ (xs acc : List String), acc.Nodup → (xs.foldl appendAbsent acc).Nodup
  | [], _, nodup => nodup
  | _ :: rest, _, nodup => foldl_appendAbsent_nodup rest _ (nodup_appendAbsent nodup)

@[simp] theorem mem_firstOccurrences {xs : List String} {x : String} :
    x ∈ firstOccurrences xs ↔ x ∈ xs := by
  show x ∈ xs.foldl appendAbsent [] ↔ x ∈ xs
  simp [foldl_appendAbsent_mem]

theorem nodup_firstOccurrences (xs : List String) : (firstOccurrences xs).Nodup :=
  foldl_appendAbsent_nodup xs [] List.nodup_nil

@[simp] theorem mem_projectPaths {ws : Workspace} {entries : List String} {p : String} :
    p ∈ projectPaths ws entries ↔ ∃ e ∈ entries, ws.relative? e = some p := by
  simp [projectPaths]

theorem nodup_projectPaths (ws : Workspace) (entries : List String) :
    (projectPaths ws entries).Nodup :=
  nodup_firstOccurrences _

end FirstOccurrences

/-! ### One file -/

section OneFile

variable {path text : String} {e : SourceError}

theorem parseSql_error_path (failed : Sql.parseSql text path = .error e) : e.path = path := by
  unfold Sql.parseSql at failed
  split at failed
  · cases failed
  · cases failed
    rfl

/-- Parsing with this library's parser, folded back into its own name. -/
theorem parseScriptWith_parseTree : Script.parseScriptWith Script.parseTree = Script.parseScript :=
  rfl

theorem parseSourceWith_parseTree : parseSourceWith Script.parseTree = parseSource := rfl

theorem parseScript_error_path {strict : Bool}
    (failed : Script.parseScript text path strict = .error e) : e.path = path := by
  unfold Script.parseScript Script.parseScriptWith at failed
  dsimp only at failed
  split at failed
  · cases failed
    rfl
  · split at failed
    · cases failed
      rfl
    · split at failed
      · split at failed
        · cases failed
          rfl
        · cases failed
          rfl
      · cases failed

/-- A parse error names the file parsed. -/
theorem parseSource_error_path {strict : Bool} (failed : parseSource path text strict = .error e) :
    e.path = path := by
  unfold parseSource parseSourceWith at failed
  rw [parseScriptWith_parseTree] at failed
  split at failed
  · cases failed
    rfl
  · dsimp only at failed
    split at failed
    · cases parsing : Sql.parseSql text path with
      | error _ =>
          rw [parsing] at failed
          cases failed
          exact parseSql_error_path parsing
      | ok _ =>
          rw [parsing] at failed
          cases failed
    · cases parsing : Script.parseScript text path strict with
      | error _ =>
          rw [parsing] at failed
          cases failed
          exact parseScript_error_path parsing
      | ok _ =>
          rw [parsing] at failed
          cases failed

/-- An error's message starts with the file it names. -/
theorem SourceError.message_reads (e : SourceError) :
    ∃ rest, e.message = e.path ++ ": " ++ rest := by
  unfold SourceError.message
  obtain ⟨text, line⟩ := e.problem.text
  dsimp only
  cases line with
  | none => exact ⟨text, rfl⟩
  | some n =>
      dsimp only
      split
      · exact ⟨text, rfl⟩
      · exact ⟨text ++ " (line " ++ toString n ++ ")", by simp only [String.append_assoc]⟩

variable {c : PathClassifier} {read : FileReader}

/-- **What an analysis is made of.** The file is of a kind the index reads, it was read and
parsed, the classifier gave its classification, it sits under the file's own path, its imports
and exports are the script's, and its metadata is that of its role. -/
theorem analyzeFileWith_fields {tree : Script.TreeParser} {a : FileAnalysis}
    (indexed : analyzeFileWith tree c read path = .ok (some a)) :
    ((languageOf? path).isNone || c.isExcludedSql path) = false ∧
      ∃ text u, read path = .ok text ∧ parseSourceWith tree path text c.config.strictSyntax = .ok u ∧
        c.classify u = some a.classification ∧ a.path = path ∧
        a.imports = (match u.parsed with | .script d => d.imports | .tables _ => []) ∧
        a.exports = (match u.parsed with | .script d => d.exports | .tables _ => []) ∧
        a.metadata = roleMetadata a.classification.role path a.exports u.tables := by
  unfold analyzeFileWith at indexed
  split at indexed
  · cases indexed
  · rename_i included
    refine ⟨(Bool.not_eq_true _).mp included, ?_⟩
    cases reading : read path with
    | error problem => simp [reading, Except.mapError, bind, Except.bind] at indexed
    | ok text =>
      cases parsing : parseSourceWith tree path text c.config.strictSyntax with
      | error e => simp [reading, parsing, Except.mapError, bind, Except.bind] at indexed
      | ok u =>
          simp only [reading, parsing, Except.mapError, bind, Except.bind] at indexed
          split at indexed
          · cases indexed
          · rename_i cl classified
            refine ⟨text, u, rfl, parsing, ?_⟩
            simp only [pure, Except.pure, Except.ok.injEq, Option.some.injEq] at indexed
            subst indexed
            refine ⟨classified, rfl, ?_, ?_, rfl⟩ <;> cases u.parsed <;> rfl

theorem analyzeFile_fields {a : FileAnalysis} (indexed : analyzeFile c read path = .ok (some a)) :
    ((languageOf? path).isNone || c.isExcludedSql path) = false ∧
      ∃ text u, read path = .ok text ∧ parseSource path text c.config.strictSyntax = .ok u ∧
        c.classify u = some a.classification ∧ a.path = path ∧
        a.imports = (match u.parsed with | .script d => d.imports | .tables _ => []) ∧
        a.exports = (match u.parsed with | .script d => d.exports | .tables _ => []) ∧
        a.metadata = roleMetadata a.classification.role path a.exports u.tables :=
  analyzeFileWith_fields indexed

theorem analyzeFile_eq_some {a : FileAnalysis} (indexed : analyzeFile c read path = .ok (some a)) :
    ((languageOf? path).isNone || c.isExcludedSql path) = false ∧
      ∃ text u, read path = .ok text ∧ parseSource path text c.config.strictSyntax = .ok u ∧
        c.classify u = some a.classification ∧ a.path = path ∧
        a.imports = (match u.parsed with | .script d => d.imports | .tables _ => []) := by
  obtain ⟨included, text, u, reading, parsing, classified, atPath, imports, -⟩ :=
    analyzeFile_fields indexed
  exact ⟨included, text, u, reading, parsing, classified, atPath, imports⟩

/-- A file of a kind the index reads, read, parsed and classified, is indexed with that
classification. -/
theorem analyzeFile_of_classify {text : String} {u : SourceUnit} {cl : Classification}
    (included : ((languageOf? path).isNone || c.isExcludedSql path) = false)
    (reading : read path = .ok text)
    (parsing : parseSource path text c.config.strictSyntax = .ok u)
    (classified : c.classify u = some cl) :
    ∃ a, analyzeFile c read path = .ok (some a) ∧ a.classification = cl := by
  unfold analyzeFile analyzeFileWith
  rw [parseSourceWith_parseTree, if_neg (by rw [included]; decide)]
  simp only [reading, parsing, Except.mapError, bind, Except.bind, classified]
  exact ⟨_, rfl, rfl⟩

/-- An analysis sits under the path of the file analysed. -/
theorem analyzeFile_path {a : FileAnalysis} (indexed : analyzeFile c read path = .ok (some a)) :
    a.path = path := by
  obtain ⟨_, _, _, _, _, _, atPath, _⟩ := analyzeFile_eq_some indexed
  exact atPath

/-- A file that fails fails under its own path. -/
theorem analyzeFile_error_path (failed : analyzeFile c read path = .error e) : e.path = path := by
  unfold analyzeFile analyzeFileWith at failed
  rw [parseSourceWith_parseTree] at failed
  split at failed
  · cases failed
  · cases reading : read path with
    | error problem =>
        simp only [reading, Except.mapError, bind, Except.bind] at failed
        cases failed
        rfl
    | ok text =>
      cases parsing : parseSource path text c.config.strictSyntax with
      | error e' =>
          simp only [reading, parsing, Except.mapError, bind, Except.bind] at failed
          cases failed
          exact parseSource_error_path parsing
      | ok u =>
          simp only [reading, parsing, Except.mapError, bind, Except.bind] at failed
          split at failed <;> cases failed

/-- A classification reads the path tiers and the thresholds, and nothing else of the
classifier. -/
theorem classify_congr {c c' : PathClassifier}
    (paths : ∀ path, c.classifyPath path = c'.classifyPath path)
    (thresholds : c.config.thresholds = c'.config.thresholds) (u : SourceUnit) :
    c.classify u = c'.classify u := by
  unfold PathClassifier.classify
  rw [paths, thresholds]

/-- Indexing a file reads the classifier through the classification of the file's own parse, its
exclusion of SQL files and its syntax mode. -/
theorem analyzeFile_classify_congr {c c' : PathClassifier}
    (excluded : ∀ path, c.isExcludedSql path = c'.isExcludedSql path)
    (strict : c.config.strictSyntax = c'.config.strictSyntax)
    (classify : ∀ text u, read path = .ok text →
      parseSource path text c.config.strictSyntax = .ok u → c.classify u = c'.classify u) :
    analyzeFile c read path = analyzeFile c' read path := by
  unfold analyzeFile analyzeFileWith
  rw [parseSourceWith_parseTree, excluded, ← strict]
  cases reading : read path with
  | error problem => simp only [Except.mapError, bind, Except.bind]
  | ok text =>
      simp only [Except.mapError, bind, Except.bind]
      cases parsing : parseSource path text c.config.strictSyntax with
      | error e => rfl
      | ok u => simp only [classify text u reading parsing]

/-- Two classifiers that agree on the file's own parse give the file the same outcome. -/
theorem analyzeFile_eq_of_classify_eq {c c' : PathClassifier} {text : String} {u : SourceUnit}
    (excluded : ∀ path, c.isExcludedSql path = c'.isExcludedSql path)
    (strict : c.config.strictSyntax = c'.config.strictSyntax) (reading : read path = .ok text)
    (parsing : parseSource path text c.config.strictSyntax = .ok u)
    (same : c.classify u = c'.classify u) :
    analyzeFile c read path = analyzeFile c' read path := by
  refine analyzeFile_classify_congr excluded strict fun text' u' reading' parsing' => ?_
  rw [reading, Except.ok.injEq] at reading'
  subst reading'
  rw [parsing, Except.ok.injEq] at parsing'
  subst parsing'
  exact same

theorem analyzeFile_congr {c c' : PathClassifier} (classify : ∀ u, c.classify u = c'.classify u)
    (excluded : ∀ path, c.isExcludedSql path = c'.isExcludedSql path)
    (strict : c.config.strictSyntax = c'.config.strictSyntax) (read : FileReader) (path : String) :
    analyzeFile c read path = analyzeFile c' read path :=
  analyzeFile_classify_congr excluded strict fun _ u _ _ => classify u

/-- Whether a file fails, and how, does not depend on how it would be classified. -/
theorem analyzeFile_error_congr {c c' : PathClassifier}
    (excluded : ∀ path, c.isExcludedSql path = c'.isExcludedSql path)
    (strict : c.config.strictSyntax = c'.config.strictSyntax) (e : SourceError) :
    analyzeFile c read path = .error e ↔ analyzeFile c' read path = .error e := by
  unfold analyzeFile analyzeFileWith
  rw [parseSourceWith_parseTree, excluded, ← strict]
  split
  · exact Iff.rfl
  · cases reading : read path with
    | error problem => simp only [Except.mapError, bind, Except.bind]
    | ok text =>
        simp only [Except.mapError, bind, Except.bind]
        cases parsing : parseSource path text c.config.strictSyntax with
        | error e' => exact Iff.rfl
        | ok u =>
            dsimp only
            constructor
            · intro failed
              split at failed <;> cases failed
            · intro failed
              split at failed <;> cases failed

end OneFile

/-! ### Imports come unresolved -/

section Unresolved

variable {d : Script.Document} {node : Script.Node} {edge : ImportEdge}

theorem importStatementEdge_resolvedPath :
    (Script.importStatementEdge d node).resolvedPath = none := by
  unfold Script.importStatementEdge
  dsimp only

theorem callEdge?_resolvedPath (found : Script.callEdge? d node = some edge) :
    edge.resolvedPath = none := by
  unfold Script.callEdge? at found
  split at found
  · cases found
  · split at found
    · dsimp only at found
      split at found
      · cases found
      · split at found
        · cases found
          rfl
        · cases found
    · cases found

/-- A script's imports leave their resolved path for linking to fill in. -/
theorem Document.imports_unresolved (d : Script.Document) :
    ∀ edge ∈ d.imports, edge.resolvedPath = none := by
  intro edge member
  unfold Script.Document.imports at member
  rcases List.mem_append.mp member with statement | call
  · obtain ⟨child, _, made⟩ := List.mem_filterMap.mp statement
    split at made
    · cases made
      exact importStatementEdge_resolvedPath
    · split at made
      · split at made
        · cases made
          rfl
        · cases made
      · cases made
  · obtain ⟨_, _, made⟩ := List.mem_filterMap.mp call
    exact callEdge?_resolvedPath made

end Unresolved

/-! ### The outcomes a run collects -/

/-- What the collector relies on in the outcomes it is given: no path twice, every analysis and
every error under its own path, every analysis with one of the seven roles and its imports not
yet resolved. -/
structure OutcomesFit (outcomes : List (String × FileOutcome)) : Prop where
  keys_nodup : (outcomes.map (·.1)).Nodup
  analysis_path : ∀ p a, (p, (.ok (some a) : FileOutcome)) ∈ outcomes → a.path = p
  error_path : ∀ p e, (p, (.error e : FileOutcome)) ∈ outcomes → e.path = p
  analysis_role : ∀ p a, (p, (.ok (some a) : FileOutcome)) ∈ outcomes →
    ∃ r, a.role = .role r
  analysis_unresolved : ∀ p a, (p, (.ok (some a) : FileOutcome)) ∈ outcomes →
    ∀ edge ∈ a.imports, edge.resolvedPath = none

/-- The outcomes of a run over the list entries: each project path with what indexing it gave. -/
def runOutcomes (config : IndexConfig) (ws : Workspace) (entries : List String) :
    List (String × FileOutcome) :=
  (projectPaths ws entries).map fun p => (p, analyzeFile (PathClassifier.ofConfig config) ws.read p)

theorem analyzeProject_eq (config : IndexConfig) (valid : config.problems = [])
    (source : Option String) (ws : Workspace) (files : Option (List String)) :
    analyzeProject config source ws files =
      collectReport config (outsideEntries ws (files.getD (ws.discover config)))
        (runOutcomes config ws (files.getD (ws.discover config))) := by
  simp [analyzeProject, valid, runOutcomes]

theorem mem_runOutcomes {config : IndexConfig} {ws : Workspace} {entries : List String}
    {p : String} {r : FileOutcome} :
    (p, r) ∈ runOutcomes config ws entries ↔
      p ∈ projectPaths ws entries ∧
        analyzeFile (PathClassifier.ofConfig config) ws.read p = r := by
  unfold runOutcomes
  rw [List.mem_map]
  constructor
  · rintro ⟨q, member, same⟩
    cases same
    exact ⟨member, rfl⟩
  · rintro ⟨member, rfl⟩
    exact ⟨p, member, rfl⟩

/-- **A run's outcomes fit the collector** when its configuration passes the check. -/
theorem runOutcomes_fit {config : IndexConfig} (valid : config.problems = []) (ws : Workspace)
    (entries : List String) : OutcomesFit (runOutcomes config ws entries) := by
  have analysis : ∀ p a, (p, (.ok (some a) : FileOutcome)) ∈ runOutcomes config ws entries →
      ∃ text u, ws.read p = .ok text ∧
        parseSource p text (PathClassifier.ofConfig config).config.strictSyntax = .ok u ∧
        (PathClassifier.ofConfig config).classify u = some a.classification ∧ a.path = p ∧
        a.imports = (match u.parsed with | .script d => d.imports | .tables _ => []) :=
    fun p a member => (analyzeFile_eq_some (mem_runOutcomes.mp member).2).2
  refine ⟨?_, fun p a member => ?_, fun p e member => ?_, fun p a member => ?_,
    fun p a member => ?_⟩
  · unfold runOutcomes
    rw [List.map_map]
    exact (List.map_id' _ ▸ nodup_projectPaths ws entries)
  · exact analyzeFile_path (mem_runOutcomes.mp member).2
  · exact analyzeFile_error_path (mem_runOutcomes.mp member).2
  · obtain ⟨_, _, _, _, classified, _, _⟩ := analysis p a member
    exact PathClassifier.classify_role (PathClassifier.rolesChecked_ofConfig valid) classified
  · obtain ⟨_, u, _, _, _, _, imports⟩ := analysis p a member
    rw [imports]
    cases u.parsed with
    | script d => exact Document.imports_unresolved d
    | tables _ => exact fun _ member => nomatch member

end ProjectIndex
