import Mathlib
import ProjectIndex.Proofs.Outcomes
import ProjectIndex.Proofs.Detection

/-!
Contract: which SQL files are indexed, and as what.

Two checks decide an SQL file, and they read the path in two forms. Its language and the SQL
exclusion take the extension of the path as given; the migration check, and the classifier after
parsing, take the normalised path (backslashes made slashes, leading `./` dropped). A file whose
extension is `.sql` is left out unread exactly when its normalised folder lies under no migration
directory. Otherwise it is read and parsed as SQL, and its classification is the path tiers' answer
for the normalised path (`sql_file_indexing`). When normalising keeps the extension, that answer is
the migration tier's table; when it does not (a name such as `lib\migrations\.sql`, whose last
piece `.sql` has no extension), the script tiers decide instead.

Owns: `parseSource_sql`, `classify_tables`, `classifyPath_of_isSql`, `sql_file_indexing`.
-/

namespace ProjectIndex

open ProjectIndex.Classify

variable {c : PathClassifier} {read : FileReader} {path : String}

theorem isSql_of_languageOf? (sql : languageOf? path = some .sql) :
    PathClassifier.isSql path = true := by
  unfold languageOf? at sql
  unfold PathClassifier.isSql
  dsimp only at sql
  split at sql
  · rename_i named
    exact named
  · split at sql
    · cases sql
    · split at sql <;> cases sql

theorem isExcludedSql_of_sql (sql : languageOf? path = some .sql) :
    c.isExcludedSql path = (c.migrationTier (normalizePath path)).isNone := by
  rw [PathClassifier.isExcludedSql, isSql_of_languageOf? sql, Bool.true_and]

theorem parseSource_sql {text : String} {strict : Bool} (sql : languageOf? path = some .sql) :
    parseSource path text strict =
      (Sql.parseSql text path).map fun ts => ⟨path, text, .sql, extensionOf path, .tables ts⟩ := by
  unfold parseSource parseSourceWith
  rw [sql]
  cases Sql.parseSql text path <;> rfl

theorem classify_tables {text ext : String} {language : Language} {ts : List Sql.Table} :
    c.classify ⟨path, text, language, ext, .tables ts⟩ = c.classifyPath path := by
  unfold PathClassifier.classify
  cases c.classifyPath path <;> rfl

theorem classifyPath_of_isSql (sql : PathClassifier.isSql (normalizePath path) = true) :
    c.classifyPath path = c.migrationTier (normalizePath path) := by
  unfold PathClassifier.classifyPath
  rw [if_pos sql]

theorem migrationTier_table {p : String} {cl : Classification} (decided : c.migrationTier p = some cl) :
    cl.role = .role .table ∧ cl.tier = .migration := by
  obtain ⟨_, _, rfl⟩ := Option.map_eq_some_iff.mp decided
  exact ⟨rfl, rfl⟩

/-- A file whose extension is `.sql` is not left out when its normalised folder lies under a
migration directory. -/
theorem included_of_migrationTier (sql : languageOf? path = some .sql)
    (inside : c.migrationTier (normalizePath path) ≠ none) :
    ((languageOf? path).isNone || c.isExcludedSql path) = false := by
  have known : (languageOf? path).isNone = false := by rw [sql]; rfl
  simpa [known, isExcludedSql_of_sql sql, Option.isSome_iff_ne_none] using inside

/-- A file that is not left out is read first: a failed read fails the file. -/
theorem analyzeFile_of_read_error {problem : SourceProblem}
    (included : ((languageOf? path).isNone || c.isExcludedSql path) = false)
    (unread : read path = .error problem) : analyzeFile c read path = .error ⟨path, problem⟩ := by
  unfold analyzeFile analyzeFileWith
  rw [if_neg (by rw [included]; decide)]
  simp only [unread, Except.mapError, bind, Except.bind]

theorem analyzeFile_of_parse_error {text : String} {e : SourceError}
    (included : ((languageOf? path).isNone || c.isExcludedSql path) = false)
    (reading : read path = .ok text) (refused : parseSource path text c.config.strictSyntax = .error e) :
    analyzeFile c read path = .error e := by
  unfold analyzeFile analyzeFileWith
  rw [parseSourceWith_parseTree, if_neg (by rw [included]; decide)]
  simp only [reading, refused, Except.mapError, bind, Except.bind]

/-- **An SQL file is indexed only as a migration table, read from its normalised path.** A file
whose extension is `.sql` is left out without being read exactly when its folder, after
normalisation, lies under no migration directory. Otherwise it is read and parsed as SQL, and any
analysis carries the classification that the path tiers give its normalised path. When the
normalised path is an SQL path too, that is the migration tier: reading or parsing fails, or the
file is indexed as a table at the migration tier. -/
theorem sql_file_indexing (c : PathClassifier) (read : FileReader) {path : String}
    (sql : languageOf? path = some .sql) :
    ((∀ read' : FileReader, analyzeFile c read' path = .ok none) ↔
        c.migrationTier (normalizePath path) = none) ∧
      (∀ a, analyzeFile c read path = .ok (some a) → c.classifyPath path = some a.classification) ∧
      (c.migrationTier (normalizePath path) ≠ none → PathClassifier.isSql (normalizePath path) = true →
        (∃ problem, read path = .error problem ∧ analyzeFile c read path = .error ⟨path, problem⟩) ∨
        (∃ text e, read path = .ok text ∧ Sql.parseSql text path = .error e ∧
          analyzeFile c read path = .error e) ∨
        ∃ a, analyzeFile c read path = .ok (some a) ∧ a.role = .role .table ∧
          a.classification.tier = .migration) := by
  have excluded := isExcludedSql_of_sql (c := c) sql
  refine ⟨⟨fun leftOut => ?_, fun outside read' => ?_⟩, fun a indexed => ?_, fun inside stillSql => ?_⟩
  · -- a file under a migration directory is read, so a reader that fails shows through
    cases decided : c.migrationTier (normalizePath path) with
    | none => rfl
    | some cl =>
      have included := included_of_migrationTier (c := c) sql (by simp [decided])
      have failed : analyzeFile c (fun _ => .error (.unreadable "")) path =
          .error ⟨path, .unreadable ""⟩ :=
        analyzeFile_of_read_error included rfl
      rw [leftOut] at failed
      cases failed
  · unfold analyzeFile analyzeFileWith
    rw [if_pos (by rw [excluded, outside]; simp)]
  · obtain ⟨-, text, u, -, parsed, classified, -⟩ := analyzeFile_eq_some indexed
    rw [parseSource_sql sql] at parsed
    cases tabled : Sql.parseSql text path with
    | error e => rw [tabled] at parsed; cases parsed
    | ok ts =>
      rw [tabled] at parsed
      cases parsed
      rwa [classify_tables] at classified
  · have included := included_of_migrationTier sql inside
    cases reading : read path with
    | error problem => exact Or.inl ⟨problem, rfl, analyzeFile_of_read_error included reading⟩
    | ok text =>
      cases tabled : Sql.parseSql text path with
      | error e =>
        have refused : parseSource path text c.config.strictSyntax = .error e := by
          rw [parseSource_sql sql, tabled]; rfl
        exact Or.inr (Or.inl ⟨text, e, rfl, tabled, analyzeFile_of_parse_error included reading refused⟩)
      | ok ts =>
        obtain ⟨cl, decided⟩ := Option.ne_none_iff_exists'.mp inside
        have parsed : parseSource path text c.config.strictSyntax =
            .ok ⟨path, text, .sql, extensionOf path, .tables ts⟩ := by
          rw [parseSource_sql sql, tabled]; rfl
        have classified : c.classify ⟨path, text, .sql, extensionOf path, .tables ts⟩ = some cl := by
          rw [classify_tables, classifyPath_of_isSql stillSql, decided]
        obtain ⟨a, indexed, same⟩ := analyzeFile_of_classify included reading parsed classified
        obtain ⟨table, migration⟩ := migrationTier_table decided
        refine Or.inr (Or.inr ⟨a, indexed, ?_, ?_⟩)
        · rw [FileAnalysis.role, same]
          exact table
        · rw [same]
          exact migration

theorem sql_file_indexing_outside_folder :
    languageOf? "lib\\migrations\\.sql" = some .sql ∧
      (((∀ read' : FileReader, analyzeFile (.ofConfig {}) read' "lib\\migrations\\.sql" = .ok none) ↔
          (PathClassifier.ofConfig {}).migrationTier (normalizePath "lib\\migrations\\.sql") = none) ∧
        (∀ a, analyzeFile (.ofConfig {}) (fun _ => .ok "CREATE TABLE t (a int);") "lib\\migrations\\.sql" =
            .ok (some a) →
          (PathClassifier.ofConfig {}).classifyPath "lib\\migrations\\.sql" = some a.classification) ∧
        ((PathClassifier.ofConfig {}).migrationTier (normalizePath "lib\\migrations\\.sql") ≠ none →
          PathClassifier.isSql (normalizePath "lib\\migrations\\.sql") = true →
          (∃ problem, (fun _ => .ok "CREATE TABLE t (a int);" : FileReader) "lib\\migrations\\.sql" =
              .error problem ∧
            analyzeFile (.ofConfig {}) (fun _ => .ok "CREATE TABLE t (a int);") "lib\\migrations\\.sql" =
              .error ⟨"lib\\migrations\\.sql", problem⟩) ∨
          (∃ text e, (fun _ => .ok "CREATE TABLE t (a int);" : FileReader) "lib\\migrations\\.sql" =
              .ok text ∧ Sql.parseSql text "lib\\migrations\\.sql" = .error e ∧
            analyzeFile (.ofConfig {}) (fun _ => .ok "CREATE TABLE t (a int);") "lib\\migrations\\.sql" =
              .error e) ∨
          ∃ a, analyzeFile (.ofConfig {}) (fun _ => .ok "CREATE TABLE t (a int);")
              "lib\\migrations\\.sql" = .ok (some a) ∧ a.role = .role .table ∧
            a.classification.tier = .migration)) :=
  ⟨by decide, sql_file_indexing (.ofConfig {}) (fun _ => .ok "CREATE TABLE t (a int);") (by decide)⟩

end ProjectIndex
