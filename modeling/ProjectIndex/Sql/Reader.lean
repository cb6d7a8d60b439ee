import ProjectIndex.Sql.Schema
import ProjectIndex.Source.Error
import ProjectIndex.Text.Blank
import ProjectIndex.Text.Case
import ProjectIndex.Text.Pattern
import ProjectIndex.Text.Span

/-!
Reading table definitions from an SQL migration.

Comments go first: each block comment, from `/*` to the next `*/`, becomes one space, and then each
line comment, from `--` to the end of its line, is removed. The reader then looks only at two kinds
of statement, keywords in any case:

* `CREATE [GLOBAL|LOCAL] [TEMP|TEMPORARY|UNLOGGED] TABLE [IF NOT EXISTS] name (` followed by a body
  up to the matching parenthesis. The body's items are split at commas outside parentheses. An
  item starting with a constraint keyword (`CONSTRAINT PRIMARY FOREIGN UNIQUE CHECK EXCLUDE LIKE
  INDEX KEY`) is a table constraint; any other item of at least two words is a column. Table
  constraints then mark the columns they name as primary or foreign keys. A body whose parenthesis
  never closes is an error at the line of that parenthesis.
* `ALTER TABLE [IF EXISTS] [ONLY] name ADD [COLUMN] [IF NOT EXISTS] definition;` adds a column,
  after all table definitions, creating the table when no definition named it.

A column's type is the run of words after its name up to the first constraint word, or `unknown`.
It is a primary key when its text holds `PRIMARY KEY`, nullable unless it holds `NOT NULL` or is a
primary key, and a foreign key when it has a `REFERENCES table [(column)]` clause; the referenced
column defaults to `id`. Names lose their quotes and brackets and any schema qualifier.

Tables are listed in the order of the first statement naming them; a later definition of the same
name replaces the columns of the earlier one.

Owns: `stripComments`, `readColumn`, `readTables`.
-/

namespace ProjectIndex.Sql

open ProjectIndex.Text
open ProjectIndex.Text.Pattern

/-- The text after the first `*/`, when there is one. -/
def afterBlockClose : List Char → Option (List Char)
  | [] => none
  | c :: rest =>
    if c == '*' then
      match rest with
      | '/' :: more => some more
      | _ => afterBlockClose rest
    else afterBlockClose rest

theorem afterBlockClose_length {cs rest : List Char} (h : afterBlockClose cs = some rest) :
    rest.length < cs.length := by
  induction cs generalizing rest with
  | nil => simp [afterBlockClose] at h
  | cons c tail ih =>
    unfold afterBlockClose at h
    split at h
    · split at h
      · simp at h
        subst h
        simp only [List.length_cons]
        omega
      · have := ih h
        simp
        omega
    · have := ih h
      simp
      omega

/-- Replace every block comment by one space, left to right. -/
def stripBlockComments : List Char → List Char
  | [] => []
  | '/' :: '*' :: rest =>
    match h : afterBlockClose rest with
    | some after =>
      have := afterBlockClose_length h
      ' ' :: stripBlockComments after
    | none => '/' :: '*' :: rest
  | c :: rest => c :: stripBlockComments rest
termination_by cs => cs.length

/-- Remove every line comment, keeping the line break after it. -/
def stripLineComments : List Char → List Char
  | [] => []
  | '-' :: '-' :: rest => stripLineComments (rest.dropWhile (· != '\n'))
  | c :: rest => c :: stripLineComments rest
termination_by cs => cs.length
decreasing_by
  all_goals
    have := length_dropWhile_le (· != '\n') rest
    simp only [List.length_cons]
    omega

/-- The text with block comments blanked and line comments removed. -/
def stripComments (text : String) : List Char :=
  stripLineComments (stripBlockComments text.toList)

/-- One or more blanks. -/
def blanks : Pattern := .run isBlank 1 true

/-- Any number of blanks. -/
def blanks0 : Pattern := .run isBlank 0 true

/-- A character of a table name: a word character, a dot, a quote or a bracket. -/
def isNameChar (c : Char) : Bool :=
  isWordChar c || c == '.' || c == '"' || c == '`' || c == '[' || c == ']'

/-- A character of a referenced column name: as for table names, without the dot. -/
def isColumnNameChar (c : Char) : Bool :=
  isWordChar c || c == '"' || c == '`' || c == '[' || c == ']'

/-- Keywords separated and followed by blanks. -/
def words (ws : List String) : Pattern :=
  .all (ws.flatMap fun w => [.keyword w, blanks])

/-- The head of a table definition, up to its opening parenthesis; capture 1 is the name. -/
def createHead : Pattern :=
  .all [.boundary, .keyword "CREATE", blanks,
    .optional (.seq (.alt (.keyword "GLOBAL") (.keyword "LOCAL")) blanks),
    .optional (.alt (.all [.keyword "TEMP", .optional (.keyword "ORARY"), blanks])
      (.seq (.keyword "UNLOGGED") blanks)),
    .keyword "TABLE", blanks,
    .optional (words ["IF", "NOT", "EXISTS"]),
    .capture 1 (.run isNameChar 1 true), blanks0, .char '(']

/-- A column added to a table; capture 1 is the table, capture 2 the column definition. -/
def alterAdd : Pattern :=
  .all [.boundary, .keyword "ALTER", blanks, .keyword "TABLE", blanks,
    .optional (words ["IF", "EXISTS"]), .optional (words ["ONLY"]),
    .capture 1 (.run isNameChar 1 true), blanks, .keyword "ADD", blanks,
    .optional (words ["COLUMN"]), .optional (words ["IF", "NOT", "EXISTS"]),
    .capture 2 (.run (fun _ => true) 1 false), .char ';']

/-- A reference to another table; capture 1 is the table, capture 2 the column when given. -/
def references : Pattern :=
  .all [.boundary, .keyword "REFERENCES", blanks, .capture 1 (.run isNameChar 1 true), blanks0,
    .optional (.all [.char '(', blanks0, .capture 2 (.run isColumnNameChar 1 true), blanks0,
      .char ')'])]

/-- `word KEY (names)`; capture 1 is the list of names. -/
def keyList (word : String) : Pattern :=
  .all [.keyword word, blanks, .keyword "KEY", blanks0, .char '(',
    .capture 1 (.run (· != ')') 0 true), .char ')']

/-- The text without the given characters at either end. -/
def trimChars (strip : Char → Bool) (s : String) : String :=
  String.ofList ((s.toList.dropWhile strip).reverse.dropWhile strip).reverse

/-- A quote or bracket around a name. -/
def isQuoteChar (c : Char) : Bool :=
  c == '"' || c == '`' || c == '[' || c == ']'

/-- A name without quotes, brackets and schema qualifier. -/
def unquoteName (name : String) : String :=
  let bare := trimChars isQuoteChar (trimBlanks name)
  trimChars isQuoteChar (((bare.splitOn ".").getLast?).getD "")

/-- Words that end a column's type. -/
def columnConstraintWords : List String :=
  ["NOT", "NULL", "PRIMARY", "REFERENCES", "DEFAULT", "UNIQUE", "CHECK", "CONSTRAINT", "GENERATED",
   "COLLATE", "AUTO_INCREMENT", "AUTOINCREMENT", "IDENTITY"]

/-- Words that start a table constraint. -/
def tableConstraintWords : List String :=
  ["CONSTRAINT", "PRIMARY", "FOREIGN", "UNIQUE", "CHECK", "EXCLUDE", "LIKE", "INDEX", "KEY"]

/-- The text holds `part`. -/
def holds (text part : String) : Bool :=
  (text.splitOn part).length > 1

/-- The column a definition declares, when it has at least two words. -/
def readColumn (definition : String) : Option Column :=
  match splitBlanks definition with
  | [] | [_] => none
  | first :: rest =>
    let typeWords := rest.takeWhile fun w => !columnConstraintWords.contains (upper w)
    let upperText := upper (" ".intercalate (first :: rest))
    let isPk := holds upperText "PRIMARY KEY"
    let chars := definition.toList.toArray
    let ref := references.search chars
    some {
      name := unquoteName first
      type := if typeWords.isEmpty then "unknown" else " ".intercalate typeWords
      nullable := !(holds upperText "NOT NULL" || isPk)
      isPrimaryKey := isPk
      isForeignKey := ref.isSome
      referencesTable := ref.bind fun m => (m.group? chars 1).map unquoteName
      referencesColumn := ref.map fun m =>
        match m.group? chars 2 with
        | some col => unquoteName col
        | none => "id" }

/-- The names of a comma-separated list, unquoted; blank entries are skipped. -/
def nameList (group : String) : List String :=
  ((group.splitOn ",").filter fun part => !(trimBlanks part).isEmpty).map unquoteName

/-- Update the last column of a given name. -/
def updateLast (columns : List Column) (name : String) (f : Column → Column) : List Column :=
  match columns.reverse.findIdx? (·.name == name) with
  | some i =>
    let j := columns.length - 1 - i
    columns.zipIdx.map fun (c, k) => if k == j then f c else c
  | none => columns

/-- Apply a table constraint to the columns it names. -/
def applyConstraint (columns : List Column) (definition : String) : List Column :=
  let chars := definition.toList.toArray
  let withPk := match (keyList "PRIMARY").search chars with
    | some m =>
      (nameList ((m.group? chars 1).getD "")).foldl (fun cols name =>
        updateLast cols name fun c => { c with isPrimaryKey := true, nullable := false }) columns
    | none => columns
  if holds (upper definition) "FOREIGN" then
    match (keyList "FOREIGN").search chars, references.search chars with
    | some fk, some ref =>
      let table := ((ref.group? chars 1).map unquoteName).getD ""
      let column := ((ref.group? chars 2).map unquoteName).getD "id"
      (nameList ((fk.group? chars 1).getD "")).foldl (fun cols name =>
        updateLast cols name fun c =>
          { c with
            isForeignKey := true
            referencesTable := some table
            referencesColumn := some column }) withPk
    | _, _ => withPk
  else withPk

/-- Split a body at commas outside parentheses; items are trimmed and empty ones dropped. -/
def splitItems (body : List Char) : List String :=
  let step (acc : List (List Char) × List Char × Int) (c : Char) :=
    let (items, current, depth) := acc
    let depth' := if c == '(' then depth + 1 else if c == ')' then depth - 1 else depth
    if c == ',' && depth' == 0 then (current.reverse :: items, [], depth')
    else (items, c :: current, depth')
  let (items, current, _) := body.foldl step ([], [], 0)
  ((current.reverse :: items).reverse.map fun cs => trimBlanks (String.ofList cs)).filter
    (!·.isEmpty)

/-- The columns of a table body. -/
def readBody (body : List Char) : List Column :=
  let items := splitItems body
  let isConstraint (item : String) : Bool :=
    match splitBlanks item with
    | first :: _ => tableConstraintWords.contains (upper first)
    | [] => false
  let columns := (items.filter (!isConstraint ·)).filterMap readColumn
  (items.filter isConstraint).foldl applyConstraint columns

/-- The body after the opening parenthesis at `opening`, up to the matching parenthesis. -/
def balancedBody (s : Array Char) (opening : Nat) : Option (List Char) :=
  let rest := s.toList.drop opening
  let step (acc : Int × Option Nat) (ci : Char × Nat) : Int × Option Nat :=
    match acc with
    | (_, some k) => (0, some k)
    | (depth, none) =>
      let (c, i) := ci
      if c == '(' then (depth + 1, none)
      else if c == ')' then (if depth - 1 == 0 then (0, some i) else (depth - 1, none))
      else (depth, none)
  match (rest.zipIdx.foldl step (0, none)).2 with
  | some k => some ((rest.take k).drop 1)
  | none => none

/-- Put a table into an ordered list of tables: in place of one of the same name, or at the end. -/
def putTable (tables : List Table) (t : Table) : List Table :=
  if tables.any (·.name == t.name) then tables.map fun u => if u.name == t.name then t else u
  else tables ++ [t]

/-- The tables a migration declares, or the line of a table body that never closes. -/
def readTables (text : String) : Except Nat (List Table) := do
  let chars := (stripComments text).toArray
  let created ← (createHead.findAll chars).foldlM (fun (tables : List Table) m => do
    let opening := m.stop - 1
    match balancedBody chars opening with
    | some body =>
      let name := unquoteName ((m.group? chars 1).getD "")
      pure (putTable tables ⟨name, readBody body⟩)
    | none =>
      .error (((chars.toList.take opening).filter (· == '\n')).length + 1)) []
  pure ((alterAdd.findAll chars).foldl (fun tables m =>
    match readColumn (trimBlanks ((m.group? chars 2).getD "")) with
    | some column =>
      let name := unquoteName ((m.group? chars 1).getD "")
      match tables.find? (·.name == name) with
      | some t => putTable tables { t with columns := t.columns ++ [column] }
      | none => tables ++ [⟨name, [column]⟩]
    | none => tables) created)

/-- The tables of a migration file, or why it cannot be read. -/
def parseSql (text : String) (path : String) : Except SourceError (List Table) :=
  match readTables text with
  | .ok tables => .ok tables
  | .error line => .error ⟨path, .unbalancedTable line⟩

end ProjectIndex.Sql
