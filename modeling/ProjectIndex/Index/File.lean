import ProjectIndex.Classify.Classifier
import ProjectIndex.Module.Imports
import ProjectIndex.Module.Props
import ProjectIndex.Index.Naming

/-!
Indexing one file: read, parse, classify, and extract what its role calls for.

A file is left out when its extension names no language, when it is SQL outside every migration
directory, or when no tier classifies it. A file that cannot be read or parsed is an error. A
migration keeps its tables; a script its imports and exports, and a component its props too.
`analyzeFileWith` parses scripts with the tree parser it is given; `analyzeFile` is that with this
library's parser.

The role metadata: the route a route or API file serves (under `app` or `pages`), the HTTP
methods an API file exports (in method order), and a migration's first table with its columns,
and the names of all its tables when it has more than one.

Owns: `FileReader`, `FileAnalysis`, `analyzeFileWith`, `analyzeFile`, `roleMetadata`.
-/

namespace ProjectIndex

open ProjectIndex.Data
open ProjectIndex.Classify

/-- How the index reads a file: its text, or why it cannot be read. -/
abbrev FileReader := String → Except SourceProblem String

/-- What indexing one file found. -/
structure FileAnalysis where
  path : String
  classification : Classification
  name : String
  imports : List ImportEdge := []
  exports : List ExportDecl := []
  /-- Only for components. -/
  props : Option (List PropDecl) := none
  metadata : List (String × Value) := []
deriving Inhabited

/-- The role of an analysis. -/
def FileAnalysis.role (a : FileAnalysis) : RoleTag := a.classification.role

/-- The metadata a file's role calls for. -/
def roleMetadata (role : RoleTag) (path : String) (exports : List ExportDecl)
    (tables : List Sql.Table) : List (String × Value) :=
  let route :=
    if role.isRole .route || role.isRole .api then
      match routePath? path with
      | some url => [("routePath", Value.str url)]
      | none => []
    else []
  let methods :=
    if role.isRole .api then
      let names := exports.map (·.name)
      [("httpMethods", .list ((Heuristic.httpMethods.filter names.contains).map .str))]
    else []
  let table :=
    match tables with
    | first :: rest =>
      if role.isRole .table then
        [("tableName", Value.str first.name), ("columns", .list (first.columns.map (·.toValue)))] ++
          (if rest.isEmpty then [] else [("tables", .list (tables.map (.str ·.name)))])
      else []
    | [] => []
  route ++ methods ++ table

/-- Indexes one file, parsing scripts with a tree parser; `none` when the file is left out. -/
def analyzeFileWith (tree : Script.TreeParser) (c : PathClassifier) (read : FileReader)
    (path : String) : Except SourceError (Option FileAnalysis) :=
  if (languageOf? path).isNone || c.isExcludedSql path then .ok none
  else do
    let text ← (read path).mapError (⟨path, ·⟩)
    let u ← parseSourceWith tree path text c.config.strictSyntax
    match c.classify u with
    | none => pure none
    | some cl =>
      let (imports, exports, props) := match u.parsed with
        | .script d =>
          let exports := d.exports
          (d.imports, exports, if cl.role.isRole .component then some (d.props exports) else none)
        | .tables _ => ([], [], none)
      let tables := u.tables
      pure (some { path := path, classification := cl, name := displayName path exports tables,
                   imports := imports, exports := exports, props := props,
                   metadata := roleMetadata cl.role path exports tables })

/-- Indexes one file with this library's parser; `none` when the file is left out. -/
def analyzeFile (c : PathClassifier) (read : FileReader) (path : String) :
    Except SourceError (Option FileAnalysis) :=
  analyzeFileWith Script.parseTree c read path

/-- The report value of an analysis, the file on its own. -/
def FileAnalysis.toValue (a : FileAnalysis) : Value :=
  .table [("path", .str a.path), ("role", a.role.toValue), ("name", .str a.name),
    ("classification", a.classification.toValue),
    ("imports", .list (a.imports.map ImportEdge.toValue)),
    ("exports", .list (a.exports.map ExportDecl.toValue)),
    ("props", match a.props with
      | some ps => .list (ps.map PropDecl.toValue)
      | none => .null),
    ("metadata", .table a.metadata)]

end ProjectIndex
