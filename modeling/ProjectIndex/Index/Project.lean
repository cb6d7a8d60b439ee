import ProjectIndex.Index.File
import ProjectIndex.Index.Folder
import ProjectIndex.Graph
import ProjectIndex.Keyword.Normalizer
import ProjectIndex.Config.Check

/-!
Indexing a whole project into a report.

A run first checks the configuration and stops on any problem. The files are the given list or,
without one, the files the workspace finds. A list entry is taken relative to the root: a relative
one is read as a slash path (backslashes turned into slashes, empty and `.` segments dropped), an
absolute one inside the root's absolute folder (when that is known) is read relative to it, and
any other absolute entry is skipped with an error naming the root. Repeats are dropped.

Every file is indexed on its own, and a collector takes the outcomes in whatever order the files
finish; a file that fails gives an error under its path. The files that are indexed, in path
order, are linked into the import graph: each import that resolves to an indexed file records that
file as its resolved path, and unless it is the file itself, adds an edge from importer to
imported; both edge lists keep first occurrences.

Each indexed file becomes a record: its id, role, name, path, keywords and search text, its edges,
and its metadata (export and prop names, imports, a component's prop details, the detection of a
heuristic classification, and the role metadata). The id digests the UTF-8 bytes of the project id
and the path, so a run whose indexed file makes that text hold a lone surrogate stops there. The
statistics count the records by role and list the errors in the order of their keys.

Owns: `Workspace`, `Workspace.inMemory`, `Workspace.ofFolder`, `Workspace.relative?`, `IndexRecord`,
`Report`, `RunError`, `linkImports`, `keyedErrors`, `FileOutcome`, `collectReport`,
`analyzeProject`.
-/

namespace ProjectIndex

open ProjectIndex.Data
open ProjectIndex.Classify
open ProjectIndex.Graph

/-- Where a run finds its files. -/
structure Workspace where
  /-- The root, as errors name it. -/
  root : String
  /-- The segments of the absolute folder the root stands for, when known: an absolute list entry
  inside that folder is taken relative to it. -/
  home : Option (List String) := none
  /-- The files found without a list, for the include and exclude globs of a configuration. -/
  discover : IndexConfig → List String
  read : FileReader

/-- A workspace held in memory: each file's path with its text, or the reason its bytes are no
text. Without a list a run takes every path in the order given; a path given twice reads as its
last entry, and a path not given cannot be read. -/
def Workspace.inMemory (files : List (String × Except String String)) : Workspace where
  root := "."
  discover := fun _ => files.map (·.1)
  read := fun path =>
    match files.reverse.find? (·.1 == path) with
    | some (_, body) => body.mapError .notUtf8
    | none => .error (.unreadable "No such file or directory")

/-- A workspace on a folder: discovery walks the folder, and reading resolves paths in it. -/
def Workspace.ofFolder (folder : Folder) : Workspace where
  root := "."
  discover := fun c => folder.discover c.includeGlobs c.excludeGlobs
  read := folder.read

/-- One indexed file in the report. -/
structure IndexRecord where
  id : String
  projectId : String
  role : RoleTag
  name : String
  path : String
  keywords : List String
  searchText : String
  calls : List String
  calledBy : List String
  metadata : List (String × Value)
deriving Inhabited

/-- The report value of a record. -/
def IndexRecord.toValue (r : IndexRecord) : Value :=
  .table [("id", .str r.id), ("projectId", .str r.projectId), ("type", r.role.toValue),
    ("name", .str r.name), ("path", .str r.path), ("keywords", .list (r.keywords.map .str)),
    ("searchText", .str r.searchText), ("calls", .list (r.calls.map .str)),
    ("calledBy", .list (r.calledBy.map .str)), ("metadata", .table r.metadata)]

/-- The report of a run. -/
structure Report where
  projectId : String
  items : List IndexRecord
  parseErrors : List String
deriving Inhabited

/-- Why a whole-project run stops without a report. -/
inductive RunError where
  /-- The configuration has problems. -/
  | config (e : ConfigError)
  /-- A record's id cannot be computed: the project id and the path it digests hold lone
  surrogates, which UTF-8 cannot encode; the encoder says this. -/
  | unencodable (report : String)
deriving Inhabited

/-- The kind of error a run raises. -/
def RunError.kind : RunError → String
  | .config _ => "ConfigurationError"
  | .unencodable _ => "UnicodeEncodeError"

/-- The text of the error a run raises. -/
def RunError.message : RunError → String
  | .config e => e.message
  | .unencodable report => report

/-- The number of records of a role. -/
def Report.count (r : Report) (role : Role) : Nat :=
  (r.items.filter (·.role.isRole role)).length

/-- The report value of a run. -/
def Report.toValue (r : Report) : Value :=
  .table [("projectId", .str r.projectId), ("items", .list (r.items.map IndexRecord.toValue)),
    ("stats", .table [("totalFiles", .int r.items.length),
      ("byType", .table (Role.all.map fun role => (role.name, .int (r.count role)))),
      ("parseErrors", .list (r.parseErrors.map .str))])]

/-- The project-relative path of a list entry; none for an absolute entry outside the root. A
relative entry is read as a slash path, backslashes turned into slashes. An absolute entry is taken
relative to the root's absolute folder, when that is known and holds the entry. -/
def Workspace.relative? (ws : Workspace) (entry : String) : Option String :=
  if entry.startsWith "/" then
    ws.home.bind fun home =>
      let p := Path.SegmentedPath.ofString entry
      if p.root == "/" && home.isPrefixOf p.segments then
        some (Path.SegmentedPath.toString ⟨"", p.segments.drop home.length⟩)
      else none
  else some (Path.SegmentedPath.ofString (entry.replace "\\" "/")).toString

/-- The items without repeats, first occurrences kept. -/
def firstOccurrences (xs : List String) : List String :=
  xs.foldl (fun acc x => if acc.contains x then acc else acc ++ [x]) []

/-- Appends an item unless it is present. -/
def appendAbsent (xs : List String) (x : String) : List String :=
  if xs.contains x then xs else xs ++ [x]

/-- Applies `f` to the entry under `key`. -/
def updateEntry (entries : List (String × GraphEntry)) (key : String)
    (f : GraphEntry → GraphEntry) : List (String × GraphEntry) :=
  entries.map fun (k, e) => if k == key then (k, f e) else (k, e)

/-- Links one import of `importer` into the graph. When the import resolves to an indexed file,
that file becomes its resolved path and, unless it is the importer itself, the edge is added at
both ends. -/
def linkEdge (set : PathSet) (importer : String)
    (acc : List ImportEdge × List (String × GraphEntry)) (edge : ImportEdge) :
    List ImportEdge × List (String × GraphEntry) :=
  match set.resolve? importer edge.source with
  | some target =>
    if acc.2.any (·.1 == target) then
      let resolved := { edge with resolvedPath := some target }
      if target == importer then (acc.1 ++ [resolved], acc.2)
      else
        let entries := updateEntry acc.2 importer fun e =>
          { e with calls := appendAbsent e.calls target }
        let entries := updateEntry entries target fun e =>
          { e with calledBy := appendAbsent e.calledBy importer }
        (acc.1 ++ [resolved], entries)
    else (acc.1 ++ [edge], acc.2)
  | none => (acc.1 ++ [edge], acc.2)

/-- Links the imports of one analysis, after the analyses before it. -/
def linkAnalysis (set : PathSet) (acc : List FileAnalysis × List (String × GraphEntry))
    (a : FileAnalysis) : List FileAnalysis × List (String × GraphEntry) :=
  let linked := a.imports.foldl (linkEdge set a.path) ([], acc.2)
  (acc.1 ++ [{ a with imports := linked.1 }], linked.2)

/-- Links the analyses, in their order, into the import graph: each analysis with its imports'
resolved paths, and each path's edges. -/
def linkImports (set : PathSet) (analyses : List FileAnalysis) :
    List FileAnalysis × List (String × GraphEntry) :=
  analyses.foldl (linkAnalysis set) ([], analyses.map fun a => (a.path, {}))

/-- The edges of a path in the graph; none for a path without an entry. -/
def graphEntry (graph : List (String × GraphEntry)) (path : String) : GraphEntry :=
  ((graph.find? (·.1 == path)).map (·.2)).getD {}

/-- The record of an indexed file. -/
def FileAnalysis.record (a : FileAnalysis) (config : IndexConfig) (entry : GraphEntry) :
    IndexRecord :=
  let exportNames := a.exports.map (·.name)
  let propNames := (a.props.getD []).map (·.name)
  let kws := Keyword.keywords (Keyword.Synonyms.ofTable config.keywordSynonyms) a.name a.path
    exportNames propNames
  let details := match a.props with
    | some ps => [("propDetails", Value.list (ps.map PropDecl.toValue))]
    | none => []
  let detection :=
    if a.classification.tier == .heuristic then
      [("detection", Value.table [("confidence", .float a.classification.confidence.toFloat),
        ("reasons", .list (a.classification.reasons.map .str))])]
    else []
  { id := recordId config.projectId a.path, projectId := config.projectId, role := a.role,
    name := a.name, path := a.path, keywords := kws,
    searchText := Keyword.searchText a.name a.path kws exportNames propNames,
    calls := entry.calls, calledBy := entry.calledBy,
    metadata := [("exports", .list (exportNames.map .str)), ("props", .list (propNames.map .str)),
      ("imports", .list (a.imports.map ImportEdge.toValue))] ++ details ++ detection ++ a.metadata }

/-- The last message under a key. -/
def lastMessage (errors : List (String × String)) (key : String) : Option String :=
  (errors.reverse.find? (·.1 == key)).map (·.2)

/-- The keys with the last message under each, sorted by key. -/
def keyedErrors (errors : List (String × String)) : List (String × String) :=
  let keys := (firstOccurrences (errors.map (·.1))).mergeSort fun a b => decide (a ≤ b)
  keys.filterMap fun k => (lastMessage errors k).map (k, ·)

/-- Keeps the last message under each key, sorted by key. -/
def errorsByKey (errors : List (String × String)) : List String :=
  (keyedErrors errors).map (·.2)

/-- The list entries outside the root, each with its error. -/
def outsideEntries (ws : Workspace) (entries : List String) : List (String × String) :=
  entries.filterMap fun e =>
    if (ws.relative? e).isNone then some (e, e ++ ": outside project root " ++ ws.root) else none

/-- The project paths of the list entries, without repeats. -/
def projectPaths (ws : Workspace) (entries : List String) : List String :=
  firstOccurrences (entries.filterMap ws.relative?)

/-- What indexing one file gave: its analysis, nothing when the file is left out, or its error. -/
abbrev FileOutcome := Except SourceError (Option FileAnalysis)

/-- The analyses among the outcomes, in their order. -/
def indexedAnalyses (outcomes : List (String × FileOutcome)) : List FileAnalysis :=
  outcomes.filterMap fun (_, r) =>
    match r with
    | .ok (some a) => some a
    | _ => none

/-- The errors among the outcomes, each under its file's path. -/
def failedFiles (outcomes : List (String × FileOutcome)) : List (String × String) :=
  outcomes.filterMap fun (p, r) =>
    match r with
    | .error e => some (p, e.message)
    | .ok _ => none

/-- Collects the outcomes of the files, in whatever order they finish, with the errors of the
entries outside the root, into the report: the indexed files in path order, linked, as records,
and the errors by key. -/
def collectReport (config : IndexConfig) (outside : List (String × String))
    (outcomes : List (String × FileOutcome)) : Except RunError Report :=
  let sorted := (indexedAnalyses outcomes).mergeSort fun a b => decide (a.path ≤ b.path)
  let set := PathSet.ofPaths (sorted.map (·.path)) config.pathAliases
  let linked := linkImports set sorted
  match linked.1.findSome? (fun a => Text.utf8Fault? (config.projectId ++ ":" ++ a.path)) with
  | some report => .error (.unencodable report)
  | none =>
    .ok { projectId := config.projectId,
          items := linked.1.map fun a => a.record config (graphEntry linked.2 a.path),
          parseErrors := errorsByKey (failedFiles outcomes ++ outside) }

/-- Indexes a project: the given files, or those the workspace finds. Each file is indexed on its
own, and the outcomes are collected into the report. -/
def analyzeProject (config : IndexConfig) (source : Option String) (ws : Workspace)
    (files : Option (List String)) : Except RunError Report :=
  if !config.problems.isEmpty then .error (.config ⟨config.problems, source⟩)
  else
    let entries := files.getD (ws.discover config)
    let c := PathClassifier.ofConfig config
    collectReport config (outsideEntries ws entries)
      ((projectPaths ws entries).map fun p => (p, analyzeFile c ws.read p))

end ProjectIndex
