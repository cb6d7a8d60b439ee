import ProjectIndex.Config.Basic
import ProjectIndex.Config.Env
import ProjectIndex.Text.Case

/-!
Building a configuration from a configuration document.

Keys may be written in snake case or in the camel case of the older JSON format (`projectId`,
`fileTypeMapping`, `koreanKeywords`, …); the snake-case key wins when both are present. Every
value of the wrong kind is a problem; all problems are collected in reading order and reported
together. Absent keys take their defaults. A few readings are lenient on purpose:

* a missing or empty glob map, synonym table, alias table, threshold table or output table counts
  as an empty one (`false`, `0`, `""` and `[]` are empty too), while an absent or null alias table
  counts as the defaults and as empty respectively;
* an absent or null folder table keeps the default folders; a given one has its keys lower-cased;
* user globs are laid over the default glob map, replacing equal patterns in place;
* a synonym or alias given as one string counts as a list of that string;
* the switches take any value and count its truthiness;
* unknown thresholds are ignored; the others must be numbers and are read as doubles, and an
  integer whose double would be infinite is a fault.

Some values are not merely wrong but unusable: an output section that is not a table, or an
endpoint that is not text, or a date and time whose offset is a day or more where its text is
needed, or a header or endpoint text with an environment reference whose name cannot be encoded.
Reading stops there with a `Fault`, before the problems are reported.
A document that is not a table at all yields the defaults when it holds none of the keys, and a
`Fault` as soon as one of them is looked up in it.

Owns: `Fault`, `BuildError`, `IndexConfig.ofValue`.
-/

namespace ProjectIndex.Config

open ProjectIndex.Data
open ProjectIndex.Text

/-- Reading met a value it cannot use at all. -/
structure Fault where
  /-- The kind of failure: `TypeError`, `AttributeError`, `ValueError`, `OverflowError` or
  `UnicodeEncodeError`. -/
  kind : String
  message : String
deriving Inhabited

/-- Why a configuration document gives no configuration. -/
inductive BuildError where
  /-- Values of the wrong kind, in reading order. -/
  | problems (list : List String)
  | fault (f : Fault)
deriving Inhabited

/-- Reading a document: problems collect in the state, a fault stops. -/
abbrev Reader := StateT (List String) (Except Fault)

/-- Record a problem. -/
def problem (text : String) : Reader Unit :=
  modify (· ++ [text])

/-- Stop with a fault. -/
def fault (kind message : String) : Reader α :=
  throw ⟨kind, message⟩

/-- The name of a value's kind as a fault message gives it. -/
def faultKind (v : Value) : String :=
  "'" ++ v.kindName ++ "'"

/-- The value of the first of the keys that the document holds. A document that is no table only
answers for keys it contains, and then faults. -/
def pick (data : Value) (keys : List String) : Reader (Option Value) :=
  match data with
  | .table entries => pure (keys.findSome? fun key => (entries.find? (·.1 == key)).map Prod.snd)
  | .list items =>
    if keys.any (fun key => items.any (fun item => item.display == key && item.kindName == "str"))
    then fault "TypeError" "list indices must be integers or slices, not str"
    else pure none
  | .str s =>
    if keys.any (fun key => (s.splitOn key).length > 1 || key.isEmpty)
    then fault "TypeError" "string indices must be integers, not 'str'"
    else pure none
  | v => fault "TypeError" ("argument of type " ++ faultKind v ++ " is not iterable")

/-- A missing or empty value counts as an empty table. -/
def orEmpty (v : Value) : Value :=
  if v.truthy then v else .table []

/-- The entries of a table value; anything else is a problem and reads as empty. -/
def tableOf (key : String) (v : Value) : Reader (List (String × Value)) :=
  match v with
  | .table entries => pure entries
  | _ => do
    problem (key ++ " must be a table, got " ++ v.kindName)
    pure []

/-- The strings of a list of strings; anything else is a problem and reads as empty. -/
def stringsOf (key : String) (v : Value) : Reader (List String) :=
  let bad : Reader (List String) := do
    problem (key ++ " must be a list of strings, got " ++ v.literal)
    pure []
  match v with
  | .list items =>
    match items.mapM (fun item => match item with | .str s => some s | _ => none) with
    | some strs => pure strs
    | none => bad
  | _ => bad

/-- A string, or a list of strings. -/
def stringOrStrings (key : String) (v : Value) : Reader (List String) :=
  match v with
  | .str s => pure [s]
  | _ => stringsOf key v

/-- Set `key` in an ordered table: in place when present, at the end otherwise. -/
def putEntry (entries : List (String × α)) (key : String) (value : α) : List (String × α) :=
  if entries.any (·.1 == key) then entries.map fun e => if e.1 == key then (key, value) else e
  else entries ++ [(key, value)]

/-- Lay `top` over `base`, entry by entry. -/
def overlay (base top : List (String × α)) : List (String × α) :=
  top.foldl (fun acc entry => putEntry acc entry.1 entry.2) base

/-- A table with its keys lower-cased, later keys replacing earlier equal ones in place. -/
def lowerKeys (entries : List (String × α)) : List (String × α) :=
  overlay [] (entries.map fun e => (lower e.1, e.2))

/-- The thresholds of a threshold table. -/
def thresholdsOf (v : Value) : Reader Thresholds :=
  match v with
  | .table entries =>
    entries.foldlM (fun (t : Thresholds) (entry : String × Value) =>
      match t.get? entry.1, entry.2 with
      | none, _ => pure t
      | some _, .int n =>
        if n.natAbs ≥ Nat.pow 2 1024 - Nat.pow 2 970 then fault "OverflowError" "int too large to convert to float"
        else pure (t.set entry.1 (Float.ofInt n))
      | some _, .float x => pure (t.set entry.1 x)
      | some _, other => do
        problem ("thresholds." ++ entry.1 ++ " must be a number, got " ++ other.literal)
        pure t) {}
  | _ => do
    problem ("thresholds must be a table, got " ++ v.kindName)
    pure {}

/-- The text of a value where text is expected; a moment whose offset is a day or more has none,
and reading stops there. -/
def shown (v : Value) : Reader String :=
  match v with
  | .moment m =>
    match m.offsetFault? with
    | some message => fault "ValueError" message
    | none => pure m.text
  | v => pure v.display

/-- The value under `key` in a value that must answer look-ups, as a section of the output table
does; a missing key gives `default`. -/
def sectionGet (part : Value) (key : String) (default : Value) : Reader Value :=
  match part with
  | .table entries => pure (((entries.find? (·.1 == key)).map Prod.snd).getD default)
  | v => fault "AttributeError" (faultKind v ++ " object has no attribute 'get'")

/-- A text with its environment references resolved; a reference whose name has no bytes stops
reading with the encoder's error. -/
def resolved (env : Environment) (s : String) : Reader String :=
  match resolveEnv env s with
  | .ok text => pure text
  | .error message => fault "UnicodeEncodeError" message

/-- The output settings of an output table. -/
def outputOf (env : Environment) (entries : List (String × Value)) : Reader (FileOutput × ApiOutput) := do
  let lookup (key : String) : Value := ((entries.find? (·.1 == key)).map Prod.snd).getD .null
  let fileSection := if (lookup "file").truthy then lookup "file" else .table []
  let apiSection := if (lookup "api").truthy then lookup "api" else .table []
  let headersValue ← sectionGet apiSection "headers" .null
  let headers ← match orEmpty headersValue with
    | .table hs => do
      let shownHeaders ← hs.mapM fun (k, v) => do pure (k, ← resolved env (← shown v))
      pure (overlay [] shownHeaders)
    | v => fault "AttributeError" (faultKind v ++ " object has no attribute 'items'")
  let fileEnabled ← sectionGet fileSection "enabled" (.bool true)
  let filePath ← sectionGet fileSection "path" (.str "project-metadata.json")
  let apiEnabled ← sectionGet apiSection "enabled" (.bool false)
  let endpointValue ← sectionGet apiSection "endpoint" (.str "")
  let endpoint ← match endpointValue with
    | .str s => resolved env s
    | v =>
      if v.truthy then
        fault "TypeError" ("expected string or bytes-like object, got " ++ faultKind v)
      else pure ""
  let method ← shown (← sectionGet apiSection "method" (.str "POST"))
  pure (⟨fileEnabled.truthy, filePath⟩,
    ⟨apiEnabled.truthy, endpoint, upper method, headers⟩)

/-- A list of strings as a value. -/
def stringsValue (xs : List String) : Value := .list (xs.map .str)

/-- Read a configuration document, collecting problems. -/
def readConfig (env : Environment) (data : Value) : Reader IndexConfig := do
  let d : IndexConfig := {}
  let userGlobs ← tableOf "file_type_mapping"
    (orEmpty (((← pick data ["file_type_mapping", "fileTypeMapping"])).getD (.table [])))
  let folderRoles? ← pick data ["folder_roles", "folderRoles"]
  let synonyms ← tableOf "keyword_synonyms"
    (orEmpty ((← pick data ["keyword_synonyms", "koreanKeywords"]).getD (.table [])))
  let aliasDefault : Value := .table (d.pathAliases.map fun (k, v) => (k, stringsValue v))
  let aliases ← tableOf "path_aliases"
    (orEmpty ((← pick data ["path_aliases", "pathAliases"]).getD aliasDefault))
  let workersValue := (← pick data ["workers"]).getD (.int d.workers)
  let workers ← match workersValue with
    | .int n => pure n
    | v => do
      problem ("workers must be an integer, got " ++ v.literal)
      pure d.workers
  let projectId ← shown ((← pick data ["project_id", "projectId"]).getD (.str d.projectId))
  let includeGlobs ← stringsOf "include" ((← pick data ["include"]).getD (stringsValue d.includeGlobs))
  let excludeGlobs ← stringsOf "exclude" ((← pick data ["exclude"]).getD (stringsValue d.excludeGlobs))
  let folderRoles ← match folderRoles? with
    | none | some .null => pure d.folderRoles
    | some v => do pure (lowerKeys (← tableOf "folder_roles" v))
  let fileNameRoles ← tableOf "file_name_roles"
    ((← pick data ["file_name_roles", "fileNameRoles"]).getD (.table d.fileNameRoles))
  let pathSegmentRoles ← tableOf "path_segment_roles"
    ((← pick data ["path_segment_roles", "pathSegmentRoles"]).getD (.table d.pathSegmentRoles))
  let migrationPatterns ← stringsOf "migration_patterns"
    ((← pick data ["migration_patterns", "migrationPatterns"]).getD (stringsValue d.migrationPatterns))
  let keywordSynonyms ← synonyms.mapM fun (k, v) => do
    pure (lower k, ← stringOrStrings ("keyword_synonyms." ++ k) v)
  let pathAliases ← aliases.mapM fun (k, v) => do
    pure (k, ← stringOrStrings ("path_aliases." ++ k) v)
  let thresholds ← thresholdsOf (orEmpty ((← pick data ["thresholds"]).getD (.table [])))
  let flag (keys : List String) (default : Bool) : Reader Bool := do
    pure (((← pick data keys).getD (.bool default)).truthy)
  let useNameConventions ← flag ["use_name_conventions", "useNameConventions"] false
  let globsBeforeFolders ← flag ["globs_before_folders", "globsBeforeFolders"] false
  let strictSyntax ← flag ["strict_syntax", "strictSyntax"] true
  let verbose ← flag ["verbose"] false
  let outputEntries ← tableOf "output" (orEmpty ((← pick data ["output"]).getD (.table [])))
  let (fileOutput, apiOutput) ← outputOf env outputEntries
  pure {
    projectId, includeGlobs, excludeGlobs,
    fileTypeMapping := overlay d.fileTypeMapping userGlobs,
    folderRoles, fileNameRoles, pathSegmentRoles, migrationPatterns,
    keywordSynonyms := overlay [] keywordSynonyms,
    pathAliases, thresholds, useNameConventions, globsBeforeFolders, strictSyntax, workers,
    verbose, fileOutput, apiOutput }

end ProjectIndex.Config

namespace ProjectIndex.IndexConfig

open ProjectIndex.Config
open ProjectIndex.Data

/-- The configuration a document describes, or why it describes none. -/
def ofValue (env : Environment) (data : Value) : Except BuildError IndexConfig :=
  match (readConfig env data).run [] with
  | .error f => .error (.fault f)
  | .ok (config, []) => .ok config
  | .ok (_, problems) => .error (.problems problems)

end ProjectIndex.IndexConfig
