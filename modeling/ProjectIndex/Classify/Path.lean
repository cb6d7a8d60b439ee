import ProjectIndex.Classify.Basic
import ProjectIndex.Classify.Name
import ProjectIndex.Config.Basic
import ProjectIndex.Config.Build
import ProjectIndex.Glob
import ProjectIndex.Source.Language

/-!
Classifying a file by its path.

The path is first normalised: backslashes become slashes and leading `./` are removed. An SQL file
is a table exactly when its folder lies under a migration directory, and is otherwise left out.
Any other file goes through the tiers below in order, and the first that decides wins:

1. its file name is a framework file name;
2. one of its folders, outermost first, is a reserved path segment;
3. one of its folders, innermost first, is a role folder;
4. it matches a configured glob, longest glob first;
5. it is a script under a `pages` folder, which makes it a route;
6. when name conventions are on, its file name follows one.

Tiers 3 and 4 swap when globs go before folders. Table keys are compared lower-cased for folders
and segments (segments also lose surrounding slashes); an entry whose role is empty (`""`, `false`,
`0`, null) does not decide, except in the glob map.

Owns: `PathClassifier`, `normalizePath`, `PathClassifier.classifyPath`, `PathClassifier.isExcludedSql`.
-/

namespace ProjectIndex.Classify

open ProjectIndex.Data
open ProjectIndex.Path
open ProjectIndex.Config

/-- A path with slashes for backslashes and no leading `./`. -/
def normalizePath (path : String) : String :=
  let slashed := (path.replace "\\" "/").toList
  String.ofList (go slashed)
where
  /-- Drop leading `./` pairs. -/
  go : List Char → List Char
    | '.' :: '/' :: rest => go rest
    | cs => cs

/-- The text without slashes at either end. -/
def trimSlashes (s : String) : String :=
  String.ofList ((s.toList.dropWhile (· == '/')).reverse.dropWhile (· == '/')).reverse

/-- The classifier's view of a configuration. -/
structure PathClassifier where
  config : IndexConfig
  /-- The glob map, longest glob first; equal lengths keep their order. -/
  globs : List (String × Value)
  segmentRoles : List (String × Value)
  folderRoles : List (String × Value)
  migrationPatterns : List String

/-- The classifier of a configuration. -/
def PathClassifier.ofConfig (config : IndexConfig) : PathClassifier where
  config := config
  globs := config.fileTypeMapping.mergeSort fun a b => a.1.length ≥ b.1.length
  segmentRoles := overlay [] (config.pathSegmentRoles.map fun (k, v) => (Text.lower (trimSlashes k), v))
  folderRoles := overlay [] (config.folderRoles.map fun (k, v) => (Text.lower k, v))
  migrationPatterns := config.migrationPatterns.map trimSlashes

/-- `part` stands somewhere in `text`. -/
def occursIn (part : List Char) : List Char → Bool
  | [] => part.isEmpty
  | c :: rest => part.isPrefixOf (c :: rest) || occursIn part rest

/-- The value under a key of an ordered table. -/
def lookup (table : List (String × Value)) (key : String) : Option Value :=
  (table.find? (·.1 == key)).map Prod.snd

/-- A role entry that decides: present and not empty. -/
def deciding (v : Option Value) : Option Value :=
  v.bind fun role => if role.truthy then some role else none

/-- A path-tier classification. -/
def sure (role : Value) (reason : String) (tier : Tier) : Classification :=
  { role := RoleTag.ofValue role, reasons := [reason], tier }

namespace PathClassifier

/-- The file is an SQL file. -/
def isSql (path : String) : Bool :=
  extensionOf path == ".sql"

/-- Tier of migrations: the folder lies under a migration directory. -/
def migrationTier (c : PathClassifier) (path : String) : Option Classification :=
  let parent := (SegmentedPath.ofString path).parent.toString
  let directory := "/" ++ (if parent == "." then "" else parent) ++ "/"
  (c.migrationPatterns.find? fun pattern => occursIn ("/" ++ pattern ++ "/").toList directory.toList).map
    fun pattern => sure (.str "table") ("under migrations directory '" ++ pattern ++ "'") .migration

/-- Tier of framework file names. -/
def fileNameTier (c : PathClassifier) (path : String) : Option Classification :=
  let name := (SegmentedPath.ofString path).name
  (deciding (lookup c.config.fileNameRoles name)).map fun role =>
    sure role ("convention filename '" ++ name ++ "'") .filename

/-- Tier of reserved path segments, outermost first. -/
def segmentTier (c : PathClassifier) (path : String) : Option Classification :=
  (SegmentedPath.ofString path).parent.parts.findSome? fun segment =>
    (deciding (lookup c.segmentRoles (Text.lower segment))).map fun role =>
      sure role ("path contains '" ++ segment ++ "/'") .pathSegment

/-- Tier of role folders, innermost first. -/
def folderTier (c : PathClassifier) (path : String) : Option Classification :=
  (SegmentedPath.ofString path).parent.parts.reverse.findSome? fun segment =>
    (deciding (lookup c.folderRoles (Text.lower segment))).map fun role =>
      sure role ("inside '" ++ segment ++ "' folder") .folder

/-- Tier of the glob map, longest glob first. -/
def globTier (c : PathClassifier) (path : String) : Option Classification :=
  (c.globs.find? fun (pattern, _) => Glob.accepts pattern path).map fun (pattern, role) =>
    sure role ("matches glob '" ++ pattern ++ "'") .glob

/-- Tier of the legacy `pages` folder. -/
def pagesTier (path : String) : Option Classification :=
  let p := SegmentedPath.ofString path
  if p.parent.parts.contains "pages" && scriptExtensions.contains (Text.lower p.suffix) then
    some (sure (.str "route") "inside legacy 'pages' directory" .pages)
  else none

/-- Tier of name conventions. -/
def nameConventionTier (path : String) : Option Classification :=
  (roleOfFileName? (SegmentedPath.ofString path).name).map fun (role, reason) =>
    { role := .role role, reasons := [reason], tier := .nameConvention }

/-- The classification a path alone decides, if any. -/
def classifyPath (c : PathClassifier) (path : String) : Option Classification :=
  let p := normalizePath path
  if isSql p then c.migrationTier p
  else
    let folderThenGlob := if c.config.globsBeforeFolders then [c.globTier, c.folderTier]
      else [c.folderTier, c.globTier]
    let tiers := [c.fileNameTier, c.segmentTier] ++ folderThenGlob ++ [pagesTier] ++
      (if c.config.useNameConventions then [nameConventionTier] else [])
    tiers.findSome? fun tier => tier p

/-- An SQL file outside every migration directory. -/
def isExcludedSql (c : PathClassifier) (path : String) : Bool :=
  isSql path && (c.migrationTier (normalizePath path)).isNone

end PathClassifier

end ProjectIndex.Classify
