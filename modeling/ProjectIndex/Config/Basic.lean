import ProjectIndex.Role

/-!
The configuration of an indexing run, and its defaults.

A configuration lists the globs that select files, the tables that map file names, path segments,
folders and globs to roles, the migration directories, keyword synonyms, import path aliases, the
scorers' thresholds, a few switches, and where the report goes. Role tables keep their values as
given (`Value`), so that a table naming no role can be reported and passed through.

Owns: `Thresholds`, `Config`, `Config.default`, `Config.toValue`, the default tables.
-/

namespace ProjectIndex.Config

open ProjectIndex.Data

/-- The least raw score each scorer needs, and the least confidence classification accepts. -/
structure Thresholds where
  hook : Float := 0.3
  component : Float := 0.4
  api : Float := 0.5
  service : Float := 0.3
  utility : Float := 0.3
  accept : Float := 0.4
deriving Inhabited

/-- The names of the thresholds, in order. -/
def Thresholds.names : List String := ["hook", "component", "api", "service", "utility", "accept"]

/-- The threshold of a name. -/
def Thresholds.get? (t : Thresholds) : String → Option Float
  | "hook" => some t.hook
  | "component" => some t.component
  | "api" => some t.api
  | "service" => some t.service
  | "utility" => some t.utility
  | "accept" => some t.accept
  | _ => none

/-- The thresholds with the named one set. -/
def Thresholds.set (t : Thresholds) (name : String) (x : Float) : Thresholds :=
  match name with
  | "hook" => { t with hook := x }
  | "component" => { t with component := x }
  | "api" => { t with api := x }
  | "service" => { t with service := x }
  | "utility" => { t with utility := x }
  | "accept" => { t with accept := x }
  | _ => t

/-- The thresholds as name–value pairs, in order. -/
def Thresholds.toList (t : Thresholds) : List (String × Float) :=
  [("hook", t.hook), ("component", t.component), ("api", t.api), ("service", t.service),
   ("utility", t.utility), ("accept", t.accept)]

/-- Where the report is written as a file. -/
structure FileOutput where
  enabled : Bool := true
  path : Value := .str "project-metadata.json"
deriving Inhabited

/-- Where the report is sent over HTTP. -/
structure ApiOutput where
  enabled : Bool := false
  endpoint : String := ""
  method : String := "POST"
  headers : List (String × String) := []
deriving Inhabited

/-- Folder names and the roles of the files inside them. -/
def defaultFolderRoles : List (String × Value) :=
  [("components", "component"), ("component", "component"), ("ui", "component"),
   ("widgets", "component"), ("widget", "component"), ("elements", "component"),
   ("hooks", "hook"), ("hook", "hook"), ("composables", "hook"),
   ("services", "service"), ("service", "service"), ("api", "service"),
   ("utils", "utility"), ("util", "utility"), ("utilities", "utility"), ("utility", "utility"),
   ("lib", "utility"), ("libs", "utility"), ("helpers", "utility"), ("helper", "utility"),
   ("common", "utility"), ("shared", "utility")].map fun (k, v) => (k, .str v)

/-- Framework file names and their roles. -/
def defaultFileNameRoles : List (String × Value) :=
  [("page.tsx", "route"), ("page.ts", "route"), ("page.jsx", "route"), ("page.js", "route"),
   ("layout.tsx", "route"), ("layout.ts", "route"), ("layout.jsx", "route"),
   ("layout.js", "route"), ("route.tsx", "api"), ("route.ts", "api"),
   ("route.js", "api")].map fun (k, v) => (k, .str v)

/-- Directory names that decide the role wherever they occur in a path. -/
def defaultPathSegmentRoles : List (String × Value) :=
  [("api", .str "api")]

/-- Directories holding SQL migrations. -/
def defaultMigrationPatterns : List String :=
  ["supabase/migrations", "prisma/migrations", "migrations", "db/migrations",
   "database/migrations"]

/-- Globs and the roles of the files they match. -/
def defaultFileTypeMapping : List (String × Value) :=
  [("app/**/page.tsx", "route"), ("app/**/page.ts", "route"),
   ("app/**/layout.tsx", "route"), ("app/**/layout.ts", "route"),
   ("app/**/route.tsx", "api"), ("app/**/route.ts", "api"),
   ("app/api/**/*.ts", "api"), ("app/api/**/*.tsx", "api"),
   ("src/app/**/page.tsx", "route"), ("src/app/**/page.ts", "route"),
   ("src/app/**/layout.tsx", "route"), ("src/app/**/layout.ts", "route"),
   ("src/app/**/route.tsx", "api"), ("src/app/**/route.ts", "api"),
   ("src/app/api/**/*.ts", "api"), ("src/app/api/**/*.tsx", "api"),
   ("pages/**/*.tsx", "route"), ("pages/**/*.ts", "route"), ("pages/api/**/*.ts", "api"),
   ("src/pages/**/*.tsx", "route"), ("src/pages/**/*.ts", "route"),
   ("src/pages/api/**/*.ts", "api"),
   ("supabase/migrations/*.sql", "table"),
   ("prisma/migrations/**/*.sql", "table")].map fun (k, v) => (k, .str v)

/-- Globs of the files indexed by default. -/
def defaultInclude : List String :=
  ["app/**/*.\x7bts,tsx\x7d", "pages/**/*.\x7bts,tsx\x7d", "components/**/*.\x7bts,tsx\x7d",
   "hooks/**/*.\x7bts,tsx\x7d", "services/**/*.ts", "lib/**/*.ts", "utils/**/*.ts",
   "src/**/*.\x7bts,tsx\x7d", "supabase/migrations/*.sql"]

/-- Globs of the files never indexed by default. -/
def defaultExclude : List String :=
  ["**/node_modules/**", "**/.next/**", "**/dist/**", "**/*.test.\x7bts,tsx\x7d",
   "**/*.spec.\x7bts,tsx\x7d", "**/__tests__/**", "**/*.d.ts", "**/coverage/**"]

/-- Import path aliases: a prefix and the directories it stands for. -/
def defaultPathAliases : List (String × List String) :=
  [("@/", ["", "src/"])]

end ProjectIndex.Config

namespace ProjectIndex

open ProjectIndex.Data
open ProjectIndex.Config

/-- The configuration of an indexing run. -/
structure IndexConfig where
  projectId : String := "default"
  includeGlobs : List String := defaultInclude
  excludeGlobs : List String := defaultExclude
  fileTypeMapping : List (String × Value) := defaultFileTypeMapping
  folderRoles : List (String × Value) := defaultFolderRoles
  fileNameRoles : List (String × Value) := defaultFileNameRoles
  pathSegmentRoles : List (String × Value) := defaultPathSegmentRoles
  migrationPatterns : List String := defaultMigrationPatterns
  keywordSynonyms : List (String × List String) := []
  pathAliases : List (String × List String) := defaultPathAliases
  thresholds : Thresholds := {}
  useNameConventions : Bool := false
  globsBeforeFolders : Bool := false
  strictSyntax : Bool := true
  workers : Int := 4
  verbose : Bool := false
  fileOutput : FileOutput := {}
  apiOutput : ApiOutput := {}
deriving Inhabited

namespace IndexConfig

/-- A list of strings as a value. -/
def strings (xs : List String) : Value := .list (xs.map .str)

/-- The configuration as a table with its fields' snake-case names, in declaration order. -/
def toValue (c : IndexConfig) : Value :=
  .table [
    ("project_id", .str c.projectId),
    ("include", strings c.includeGlobs),
    ("exclude", strings c.excludeGlobs),
    ("file_type_mapping", .table c.fileTypeMapping),
    ("folder_roles", .table c.folderRoles),
    ("file_name_roles", .table c.fileNameRoles),
    ("path_segment_roles", .table c.pathSegmentRoles),
    ("migration_patterns", strings c.migrationPatterns),
    ("keyword_synonyms", .table (c.keywordSynonyms.map fun (k, v) => (k, strings v))),
    ("path_aliases", .table (c.pathAliases.map fun (k, v) => (k, strings v))),
    ("thresholds", .table (c.thresholds.toList.map fun (k, x) => (k, .float x))),
    ("use_name_conventions", .bool c.useNameConventions),
    ("globs_before_folders", .bool c.globsBeforeFolders),
    ("strict_syntax", .bool c.strictSyntax),
    ("workers", .int c.workers),
    ("verbose", .bool c.verbose),
    ("output", .table [
      ("file", .table [("enabled", .bool c.fileOutput.enabled), ("path", c.fileOutput.path)]),
      ("api", .table [
        ("enabled", .bool c.apiOutput.enabled),
        ("endpoint", .str c.apiOutput.endpoint),
        ("method", .str c.apiOutput.method),
        ("headers", .table (c.apiOutput.headers.map fun (k, v) => (k, .str v)))])])]

end IndexConfig

end ProjectIndex
