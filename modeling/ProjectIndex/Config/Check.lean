import ProjectIndex.Config.Basic

/-!
Checking a configuration before a run.

A configuration is usable when it has a project id and at least one include glob, names an
endpoint whenever HTTP output is on, runs at least one worker, names only the seven roles in its
four role tables, and keeps every threshold within `[0, 1]`. `problems` lists what fails, in that
order; the role tables are checked in the order glob map, folders, file names, path segments.

Owns: `IndexConfig.problems`, `ConfigError` and its message.
-/

namespace ProjectIndex

open ProjectIndex.Data
open ProjectIndex.Number

namespace IndexConfig

/-- Problems of one role table: every entry whose value names no role. -/
def tableProblems (tableName : String) (table : List (String × Value)) : List String :=
  table.filterMap fun (key, role) =>
    match RoleTag.ofValue role with
    | .role _ => none
    | .other v => some (tableName ++ ": unknown role '" ++ v.display ++ "' for '" ++ key ++ "'")

/-- Everything that keeps a configuration from being used, in order. -/
def problems (c : IndexConfig) : List String :=
  (if c.projectId.isEmpty then ["projectId is required"] else []) ++
  (if c.includeGlobs.isEmpty then ["At least one include pattern is required"] else []) ++
  (if c.apiOutput.enabled && c.apiOutput.endpoint.isEmpty then
    ["API endpoint is required when api output is enabled"] else []) ++
  (if c.workers < 1 then ["workers must be at least 1"] else []) ++
  tableProblems "file_type_mapping" c.fileTypeMapping ++
  tableProblems "folder_roles" c.folderRoles ++
  tableProblems "file_name_roles" c.fileNameRoles ++
  tableProblems "path_segment_roles" c.pathSegmentRoles ++
  c.thresholds.toList.filterMap fun (name, x) =>
    if 0.0 ≤ x && x ≤ 1.0 then none
    else some ("thresholds." ++ name ++ " must be within [0, 1], got " ++ floatText x)

end IndexConfig

/-- A configuration that cannot be used: its problems, and the file it came from. -/
structure ConfigError where
  problems : List String
  source : Option String := none
deriving Inhabited

/-- The text of a configuration error: the problems joined by `"; "`, and the source file. -/
def ConfigError.message (e : ConfigError) : String :=
  let body := if e.problems.isEmpty then "invalid configuration" else "; ".intercalate e.problems
  match e.source with
  | some src => if src.isEmpty then body else body ++ " (config: " ++ src ++ ")"
  | none => body

end ProjectIndex
