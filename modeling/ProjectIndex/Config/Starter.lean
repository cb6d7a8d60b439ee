import ProjectIndex.Config.Basic
import ProjectIndex.Toml.Write

/-!
The starter configuration file: the project id, the default include and exclude globs, an empty
synonym table, and the two outputs (a report file at the default path, HTTP output off), written
as a TOML document.

Owns: `starterDocument`, `renderStarterConfig`.
-/

namespace ProjectIndex.Config

open ProjectIndex.Data

/-- The starter configuration as a table. -/
def starterDocument (projectId : Value) : List (String × Value) :=
  [("project_id", projectId),
   ("include", .list (defaultInclude.map .str)),
   ("exclude", .list (defaultExclude.map .str)),
   ("keyword_synonyms", .table []),
   ("output", .table [
     ("file", .table [("enabled", .bool true), ("path", .str "project-metadata.json")]),
     ("api", .table [("enabled", .bool false), ("endpoint", .str "")])])]

/-- The text of the starter configuration file. -/
def renderStarterConfig (projectId : Value) : Except Toml.TomlFault String :=
  Toml.renderDocument (starterDocument projectId)

end ProjectIndex.Config
