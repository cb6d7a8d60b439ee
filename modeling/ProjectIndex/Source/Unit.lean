import ProjectIndex.Script.Document
import ProjectIndex.Sql.Reader

/-!
A source file read for the index: its path and text, its language and extension, and what it
parses to, a script's tree or a migration's tables.

A file whose extension names no language is refused; a migration is read by the SQL reader and a
script (markup included) by the script parser, which refuses a broken script when strict.

Owns: `Parsed`, `SourceUnit`, `parseSourceWith`, `parseSource`.
-/

namespace ProjectIndex

open ProjectIndex.Script

/-- What a source file parses to. -/
inductive Parsed where
  | script (d : Document)
  | tables (ts : List Sql.Table)

/-- A parsed source file. -/
structure SourceUnit where
  path : String
  text : String
  language : Language
  extension : String
  parsed : Parsed

/-- The script tree of a unit, when it is a script. -/
def SourceUnit.document? (u : SourceUnit) : Option Document :=
  match u.parsed with
  | .script d => some d
  | .tables _ => none

/-- The tables of a unit, when it is a migration. -/
def SourceUnit.tables (u : SourceUnit) : List Sql.Table :=
  match u.parsed with
  | .script _ => []
  | .tables ts => ts

/-- Parses a source file by the language its extension names, scripts with a tree parser. -/
def parseSourceWith (tree : TreeParser) (path text : String) (strict : Bool) :
    Except SourceError SourceUnit :=
  match languageOf? path with
  | none => .error ⟨path, .unsupportedFileType⟩
  | some language =>
    let ext := extensionOf path
    let parsed : Except SourceError Parsed :=
      if language == .sql then (Sql.parseSql text path).map .tables
      else (parseScriptWith tree text path strict).map .script
    parsed.map fun p => ⟨path, text, language, ext, p⟩

/-- Parses a source file, scripts with this library's parser. -/
def parseSource (path text : String) (strict : Bool) : Except SourceError SourceUnit :=
  parseSourceWith parseTree path text strict

end ProjectIndex
