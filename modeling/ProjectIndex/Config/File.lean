import ProjectIndex.Config.Build
import ProjectIndex.Config.Check
import ProjectIndex.Toml.Text
import ProjectIndex.Data.Json
import ProjectIndex.Path.Posix
import ProjectIndex.Source.Utf8

/-!
Loading a configuration file.

A missing file, or one holding only blanks, gives the defaults. The file is read as UTF-8 text
with universal line ends. A name ending in `.json` (exactly so) is read as JSON, any other as
TOML; a text that does not parse is refused with the problem `cannot parse config: ` followed by
the decoder's own text, and a document that is not a table with `top-level config must be a
mapping`. The document is then built into a configuration. Every refusal names the file as its
source.

The TOML reader is the third-party `toml` package, so loading takes it as an argument (`loads`)
and relies on no more of it than what it returns. Bytes that are not UTF-8, and any exception of
the reader other than its decode error, are failures of their own.

Owns: `LoadFailure`, `loadConfigFile`.
-/

namespace ProjectIndex.Config

open ProjectIndex.Data

/-- Why a configuration file gives no configuration. -/
inductive LoadFailure where
  /-- The file's content is refused; the problems and the file's name. -/
  | refused (e : ConfigError)
  /-- Building stopped on an unusable value. -/
  | fault (f : Fault)
  /-- Reading stopped with an error of this kind and message. -/
  | crash (kind message : String)

/-- The file's content as bytes or as text. -/
inductive FileContent where
  | text (s : String)
  | bytes (bs : List UInt8)

/-- Loads the configuration file of the given name, with its content when it exists, reading
TOML with `loads`. -/
def loadConfigFile (loads : String → Except Toml.LoadsFailure Value) (env : Environment)
    (filename : String) (content : Option FileContent) : Except LoadFailure IndexConfig := do
  let source := (Path.SegmentedPath.ofString filename).toString
  let refuse := fun (problem : String) => LoadFailure.refused ⟨[problem], some source⟩
  match content with
  | none => return {}
  | some body =>
    let raw ← match body with
      | .text s => pure s
      | .bytes bs =>
        match Source.decodeUtf8At bs with
        | .ok s => pure s
        | .error e => throw (.crash "UnicodeDecodeError" e.message)
    let text := String.ofList (Source.translateNewlines raw.toList)
    if Text.trimBlanks text == "" then return {}
    let data ← if (Path.SegmentedPath.ofString filename).suffix == ".json" then
        match readJson text with
        | .ok v => pure v
        | .error e => throw (refuse ("cannot parse config: " ++ e.message text))
      else
        match loads text with
        | .ok v => pure v
        | .error (.decode message) => throw (refuse ("cannot parse config: " ++ message))
        | .error (.raised kind message) => throw (.crash kind message)
    match data with
    | .table _ =>
      match IndexConfig.ofValue env data with
      | .ok c => return c
      | .error (.problems ps) => throw (.refused ⟨ps, some source⟩)
      | .error (.fault f) => throw (.fault f)
    | _ => throw (refuse "top-level config must be a mapping")

end ProjectIndex.Config
