import ProjectIndex.Module.Surface
import ProjectIndex.Sql.Schema
import ProjectIndex.Digest.Sha256
import ProjectIndex.Path.Posix

/-!
Names of indexed files: the display name, the route a file serves, and the record id.

The display name is the first table's name for a migration, else the first named default export,
else the file's stem; a stem that only says what kind of file it is (`index`, `page`, `layout`,
`route`) gives way to the name of the folder holding it.

A file under an `app` or `pages` directory serves a route. Under `app` the route is the folder
path below `app`; under `pages` it is the path below `pages` with the file's stem as last segment,
dropped when it is `index`. Route groups `(name)` and parallel slots `@name` are left out.

The record id is the first 16 hexadecimal digits of the SHA-256 digest of `projectId:path`.

Owns: `displayName`, `routePath?`, `recordId`.
-/

namespace ProjectIndex

open ProjectIndex.Path

/-- Stems named after their folder. -/
def conventionStems : List String := ["index", "page", "layout", "route"]

/-- The name a file is shown by. -/
def displayName (path : String) (exports : List ExportDecl) (tables : List Sql.Table) : String :=
  match tables with
  | t :: _ => t.name
  | [] =>
    match exports.find? (fun e => e.isDefault && e.name != defaultBinding) with
    | some e => e.name
    | none =>
      let p := SegmentedPath.ofString path
      if conventionStems.contains p.stem then
        let folder := p.parent.name
        if folder.isEmpty then p.stem else folder
      else p.stem

/-- A segment kept in a route: neither a group `(name)` nor a slot `@name`. -/
def keptInRoute (segment : String) : Bool :=
  !((segment.startsWith "(" && segment.endsWith ")") || segment.startsWith "@")

/-- The route a file serves, when it lies under `app` or `pages`. -/
def routePath? (path : String) : Option String :=
  let parts := (SegmentedPath.ofString path).parts
  let below (root : String) : Option (List String) :=
    (parts.findIdx? (· == root)).map fun i => parts.drop (i + 1)
  let render (segments : List String) : String :=
    "/" ++ "/".intercalate (segments.filter keptInRoute)
  match below "app" with
  | some segments => some (render segments.dropLast)
  | none =>
    match below "pages" with
    | some segments =>
      let last := match segments.getLast? with
        | some s => (SegmentedPath.ofString s).stem
        | none => "index"
      some (render (segments.dropLast ++ (if last == "index" then [] else [last])))
    | none => none

/-- The id of a file's record. -/
def recordId (projectId path : String) : String :=
  String.ofList ((Digest.sha256Hex (projectId ++ ":" ++ path)).toList.take 16)

end ProjectIndex
