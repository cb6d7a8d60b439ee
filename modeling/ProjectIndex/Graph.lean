import ProjectIndex.Path.Posix

/-!
The import graph of a project.

Import specifiers are resolved against the set of project paths, without looking at any file
system. A path is compared in its cleaned form: slashes for backslashes, lexically normalised, and
`.` written as the empty path; when two registered paths clean alike, the later one answers. A
specifier starting with `./` or `../`, or equal to `.` or `..`, is relative to the importer's
folder. Any other specifier is tried under each alias whose prefix it starts with, longest prefix
first, and under each of the alias's target folders in turn. A base path resolves to itself, or
to itself with a script extension, or to an `index` file with a script extension inside it, in
that order.

Owns: `cleanPath`, `PathSet`, `PathSet.resolve?`, `GraphEntry`.
-/

namespace ProjectIndex.Graph

open ProjectIndex.Path

/-- The extensions tried when a specifier leaves it out. -/
def resolveExtensions : List String := [".ts", ".tsx", ".js", ".jsx", ".mjs", ".cjs"]

/-- A path's cleaned form: slashes, lexically normalised, `.` as the empty path. -/
def cleanPath (path : String) : String :=
  let p := normalize (path.replace "\\" "/")
  if p == "." then "" else p

/-- Registered project paths, by cleaned form, with the aliases for bare specifiers. -/
structure PathSet where
  /-- Cleaned form and registered spelling; a later entry shadows an earlier equal form. -/
  entries : List (String × String)
  /-- Alias prefixes and their target folders, longest prefix first. -/
  aliases : List (String × List String)

/-- The path set of the given paths and aliases. -/
def PathSet.ofPaths (paths : List String) (aliases : List (String × List String)) : PathSet where
  entries := (paths.map fun p => (cleanPath p, p)).reverse
  aliases := aliases.mergeSort fun a b => a.1.length ≥ b.1.length

/-- The registered path with a given cleaned form. -/
def PathSet.find? (set : PathSet) (cleaned : String) : Option String :=
  (set.entries.find? (·.1 == cleaned)).map Prod.snd

/-- The path is registered. -/
def PathSet.contains (set : PathSet) (path : String) : Bool :=
  (set.find? (cleanPath path)).isSome

/-- The registered path a base path stands for: itself, with an extension, or its index file. -/
def PathSet.lookup? (set : PathSet) (base : String) : Option String :=
  let b := cleanPath base
  let candidates := [b] ++ resolveExtensions.map (b ++ ·) ++
    resolveExtensions.map fun ext => join b ("index" ++ ext)
  candidates.findSome? set.find?

/-- The specifier is relative to the importer's folder. -/
def isRelative (specifier : String) : Bool :=
  specifier.startsWith "./" || specifier.startsWith "../" || specifier == "." || specifier == ".."

/-- The project path an import of `specifier` from `importer` points at, if any. -/
def PathSet.resolve? (set : PathSet) (importer specifier : String) : Option String :=
  if isRelative specifier then
    set.lookup? (join (dirname (cleanPath importer)) specifier)
  else
    set.aliases.findSome? fun (pfx, targets) =>
      if specifier.startsWith pfx then
        let rest := String.ofList (specifier.toList.drop pfx.length)
        targets.findSome? fun target =>
          set.lookup? (if target.isEmpty then rest else join target rest)
      else none

/-- The edges of one file in the graph: the files it imports and the files importing it. -/
structure GraphEntry where
  calls : List String := []
  calledBy : List String := []
deriving Inhabited, DecidableEq, Repr

end ProjectIndex.Graph
