/-!
Slash-separated paths, as the index names files.

A path is read into a root (none, `/`, or `//`: exactly two leading slashes are kept, three or
more count as one) and its segments, dropping empty segments and `.`; `..` is kept. Written back,
the root comes first and the segments follow, joined by `/`; a path with neither is `.`.

Beside that reading, the lexical operations on plain path texts: `normalize` also folds `..` into
the segment before it, `join` appends a path unless that path is absolute, and `dirname` cuts at
the last slash.

Owns: `SegmentedPath` with `name`, `suffix`, `stem`, `parent`, `parts`; `normalize`, `join`,
`dirname`.
-/

namespace ProjectIndex.Path

/-- A path as a root and its segments. -/
structure SegmentedPath where
  /-- `""`, `"/"` or `"//"`. -/
  root : String
  segments : List String
deriving DecidableEq, Repr

/-- The number of slashes at the start of a text. -/
def leadingSlashes (s : String) : Nat :=
  (s.toList.takeWhile (· == '/')).length

/-- The root that a path text starts with. -/
def rootOf (s : String) : String :=
  match leadingSlashes s with
  | 0 => ""
  | 2 => "//"
  | _ => "/"

namespace SegmentedPath

/-- Read a path text; a backslash is an ordinary character here. -/
def ofString (s : String) : SegmentedPath :=
  ⟨rootOf s, ((s.toList.splitOn '/').map String.ofList).filter fun seg => seg != "" && seg != "."⟩

/-- The path text: root, then the segments joined by `/`, or `.` for an empty path. -/
def toString (p : SegmentedPath) : String :=
  let body := "/".intercalate p.segments
  if p.root.isEmpty && body.isEmpty then "." else p.root ++ body

/-- The last segment, or `""` for a path without segments. -/
def name (p : SegmentedPath) : String :=
  p.segments.getLast?.getD ""

/-- The position of the last dot of a name, when it stands neither first nor last. -/
def suffixDot? (name : String) : Option Nat :=
  let chars := name.toList
  let positions := (List.range chars.length).filter fun i => chars[i]? == some '.'
  match positions.getLast? with
  | some i => if 0 < i && i + 1 < chars.length then some i else none
  | none => none

/-- The file extension: from the last dot of the name, when that dot is neither first nor last. -/
def suffix (p : SegmentedPath) : String :=
  match suffixDot? p.name with
  | some i => String.ofList (p.name.toList.drop i)
  | none => ""

/-- The name without its extension. -/
def stem (p : SegmentedPath) : String :=
  match suffixDot? p.name with
  | some i => String.ofList (p.name.toList.take i)
  | none => p.name

/-- The path without its last segment; the root and the empty path are their own parents. -/
def parent (p : SegmentedPath) : SegmentedPath :=
  ⟨p.root, p.segments.dropLast⟩

/-- The root, when there is one, followed by the segments. -/
def parts (p : SegmentedPath) : List String :=
  if p.root.isEmpty then p.segments else p.root :: p.segments

end SegmentedPath

/-- Lexical normalisation: drop empty segments and `.`, fold `..` into the segment before it (at
the root it vanishes, at the start of a relative path it stays); the empty result is `.`. -/
def normalize (s : String) : String :=
  if s.isEmpty then "."
  else
    let root := rootOf s
    let step (acc : List String) (seg : String) : List String :=
      if seg == "" || seg == "." then acc
      else if seg != ".." || (root.isEmpty && acc.isEmpty) || acc.head? == some ".." then seg :: acc
      else acc.drop 1
    let segs := ((s.splitOn "/").foldl step []).reverse
    let body := root ++ "/".intercalate segs
    if body.isEmpty then "." else body

/-- Append `b` to `a` with one slash between them; an absolute `b` replaces `a`. -/
def join (a b : String) : String :=
  if b.startsWith "/" then b
  else if a.isEmpty || a.endsWith "/" then a ++ b
  else a ++ "/" ++ b

/-- Everything before the last slash, trailing slashes removed unless only slashes remain. -/
def dirname (p : String) : String :=
  let chars := p.toList
  let cut := chars.length - (chars.reverse.takeWhile (· != '/')).length
  let head := chars.take cut
  if !head.isEmpty && head.any (· != '/') then
    String.ofList (head.reverse.dropWhile (· == '/')).reverse
  else String.ofList head

end ProjectIndex.Path
