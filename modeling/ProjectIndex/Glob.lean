import ProjectIndex.Text.Blank

/-!
Glob patterns over project paths.

A pattern is read left to right into pieces: `**/` is any run of directories (empty, or any text
ending in `/`), `**` not followed by `/` is any text, `*` is any text without `/`, `?` is one
character other than `/`, and `{` up to the next `}` is a choice among the comma-separated options,
each trimmed of blanks and taken literally. A `{` with no `}` after it, and every other character,
stands for itself.

A path matches when the pieces cover all of it. "Any text" never covers a newline, though the
pieces that exclude only `/` do; and a single newline at the very end of the path may be left
uncovered.

Matching runs the pieces over sets of positions: each piece maps the positions where it may
start to the positions where it may end.

Owns: `Glob.Piece`, `Glob.parse`, `Glob.accepts`, `Glob.acceptsAny`.
-/

namespace ProjectIndex.Glob

open ProjectIndex.Text

/-- One piece of a pattern. -/
inductive Piece where
  /-- Empty, or any text without a newline that ends in `/`. -/
  | anyDirs
  /-- Any text without a newline. -/
  | anyText
  /-- Any text without `/`. -/
  | anySegment
  /-- One character other than `/`. -/
  | oneChar
  /-- One of the listed texts. -/
  | choice (options : List String)
  /-- The character itself. -/
  | literal (c : Char)
deriving DecidableEq, Repr

/-- The position of the first `c` in `cs`. -/
def indexOf? (c : Char) (cs : List Char) : Option Nat :=
  cs.findIdx? (· == c)

/-- Read a pattern into pieces. -/
def parseChars : List Char → List Piece
  | [] => []
  | '*' :: '*' :: '/' :: rest => .anyDirs :: parseChars rest
  | '*' :: '*' :: rest => .anyText :: parseChars rest
  | '*' :: rest => .anySegment :: parseChars rest
  | '?' :: rest => .oneChar :: parseChars rest
  | '{' :: rest =>
    match indexOf? '}' rest with
    | some k =>
      let body := String.ofList (rest.take k)
      .choice ((body.splitOn ",").map trimBlanks) :: parseChars (rest.drop (k + 1))
    | none => .literal '{' :: parseChars rest
  | c :: rest => .literal c :: parseChars rest
termination_by cs => cs.length
decreasing_by all_goals simp_all <;> omega

/-- The pieces of a pattern. -/
def parse (pattern : String) : List Piece :=
  parseChars pattern.toList

/-- Positions `q ≥ p` such that no character in `[p, q)` satisfies `stop`. -/
def reachWithout (s : Array Char) (stop : Char → Bool) (p : Nat) : List Nat :=
  let run := ((s.toList.drop p).takeWhile fun c => !stop c).length
  (List.range (run + 1)).map (p + ·)

/-- The text `t` stands in `s` at position `p`. -/
def occursAt (s : Array Char) (p : Nat) (t : String) : Bool :=
  (s.toList.drop p).take t.length == t.toList

/-- The positions where a piece may end when it starts at `p`. -/
def Piece.ends (s : Array Char) (p : Nat) : Piece → List Nat
  | .anyDirs =>
    p :: ((reachWithout s (· == '\n') p).filter fun q => q > p && s[q - 1]? == some '/')
  | .anyText => reachWithout s (· == '\n') p
  | .anySegment => reachWithout s (· == '/') p
  | .oneChar => match s[p]? with
    | some c => if c == '/' then [] else [p + 1]
    | none => []
  | .choice options => (options.filter (occursAt s p)).map (p + ·.length)
  | .literal c => if s[p]? == some c then [p + 1] else []

/-- Add positions to a sorted list without repeats. -/
def insertPositions (acc : List Nat) (ps : List Nat) : List Nat :=
  ps.foldl (fun acc q => if acc.contains q then acc else acc ++ [q]) acc

/-- The positions where a run of pieces may end, starting from any of `starts`. -/
def runPieces (s : Array Char) (starts : List Nat) : List Piece → List Nat
  | [] => starts
  | piece :: rest =>
    runPieces s (starts.foldl (fun acc p => insertPositions acc (piece.ends s p)) []) rest

/-- The path matches the pieces: they cover all of it, or all but one final newline. -/
def acceptsPieces (pieces : List Piece) (path : String) : Bool :=
  let s := path.toList.toArray
  let ends := runPieces s [0] pieces
  ends.contains s.size || (s.size > 0 && s[s.size - 1]? == some '\n' && ends.contains (s.size - 1))

/-- The path matches the pattern. -/
def accepts (pattern : String) (path : String) : Bool :=
  acceptsPieces (parse pattern) path

/-- The path matches one of the patterns. -/
def acceptsAny (patterns : List String) (path : String) : Bool :=
  patterns.any fun pattern => accepts pattern path

end ProjectIndex.Glob
