import ProjectIndex.Text.WordChar

/-!
A small language of text patterns, matched by backtracking.

A pattern is built from keywords matched without regard to ASCII case, single characters, runs of
characters of a class (at least some number of them, as many as possible or as few as possible),
word boundaries, optional parts, alternatives, sequences and numbered captures. Matching tries the
alternatives in order and the run lengths in the order their greed says, and stops at the first
way that matches the whole pattern, so the captures are those of that first way.

Owns: `Pattern`, `Pattern.matchAt`, `Pattern.search`, `Pattern.findAll`, `Captures`.
-/

namespace ProjectIndex.Text

/-- A text pattern. -/
inductive Pattern where
  /-- An ASCII word, compared without regard to case. -/
  | keyword (w : String)
  /-- One given character. -/
  | char (c : Char)
  /-- A run of at least `least` characters of a class; `greedy` tries the longest run first. -/
  | run (cls : Char → Bool) (least : Nat) (greedy : Bool)
  /-- A place between a word character and a character that is none, or the reverse. -/
  | boundary
  /-- The pattern, or nothing; the pattern is tried first. -/
  | optional (p : Pattern)
  /-- The first pattern, or else the second. -/
  | alt (p q : Pattern)
  /-- One pattern after the other. -/
  | seq (p q : Pattern)
  /-- The text the pattern matches, recorded under a number. -/
  | capture (index : Nat) (p : Pattern)

/-- Captured texts: number, start and end position. -/
abbrev Captures := List (Nat × Nat × Nat)

namespace Pattern

/-- A sequence of patterns. -/
def all : List Pattern → Pattern
  | [] => .optional (.keyword "")
  | [p] => p
  | p :: ps => .seq p (all ps)

/-- The length of the run of characters of a class from `pos`. -/
def runLength (s : Array Char) (cls : Char → Bool) (pos : Nat) : Nat :=
  go pos (s.size - pos) 0
where
  /-- Count from `i`, with `fuel` characters left to look at. -/
  go (i : Nat) : Nat → Nat → Nat
    | 0, n => n
    | fuel + 1, n =>
      match s[i]? with
      | some c => if cls c then go (i + 1) fuel (n + 1) else n
      | none => n

/-- The character `a` matches the ASCII letter or symbol `b` when case is ignored. Besides the
ASCII case pairs, long s matches `s`, the Kelvin sign matches `k`, and dotless i and capital I
with dot match `i`. -/
def sameIgnoringCase (a b : Char) : Bool :=
  a.toUpper == b.toUpper ||
    (b.toUpper == 'S' && a.toNat == 0x17F) ||
    (b.toUpper == 'K' && a.toNat == 0x212A) ||
    (b.toUpper == 'I' && (a.toNat == 0x131 || a.toNat == 0x130))

/-- The characters at `pos` spell `w`, case aside. -/
def keywordAt (s : Array Char) (pos : Nat) (w : String) : Bool :=
  (w.toList.zipIdx).all fun (b, i) =>
    match s[pos + i]? with
    | some a => sameIgnoringCase a b
    | none => false

/-- A word character stands right before `pos`, or at it. -/
def wordBefore (s : Array Char) (pos : Nat) : Bool :=
  pos > 0 && (s[pos - 1]?.map isWordChar).getD false

/-- A word character stands at `pos`. -/
def wordAt (s : Array Char) (pos : Nat) : Bool :=
  (s[pos]?.map isWordChar).getD false

/-- Match `p` at `pos`, then hand the end position and captures to `k`; the first answer of `k`
wins. -/
def matchWith (s : Array Char) : Pattern → Nat → Captures → (Nat → Captures → Option α) → Option α
  | .keyword w, pos, caps, k => if keywordAt s pos w then k (pos + w.length) caps else none
  | .char c, pos, caps, k => if s[pos]? == some c then k (pos + 1) caps else none
  | .run cls least greedy, pos, caps, k =>
    let most := runLength s cls pos
    if most < least then none
    else
      let lengths := (List.range (most - least + 1)).map (least + ·)
      let order := if greedy then lengths.reverse else lengths
      order.findSome? fun n => k (pos + n) caps
  | .boundary, pos, caps, k => if wordBefore s pos != wordAt s pos then k pos caps else none
  | .optional p, pos, caps, k =>
    match matchWith s p pos caps k with
    | some r => some r
    | none => k pos caps
  | .alt p q, pos, caps, k =>
    match matchWith s p pos caps k with
    | some r => some r
    | none => matchWith s q pos caps k
  | .seq p q, pos, caps, k => matchWith s p pos caps fun mid caps' => matchWith s q mid caps' k
  | .capture i p, pos, caps, k =>
    matchWith s p pos caps fun stop caps' => k stop ((i, pos, stop) :: caps')

/-- A match: where it starts and ends, and its captures. -/
structure Match where
  start : Nat
  stop : Nat
  captures : Captures

/-- The text of capture `i`, when it took part in the match. -/
def Match.group? (m : Match) (s : Array Char) (i : Nat) : Option String :=
  (m.captures.find? (·.1 == i)).map fun (_, a, b) => String.ofList ((s.toList.drop a).take (b - a))

/-- The first way `p` matches at `pos`. -/
def matchAt (p : Pattern) (s : Array Char) (pos : Nat) : Option Match :=
  matchWith s p pos [] fun stop caps => some ⟨pos, stop, caps⟩

/-- The first match of `p` at or after `pos`. -/
def searchFrom (p : Pattern) (s : Array Char) (pos : Nat) : Option Match :=
  (List.range (s.size + 1 - pos)).findSome? fun i => p.matchAt s (pos + i)

/-- The first match of `p` in a text. -/
def search (p : Pattern) (s : Array Char) : Option Match :=
  p.searchFrom s 0

/-- The matches of `p` left to right, each search starting where the previous match ended;
`fuel` bounds their number. -/
def findAllFrom (p : Pattern) (s : Array Char) : Nat → Nat → List Match
  | 0, _ => []
  | fuel + 1, pos =>
    match p.searchFrom s pos with
    | some m => m :: findAllFrom p s fuel (if m.stop > m.start then m.stop else m.stop + 1)
    | none => []

/-- All matches of `p` in a text, left to right and without overlap. -/
def findAll (p : Pattern) (s : Array Char) : List Match :=
  p.findAllFrom s (s.size + 1) 0

end Pattern

end ProjectIndex.Text
