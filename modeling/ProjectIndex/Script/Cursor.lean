import ProjectIndex.Script.Tree
import ProjectIndex.Script.Token
import ProjectIndex.Source.Language

/-!
The reading position of the script parser and its primitive steps.

A parse runs over the source characters with the grammar in hand and a cursor: the position where
the next token's blanks begin, and the end of the last token taken. It either goes on or is stuck
at a position, and a stuck attempt can be withdrawn, which puts the cursor back where it was.
Tokens are scanned afresh each time they are looked at, so backing up costs nothing to undo.

The steps here take one token and make a leaf of it: an anonymous leaf whose kind is its text
(`(`, `const`), or a named leaf of a given kind (`identifier`, `number`). Constructs are made by
`build`, which spans the children it is given. `manyOf` repeats a step while it succeeds and the
input lasts, and `semicolon` ends a statement with a `;` or, where a line break, a closing brace
or the end of the source follows, with none.

Owns: `Source`, `Cursor`, `Stuck`, `Parse`, `peek`, `bump`, `attempt`, `build`, `manyOf`,
`semicolon`, `commaSeparated`, `closer`.
-/

namespace ProjectIndex.Script

/-- The text under parse, the grammar that reads it, and where in the text the parse stands. -/
structure Source where
  chars : Array Char
  grammar : Grammar
  /-- Whether the parse recovers inside constructs: set when a statement is read a second time
  after it failed as it stands. -/
  lenient : Bool := false
  /-- Whether the statement list being read may hold exports: that of the program or of a
  module body. -/
  exportScope : Bool := true
  /-- Whether a block opened here, once closed, leaves the parse where an export may come next,
  so that a missing brace may close it before one. -/
  closableBlock : Bool := true
  /-- Whether the block opened next is the body of a module. -/
  moduleBlock : Bool := false
  /-- Whether the object type read next is the body of an interface declaration. -/
  declarationBody : Bool := false
  /-- Whether constructs left open at the end of the source are closed there by missing tokens:
  set when a statement is read again on the source cut off where its recovery gave up, to find
  what it had completed by then. -/
  closeAtEnd : Bool := false

/-- Where the parser stands. -/
structure Cursor where
  /-- Where the blanks before the next token begin. -/
  pos : Nat
  /-- The end of the last token taken. -/
  last : Nat
  /-- The start of a word that is read as a name whatever it spells: a token that was read where
  no rule could take it, before a missing token was inserted ahead of it, keeps that reading.
  Taking a token clears it. -/
  nameAt : Option Nat := none
deriving Inhabited

/-- The position at which a parse could not go on. A parse that met a token that only a list of
exports can take gets stuck for good: `resume` then names where that token starts, no other
reading of the text is tried, and the nearest list that can take the token wraps everything
from the start of its item up to there in an error. A parse that met text after which recovery
never returns also gets stuck for good, at the end of the source, and `cut` names where that
text starts. -/
structure Stuck where
  position : Nat
  resume : Option Nat := none
  cut : Option Nat := none
deriving Inhabited

/-- A parse: reads the source, moves the cursor, and may get stuck. -/
abbrev Parse := ReaderT Source (StateT Cursor (Except Stuck))

namespace Token

/-- Whether the token is the punctuator `p`. -/
def isPunct (t : Token) (p : String) : Bool := t.lexeme == .punct p

/-- Whether the token is the word `w`. -/
def isWord (t : Token) (w : String) : Bool := t.lexeme == .word w

/-- The token's text when it is a word. -/
def word? (t : Token) : Option String :=
  match t.lexeme with
  | .word w => some w
  | _ => none

/-- Whether the token is a word. -/
def isAnyWord (t : Token) : Bool := t.word?.isSome

/-- Whether the token is the end of the source. -/
def isEnd (t : Token) : Bool := t.lexeme == .eof

/-- An anonymous leaf for the token, whose kind is the given text. -/
def anon (t : Token) (text : String) : Node :=
  { kind := text, named := false, start := t.start, stop := t.stop }

/-- A named leaf of the given kind for the token. -/
def leaf (t : Token) (kind : String) : Node := { kind := kind, start := t.start, stop := t.stop }

end Token

/-- The grammar in use. -/
def grammar : Parse Grammar := return (← read).grammar

/-- Whether the grammar has types. -/
def typed : Parse Bool := return (← grammar) != .javascript

/-- Whether the grammar has elements. -/
def markupAllowed : Parse Bool := return (← grammar) != .typescript

/-- The next token, not taken. -/
def peek : Parse Token := do
  return scanToken (← read).chars (← get).pos

/-- The token after the given one. -/
def peekAfter (t : Token) : Parse Token := do
  return scanToken (← read).chars t.stop

/-- Takes the next token. -/
def bump : Parse Token := do
  let t ← peek
  set ({ pos := t.stop, last := t.stop } : Cursor)
  return t

/-- Moves the cursor to just after a position the caller has scanned to. -/
def jumpTo (pos : Nat) : Parse Unit := set ({ pos := pos, last := pos } : Cursor)

/-- Gets stuck at the next token. -/
def stuck {α : Type} : Parse α := do
  let t ← peek
  throw { position := t.start }

/-- Gets stuck for good before the token at `pos`, which only a list of exports can take. -/
def stuckBefore {α : Type} (pos : Nat) : Parse α := throw { position := pos, resume := some pos }

/-- Runs a parse, or backs up to where it started and gives `none` when it gets stuck; being stuck
for good goes on up. -/
def attempt {α : Type} (p : Parse α) : Parse (Option α) :=
  tryCatch (some <$> p) (fun e => if e.resume.isSome then throw e else pure none)

/-- The first of two parses that does not get stuck; being stuck for good goes on up. -/
def orElse {α : Type} (p q : Parse α) : Parse α :=
  tryCatch p (fun e => if e.resume.isSome then throw e else q)

/-- Runs a parse, telling how it ended: with a result, or where and how it got stuck. -/
def attemptResuming {α : Type} (p : Parse α) : Parse (Except Stuck α) :=
  tryCatch (.ok <$> p) (fun e => pure (.error e))

/-- Whether the source ends here and constructs left open are closed by missing tokens. -/
def closingAtEnd : Parse Bool := return (← read).closeAtEnd && (← peek).isEnd

/-- Whether the parse recovers inside constructs. -/
def recovering : Parse Bool := return (← read).lenient

/-- Runs a parse with recovery inside constructs. -/
def leniently {α : Type} (p : Parse α) : Parse α := withReader ({ · with lenient := true }) p

/-- Runs a parse where a block opened may, or may not, be closed by a missing brace before an
export. -/
def withClosableBlocks {α : Type} (closable : Bool) (p : Parse α) : Parse α :=
  withReader ({ · with closableBlock := closable }) p

/-- A construct spanning its children. -/
def build (kind : String) (children : List Node) : Node :=
  let start := (children.head?.map (·.start)).getD 0
  let stop := (children.getLast?.map (·.stop)).getD start
  { kind := kind, start := start, stop := stop, children := children }

/-- An error node wrapping the given nodes. An error gives its children no fields: the pieces
it holds are no longer parts of the constructs they were read for. -/
def errorNode (children : List Node) : Node :=
  { build "ERROR" (children.map fun c => { c with field := none }) with mark := .error }

/-- Takes the punctuator `p` as an anonymous leaf, or gets stuck. -/
def punct (p : String) : Parse Node := do
  let t ← peek
  if t.isPunct p then
    let _ ← bump
    return t.anon p
  else stuck

/-- Takes the punctuator `p` when it comes next. -/
def punct? (p : String) : Parse (Option Node) := do
  if (← peek).isPunct p then some <$> punct p else return none

/-- Takes the keyword `w` as an anonymous leaf, or gets stuck. -/
def keyword (w : String) : Parse Node := do
  let t ← peek
  if t.isWord w then
    let _ ← bump
    return t.anon w
  else stuck

/-- Takes the keyword `w` when it comes next. -/
def keyword? (w : String) : Parse (Option Node) := do
  if (← peek).isWord w then some <$> keyword w else return none

/-- Takes any word as a named leaf of the given kind, or gets stuck. -/
def wordAs (kind : String) : Parse Node := do
  let t ← peek
  if t.isAnyWord then
    let _ ← bump
    return t.leaf kind
  else stuck

/-- Takes the next token as a named leaf of the given kind. -/
def tokenAs (kind : String) : Parse Node := do
  let t ← bump
  return t.leaf kind

/-- The end of the last comment in the blanks and comments starting at `pos`, or `pos` itself
when there is none. -/
def lastCommentEnd (src : Array Char) (pos : Nat) : Nat :=
  let (next, _) := skipTrivia src pos false true
  let rec back (k : Nat) (e : Nat) : Nat :=
    match k with
    | 0 => e
    | k + 1 => if e > pos && (src[e - 1]?.map isBlank).getD false then back k (e - 1) else e
  back (next - pos) next

/-- A token the source lacks, of the given text, placed just after the last token taken and the
comments after it. -/
def missingToken (text : String) : Parse Node := do
  let place := lastCommentEnd (← read).chars (← get).last
  return { kind := text, named := false, start := place, stop := place, mark := .missing }

/-- Takes a single `>` character, even where the scanner would read a longer punctuator such as
`>>` or `>=`; used to close type argument lists. Missing where the source ends and constructs
left open are closed. -/
def closeAngle : Parse Node := do
  let t ← peek
  if (← read).chars[t.start]? == some '>' then
    jumpTo (t.start + 1)
    return { kind := ">", named := false, start := t.start, stop := t.start + 1 }
  else if ← closingAtEnd then missingToken ">"
  else stuck

/-- Repeats a step while it gives a result, at most `n` times. -/
def manyUpTo {α : Type} (step : Parse (Option α)) : Nat → Parse (List α)
  | 0 => pure []
  | n + 1 => do
    match ← step with
    | none => pure []
    | some a => return a :: (← manyUpTo step n)

/-- Repeats a step while it gives a result; every round must take input, so the length of the
rest of the source bounds the rounds. -/
def manyOf {α : Type} (step : Parse (Option α)) : Parse (List α) := do
  let n := (← read).chars.size + 1 - (← get).pos
  manyUpTo step n

/-- Whether a statement may end before this token without a semicolon: a line break precedes it,
or it is a closing brace or the end of the source. -/
def Token.endsStatement (t : Token) : Bool :=
  t.lineBefore || ((t.isPunct "\x7d" || t.isEnd) && t.plainBefore)

/-- Whether a line break before this token ends a statement that could end there, as automatic
semicolons are inserted: the token does not go on an expression from the line before. Tokens that
begin with one of `, . : ; * % > < = [ ( ? ^ | & /` go on, and so do a binary `+` or `-`, `!=`, `in`
and `instanceof`; `++`, `--`, a unary `!` and every other token end the statement. -/
def Token.breakEnds (t : Token) : Bool :=
  t.lineBefore &&
    match t.lexeme with
    | .punct p =>
      match p.toList with
      | c :: rest =>
        if ",.:;*%><=[(?^|&/".toList.contains c then false
        else if c == '+' then rest.head? == some '+'
        else if c == '-' then rest.head? == some '-'
        else if c == '!' then rest.head? != some '='
        else true
      | [] => true
    | .word w => w != "in" && w != "instanceof"
    | _ => true

/-- A leaf for a token skipped in recovery. -/
def skippedLeaf (t : Token) : Node :=
  match t.lexeme with
  | .word _ => t.leaf "identifier"
  | .number => t.leaf "number"
  | .string => t.leaf "string"
  | .privateName => t.leaf "private_property_identifier"
  | .punct p => t.anon p
  | .backquote => t.anon "`"
  | _ => t.anon ""

/-- The punctuator `p`; with recovery, also after one stray token that stands before it, which
is skipped into an error. Skipping the token costs 500, 100 for the token and one for each of its
bytes, and the construct reads on with `p`; inserting a token instead costs 610 and leaves the
stray token still to be dealt with. Where the source ends and constructs left open are closed,
`p` is missing. -/
def punctAfterStray (p : String) : Parse (List Node) := do
  let t ← peek
  let src := (← read).chars
  if t.isPunct p then return [← punct p]
  else if ← closingAtEnd then return [← missingToken p]
  else if !(← recovering) || t.isEnd || t.lexeme == .unknown || t.lexeme == .backquote then stuck
  else if t.isPunct "\x7b" || t.isPunct "\x7d" || t.isPunct ";" then stuck
  else if (scanToken src t.stop).isPunct p then
    let _ ← bump
    return [errorNode [skippedLeaf t], ← punct p]
  else stuck

/-- The tokens from here up to the brace that closes the construct they stand in, which is not
taken; braces opened on the way are closed first. Stuck when the source ends before that brace. -/
def tokensToBrace : Parse (List Token) := do
  go 0 [] ((← read).chars.size + 1)
where
  /-- Takes tokens, with `depth` braces open, onto `acc` in reverse. -/
  go (depth : Nat) (acc : List Token) : Nat → Parse (List Token)
    | 0 => stuck
    | fuel + 1 => do
      let t ← peek
      if t.isEnd then stuck
      else if t.isPunct "\x7d" && depth == 0 then return acc.reverse
      else
        let _ ← bump
        let d := if t.isPunct "\x7b" then depth + 1
          else if t.isPunct "\x7d" then depth - 1 else depth
        go d (t :: acc) fuel

/-- The cost of recovering by inserting one missing token. -/
def missingTokenCost : Nat := 610

/-- The cost of recovering by wrapping pieces in an error: a fixed part, then each piece, each
byte and each line break they span. -/
def wrapCost (src : Array Char) (start stop pieces : Nat) : Nat :=
  let span := (List.range (stop - start)).filterMap fun i => src[start + i]?
  500 + 100 * pieces + span.foldr (fun c bytes => c.utf8Size + bytes) 0 + 30 * span.count '\n'

/-- Whether a line break stands between the positions `a` and `b`, in blanks or in a comment. -/
def breaksBetween (src : Array Char) (a b : Nat) : Bool :=
  (List.range (b - a)).any fun i => src[a + i]? == some '\n'

/-- The tokens from `pos` that stand before the end of a statement on its line: at most `n` of
them, none a `;`, a brace or text that is no token, none after a line break. -/
def strayRun (src : Array Char) (pos : Nat) : Nat → List Token
  | 0 => []
  | n + 1 =>
    let t := scanToken src pos
    if t.endsStatement || breaksBetween src pos t.start || t.isPunct ";" || t.isPunct "\x7b" ||
        t.isPunct "\x7d" || t.lexeme == .unknown then []
    else t :: strayRun src t.stop n

/-- Whether a token may begin a statement of its own after a missing `;`. -/
def Token.beginsStatement (t : Token) : Bool :=
  t.isAnyWord || t.lexeme == .number || t.lexeme == .string

/-- Whether, without types, a stray token opens a declaration or a module statement, which no
expression can begin: `let`, `const`, `var`, `export`, or `import` without `(` or `.` after it. -/
def opensDeclarationOnly (src : Array Char) (t : Token) : Bool :=
  match t.word? with
  | some w =>
    ["let", "const", "var", "export"].contains w ||
      (w == "import" && !((scanToken src t.stop).isPunct "(" || (scanToken src t.stop).isPunct "."))
  | none => false

/-- With recovery, the end of a statement that stray tokens stand before on its line. Without
types, a `;` is missing before a token that opens a declaration only, and the declaration goes
on as the next statement. Otherwise, where a `;` or a line break comes after them, the tokens are
wrapped in an error and the statement ends there. Before the end of the source nothing can end
the statement, since no statement that needs its `;` can stand before it: the parse is stuck. -/
def strayEnd : Parse (List Node) := do
  let src := (← read).chars
  let run := strayRun src (← get).pos 8
  match run.head?, run.getLast? with
  | some first, some last =>
    if !(← typed) && opensDeclarationOnly src first then return [← missingToken ";"]
    let after := scanToken src last.stop
    if after.isEnd || !(after.isPunct ";" || after.endsStatement) then stuck
    else
      jumpTo last.stop
      let err := errorNode (run.map skippedLeaf)
      if after.isPunct ";" then return [err, ← punct ";"] else return [err]
  | _, _ => stuck

/-- Ends a statement: a `;` leaf, or nothing where a statement may end without one. With recovery,
stray tokens before the end are dealt with by `strayEnd`. -/
def semicolon : Parse (List Node) := do
  let t ← peek
  if t.isPunct ";" then return [← punct ";"]
  else if t.endsStatement then return []
  else if ← recovering then strayEnd
  else stuck

/-- The tokens from here up to the position `p`, wrapped in an error. -/
def wrapUpTo (p : Nat) : Parse Node := do
  let ts ← manyOf (do
    let t ← peek
    if t.isEnd || t.start ≥ p then return none
    else
      let _ ← bump
      return some t)
  return errorNode (ts.map skippedLeaf)

/-- The start of the next `;` token from `pos`, if one comes before the end of the source. -/
def semicolonAhead? (src : Array Char) (pos : Nat) : Option Nat :=
  go pos (src.size + 1)
where
  /-- Scans on from `p`. -/
  go (p : Nat) : Nat → Option Nat
    | 0 => none
    | fuel + 1 =>
      let t := scanToken src p
      if t.isEnd then none
      else if t.isPunct ";" then some t.start
      else go (max t.stop (p + 1)) fuel

/-- In recovery, the tokens from here up to the next `;`, wrapped in an error; the text between
is lost to the construct being read, and the `;` ends the statement around it. Stuck when no `;`
comes before the end of the source. -/
def wrapToSemicolon : Parse Node := do
  match semicolonAhead? (← read).chars (← get).pos with
  | some p => wrapUpTo p
  | none => stuck

/-- Whether the token is a punctuator that begins with `>`, which closes an angle-bracketed list
even when the scanner joined it with what follows. -/
def Token.opensWithAngle (t : Token) : Bool :=
  match t.lexeme with
  | .punct p => p.startsWith ">"
  | _ => false

/-- Items separated by commas up to the punctuator `close`, which is not taken. A trailing comma
is allowed, and with `holes` so are empty places. The list also ends before a token that `ends`
accepts and that begins no item, where the caller then finds its closer missing. -/
def commaSeparatedUntil (item : Parse Node) (close : String) (holes : Bool) (ends : Token → Bool) :
    Parse (List Node) := do
  let chunks ← manyOf (do
    let t ← peek
    let next (x : Node) : Parse (Option (List Node)) := do
      let t2 ← peek
      if t2.isPunct "," then return some [x, ← punct ","]
      else if t2.isPunct close || ends t2 then return some [x]
      else stuck
    if t.isPunct close || t.isEnd then return none
    else if t.isPunct "," then
      if holes then return some [← punct ","] else stuck
    else if ends t then
      match ← attempt item with
      | some x => next x
      | none => return none
    else next (← item))
  return chunks.flatten

/-- Items separated by commas up to the punctuator `close`, which is not taken, read with
recovery; with `holes` empty places are allowed, and otherwise a comma that begins a place is an
error. An item that cannot be read has its first token wrapped in an
error, unless `keeps` accepts that token: the list is then stuck there. Where another item follows
an item without a comma between them, the first item is wrapped in an error, and the list goes
on; when that item is a method, which nothing can continue, everything read of the list so far is
wrapped instead. The list ends before `close`, before a token that `ends` accepts after an item,
or at the end of the source. -/
def commaSeparatedLeniently (item : Parse Node) (close : String) (holes : Bool)
    (ends keeps : Token → Bool) : Parse (List Node) := do
  go [] ((← read).chars.size + 1)
where
  /-- Goes on with the list read so far. -/
  go (acc : List Node) : Nat → Parse (List Node)
    | 0 => pure acc
    | fuel + 1 => do
      let t ← peek
      if t.isPunct close || t.isEnd then return acc
      else if t.isPunct "," then
        let c ← punct ","
        go (acc ++ [if holes then c else errorNode [c]]) fuel
      else
        match ← attempt item with
        | none =>
          if keeps t then stuck
          else
            let bad ← bump
            go (acc ++ [errorNode [skippedLeaf bad]]) fuel
        | some x =>
          let t2 ← peek
          if t2.isPunct "," then
            let c ← punct ","
            go (acc ++ [x, c]) fuel
          else if t2.isPunct close || t2.isEnd || ends t2 then return acc ++ [x]
          else if x.kind == "method_definition" then go [errorNode (acc ++ [x])] fuel
          else go (acc ++ [errorNode [x]]) fuel

/-- Items separated by commas up to the punctuator `close`, which is not taken. A trailing comma
is allowed, and with `holes` so are empty places. -/
def commaSeparated (item : Parse Node) (close : String) (holes : Bool) : Parse (List Node) :=
  commaSeparatedUntil item close holes fun _ => false

/-- Takes the punctuator `p` that closes a construct. When instead the next token is one that
`ends` accepts and the construct holds something (`filled`), inserting `p` is the cheapest
repair, so `p` is missing there, as it is where the source ends and constructs left open are
closed; otherwise the parse is stuck. -/
def closer (p : String) (filled : Bool) (ends : Token → Bool) : Parse Node := do
  let t ← peek
  if t.isPunct p then punct p
  else if (filled && ends t) || (← closingAtEnd) then missingToken p
  else stuck

/-- The closing brace of a body, missing when the source ends first. -/
def closeBrace : Parse Node := closer "\x7d" true Token.isEnd

/-- A node under a field, when present, as a list. -/
def fielded (name : String) (o : Option Node) : List Node := (o.map (·.withField name)).toList

end ProjectIndex.Script
