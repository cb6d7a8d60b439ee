import ProjectIndex.Script.Syntax.Statement

/-!
Parsing a whole script into its tree.

The rules are filled into their record level by level: each rule at one level calls the rules of
the level below, and the record below is only made when a rule is run. A source of `n`
characters gets `32 * n + 256` levels, more than any nesting it can hold needs.

A program is an optional `#!` line and a list of statements. A function declaration ending the
program whose body was closed by a missing brace is read as an expression statement holding a
function expression, as the grammar's recovery does there. A last statement left unfinished by
the end of the source keeps its missing tokens only when inserting them costs less than wrapping
the program in an error; otherwise it is wrapped, alone when that is cheaper than one insertion,
and else with the whole program, which is then an error itself (`settleOpenEnd`). A statement
whose recovery gave up further from the program than recovery reaches makes the program an error
as well (`programStatements`).

Comments are placed last. Every gap between two tokens of the tree holds only blanks and
comments; each comment goes into the deepest node that has children on both sides of it, or into
the program when none has.

Owns: `Rules.tie`, `parseTree`, `settleOpenEnd`, `programStatements`, `commentsBetween`,
`Node.placeComment`.
-/

namespace ProjectIndex.Script

/-- One level of rules, calling the level that `below` makes. -/
def Rules.step (below : Unit → Rules) : Rules where
  statement := fun s c => statementRule (below ()) s c
  block := fun s c => blockRule (below ()) s c
  expressions := fun s c => expressionsRule (below ()) s c
  expression := fun s c => expressionRule (below ()) s c
  binary := fun level s c => binaryRule (below ()) level s c
  unary := fun s c => unaryRule (below ()) s c
  operand := fun s c => operandRule (below ()) s c
  primary := fun s c => primaryRule (below ()) s c
  typeExpr := fun s c => typeRule (below ()) s c
  typeOperand := fun s c => typeOperandRule (below ()) s c
  typeArguments := fun s c => typeArgumentsRule (below ()) s c
  typeParameters := fun s c => typeParametersRule (below ()) s c
  objectType := fun s c => objectTypeRule (below ()) s c
  pattern := fun s c => patternRule (below ()) s c
  parameters := fun s c => parametersRule (below ()) s c
  classBody := fun s c => classBodyRule (below ()) s c
  markup := fun s c => markupRule (below ()) s c

/-- The rules with `n` levels of nesting. -/
def Rules.tie : Nat → Rules
  | 0 => Rules.exhausted
  | n + 1 => Rules.step (fun _ => Rules.tie n)

/-- Whether a node's last child is a missing token. -/
def Node.endsMissing (n : Node) : Bool :=
  match n.children.getLast? with
  | some c => c.mark == .missing
  | none => false

/-- A top-level function declaration whose body was closed by a missing brace, read as an
expression statement holding a function expression. -/
def reinterpretOpenFunction (n : Node) : Node :=
  let open? := match n.child? "body" with
    | some body => body.endsMissing
    | none => false
  if open? && n.kind == "function_declaration" then
    build "expression_statement" [n.rename "function_expression"]
  else if open? && n.kind == "generator_function_declaration" then
    build "expression_statement" [n.rename "generator_function"]
  else n

/-- How the last statement of a program, left unfinished by the end of the source, is read. -/
inductive OpenEnd where
  /-- The statement stands, with the tokens it lacks supplied. -/
  | kept (s : Node)
  /-- The pieces parsed of it are wrapped in an error, the program's last item. -/
  | wrapped (pieces : List Node)
  /-- The whole program is one error, holding the items before and the pieces parsed of it. -/
  | whole (pieces : List Node)

/-- Kinds of functions and classes written as expressions. A statement may go on after such a
construct, past a line break, so the state after its closing brace does not take the end of the
source: a body of one left open there cannot be closed by a missing brace. -/
def expressionBodyKinds : List String :=
  ["arrow_function", "function_expression", "generator_function", "class"]

/-- Whether a statement holds a construct that a missing brace cannot close at the end of the
source: the body of a function or class written as an expression, or an object type other than
the body of an interface. -/
def Node.closableAtEnd (s : Node) : Bool :=
  !s.walk.any fun n =>
    (expressionBodyKinds.contains n.kind &&
      (n.children.getLast?.map Node.endsMissing).getD false) ||
    (n.kind == "object_type" && n.endsMissing)

/-- The last statement of a program left unfinished at the end of the source, as the grammar's
recovery reads it; `before` are the items before it, and `gapStart` is where the blanks after
them begin. Recovery may insert the tokens it lacks, each for 610; pop back to the program,
wrapping what was parsed of it in an error (500, 100 for each piece, 1 for each byte and 30 for
each line from `gapStart`); or wrap the whole program in an error. The pop is given up as soon as an insertion
costs less, and the insertions go on only while they cost less than the whole wrap: so a brace
that cannot close its body at the end, or insertions dearer than the whole wrap, make the whole
program an error. A statement that already holds an error stays as it is. -/
def settleOpenEnd (src : Array Char) (before : List Node) (gapStart : Nat) (s : Node) : OpenEnd :=
  let nodes := s.walk
  if nodes.any (·.mark == .error) then .kept s
  else
    let tokens := nodes.filter fun n => n.children.isEmpty && n.mark != .missing
    let lastEnd := ((tokens.getLast?).map (·.stop)).getD s.start
    let gaps := nodes.filter fun n => n.mark == .missing && n.start ≥ lastEnd
    if gaps.isEmpty then .kept s
    else
      let pieces := s.openPieces nodes.length
      let closing := gaps.all fun n => n.kind == "\x7d" || n.kind == ";"
      let rootStart := spanWhile src isBlank 0
      let popCost := wrapCost src gapStart lastEnd pieces.length
      let wholeCost := wrapCost src rootStart lastEnd (before.length + pieces.length)
      if !closing || popCost ≤ missingTokenCost then .wrapped pieces
      else if s.closableAtEnd && missingTokenCost * gaps.length ≤ wholeCost then .kept s
      else .whole pieces

/-- The comments in the blanks and comments from `pos` up to `stop`. -/
def commentsBetween (src : Array Char) (pos stop : Nat) : Nat → List Node
  | 0 => []
  | fuel + 1 =>
    let p := spanWhile src isBlank pos
    if p + 1 < stop && src[p]? == some '/' && src[p + 1]? == some '/' then
      let e := lineEnd src (p + 2)
      { kind := "comment", start := p, stop := e } :: commentsBetween src e stop fuel
    else if p + 1 < stop && src[p]? == some '/' && src[p + 1]? == some '*' then
      match blockCommentEnd? src (p + 2) false with
      | some (e, _) =>
        if e ≤ stop then { kind := "comment", start := p, stop := e } :: commentsBetween src e stop fuel
        else []
      | none => []
    else []

mutual
/-- The leaves of a tree, in order. -/
def Node.leaves : Node → List Node
  | n@⟨_, _, _, _, _, _, []⟩ => [n]
  | ⟨_, _, _, _, _, _, c :: cs⟩ => Node.leavesAll (c :: cs)
/-- The leaves of a list of trees, in order. -/
def Node.leavesAll : List Node → List Node
  | [] => []
  | c :: cs => c.leaves ++ Node.leavesAll cs
end

/-- Puts a node among others by its start, keeping them in order. -/
def insertByStart (c : Node) : List Node → List Node
  | [] => [c]
  | x :: xs => if c.start < x.start then c :: x :: xs else x :: insertByStart c xs

mutual
/-- The node with the comment placed inside it, when some node of it has children on both sides
of the comment. -/
def Node.placeComment : Node → Node → Option Node
  | ⟨k, nm, f, s, e, m, cs⟩, c =>
    match Node.placeInChildren c cs with
    | some cs' => some ⟨k, nm, f, s, e, m, cs'⟩
    | none =>
      match cs.head?, cs.getLast? with
      | some first, some last =>
        if first.stop ≤ c.start && c.stop ≤ last.start then
          some ⟨k, nm, f, s, e, m, insertByStart c cs⟩
        else none
      | _, _ => none
/-- The children with the comment placed inside the one that covers it. -/
def Node.placeInChildren (c : Node) : List Node → Option (List Node)
  | [] => none
  | x :: xs =>
    if x.start ≤ c.start && c.stop ≤ x.stop then
      (Node.placeComment x c).map (· :: xs)
    else (Node.placeInChildren c xs).map (x :: ·)
end

/-- Places a comment in the tree, in the program itself when no node takes it. -/
def placeInProgram (program : Node) (c : Node) : Node :=
  match program.placeComment c with
  | some p => p
  | none => { program with children := insertByStart c program.children }

/-- The comments of the source, found in the gaps between the tree's leaves. -/
def treeComments (src : Array Char) (program : Node) : List Node :=
  let leaves := program.leaves.filter (fun l => l.start < l.stop || l.mark == .missing)
  let bounds := (0 :: leaves.map (·.stop)).zip (leaves.map (·.start) ++ [src.size])
  bounds.flatMap fun (a, b) => if a < b then commentsBetween src a b (b - a) else []

/-- The statements of a program, and whether the whole program is read as an error: it is when
a statement's recovery gave up too far from the program to pop back to it, and then holds the
statements before, the pieces that statement completed, and the rest of the source in an error. -/
def programStatements (r : Rules) : Parse (List Node × Bool) := do
  go [] ((← read).chars.size + 1)
where
  /-- Reads on after the statements `acc`, held in reverse. -/
  go (acc : List Node) : Nat → Parse (List Node × Bool)
    | 0 => pure (acc.reverse, false)
    | fuel + 1 => do
      match ← attemptResuming (statementStep r false) with
      | .ok none => return (acc.reverse, false)
      | .ok (some s) => go (s :: acc) fuel
      | .error e =>
        match e.cut with
        | none => throw e
        | some c =>
          skipMarkupComments
          let size := (← read).chars.size
          match ← rereadToCut r c with
          | some s =>
            let rest ← wrapUpTo size
            let tail := if rest.children.isEmpty then [] else [rest]
            return (acc.reverse ++ s.openPieces s.walk.length ++ tail, true)
          | none => return (((← wrapUpTo size) :: acc).reverse, false)

/-- The statements of a program, with its `#!` line, and whether the whole program is read as
an error. -/
def programItems (r : Rules) : Parse (List Node × Bool) := do
  let t ← peek
  let bang ← if t.lexeme == .hashBang then pure [← tokenAs "hash_bang_line"] else pure []
  let (items, unrecovered) ← programStatements r
  if unrecovered then return (bang ++ items, true)
  let src := (← read).chars
  match items.getLast? with
  | some s =>
    let before := bang ++ items.dropLast
    let gapStart := ((before.getLast?).map (·.stop)).getD 0
    match settleOpenEnd src before gapStart s with
    | .kept s => return (before ++ [reinterpretOpenFunction s], false)
    | .wrapped pieces => return (before ++ [errorNode pieces], false)
    | .whole pieces => return (before ++ pieces, true)
  | none => return (bang, false)

/-- The syntax tree of a script under a grammar: a program, or an error holding the program's
items when the whole program is read as one. -/
def parseTree (text : String) (g : Grammar) : Node × Array Char :=
  let src := text.toList.toArray
  let rules := Rules.tie (32 * src.size + 256)
  let (items, whole) :=
    match ((programItems rules).run { chars := src, grammar := g }).run { pos := 0, last := 0 } with
    | .ok (result, _) => result
    | .error _ => ([], false)
  let bare : Node := if whole then
      { kind := "ERROR", mark := .error, start := spanWhile src isBlank 0, stop := src.size,
        children := items.map fun c => { c with field := none } }
    else { kind := "program", start := 0, stop := src.size, children := items }
  let program := (treeComments src bare).foldl placeInProgram bare
  (program, src)

end ProjectIndex.Script
