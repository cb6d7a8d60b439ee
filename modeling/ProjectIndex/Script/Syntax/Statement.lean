import ProjectIndex.Script.Syntax.Module

/-!
Statements, blocks, and recovery from text that is no statement.

A statement is chosen by its first tokens: a block, an empty statement, an import or export, a
control statement (`if`, `for`, `while`, `do`, `try`, `switch`, `return`, `throw`, `break`,
`continue`, `debugger`, `with`), a declaration, a labeled statement (whose label is no word that
opens an expression there, such as `this` or `class`), or an expression statement.
With types, `namespace` opening a statement makes an expression statement of the module, and
`abstract`, `interface` and `enum` there open nothing but their declarations.

A list of statements, at the top of a file or in a block, never gets stuck. Where no statement
can be read, the tokens from there are wrapped in an error node: up to and including the next
`;`, or up to a line that opens with a statement keyword, an opening brace, which begins a block
there, a closing brace that ends the enclosing block, or the end of the source; at least one token
is taken. A block left open at the end of the source is closed by a missing brace.

A statement may meet text that recovery never returns from. It is then read again on the source
cut off there, and its open pieces, counted as entries of the parse stack, tell how far the
nearest list lies: within `recoveryReach` the list wraps the pieces and the tokens after them in
an error and goes on; otherwise being stuck for good goes on up.

Owns: `statementRule`, `blockRule`, `statementStep`, `statementList`, `recoverStatement`,
`Node.openPieces`, `openDepth`, `statementGivenUp`.
-/

namespace ProjectIndex.Script

/-- Words that open statements; a line that starts with one ends the text skipped in recovery. -/
def statementKeywords : List String :=
  ["export", "import", "function", "class", "const", "let", "var", "if", "for", "while", "do",
   "try", "switch", "return", "throw", "break", "continue", "interface", "type", "enum",
   "declare", "abstract", "async", "namespace", "module"]

/-- Wraps the tokens from here in an error node, as described for statement lists. -/
def recoverStatement (inBlock : Bool) : Parse Node := do
  let first ← bump
  if first.isPunct ";" then return errorNode [skippedLeaf first]
  else
    let depth0 : Nat := if first.isPunct "\x7b" then 1 else 0
    let rest ← manyUpToWith depth0 ((← read).chars.size + 1)
    return errorNode (skippedLeaf first :: rest)
where
  /-- Takes skipped tokens while recovery goes on, tracking the brace the error opened with. -/
  manyUpToWith (depth : Nat) : Nat → Parse (List Node)
    | 0 => pure []
    | n + 1 => do
      let t ← peek
      let keywordLine := t.lineBefore && (t.word?.map statementKeywords.contains).getD false
      let closes := inBlock && depth == 0 && t.isPunct "\x7d"
      if t.isEnd || keywordLine || closes || t.isPunct "\x7b" then pure []
      else
        let _ ← bump
        if t.isPunct ";" then return [skippedLeaf t]
        else
          let depth' := if t.isPunct "\x7d" then depth - 1 else depth
          return skippedLeaf t :: (← manyUpToWith depth' n)

/-- Skips comments in the style of markup, `<!--` or `-->` up to the end of their line, which may
stand where a statement begins. -/
def skipMarkupComments : Parse Unit := do
  let src := (← read).chars
  let _ ← manyOf (do
    let t ← peek
    let opens := t.isPunct "<" && holdsAt src t.stop "!--"
    let closes := t.isPunct "--" && src[t.stop]? == some '>'
    if opens || closes then
      modify fun c => { c with pos := lineEnd src t.start }
      return some ()
    else return none)

/-- Whether the last token under a node is a missing one. -/
def Node.lastLeafMissing (n : Node) : Bool :=
  match n.walk.getLast? with
  | some c => c.mark == .missing
  | none => false

/-- The pieces an unfinished construct completed before the source ended: its children, where
the last is itself unfinished, replaced by that child's pieces. Missing tokens are no pieces. -/
def Node.openPieces : Nat → Node → List Node
  | 0, _ => []
  | fuel + 1, n =>
    let kept := n.children.filter (·.mark != .missing)
    match kept.getLast? with
    | none => []
    | some last =>
      if last.lastLeafMissing then kept.dropLast ++ Node.openPieces fuel last else kept

/-- How many entries an expression ending before a binary operator of the given level keeps on
the parse stack: a function written with an arrow, or a binary expression whose operator binds
more loosely, stays open with its last part taking the operator; anything else is one entry. -/
def Node.entriesBefore (level : Nat) : Nat → Node → Nat
  | 0, _ => 1
  | fuel + 1, e =>
    let operatorLevel := (e.children[1]?.bind fun o => binaryLevelOf? o.kind).getD 0
    let loose := e.kind == "arrow_function" || (e.kind == "binary_expression" && operatorLevel < level)
    match e.children.getLast? with
    | some last => if loose then e.children.length - 1 + Node.entriesBefore level fuel last else 1
    | none => 1

/-- The number of entries on the parse stack above the program when recovery gives up in a
statement at the token `t`: the pieces the statement completed, where the last, the expression
before `t`, counts by `Node.entriesBefore` and `t` itself when it is a binary operator, which is
taken before the parse fails. -/
def openDepth (s : Node) (t : Token) (isTyped : Bool) : Nat :=
  let pieces := s.openPieces s.walk.length
  match pieces.getLast?, binaryLevel? t isTyped with
  | some last, some (level, _) => pieces.length - 1 + last.entriesBefore level last.walk.length + 1
  | _, _ => pieces.length

/-- The deepest the parse stack may be above a state for recovery to pop back to it. -/
def recoveryReach : Nat := 16

/-- The statement from here read again on the source cut off at `cut`, where its recovery gave
up, with the constructs left open there closed by missing tokens. -/
def rereadToCut (r : Rules) (cut : Nat) : Parse (Option Node) := do
  let reread ← attemptResuming (withReader
    (fun h => { h with chars := h.chars.extract 0 cut, lenient := true, closeAtEnd := true })
    r.statement)
  match reread with
  | .ok s => return some s
  | .error _ => return none

/-- A statement whose recovery gave up at `cut`, as the list it stands in reads it: when the
list lies within `recoveryReach` of the cut, the pieces the statement completed and the tokens
on to the next `;`, statement keyword or brace, wrapped in an error; further away, being stuck
for good goes on up. -/
def statementGivenUp (r : Rules) (inBlock : Bool) (e : Stuck) (cut : Nat) : Parse Node := do
  let src := (← read).chars
  match ← rereadToCut r cut with
  | some s =>
    if openDepth s (scanToken src cut) (← typed) > recoveryReach then throw e
    else
      let rest ← recoverStatement.manyUpToWith inBlock 0 (src.size + 1)
      let pieces := s.openPieces s.walk.length ++ rest
      if pieces.isEmpty then throw e else return errorNode pieces
  | none => throw e

/-- The next statement of a list that runs up to a closing brace (in a block) or the end of the
source, recovering from text that is no statement; `none` at the end of the list. A statement
that fails as it stands is read again with recovery inside it, and wrapped in an error from its
start when that fails too. Where exports may stand, a statement stuck for good before an export
is wrapped in an error up to there; elsewhere the list ends before an export, and being stuck
for good goes on up. A statement whose recovery gave up is read by `statementGivenUp`. -/
def statementStep (r : Rules) (inBlock : Bool) : Parse (Option Node) := do
  let here ← read
  let size := here.chars.size
  skipMarkupComments
  let t ← peek
  if t.isEnd || (inBlock && t.isPunct "\x7d") then return none
  else if !here.exportScope && t.isWord "export" && !(← exportIsName) then return none
  else
    let settle (outcome : Except Stuck Node) (otherwise : Parse Node) : Parse Node :=
      match outcome with
      | .ok s => pure s
      | .error e =>
        match e.cut, e.resume with
        | some c, _ => statementGivenUp r inBlock e c
        | none, some p =>
          if here.exportScope && p > t.start && (p < size || !inBlock) then wrapUpTo p
          else throw e
        | none, none => otherwise
    let again : Parse Node :=
      if here.lenient then recoverStatement inBlock
      else do settle (← attemptResuming (leniently r.statement)) (recoverStatement inBlock)
    return some (← settle (← attemptResuming r.statement) again)

/-- Statements up to a closing brace (in a block) or the end of the source, each read by
`statementStep`. -/
def statementList (r : Rules) (inBlock : Bool) : Parse (List Node) :=
  manyOf (statementStep r inBlock)

/-- A block: statements between braces, closed by a missing brace at the end of the source. In
the typed grammars an export cannot stand in a block other than a module body: before one, the
brace is missing when closing the block there leaves the parse where an export may stand, and
otherwise the parse is stuck for good. Plain script takes an export in any block. -/
def blockRule (r : Rules) : Parse Node := do
  let here ← read
  let o ← punct "\x7b"
  let inner := here.moduleBlock || here.grammar == .javascript
  let items ← withReader
    (fun s => { s with exportScope := inner, closableBlock := inner, moduleBlock := false })
    (statementList r true)
  let t ← peek
  let c ← if t.isWord "export" && !here.moduleBlock then
      if here.closableBlock then missingToken "\x7d" else stuckBefore t.start
    else closeBrace
  return build "statement_block" ([o] ++ items ++ [c])

/-- An expression statement. With recovery, a brace on its line opens a block after a missing `;`
when wrapping the expression in an error would cost more. -/
def expressionStatement (r : Rules) : Parse Node := do
  let e ← r.expressions
  let t ← peek
  if (← recovering) && t.isPunct "\x7b" && !t.lineBefore then
    -- a block follows: either the expression goes into an error or a `;` is missing before it
    if wrapCost (← read).chars e.start e.stop 1 < missingTokenCost then stuck
    else return build "expression_statement" [e, ← missingToken ";"]
  let semi ← semicolon
  return build "expression_statement" (e :: semi)

/-- Whether a statement body may begin with this token, which cannot go on the expression before
it: a brace, a semicolon, or a statement keyword. -/
def Token.startsBody (t : Token) : Bool :=
  t.isPunct "\x7b" || t.isPunct ";" ||
    ["return", "throw", "const", "var", "if", "for", "while", "do", "try", "switch", "break",
      "continue"].any t.isWord

/-- A parenthesized condition; its `)` is missing where a body begins instead, and an empty
condition is a missing name. -/
def condition (r : Rules) : Parse Node := do
  let o ← punct "("
  let e ← if (← peek).isPunct ")" then missingIdentifier else r.expressions
  let c ← closer ")" true Token.startsBody
  return build "parenthesized_expression" [o, e, c]

/-- The head of a `for ... in` or `for ... of` loop, after its `(`. After `var`, `let` or
`const` comes a declared name, where no keyword of the grammar fits, or a pattern; without them,
something that may be assigned to. -/
def forInHead (r : Rules) : Parse (List Node) := do
  let t ← peek
  let kind ← if t.isWord "var" || t.isWord "let" || t.isWord "const" then
      let k ← bump
      pure [(k.anon (k.word?.getD "var")).withField "kind"]
    else pure []
  let left ← if kind.isEmpty then r.operand
    else if (← peek).isAnyWord then bindingIdentifier else r.pattern
  if kind.isEmpty && !assignableBy "=" left.kind then stuck
  let t2 ← peek
  if t2.isWord "in" || t2.isWord "of" then
    let op ← bump
    let right ← r.expressions
    return kind ++ [left.withField "left", (op.anon (op.word?.getD "in")).withField "operator",
      right.withField "right"]
  else stuck

/-- A `for` statement. -/
def forStatement (r : Rules) : Parse Node := do
  let f ← keyword "for"
  let aw ← keyword? "await"
  let o ← punct "("
  match ← attempt (forInHead r) with
  | some head =>
    let c ← punct ")"
    let body ← r.statement
    return build "for_in_statement" ([f] ++ aw.toList ++ [o] ++ head ++ [c, body.withField "body"])
  | none =>
    let t ← peek
    let init ←
      if t.isPunct ";" then pure [build "empty_statement" [← punct ";"]]
      else if t.isWord "var" || t.isWord "let" || t.isWord "const" then
        pure [(← variableDeclaration r true).withField "initializer"]
      else
        let e ← r.expressions
        pure [e.withField "initializer", ← punct ";"]
    let cond ←
      if (← peek).isPunct ";" then pure [(build "empty_statement" [← punct ";"]).withField "condition"]
      else
        let e ← r.expressions
        pure [e.withField "condition", ← punct ";"]
    let incr ← if (← peek).isPunct ")" then pure [] else pure [(← r.expressions).withField "increment"]
    let c ← punct ")"
    let body ← r.statement
    return build "for_statement" ([f, o] ++ init ++ cond ++ incr ++ [c, body.withField "body"])

/-- A `try` statement. -/
def tryStatement (r : Rules) : Parse Node := do
  let tk ← keyword "try"
  let body ← withClosableBlocks false r.block
  let handler ← if (← peek).isWord "catch" then
      let ck ← keyword "catch"
      let param ← if (← peek).isPunct "(" then
          let o ← punct "("
          let p ← if (← peek).isAnyWord then bindingIdentifier else r.pattern
          let ann ← if (← typed) && (← peek).isPunct ":" then some <$> typeAnnotation r
            else pure none
          let c ← punct ")"
          pure ([o, p.withField "parameter"] ++ fielded "type" ann ++ [c])
        else pure []
      let cb ← r.block
      pure [(build "catch_clause" ([ck] ++ param ++ [cb.withField "body"])).withField "handler"]
    else pure []
  let finalizer ← if (← peek).isWord "finally" then
      let fk ← keyword "finally"
      let fb ← r.block
      pure [(build "finally_clause" [fk, fb.withField "body"]).withField "finalizer"]
    else pure []
  if handler.isEmpty && finalizer.isEmpty then stuck
  else return build "try_statement" ([tk, body.withField "body"] ++ handler ++ finalizer)

/-- The statements of a `switch` case, up to the next case, default or closing brace. -/
def caseBody (r : Rules) : Parse (List Node) :=
  manyOf (do
    let t ← peek
    if t.isEnd || t.isPunct "\x7d" || t.isWord "case" || t.isWord "default" then return none
    else
      match ← attempt r.statement with
      | some s => return some (s.withField "body")
      | none => return some (← recoverStatement true))

/-- A `switch` statement. -/
def switchStatement (r : Rules) : Parse Node := do
  let sk ← keyword "switch"
  let v ← condition r
  let o ← punct "\x7b"
  let cases ← manyOf (do
    let t ← peek
    if t.isWord "case" then
      let ck ← keyword "case"
      let e ← r.expressions
      let colon ← punct ":"
      let body ← caseBody r
      return some (build "switch_case" ([ck, e.withField "value", colon] ++ body))
    else if t.isWord "default" then
      let dk ← keyword "default"
      let colon ← punct ":"
      let body ← caseBody r
      return some (build "switch_default" ([dk, colon] ++ body))
    else return none)
  let c ← closeBrace
  return build "switch_statement"
    [sk, v.withField "value", (build "switch_body" ([o] ++ cases ++ [c])).withField "body"]

/-- A `return` or `throw` statement; `return` may stand alone. -/
def returnOrThrow (r : Rules) (w : String) : Parse Node := do
  let k ← keyword w
  let t ← peek
  let value ← if w == "return" && (t.isPunct ";" || t.endsStatement) then pure []
    else pure [← r.expressions]
  let semi ← semicolon
  let kind := if w == "return" then "return_statement" else "throw_statement"
  return build kind ([k] ++ value ++ semi)

/-- A `break` or `continue` statement with an optional label on the same line. -/
def jumpStatement (w : String) : Parse Node := do
  let k ← keyword w
  let t ← peek
  let label ← if t.isAnyWord && !t.lineBefore then
      pure [(← wordAs "statement_identifier").withField "label"]
    else pure []
  let semi ← semicolon
  let kind := if w == "break" then "break_statement" else "continue_statement"
  return build kind ([k] ++ label ++ semi)

/-- One statement. A word that the cursor marks as a name begins an expression statement. -/
def statementRule (r : Rules) : Parse Node := do
  skipMarkupComments
  let t ← peek
  let t2 ← peekAfter t
  if (← get).nameAt == some t.start then expressionStatement r else
  match t.lexeme with
  | .punct "\x7b" => r.block
  | .punct ";" => return build "empty_statement" [← punct ";"]
  | .eof => return build "empty_statement" [← missingToken ";"]
  | .punct "@" =>
    match ← attempt (decoratedExport r) with
    | some s => return s
    | none =>
      match ← attempt (declaration? r .statement 8) with
      | some (some d) => return d
      | _ => expressionStatement r
  | .word w =>
    match w with
    | "import" =>
      if t2.isPunct "(" || t2.isPunct "." then expressionStatement r else importStatement r
    | "export" => if ← exportIsName then expressionStatement r else exportStatement r
    | "if" =>
      let k ← keyword "if"
      let c ← condition r
      let yes ← r.statement
      let alt ← if (← peek).isWord "else" then
          let ek ← keyword "else"
          let s ← r.statement
          pure [(build "else_clause" [ek, s]).withField "alternative"]
        else pure []
      return build "if_statement" ([k, c.withField "condition", yes.withField "consequence"] ++ alt)
    | "for" => forStatement r
    | "while" =>
      let k ← keyword "while"
      let c ← condition r
      let body ← r.statement
      return build "while_statement" [k, c.withField "condition", body.withField "body"]
    | "do" =>
      let k ← keyword "do"
      let body ← withClosableBlocks false r.statement
      let wk ← keyword "while"
      let c ← condition r
      let semi ← if (← peek).isPunct ";" then pure [← punct ";"] else pure []
      return build "do_statement" ([k, body.withField "body", wk, c.withField "condition"] ++ semi)
    | "try" => tryStatement r
    | "switch" => switchStatement r
    | "return" | "throw" => returnOrThrow r w
    | "break" | "continue" => jumpStatement w
    | "debugger" =>
      let k ← keyword "debugger"
      let semi ← semicolon
      return build "debugger_statement" (k :: semi)
    | "with" =>
      let k ← keyword "with"
      let c ← condition r
      let body ← r.statement
      return build "with_statement" [k, c.withField "object", body.withField "body"]
    | _ =>
      match ← declaration? r .statement 8 with
      | some d => return d
      | none =>
        if (← typed) && w == "namespace" && t2.isAnyWord && !t2.lineBefore then
          let m ← moduleDeclaration r "namespace"
          let semi ← semicolon
          return build "expression_statement" (m :: semi)
        else if (← typed) && declarationWords.contains w then
          let _ ← bump
          stuck
        else if t2.isPunct ":" && (← nameAllowed (← expressionWords) w) then
          let label ← wordAs "statement_identifier"
          let c ← punct ":"
          let body ← r.statement
          return build "labeled_statement" [label.withField "label", c, body.withField "body"]
        else expressionStatement r
  | _ => expressionStatement r

end ProjectIndex.Script
