import ProjectIndex.Script.Syntax.Class

/-!
Expressions.

An expression is an arrow function, a `yield`, or a conditional optionally assigned to
(`a = b`, `a += b`); literals, calls and the like are never assigned to. A conditional is a
binary expression with an optional `? :` tail. Binary operators bind by the usual levels, from
`??` up to `**`, which alone groups to the right; with types, `as` and `satisfies` stand at the
level of `<`, followed by a type. Under them are the prefix operators (`!`, `-`, `typeof`,
`await`, `++`, and with types `<T>` assertions), then an operand: a primary expression followed
by member accesses, subscripts, calls (with optional type arguments), tagged templates, optional
chains and non-null marks. With types `await` is always the operator; without them an `await`
with nothing to apply to is a name.

Primary expressions are names, literals, templates, regular expressions, parenthesized
expressions, arrays, objects, functions, classes, elements, `this`, `super` and `import`.

Arrow functions are recognized by looking ahead: a name followed by `=>`, or a parameter list that
reads through to `=>`, which is tried first and withdrawn when it does not.

Owns: `expressionsRule`, `expressionRule`, `binaryRule`, `unaryRule`, `operandRule`,
`primaryRule`, `arguments`.
-/

namespace ProjectIndex.Script

/-- Whether a token can start an expression. -/
def Token.startsExpression (t : Token) : Bool :=
  match t.lexeme with
  | .word _ | .number | .string | .backquote | .privateName => true
  | .punct p => ["(", "[", "\x7b", "!", "~", "+", "-", "++", "--", "/", "/=", "<", "@"].contains p
  | _ => false

/-- Whether a token can begin the constructor of a `new` expression, which is a primary
expression or another `new`: a word other than one that prefixes or joins operands, a literal, a
template, an opening bracket, a regular expression, a type argument list or a decorator. -/
def Token.startsConstructor (t : Token) : Bool :=
  match t.lexeme with
  | .word w => !(["typeof", "void", "delete", "await", "in", "instanceof"].contains w)
  | .number | .string | .backquote => true
  | .punct p => ["(", "[", "\x7b", "/", "/=", "<", "@"].contains p
  | _ => false

/-- Whether the token that ends at `stop` requires an operand after it: an operator, an arrow, or
a word that takes an expression (`throw`, `case`, `typeof`, `in`, …). After an opening bracket, a
comma, `return` or the start of a statement the operand may be left out. A prefix operator with
no operand after it then gets a missing identifier, which costs less than wrapping the operator
and what requires it in an error; elsewhere wrapping the operator alone costs less. -/
def operandRequiredAfter (src : Array Char) (stop : Nat) : Bool :=
  match src[stop - 1]? with
  | none => false
  | some c =>
    if stop == 0 then false
    else if isWordPart c then
      let start := wordStart stop stop
      ["throw", "case", "typeof", "void", "delete", "await", "new", "in", "instanceof", "of",
        "default", "extends"].contains (String.ofList (src.extract start stop).toList)
    else ['=', '>', '+', '-', '*', '/', '%', '&', '|', '^', '!', '~', '?', ':', '<'].contains c
where
  /-- The start of the word that ends at `stop`, scanning back from `p`. -/
  wordStart (stop : Nat) : Nat → Nat
    | 0 => 0
    | p + 1 => if (src[p]?.map isWordPart).getD false then wordStart stop p else p + 1

/-- A named identifier the source lacks, placed after the last token taken. -/
def missingIdentifier : Parse Node := do
  return { (← missingToken "identifier") with named := true }

/-- The binding level of a binary operator punctuator (higher binds tighter) and whether it
groups to the right. -/
def punctLevel? (p : String) : Option (Nat × Bool) :=
  match p with
  | "??" => some (1, false)
  | "||" => some (2, false)
  | "&&" => some (3, false)
  | "|" => some (4, false)
  | "^" => some (5, false)
  | "&" => some (6, false)
  | "==" | "!=" | "===" | "!==" => some (7, false)
  | "<" | ">" | "<=" | ">=" => some (8, false)
  | "<<" | ">>" | ">>>" => some (9, false)
  | "+" | "-" => some (10, false)
  | "*" | "/" | "%" => some (11, false)
  | "**" => some (12, true)
  | _ => none

/-- The binding level of a binary operator (higher binds tighter) and whether it groups to the
right; `as` and `satisfies` count only with types and on the same line. -/
def binaryLevel? (t : Token) (isTyped : Bool) : Option (Nat × Bool) :=
  match t.lexeme with
  | .punct p => punctLevel? p
  | .word "instanceof" | .word "in" => some (8, false)
  | .word "as" | .word "satisfies" => if isTyped && !t.lineBefore then some (8, false) else none
  | _ => none

/-- The binding level of the operator of a binary expression, given as its text. -/
def binaryLevelOf? (op : String) : Option Nat :=
  if op == "instanceof" || op == "in" || op == "as" || op == "satisfies" then some 8
  else (punctLevel? op).map (·.1)

/-- The assignment operators. -/
def assignmentOperators : List String :=
  ["=", "+=", "-=", "*=", "/=", "%=", "**=", "<<=", ">>=", ">>>=", "&=", "|=", "^=", "&&=", "||=",
   "??="]

/-- Whether a prefix operator or `new` with nothing after it that can begin its operand, where
the operand could also be left out, still gets a missing operand. That is so when the next token
cannot come where the operator stands, so that wrapping the operator alone in an error does not
mend the parse, while after a missing identifier the token goes on: any operator, and an
assignment when the operand may be assigned to, which the constructor of `new` is not. Before a
closing bracket, a comma, a `;`, an arrow or the end, wrapping the operator costs less; a `:`
with no `?` before it cannot follow the operand either, and wrapping both costs less. -/
def operandMissing (assignable : Bool) : Parse Bool := do
  match (← peek).lexeme with
  | .punct p =>
    if [";", "\x7d", ")", "]", ",", "=>", ":"].contains p then return false
    else if assignmentOperators.contains p then return assignable
    else return true
  | _ => return false

/-- Kinds of expression that nothing can be assigned to, whatever follows them: literals, `this`,
`super`, calls, `new`, updates, functions, classes, and with types `as` and `satisfies`. -/
def unassignable : List String :=
  ["this", "super", "true", "false", "null", "number", "string", "template_string", "regex",
   "call_expression", "new_expression", "update_expression", "meta_property", "function_expression",
   "generator_function", "arrow_function", "class", "as_expression", "satisfies_expression"]

/-- Whether an expression of this kind may stand left of the given assignment operator. A plain
`=` also takes arrays, objects and `undefined`, which a compound operator does not; the other
kinds outside `unassignable` are left as they are, since the assignment can bind inside them. -/
def assignableBy (op kind : String) : Bool :=
  !unassignable.contains kind &&
    (op == "=" || !(["array", "object", "undefined"].contains kind))

/-- The anonymous leaf of a punctuator or word token. -/
def Token.anonText (t : Token) : Node :=
  match t.lexeme with
  | .punct p => t.anon p
  | .word w => t.anon w
  | _ => t.anon ""

/-- The comma-separated items of an argument list, array or object up to `close`, which may
also end before a `;`. With recovery the list is read by `commaSeparatedLeniently`, and one that
the source ends inside has taken all the rest: the parse is stuck for good at the end, unless
constructs left open there are closed. -/
def spreadList (item : Parse Node) (close : String) (holes : Bool) : Parse (List Node) := do
  if ← recovering then
    let items ← commaSeparatedLeniently item close holes (·.isPunct ";") fun _ => false
    if (← peek).isEnd && !(← read).closeAtEnd then stuckBefore (← read).chars.size
    return items
  else commaSeparatedUntil item close holes (·.isPunct ";")

/-- An argument list between parentheses; arguments may be spread, and places may be empty. -/
def arguments (r : Rules) : Parse Node := do
  let o ← punct "("
  let item := do
    if (← peek).isPunct "..." then
      let d ← punct "..."
      let e ← r.expression
      return build "spread_element" [d, e]
    else r.expression
  let items ← spreadList item ")" true
  let c ← closer ")" (!items.isEmpty) (·.isPunct ";")
  return build "arguments" ([o] ++ items ++ [c])

/-- The body of an arrow function: a block, or an expression. -/
def arrowBody (r : Rules) : Parse Node := do
  if (← peek).isPunct "\x7b" then return (← withClosableBlocks false r.block).withField "body"
  else return (← r.expression).withField "body"

/-- An arrow function with a call signature, after its optional `async`. -/
def arrowFromSignature (r : Rules) (asyncLeaf : Option Node) : Parse Node := do
  let sig ← callSignature r
  let arrow ← punct "=>"
  let body ← arrowBody r
  return build "arrow_function" (asyncLeaf.toList ++ sig ++ [arrow, body])

/-- An arrow function with a single named parameter, after its optional `async`. -/
def arrowFromName (r : Rules) (asyncLeaf : Option Node) : Parse Node := do
  let p ← patternIdentifier
  let arrow ← punct "=>"
  let body ← arrowBody r
  return build "arrow_function" (asyncLeaf.toList ++ [p.withField "parameter", arrow, body])

/-- An arrow function when the next tokens begin one; otherwise nothing is taken. -/
def arrowAhead (r : Rules) : Parse (Option Node) := do
  let t ← peek
  let t2 ← peekAfter t
  let isTyped ← typed
  if t.isAnyWord && t2.isPunct "=>" then some <$> arrowFromName r none
  else if t.isWord "async" then
    if t2.isAnyWord && !t2.lineBefore && (← peekAfter t2).isPunct "=>" then
      let a ← keyword "async"
      some <$> arrowFromName r (some a)
    else if t2.isPunct "(" || (t2.isPunct "<" && isTyped) then
      attempt (do
        let a ← keyword "async"
        arrowFromSignature r (some a))
    else return none
  else if t.isPunct "(" then attempt (arrowFromSignature r none)
  else if t.isPunct "<" && isTyped then
    if (← grammar) == .typescriptMarkup then
      let t3 ← peekAfter t2
      if t2.isAnyWord && (t3.isPunct "," || t3.isWord "extends" || t3.isPunct ">") then
        attempt (arrowFromSignature r none)
      else return none
    else attempt (arrowFromSignature r none)
  else return none

/-- A function expression after its optional `async`: a generator when starred. -/
def functionExpression (r : Rules) (asyncLeaf : Option Node) : Parse Node := do
  let f ← keyword "function"
  let star ← punct? "*"
  let name ← if (← peek).isAnyWord then some <$> bindingIdentifier else pure none
  let sig ← callSignature r
  let body ← withClosableBlocks false r.block
  let kind := if star.isSome then "generator_function" else "function_expression"
  return build kind
    (asyncLeaf.toList ++ [f] ++ star.toList ++ fielded "name" name ++ sig ++
      [body.withField "body"])

/-- A class expression, after its decorators. -/
def classExpression (r : Rules) (decs : List Node) : Parse Node := do
  let kw ← keyword "class"
  let parts ← classParts r false false
  return build "class" (decs.map (·.withField "decorator") ++ [kw] ++ parts)

/-- Words that may come before the name of a method in an object literal: a method there is
the same construct as in a class body, so `static` may mark it too. With types the
accessibility words, `override` and `readonly` may as well. -/
def objectMethodWords : List String := ["static", "async", "get", "set"]

/-- One entry of an object literal. -/
def objectEntry (r : Rules) : Parse Node := do
  let t ← peek
  if t.isPunct "..." then
    let d ← punct "..."
    let e ← r.expression
    return build "spread_element" [d, e]
  else
    let isTyped ← typed
    let words := if isTyped then objectMethodWords ++ ["public", "private", "protected",
        "override", "readonly"] else objectMethodWords
    let mods ← manyOf (do
      let m ← peek
      match m.word? with
      | some w =>
        let m2 ← peekAfter m
        if words.contains w && (m2.startsPropertyName || m2.isPunct "*") then
          let _ ← bump
          return some (modifierNode m w)
        else return none
      | none => return none)
    let star ← punct? "*"
    let nameTok ← peek
    let name ← propertyName r
    let optional ← if isTyped && (← peek).isPunct "?" then
        let q ← peek
        let after ← peekAfter q
        if after.isPunct "(" || after.isPunct "<" then
          let _ ← bump
          pure [q.anon "?"]
        else pure []
      else pure []
    let t2 ← peek
    if t2.isPunct "(" || t2.isPunct "<" then
      let sig ← callSignature r
      let body ← withClosableBlocks false r.block
      return build "method_definition"
        (mods ++ star.toList ++ [name.withField "name"] ++ optional ++ sig ++
          [body.withField "body"])
    else if !mods.isEmpty || star.isSome then stuck
    else if t2.isPunct ":" then
      let c ← punct ":"
      -- a value left out before the end of the entry is a missing name
      let t3 ← peek
      let v ← if t3.isPunct "\x7d" || t3.isPunct "," then missingIdentifier else r.expression
      return build "pair" [name.withField "key", c, v.withField "value"]
    else if nameTok.isAnyWord then return name.rename "shorthand_property_identifier"
    else stuck

/-- A regular expression literal at the next token. -/
def regexLiteral : Parse Node := do
  let t ← peek
  match scanRegex? (← read).chars t.start with
  | some e =>
    jumpTo e
    return { kind := "regex", start := t.start, stop := e }
  | none => stuck

/-- An element read with recovery. Without types, one that fails at a reserved word, where a `/`
follows on that line, is taken into an error up to the end of the line: the word leaves the
element, the rest is read as script, and its `/` opens a regular expression that runs to the end
of the line. When only blanks follow that line, the parse is stuck for good at the end of the
source. Any other failure is left to the statement. -/
def markupOrSwallowed (r : Rules) : Parse Node :=
  tryCatch r.markup fun e => do
    if e.resume.isSome then throw e
    let src := (← read).chars
    let bad := scanToken src e.position
    let reserved := (bad.word?.map reservedWords.contains).getD false
    let stop := lineEnd src e.position
    let slash := (List.range (stop - e.position)).any fun i => src[e.position + i]? == some '/'
    if (← typed) || !reserved || !slash then throw e
    else if spanWhile src isBlank stop ≥ src.size then stuckBefore src.size
    else wrapUpTo stop

/-- Whether a token is a quoted string that a line break, or the end of the source, cuts off
before its closing quote. -/
def Token.opensBrokenString (t : Token) (src : Array Char) : Bool :=
  let quoted := src[t.start]? == some '"' || src[t.start]? == some '\''
  let broken := match src[t.stop]? with
    | some c => c == '\n' || c == '\r'
    | none => true
  quoted && broken

/-- A primary expression. With recovery, a string that a line break cuts off takes everything
up to the next `;` into an error. -/
def primaryRule (r : Rules) : Parse Node := do
  let t ← peek
  match t.lexeme with
  | .number => tokenAs "number"
  | .string => tokenAs "string"
  | .backquote => templateWith r.expressions "template_string" "template_substitution"
  | .privateName =>
    -- a private name stands alone only as the left side of `in`
    if (← peekAfter t).isWord "in" then tokenAs "private_property_identifier" else stuck
  | .punct "(" =>
    let o ← punct "("
    let e ← r.expressions
    let c ← closer ")" true (·.isPunct ";")
    return build "parenthesized_expression" [o, e, c]
  | .punct "[" =>
    let o ← punct "["
    let item := do
      if (← peek).isPunct "..." then
        let d ← punct "..."
        let e ← r.expression
        return build "spread_element" [d, e]
      else r.expression
    let items ← spreadList item "]" true
    let c ← closer "]" (!items.isEmpty) (·.isPunct ";")
    return build "array" ([o] ++ items ++ [c])
  | .punct "\x7b" =>
    let o ← punct "\x7b"
    let items ← spreadList (objectEntry r) "\x7d" true
    let c ← closer "\x7d" (!items.isEmpty) (·.isPunct ";")
    return build "object" ([o] ++ items ++ [c])
  | .punct "/" | .punct "/=" => regexLiteral
  | .punct "<" =>
    if ← markupAllowed then
      if ← recovering then markupOrSwallowed r else r.markup
    else stuck
  | .punct "@" =>
    let decs ← decorators r
    classExpression r decs
  | .word w =>
    match w with
    | "function" => functionExpression r none
    | "async" =>
      let t2 ← peekAfter t
      if t2.isWord "function" && !t2.lineBefore then
        let a ← keyword "async"
        functionExpression r (some a)
      else tokenAs "identifier"
    | "class" => classExpression r []
    | "this" | "super" | "true" | "false" | "null" | "undefined" => tokenAs w
    | "import" =>
      if (← peekAfter t).isPunct "." then
        let i ← keyword "import"
        let d ← punct "."
        let p ← wordAs "property_identifier"
        return build "meta_property" [i, d, p]
      else
        let t2 ← peekAfter t
        if t2.isPunct "(" || t2.lexeme == .backquote then tokenAs "import" else stuck
    | "new" => r.operand
    | _ => if ← nameAllowed [] w then tokenAs "identifier" else stuck
  | .unknown =>
    let src := (← read).chars
    if (← recovering) && t.opensBrokenString src then wrapToSemicolon else stuck
  | _ => stuck

/-- A property after `.` or `?.`: a word or a private name. -/
def memberProperty : Parse Node := do
  if (← peek).lexeme == .privateName then tokenAs "private_property_identifier"
  else wordAs "property_identifier"

/-- Words that join two operands rather than begin one. -/
def binaryWords : List String := ["as", "satisfies", "in", "instanceof"]

/-- One suffix of an operand, as the construct it makes of what precedes it; member accesses and
subscripts only when `calls` is false. With types, type arguments make a call when arguments
follow them, and otherwise an instantiation, unless what follows could go on as the right side of
a comparison. -/
def operandSuffix (r : Rules) (calls : Bool) : Parse (Option (Node → Node)) := do
  let t ← peek
  let isTyped ← typed
  match t.lexeme with
  | .punct "." =>
    let d ← punct "."
    let p ← memberProperty
    return some fun obj => build "member_expression"
      [obj.withField "object", d, p.withField "property"]
  | .punct "?." =>
    let q ← bump
    let chain : Node := { kind := "optional_chain", start := q.start, stop := q.stop }
    let t2 ← peek
    if t2.isPunct "(" && calls then
      let args ← arguments r
      return some fun f => build "call_expression"
        [f.withField "function", chain.withField "optional_chain", args.withField "arguments"]
    else if t2.isPunct "[" then
      let o ← punct "["
      let idx ← r.expressions
      let c ← punct "]"
      return some fun obj => build "subscript_expression"
        [obj.withField "object", chain.withField "optional_chain", o, idx.withField "index", c]
    else
      let p ← memberProperty
      return some fun obj => build "member_expression"
        [obj.withField "object", chain.withField "optional_chain", p.withField "property"]
  | .punct "[" =>
    let o ← punct "["
    let idx ← r.expressions
    let c ← punct "]"
    return some fun obj => build "subscript_expression"
      [obj.withField "object", o, idx.withField "index", c]
  | .punct "(" =>
    if calls then
      let args ← arguments r
      return some fun f => build "call_expression" [f.withField "function",
        args.withField "arguments"]
    else return none
  | .backquote =>
    if calls && !t.lineBefore then
      let tpl ← templateWith r.expressions "template_string" "template_substitution"
      return some fun f => build "call_expression" [f.withField "function",
        tpl.withField "arguments"]
    else return none
  | .punct "<" =>
    if calls && isTyped then
      let call ← attempt (do
        let targs ← r.typeArguments
        let next ← peek
        if next.isPunct "(" then
          let args ← arguments r
          return (targs, some args)
        else if next.lexeme == .backquote then
          let tpl ← templateWith r.expressions "template_string" "template_substitution"
          return (targs, some tpl)
        else if next.startsExpression && !binaryWords.any next.isWord then stuck
        else return (targs, none))
      match call with
      | some (targs, some args) =>
        return some fun f => build "call_expression"
          [f.withField "function", targs.withField "type_arguments", args.withField "arguments"]
      | some (targs, none) =>
        return some fun f => build "instantiation_expression"
          [f, targs.withField "type_arguments"]
      | none => return none
    else return none
  | .punct "!" =>
    if calls && isTyped && !t.lineBefore then
      let b ← punct "!"
      return some fun e => build "non_null_expression" [e, b]
    else return none
  | _ => return none

/-- Applies the suffixes that follow an operand. -/
def withSuffixes (r : Rules) (calls : Bool) (base : Node) : Parse Node := do
  let suffixes ← manyOf (operandSuffix r calls)
  return suffixes.foldl (fun acc f => f acc) base

/-- A `new` expression: the constructor with its member accesses, optional type arguments, and
optional arguments; `new.target` is a meta property. With types `new` is also a name, and it is
one when no constructor can follow it. Otherwise, where an operand is required, a `new` with
nothing after it that could begin one gets a missing constructor. -/
def newExpression (r : Rules) : Nat → Parse Node
  | 0 => stuck
  | fuel + 1 => do
    let required := operandRequiredAfter (← read).chars (← get).last
    let t2 ← peekAfter (← peek)
    if (← typed) && !t2.isPunct "." && !t2.startsConstructor then tokenAs "identifier" else
    let n ← keyword "new"
    if (← peek).isPunct "." then
      let d ← punct "."
      let p ← wordAs "property_identifier"
      return build "meta_property" [n, d, p]
    else if !(← peek).startsExpression && (required || (← operandMissing false)) then
      return build "new_expression" [n, (← missingIdentifier).withField "constructor"]
    else
      let ctor ← if (← peek).isWord "new" then newExpression r fuel
        else withSuffixes r false (← r.primary)
      let targs ← if (← typed) && (← peek).isPunct "<" then attempt r.typeArguments
        else pure none
      let args ← if (← peek).isPunct "(" then some <$> arguments r else pure none
      return build "new_expression"
        ([n, ctor.withField "constructor"] ++ fielded "type_arguments" targs ++
          fielded "arguments" args)

/-- An operand: a primary or `new` expression with its suffixes. -/
def operandRule (r : Rules) : Parse Node := do
  let base ← if (← peek).isWord "new" then newExpression r 64 else r.primary
  withSuffixes r true base

/-- An expression with its prefix operators and a postfix `++` or `--`. -/
def unaryRule (r : Rules) : Parse Node := do
  let t ← peek
  let required := operandRequiredAfter (← read).chars (← get).last
  let prefixOp := match t.lexeme with
    | .punct p => ["!", "~", "-", "+"].contains p
    | .word w => ["typeof", "void", "delete"].contains w
    | _ => false
  if prefixOp then
    let _ ← bump
    let arg ← if (← peek).startsExpression then r.unary
      else if required || (← operandMissing true) then missingIdentifier else stuck
    return build "unary_expression" [(t.anonText).withField "operator", arg.withField "argument"]
  else if t.isPunct "++" || t.isPunct "--" then
    let _ ← bump
    let arg ← r.unary
    return build "update_expression" [(t.anonText).withField "operator", arg.withField "argument"]
  else if t.isWord "await" && (← peekAfter t).startsExpression then
    let a ← keyword "await"
    let arg ← r.unary
    return build "await_expression" [a, arg]
  else if t.isWord "await" && (← typed) then
    let a ← keyword "await"
    if required || (← operandMissing true) then
      return build "await_expression" [a, ← missingIdentifier]
    else stuck
  else if t.isPunct "<" && (← grammar) == .typescript then
    let args ← r.typeArguments
    let e ← r.unary
    return build "type_assertion" [args, e]
  else
    let e ← r.operand
    let t2 ← peek
    if (t2.isPunct "++" || t2.isPunct "--") && !t2.lineBefore then
      let _ ← bump
      return build "update_expression" [e.withField "argument", (t2.anonText).withField "operator"]
    else return e

/-- Binary expressions whose operators bind at least as tightly as `minLevel`. -/
def binaryRule (r : Rules) (minLevel : Nat) : Parse Node := do
  let first ← r.unary
  let isTyped ← typed
  let rest ← manyOf (do
    let t ← peek
    match binaryLevel? t isTyped with
    | some (level, right) =>
      if level < minLevel then return none
      else
        let _ ← bump
        if t.isWord "as" || t.isWord "satisfies" then
          let w := if t.isWord "as" then "as" else "satisfies"
          if w == "as" && (← peek).isWord "const" then
            let c ← keyword "const"
            return some fun left => build "as_expression" [left, t.anon w, c]
          else
            let ty ← r.typeExpr
            return some fun left =>
              build (if w == "as" then "as_expression" else "satisfies_expression")
                [left, t.anon w, ty]
        else
          let rhs ← r.binary (if right then level else level + 1)
          return some fun left => build "binary_expression"
            [left.withField "left", (t.anonText).withField "operator", rhs.withField "right"]
    | none => return none)
  return rest.foldl (fun acc f => f acc) first

/-- Whether a node is an arrow function with a return type. -/
def typedArrow (n : Node) : Bool :=
  n.kind == "arrow_function" && n.children.any (·.field == some "return_type")

/-- A binary expression with an optional `? :` tail. A consequence that reads as an arrow function
with a return type, `a ? (b): c => d`, may instead end before that `:`: when no `:` follows the
arrow function, the consequence is read again without it, as both readings go on side by side in
the grammar and only the one that finds its `:` survives. With recovery, one stray token before
the `:` is skipped. -/
def conditional (r : Rules) : Parse Node := do
  let c ← r.binary 0
  if (← peek).isPunct "?" then
    let q ← punct "?"
    let before ← get
    let first ← r.expression
    let yes ← if typedArrow first && !(← peek).isPunct ":" then
        set before
        r.binary 0
      else pure first
    let colon ← punctAfterStray ":"
    let no ← r.expression
    return build "ternary_expression"
      ([c.withField "condition", q, yes.withField "consequence"] ++ colon ++
        [no.withField "alternative"])
  else return c

/-- One expression: an arrow function, a `yield`, or a conditional with an optional
assignment. -/
def expressionRule (r : Rules) : Parse Node := do
  let t ← peek
  if t.isWord "yield" then
    let y ← keyword "yield"
    let star ← punct? "*"
    let next ← peek
    if next.startsExpression && !next.lineBefore then
      let e ← r.expression
      return build "yield_expression" ([y] ++ star.toList ++ [e])
    else return build "yield_expression" ([y] ++ star.toList)
  else
    match ← arrowAhead r with
    | some a => return a
    | none =>
      let left ← conditional r
      let t2 ← peek
      match t2.lexeme with
      | .punct p =>
        if assignmentOperators.contains p then
          if !assignableBy p left.kind then stuck
          let _ ← bump
          let right ← r.expression
          if p == "=" then
            return build "assignment_expression"
              [left.withField "left", t2.anon p, right.withField "right"]
          else
            return build "augmented_assignment_expression"
              [left.withField "left", (t2.anon p).withField "operator", right.withField "right"]
        else return left
      | _ => return left

/-- One or more expressions separated by commas. -/
def expressionsRule (r : Rules) : Parse Node := do
  let first ← r.expression
  let rest ← manyOf (do
    if (← peek).isPunct "," then
      let c ← punct ","
      return some [c, ← r.expression]
    else return none)
  if rest.isEmpty then return first
  else return build "sequence_expression" (first :: rest.flatten)

end ProjectIndex.Script
