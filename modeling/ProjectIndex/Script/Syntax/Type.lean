import ProjectIndex.Script.Rules

/-!
Types, type annotations and call signatures.

A type is a function or constructor type, or a union of intersections of operands, or a
conditional `A extends B ? C : D`. Unions and intersections nest to the left, so `A & B & C` is
the intersection of `A & B` with `C`. An operand is a primary type followed by any number of
`[]` (an array type) or `[K]` (a lookup); primary types are parenthesized types, object types,
tuples, literals, built-in types, `typeof`, `keyof`, `readonly` and `infer` forms, and references:
a type identifier or a dotted name, with type arguments making a generic type. These operator
words, `unique` and `abstract` are keywords wherever a type may begin; an operator with nothing
that begins a type after it gets a missing name.

An object type lists property signatures, method signatures, call and construct signatures and
index signatures, separated by commas, semicolons or line breaks. A call signature is optional
type parameters, the parameter list, and an optional return type, which may be a type predicate
`x is T` or an assertion `asserts x`.

Owns: `propertyName`, `typeAnnotation`, `returnType`, `callSignature`, `templateWith`,
`typeRule`, `typeOperandRule`, `typeArgumentsRule`, `typeParametersRule`, `objectTypeRule`.
-/

namespace ProjectIndex.Script

/-- Words naming the built-in types. -/
def builtinTypeWords : List String :=
  ["any", "number", "boolean", "string", "symbol", "void", "unknown", "never", "object"]

/-- Whether a token can begin a primary type, as the operand of a type operator. -/
def Token.startsPrimaryType (t : Token) : Bool :=
  match t.lexeme with
  | .word _ | .string | .number | .backquote => true
  | .punct p => ["(", "[", "\x7b", "-", "*"].contains p
  | _ => false

/-- A name of the given kind that the source lacks after a type operator, placed after the last
token taken. A type is required where the operator stands, so wrapping the operator in an error
would have to wrap what requires it as well, which costs more than the missing name. -/
def missingTypeName (kind : String) : Parse Node := do
  return { (← missingToken kind) with named := true }

/-- Whether a token can start a property name. -/
def Token.startsPropertyName (t : Token) : Bool :=
  match t.lexeme with
  | .word _ | .string | .number | .privateName => true
  | .punct "[" => true
  | _ => false

/-- A property name: a word, a string, a number, a private name, or a computed `[expression]`. -/
def propertyName (r : Rules) : Parse Node := do
  let t ← peek
  match t.lexeme with
  | .word _ => tokenAs "property_identifier"
  | .string => tokenAs "string"
  | .number => tokenAs "number"
  | .privateName => tokenAs "private_property_identifier"
  | .punct "[" =>
    let o ← punct "["
    let e ← r.expression
    let c ← punct "]"
    return build "computed_property_name" [o, e, c]
  | _ => stuck

/-- The arguments of a module import in a type position: `(`, comma-separated expressions, `)`. -/
def importArguments (r : Rules) : Parse Node := do
  let o ← punct "("
  let items ← commaSeparated r.expression ")" false
  let c ← punct ")"
  return build "arguments" ([o] ++ items ++ [c])

/-- A chain from a module import `import(...)`: calls and dotted accesses, nested to the left. -/
def importChain (r : Rules) : Parse Node := do
  let base ← wordAs "import"
  let args ← importArguments r
  let first := build "call_expression" [base.withField "function", args.withField "arguments"]
  let rest ← manyOf (do
    let t ← peek
    if t.isPunct "." then
      let d ← punct "."
      let n ← wordAs "property_identifier"
      return some fun (acc : Node) =>
        build "member_expression" [acc.withField "object", d, n.withField "property"]
    else if t.isPunct "(" then
      let a ← importArguments r
      return some fun (acc : Node) =>
        build "call_expression" [acc.withField "function", a.withField "arguments"]
    else return none)
  return rest.foldl (fun acc f => f acc) first

/-- Whether the tokens ahead begin a module import `import(`. -/
def importAhead : Parse Bool := do
  let t ← peek
  return t.isWord "import" && (← peekAfter t).isPunct "("

/-- `: type`. -/
def typeAnnotation (r : Rules) : Parse Node := do
  let c ← punct ":"
  let ty ← r.typeExpr
  return build "type_annotation" [c, ty]

/-- The subject of a type predicate: `this` or an identifier. -/
def predicateSubject : Parse Node := do
  if (← peek).isWord "this" then tokenAs "this" else wordAs "identifier"

/-- A type, or a type predicate `x is T` where a function states what it checks. -/
def predicateOrType (r : Rules) : Parse Node := do
  let t ← peek
  let t2 ← peekAfter t
  if t.isAnyWord && t2.isWord "is" && !t2.lineBefore then
    let subject ← predicateSubject
    let i ← keyword "is"
    let ty ← r.typeExpr
    return build "type_predicate" [subject.withField "name", i, ty.withField "type"]
  else r.typeExpr

/-- A return type: a type annotation, a type predicate annotation, or an assertion. -/
def returnType (r : Rules) : Parse Node := do
  let c ← punct ":"
  let t ← peek
  let t2 ← peekAfter t
  if t.isWord "asserts" && t2.isAnyWord && !t2.lineBefore then
    let a ← keyword "asserts"
    let body ← predicateOrType r
    return build "asserts_annotation" [c, build "asserts" [a, body]]
  else
    let ty ← predicateOrType r
    if ty.kind == "type_predicate" then return build "type_predicate_annotation" [c, ty]
    else return build "type_annotation" [c, ty]

/-- Optional type parameters, the parameter list, and an optional return type. -/
def callSignature (r : Rules) : Parse (List Node) := do
  let isTyped ← typed
  let tp ← if isTyped && (← peek).isPunct "<" then some <$> r.typeParameters else pure none
  let ps ← r.parameters
  let rt ← if isTyped && (← peek).isPunct ":" then some <$> returnType r else pure none
  return fielded "type_parameters" tp ++ [ps.withField "parameters"] ++ fielded "return_type" rt

/-- Words that cannot begin an expression: they open statements or declarations only. -/
def statementOnlyWords : List String :=
  ["export", "const", "var", "if", "for", "while", "do", "return", "throw", "break", "continue",
   "switch", "try", "catch", "finally", "else", "case", "default", "enum", "debugger", "with"]

/-- Whether a token may begin an expression. -/
def Token.mayBeginExpression (t : Token) : Bool :=
  match t.lexeme with
  | .word w => !statementOnlyWords.contains w
  | .number | .string | .backquote | .privateName => true
  | .punct p => ["(", "[", "\x7b", "!", "~", "-", "+", "++", "--", "/", "/=", "<", "@"].contains p
  | _ => false

/-- A template that the source ends inside, read with recovery. The text of its last stretch runs
to the end of the source, so it is read as tokens instead: those that cannot begin an expression
are wrapped in an error with the template read so far, and the expression around it goes on at
the first token that can. -/
def unfinishedTemplate (openTick : Token) (pieces : List Node) : Parse Node := do
  let src := (← read).chars
  let here := (← get).pos
  let (kept, from_) := match pieces.getLast? with
    | some last => if last.kind == "string_fragment" && last.stop == src.size then
        (pieces.dropLast, last.start) else (pieces, here)
    | none => (pieces, here)
  jumpTo from_
  let skipped ← manyOf (do
    let t ← peek
    if t.isEnd || t.mayBeginExpression then return none
    else
      let _ ← bump
      return some (skippedLeaf t))
  if (← peek).isEnd then stuck
  else return errorNode ([openTick.anon "`"] ++ kept ++ skipped)

/-- A template whose substitutions hold what `inner` reads: the backquote, plain characters as
`string_fragment`, escapes as `escape_sequence`, and `${ ... }` as a node of kind `slot`. With
recovery, one stray token may stand before the closing brace of a substitution, and a
substitution whose expression no closing brace follows takes everything up to the next `;` into
an error, which ends the template there; any other template the source ends inside is read by
`unfinishedTemplate`. -/
def templateWith (inner : Parse Node) (kind slot : String) : Parse Node := do
  let openTick ← bump
  let src := (← read).chars
  let (pieces, swallowed) ← templatePieces [] (src.size + 1)
  let pos := (← get).pos
  if swallowed then return build kind ([openTick.anon "`"] ++ pieces)
  match scanTemplatePiece src pos with
  | .close =>
    jumpTo (pos + 1)
    let closeTick : Node := { kind := "`", named := false, start := pos, stop := pos + 1 }
    return build kind ([openTick.anon "`"] ++ pieces ++ [closeTick])
  | .unfinished => if ← recovering then unfinishedTemplate openTick pieces else stuck
  | _ => throw { position := pos }
where
  /-- The pieces from here onto `acc`, and whether a substitution took the rest of the
  statement. -/
  templatePieces (acc : List Node) : Nat → Parse (List Node × Bool)
    | 0 => pure (acc, false)
    | fuel + 1 => do
      let src := (← read).chars
      let pos := (← get).pos
      match scanTemplatePiece src pos with
      | .chars stop =>
        jumpTo stop
        templatePieces (acc ++ [{ kind := "string_fragment", start := pos, stop := stop }]) fuel
      | .escape stop =>
        jumpTo stop
        templatePieces (acc ++ [{ kind := "escape_sequence", start := pos, stop := stop }]) fuel
      | .substitution =>
        jumpTo (pos + 2)
        let dollar : Node := { kind := "$\x7b", named := false, start := pos, stop := pos + 2 }
        let e ← inner
        match ← attempt (punctAfterStray "\x7d") with
        | some c => templatePieces (acc ++ [build slot ([dollar, e] ++ c)]) fuel
        | none =>
          if ← recovering then return (acc ++ [build slot [dollar, e, ← wrapToSemicolon]], true)
          else stuck
      | .close | .unfinished | .malformed => pure (acc, false)

/-- Repeats `op operand` after a first operand and nests the results to the left. -/
def leftNested (kind op : String) (operand : Parse Node) (first : Node) : Parse Node := do
  let rest ← manyOf (do
    if (← peek).isPunct op then
      let o ← punct op
      let x ← operand
      return some (o, x)
    else return none)
  return rest.foldl (fun acc (o, x) => build kind [acc, o, x]) first

/-- Operands joined by `&`, with an optional leading `&`. -/
def intersectionType (r : Rules) : Parse Node := do
  let lead ← punct? "&"
  let first ← r.typeOperand
  let init := match lead with
    | some amp => build "intersection_type" [amp, first]
    | none => first
  leftNested "intersection_type" "&" r.typeOperand init

/-- Intersections joined by `|`, with an optional leading `|`. -/
def unionType (r : Rules) : Parse Node := do
  let lead ← punct? "|"
  let first ← intersectionType r
  let init := match lead with
    | some bar => build "union_type" [bar, first]
    | none => first
  leftNested "union_type" "|" (intersectionType r) init

/-- A function type: optional type parameters, parameters, `=>` and the result, which may also be
a type predicate or an assertion. -/
def functionType (r : Rules) : Parse Node := do
  let tp ← if (← peek).isPunct "<" then some <$> r.typeParameters else pure none
  let ps ← r.parameters
  let arrow ← punct "=>"
  let t ← peek
  let ret ← if t.isWord "asserts" && (← peekAfter t).isAnyWord && !(← peekAfter t).lineBefore then do
      let a ← keyword "asserts"
      pure (build "asserts" [a, ← predicateOrType r])
    else predicateOrType r
  return build "function_type"
    (fielded "type_parameters" tp ++ [ps.withField "parameters", arrow, ret.withField "return_type"])

/-- A constructor type: `new`, optionally `abstract` before it, then a function type's parts. -/
def constructorType (r : Rules) : Parse Node := do
  let ab ← keyword? "abstract"
  let n ← keyword "new"
  let tp ← if (← peek).isPunct "<" then some <$> r.typeParameters else pure none
  let ps ← r.parameters
  let arrow ← punct "=>"
  let ret ← r.typeExpr
  return build "constructor_type"
    (ab.toList ++ [n] ++ fielded "type_parameters" tp ++
      [ps.withField "parameters", arrow, ret.withField "type"])

/-- A type. -/
def typeRule (r : Rules) : Parse Node := do
  let t ← peek
  let fn ← if t.isPunct "(" || t.isPunct "<" then attempt (functionType r) else pure none
  match fn with
  | some f => return f
  | none =>
    if t.isWord "new" || (t.isWord "abstract" && (← peekAfter t).isWord "new") then
      constructorType r
    else
      let u ← unionType r
      if (← peek).isWord "extends" then
        let e ← keyword "extends"
        let right ← unionType r
        let q ← punct "?"
        let yes ← r.typeExpr
        let c ← punct ":"
        let no ← r.typeExpr
        return build "conditional_type"
          [u.withField "left", e, right.withField "right", q, yes.withField "consequence", c,
            no.withField "alternative"]
      else return u

/-- Type arguments: `<`, comma-separated types, `>`. Where only a type can stand, as after the
name of a generic type, a `;` after a type ends the list with the `>` missing; in an expression
the list is only tried, and a `<` that does not close is a comparison. -/
def typeArgumentList (r : Rules) (closable : Bool) : Parse Node := do
  let o ← punct "<"
  let items ← manyOf (do
    let t ← peek
    if t.opensWithAngle || t.isEnd || (closable && t.isPunct ";") then return none
    else
      let ty ← r.typeExpr
      let t2 ← peek
      if t2.isPunct "," then return some [ty, ← punct ","]
      else if t2.opensWithAngle || (closable && t2.isPunct ";") then return some [ty]
      else stuck)
  let c ← if closable && !items.isEmpty && (← peek).isPunct ";" then missingToken ">"
    else closeAngle
  return build "type_arguments" ([o] ++ items.flatten ++ [c])

/-- A type reference: a type identifier or dotted name, with type arguments a generic type. -/
def typeReference (r : Rules) : Parse Node := do
  let first ← wordAs "type_identifier"
  let parts ← manyOf (do
    if (← peek).isPunct "." then
      let d ← punct "."
      let n ← wordAs "type_identifier"
      return some (d, n)
    else return none)
  let name := match parts.reverse with
    | [] => first
    | (lastDot, lastName) :: earlier =>
      let moduleNode := earlier.reverse.foldl
        (fun acc (d, n) => build "nested_identifier" [acc, d, n.rename "identifier"])
        (first.rename "identifier")
      build "nested_type_identifier"
        [moduleNode.withField "module", lastDot, lastName.withField "name"]
  if (← peek).isPunct "<" then
    let args ← typeArgumentList r true
    return build "generic_type" [name.withField "name", args.withField "type_arguments"]
  else return name

/-- `typeof` with a name or a dotted access, perhaps instantiated with type arguments, or a chain
from a module import. -/
def typeQuery (r : Rules) : Parse Node := do
  let kw ← keyword "typeof"
  if ← importAhead then return build "type_query" [kw, ← importChain r]
  if !(← peek).isAnyWord then return build "type_query" [kw, ← missingTypeName "identifier"]
  let first ← wordAs "identifier"
  let target ← leftNestedAccess first
  if (← peek).isPunct "<" then
    let args ← r.typeArguments
    return build "type_query"
      [kw, build "instantiation_expression" [target.withField "function", args.withField "type_arguments"]]
  else return build "type_query" [kw, target]
where
  /-- Dotted property accesses after a name, nested to the left. -/
  leftNestedAccess (first : Node) : Parse Node := do
    let rest ← manyOf (do
      if (← peek).isPunct "." then
        let d ← punct "."
        let n ← wordAs "property_identifier"
        return some (d, n)
      else return none)
    return rest.foldl (fun acc (d, n) =>
      build "member_expression" [acc.withField "object", d, n.withField "property"]) first

/-- A member of a tuple type: a rest type, or a type that may be marked optional. -/
def tupleMember (r : Rules) : Parse Node := do
  let t ← peek
  if t.isPunct "..." then
    let t2 ← peekAfter t
    if t2.isAnyWord && (← peekAfter t2).isPunct ":" then
      let d ← punct "..."
      let n ← wordAs "identifier"
      let ann ← typeAnnotation r
      return build "required_parameter"
        [(build "rest_pattern" [d, n]).withField "name", ann.withField "type"]
    else
      let d ← punct "..."
      let ty ← r.typeExpr
      return build "rest_type" [d, ty]
  else
    let t ← peek
    let t2 ← peekAfter t
    if t.isAnyWord && (t2.isPunct ":" || (t2.isPunct "?" && (← peekAfter t2).isPunct ":")) then
      let n ← wordAs "identifier"
      let q ← punct? "?"
      let ann ← typeAnnotation r
      let kind := if q.isSome then "optional_parameter" else "required_parameter"
      return build kind ([n.withField "pattern"] ++ q.toList ++ [ann.withField "type"])
    else
      let ty ← r.typeExpr
      match ← punct? "?" with
      | some q => return build "optional_type" [ty, q]
      | none => return ty

/-- A primary type. -/
def primaryType (r : Rules) : Parse Node := do
  let t ← peek
  match t.lexeme with
  | .punct "(" =>
    let o ← punct "("
    -- a module import here begins a parameter pattern, not a type: recovery keeps it in an error
    let ty ← if ← importAhead then
        if ← recovering then pure (errorNode [← importChain r]) else stuck
      else r.typeExpr
    let c ← punct ")"
    return build "parenthesized_type" [o, ty, c]
  | .punct "\x7b" => r.objectType
  | .punct "[" =>
    let o ← punct "["
    let items ← commaSeparated (tupleMember r) "]" false
    let c ← punct "]"
    return build "tuple_type" ([o] ++ items ++ [c])
  | .string => return build "literal_type" [← tokenAs "string"]
  | .number => return build "literal_type" [← tokenAs "number"]
  | .punct "-" =>
    let m ← punct "-"
    if (← peek).lexeme == .number then
      let n ← tokenAs "number"
      return build "literal_type" [build "unary_expression" [m.withField "operator",
        n.withField "argument"]]
    else stuck
  | .backquote => templateWith r.typeExpr "template_literal_type" "template_type"
  | .punct "*" => tokenAs "existential_type"
  | .word w =>
    if builtinTypeWords.contains w then tokenAs "predefined_type"
    else if w == "unique" then
      let u ← bump
      if (← peek).isWord "symbol" then
        let s ← bump
        return { kind := "predefined_type", start := u.start, stop := s.stop }
      else if (← peek).startsPrimaryType then stuck
      else return build "predefined_type" [u.anon "unique", ← missingToken "symbol"]
    else
      match w with
      | "true" | "false" | "null" | "undefined" => return build "literal_type" [← tokenAs w]
      | "typeof" => typeQuery r
      | "keyof" =>
        let kw ← keyword "keyof"
        return build "index_type_query" [kw, ← operatorOperand]
      | "readonly" =>
        let kw ← keyword "readonly"
        return build "readonly_type" [kw, ← operatorOperand]
      | "infer" =>
        let kw ← keyword "infer"
        let n ← if (← peek).isAnyWord then wordAs "type_identifier"
          else missingTypeName "type_identifier"
        if (← peek).isWord "extends" then
          let e ← keyword "extends"
          return build "infer_type" [kw, n, e, ← r.typeExpr]
        else return build "infer_type" [kw, n]
      | "this" => tokenAs "this_type"
      | "abstract" => stuck
      | _ => typeReference r
  | _ => stuck
where
  /-- The operand of `keyof` or `readonly`, or a missing name when nothing that begins a type
  follows. -/
  operatorOperand : Parse Node := do
    if (← peek).startsPrimaryType then r.typeOperand else missingTypeName "type_identifier"

/-- A type operand: a primary type with its `[]` and `[K]` suffixes, or a chain from a module
import, which is a type but no primary one and so takes no suffix. -/
def typeOperandRule (r : Rules) : Parse Node := do
  if ← importAhead then importChain r else
  let base ← primaryType r
  let suffixes ← manyOf (do
    let t ← peek
    if t.isPunct "[" && !t.lineBefore then
      let o ← punct "["
      if (← peek).isPunct "]" then return some (o, none, ← punct "]")
      else
        let ty ← r.typeExpr
        return some (o, some ty, ← punct "]")
    else return none)
  return suffixes.foldl (fun acc (o, ty?, c) =>
    match ty? with
    | none => build "array_type" [acc, o, c]
    | some ty => build "lookup_type" [acc, o, ty, c]) base

/-- Type arguments: `<`, comma-separated types, `>`. -/
def typeArgumentsRule (r : Rules) : Parse Node := typeArgumentList r false

/-- One type parameter: a name with an optional constraint and default. -/
def typeParameter (r : Rules) : Parse Node := do
  let cst ← keyword? "const"
  let n ← wordAs "type_identifier"
  let constraint ← if (← peek).isWord "extends" then
      let e ← keyword "extends"
      let ty ← r.typeExpr
      pure (some (build "constraint" [e, ty]))
    else pure none
  let dflt ← if (← peek).isPunct "=" then
      let eq ← punct "="
      let ty ← r.typeExpr
      pure (some (build "default_type" [eq, ty]))
    else pure none
  return build "type_parameter"
    (cst.toList ++ [n.withField "name"] ++ fielded "constraint" constraint ++ fielded "value" dflt)

/-- Type parameters: `<`, comma-separated parameters, `>`. -/
def typeParametersRule (r : Rules) : Parse Node := do
  let o ← punct "<"
  let items ← manyOf (do
    let t ← peek
    if t.opensWithAngle || t.isEnd then return none
    else
      let p ← typeParameter r
      let t2 ← peek
      if t2.isPunct "," then return some [p, ← punct ","]
      else if t2.opensWithAngle then return some [p]
      else stuck)
  let c ← closeAngle
  return build "type_parameters" ([o] ++ items.flatten ++ [c])

/-- Words that modify a member when another name follows them. -/
def memberModifierWords : List String :=
  ["public", "private", "protected", "static", "override", "readonly", "declare", "abstract",
   "async", "get", "set", "accessor"]

/-- The leaf for a member modifier: accessibility and `override` are wrapped in their own
constructs, the rest are anonymous keywords. -/
def modifierNode (t : Token) (w : String) : Node :=
  if w == "public" || w == "private" || w == "protected" then
    build "accessibility_modifier" [t.anon w]
  else if w == "override" then build "override_modifier" [t.anon w]
  else t.anon w

/-- Member modifiers: each a modifier word on which a property name (or `*`) follows. -/
def memberModifiers : Parse (List Node) :=
  manyOf (do
    let t ← peek
    match t.word? with
    | some w =>
      let t2 ← peekAfter t
      if memberModifierWords.contains w && (t2.startsPropertyName || t2.isPunct "*") &&
          !(w == "async" && t2.lineBefore) then
        let _ ← bump
        return some (modifierNode t w)
      else return none
    | none => return none)

/-- An index signature `[k: K]: T`, or a mapped type clause `[K in T]: U`. -/
def indexSignature (r : Rules) (mods : List Node) : Parse Node := do
  let o ← punct "["
  let nameTok ← peek
  if (← peekAfter nameTok).isWord "in" then
    let n ← wordAs "type_identifier"
    let i ← keyword "in"
    let ty ← r.typeExpr
    let remap ← if (← peek).isWord "as" then
        let a ← keyword "as"
        let u ← r.typeExpr
        pure [a, u.withField "alias"]
      else pure []
    let clause := build "mapped_type_clause" ([n.withField "name", i, ty.withField "type"] ++ remap)
    let c ← punct "]"
    let sign ← if (← peek).isPunct "-" || (← peek).isPunct "+" then
        let s ← bump
        pure [s.anon (if s.isPunct "-" then "-" else "+")]
      else pure []
    let q ← punct? "?"
    let ann ← if (← peek).isPunct ":" then some <$> typeAnnotation r else pure none
    return build "index_signature"
      (mods ++ [o, clause, c] ++ sign ++ q.toList ++ fielded "type" ann)
  else
    let n ← wordAs "identifier"
    let colon ← punct ":"
    let ty ← r.typeExpr
    let c ← punct "]"
    let ann ← typeAnnotation r
    return build "index_signature"
      (mods ++ [o, n.withField "name", colon, ty.withField "index_type", c, ann.withField "type"])

/-- Whether the tokens from `[` read as an index signature or mapped type rather than a computed
property name. -/
def indexAhead (t : Token) : Parse Bool := do
  let t2 ← peekAfter t
  let t3 ← peekAfter t2
  return t.isPunct "[" && t2.isAnyWord && (t3.isPunct ":" || t3.isWord "in")

/-- One member of an object type. -/
def typeMember (r : Rules) : Parse Node := do
  let t ← peek
  let t2 ← peekAfter t
  if t.isPunct "(" || t.isPunct "<" then return build "call_signature" (← callSignature r)
  else if t.isWord "new" && (t2.isPunct "(" || t2.isPunct "<") then
    let n ← keyword "new"
    return build "construct_signature" (n :: (← callSignature r))
  else if ← indexAhead t then indexSignature r []
  else if (t.isPunct "-" || t.isPunct "+") && t2.isWord "readonly" then
    let sign ← bump
    let mods ← memberModifiers
    indexSignature r ([(sign.anon (if sign.isPunct "-" then "-" else "+")).withField "sign"] ++ mods)
  else
    let mods ← memberModifiers
    if ← indexAhead (← peek) then indexSignature r mods
    else
      let name ← propertyName r
      let q ← punct? "?"
      let t3 ← peek
      if t3.isPunct "(" || t3.isPunct "<" then
        let sig ← callSignature r
        return build "method_signature" (mods ++ [name.withField "name"] ++ q.toList ++ sig)
      else
        let ann ← if t3.isPunct ":" then some <$> typeAnnotation r else pure none
        return build "property_signature"
          (mods ++ [name.withField "name"] ++ q.toList ++ fielded "type" ann)

/-- The members of an object type from here up to its closing brace. In the body of a
declaration (`body`), a member followed on its line by a token that may begin a statement ends the
members, and the closing brace is missing before that token. With recovery, a member that cannot
be read, or that something other than a separator follows, goes into an error with everything up
to the closing brace, where the type then reads on. -/
def objectTypeMembers (r : Rules) (body : Bool) (acc : List Node) : Nat → Parse (List Node)
  | 0 => pure acc
  | fuel + 1 => do
    let t ← peek
    if t.isPunct "\x7d" || t.isEnd then return acc
    else if t.isPunct "," || t.isPunct ";" then
      let s ← bump
      objectTypeMembers r body (acc ++ [s.anon (if s.isPunct "," then "," else ";")]) fuel
    else
      match ← attempt (typeMember r) with
      | none =>
        if ← recovering then return acc ++ [errorNode ((← tokensToBrace).map skippedLeaf)]
        else stuck
      | some m =>
        let t2 ← peek
        if t2.isPunct "," || t2.isPunct ";" then
          let s ← bump
          objectTypeMembers r body (acc ++ [m, s.anon (if s.isPunct "," then "," else ";")]) fuel
        else if t2.isPunct "\x7d" || t2.lineBefore || t2.isEnd then
          objectTypeMembers r body (acc ++ [m]) fuel
        else if body && t2.beginsStatement then return acc ++ [m]
        else if ← recovering then
          return acc ++ [errorNode (m :: (← tokensToBrace).map skippedLeaf)]
        else stuck

/-- An object type: members between braces, separated by commas, semicolons or line breaks. The
closing brace is missing at the end of the source, and in the body of a declaration before a
token on the line of the last member that may begin a statement; a word there was read as a name,
and the statement after the body reads it as one. -/
def objectTypeRule (r : Rules) : Parse Node := do
  let body := (← read).declarationBody
  let o ← punct "\x7b"
  let members ← withReader ({ · with declarationBody := false })
    (objectTypeMembers r body [] ((← read).chars.size + 1))
  let t ← peek
  let c ← if body && t.beginsStatement && !t.lineBefore then
      -- the word was read where a member goes on, which no keyword is, so it stays a name
      if t.isAnyWord then modify fun c => { c with nameAt := some t.start }
      missingToken "\x7d"
    else closeBrace
  return build "object_type" ([o] ++ members ++ [c])

end ProjectIndex.Script
