import ProjectIndex.Script.Syntax.Markup

/-!
Declarations.

Variables are declared with `var`, `let` or `const` and a comma-separated list of declarators: a
name or pattern, with types an optional `!` and type annotation, and an optional initializer.
Where `=` is followed by nothing that can start an expression, the `=` is wrapped in an error node
and the declarator keeps its name.

Functions (`function`, with an optional `async` and `*`) need a name; with types, one without a
body is a signature ended like a statement. Classes need a name too; with types a class may be
`abstract`. The typed grammar adds interfaces, type aliases, enums, modules (`module`, and
`namespace`, which stands as an expression when it opens a statement) and ambient declarations
(`declare ...`).

`declaration?` decides from the next tokens whether a declaration begins, and parses it.

Owns: `replacedValue`, `strayBeforeType`, `semicolonMissingAfterType`, `variableDeclarator`,
`variableDeclaration`, `functionDeclaration`, `DeclarationPlace`, `declarationWords`,
`declaration?`, `moduleDeclaration`.
-/

namespace ProjectIndex.Script

/-- Whether, after a value, a token on its line begins an expression that no rule lets follow the
value: a literal, or a word that begins an expression and does not open a declaration (`let`,
`const`, `var`, `export`) or join two operands. -/
def Token.beginsStrayValue (t : Token) : Parse Bool := do
  if t.lineBefore then return false
  match t.lexeme with
  | .number | .string => return true
  | .word w =>
    if ["let", "const", "var", "export"].contains w || binaryWords.contains w then return false
    else return (← nameAllowed [] w) || (← expressionWords).contains w
  | _ => return false

/-- With recovery, the value of a declarator followed on its line by an expression that reads up
to the end of the statement: that expression becomes the value and the first goes into an error,
which costs less than a missing `;` between them. Otherwise the value stays as it is. -/
def replacedValue (r : Rules) (v : Node) : Parse (List Node) := do
  if !(← recovering) || !(← (← peek).beginsStrayValue) then return [v.withField "value"]
  let e? ← attempt (do
    let e ← r.expression
    let t ← peek
    if t.isPunct ";" || t.isPunct "," || t.endsStatement then pure e else stuck)
  match e? with
  | some e => return [errorNode [v], e.withField "value"]
  | none => return [v.withField "value"]

/-- With recovery, a word on the line of a declarator's name with a `:` after it, which is
skipped into an error so that the type annotation after it belongs to the declarator. -/
def strayBeforeType : Parse (List Node) := do
  let t ← peek
  if t.isAnyWord && !t.lineBefore && (← peekAfter t).isPunct ":" then
    let _ ← bump
    return [errorNode [skippedLeaf t]]
  else return []

/-- Whether a token may begin a type. -/
def Token.startsType (t : Token) : Bool :=
  match t.lexeme with
  | .word _ | .number | .string | .backquote => true
  | .punct p => ["(", "[", "\x7b", "<", "-", "|", "&"].contains p
  | _ => false

/-- How far the statement that the next token would begin reads before it gets stuck, without
taking anything: past the end of the source when it can be read whole. A reserved word there has
no meaning where it stands, so it is read as a name, which nothing on its line can follow. -/
def statementReach (r : Rules) : Parse Nat := do
  let t ← peek
  let size := (← read).chars.size
  if (t.word?.map reservedWords.contains).getD false then
    let t2 ← peekAfter t
    return if t2.lineBefore || t2.isEnd || t2.isPunct ";" then size + 1 else t2.start
  let saved ← get
  let outcome ← attemptResuming (withReader ({ · with lenient := false }) r.statement)
  set saved
  match outcome with
  | .ok _ => return size + 1
  | .error e => return e.position

/-- Whether a declaration that ends with a type, from `typeStart` (the end of its `:` or `=`) to
`typeEnd`, lacks its `;` before the stray tokens after the type on its line, which then begin the
next statement. Inserting the `;` costs 610. Recovery could instead pop the type back to where a
type begins, when the first stray token may begin one (500, 100 for the type and one for each of
its bytes), or skip the stray tokens (500, then 100 and the bytes of each, and their bytes again to
read on after them). The insertion wins when popping costs more, and skipping comes to cost more
at a token that the statement begun after the `;` still reads. -/
def semicolonMissingAfterType (r : Rules) (typeStart typeEnd : Nat) : Parse Bool := do
  let src := (← read).chars
  let t ← peek
  let run := strayRun src typeEnd 8
  match run.getLast? with
  | none => return false
  | some last =>
    if t.startsType && wrapCost src typeStart typeEnd 1 ≤ missingTokenCost then return false
    let reach ← statementReach r
    let after := scanToken src last.stop
    let step := fun (acc : Nat × Nat × Bool) (tok : Token) =>
      let (cost, prev, dies) := acc
      let cost' := cost + 100 + ((wrapCost src prev tok.stop 0) - 500)
      (cost', tok.stop, dies || (cost' > missingTokenCost && tok.start < reach))
    let (cost, _, dies) := run.foldl step (500, typeEnd, false)
    let readOn := cost + (wrapCost src typeEnd last.stop 0 - 500)
    return dies || (readOn > missingTokenCost && after.start < reach)

/-- Ends a declaration, where with types and recovery its last part may be a type spanning
`span`: a `;` is missing after it when `semicolonMissingAfterType` says so. -/
def semicolonAfterType (r : Rules) (span : Option (Nat × Nat)) : Parse (List Node) := do
  let t ← peek
  match span with
  | some (typeStart, typeEnd) =>
    if (← typed) && (← recovering) && !(t.isPunct ";" || t.endsStatement) &&
        (← semicolonMissingAfterType r typeStart typeEnd) then
      return [← missingToken ";"]
    else semicolon
  | none => semicolon

/-- A variable declarator. An `=` with a token after it that begins no expression is an error of
its own; with recovery, so is an `=` whose value cannot be read, and what follows is left to the
end of the statement. At the end of the source nothing can stand for the value, since no
declaration ends there without its `;`: the declarator is stuck. -/
def variableDeclarator (r : Rules) : Parse Node := do
  let t ← peek
  let name ← if t.isPunct "\x7b" || t.isPunct "[" then r.pattern else bindingIdentifier
  let isTyped ← typed
  let stray ← if isTyped && (← recovering) then strayBeforeType else pure []
  let bang ← if isTyped && (← peek).isPunct "!" then some <$> punct "!" else pure none
  let ann ← if isTyped && (← peek).isPunct ":" then some <$> typeAnnotation r else pure none
  let init ← if (← peek).isPunct "=" then
      let eq ← punct "="
      let v0 ← peek
      if v0.startsExpression || ((← recovering) && v0.opensBrokenString (← read).chars) then
        if ← recovering then
          match ← attempt r.expression with
          | some v => pure (eq :: (← replacedValue r v))
          | none => pure [errorNode [eq]]
        else
          let v ← r.expression
          pure [eq, v.withField "value"]
      else if (← peek).isEnd then stuck
      else pure [errorNode [eq]]
    else pure []
  return build "variable_declarator"
    ([name.withField "name"] ++ stray ++ bang.toList ++ fielded "type" ann ++ init)

/-- A `var`, `let` or `const` declaration; ended like a statement when `terminated`. -/
def variableDeclaration (r : Rules) (terminated : Bool) : Parse Node := do
  let kw ← bump
  let w := kw.word?.getD ""
  let first ← variableDeclarator r
  let more ← manyOf (do
    if (← peek).isPunct "," then
      let c ← punct ","
      return some [c, ← variableDeclarator r]
    else return none)
  let last := (more.getLast?.bind List.getLast?).getD first
  let span := match last.children.getLast? with
    | some ann => if ann.kind == "type_annotation" then some (ann.start + 1, ann.stop) else none
    | none => none
  let semi ← if terminated then semicolonAfterType r span else pure []
  if w == "var" then
    return build "variable_declaration" ([kw.anon w, first] ++ more.flatten ++ semi)
  else
    return build "lexical_declaration"
      ([(kw.anon w).withField "kind", first] ++ more.flatten ++ semi)

/-- A `using` or `await using` declaration of resources, ended like a statement. -/
def usingDeclaration (r : Rules) : Parse Node := do
  let kind ← if (← peek).isWord "await" then
      let a ← keyword "await"
      pure [a, ← keyword "using"]
    else pure [← keyword "using"]
  let first ← variableDeclarator r
  let more ← manyOf (do
    if (← peek).isPunct "," then
      let c ← punct ","
      return some [c, ← variableDeclarator r]
    else return none)
  let semi ← semicolon
  return build "using_declaration" (kind.map (·.withField "kind") ++ [first] ++ more.flatten ++ semi)

/-- A function declaration after its optional `async`; with types and no body, a signature. -/
def functionDeclaration (r : Rules) (asyncLeaf : Option Node) : Parse Node := do
  let f ← keyword "function"
  let star ← punct? "*"
  let name ← bindingIdentifier
  let sig ← callSignature r
  let head := asyncLeaf.toList ++ [f] ++ star.toList ++ [name.withField "name"] ++ sig
  if (← peek).isPunct "\x7b" then
    let body ← r.block
    let kind := if star.isSome then "generator_function_declaration" else "function_declaration"
    return build kind (head ++ [body.withField "body"])
  else if ← typed then
    let semi ← semicolon
    return build "function_signature" (head ++ semi)
  else stuck

/-- A class declaration after its decorators; `abstract` with types. Where nothing but a named
declaration can stand (`anyName`), any word after `class` is its name. -/
def classDeclaration (r : Rules) (decs : List Node) (isAbstract anyName : Bool) : Parse Node := do
  let ab ← if isAbstract then some <$> keyword "abstract" else pure none
  let kw ← keyword "class"
  let parts ← classParts r true anyName
  let kind := if isAbstract then "abstract_class_declaration" else "class_declaration"
  return build kind (decs.map (·.withField "decorator") ++ ab.toList ++ [kw] ++ parts)

/-- An interface declaration. -/
def interfaceDeclaration (r : Rules) : Parse Node := do
  let kw ← keyword "interface"
  let name ← wordAs "type_identifier"
  let tp ← if (← peek).isPunct "<" then some <$> r.typeParameters else pure none
  let ext ← if (← peek).isWord "extends" then
      let e ← keyword "extends"
      let first ← r.typeExpr
      let more ← manyOf (do
        if (← peek).isPunct "," then
          let c ← punct ","
          return some [c, (← r.typeExpr).withField "type"]
        else return none)
      pure (some (build "extends_type_clause" ([e, first.withField "type"] ++ more.flatten)))
    else pure none
  let body ← withReader ({ · with declarationBody := true }) r.objectType
  return build "interface_declaration"
    ([kw, name.withField "name"] ++ fielded "type_parameters" tp ++ ext.toList ++
      [(body.rename "interface_body").withField "body"])

/-- A type alias declaration. -/
def typeAliasDeclaration (r : Rules) : Parse Node := do
  let kw ← keyword "type"
  let name ← wordAs "type_identifier"
  let tp ← if (← peek).isPunct "<" then some <$> r.typeParameters else pure none
  let eq ← punct "="
  let value ← r.typeExpr
  let semi ← semicolonAfterType r (some (eq.stop, value.stop))
  return build "type_alias_declaration"
    ([kw, name.withField "name"] ++ fielded "type_parameters" tp ++ [eq, value.withField "value"] ++
      semi)

/-- An enum declaration, optionally `const`. -/
def enumDeclaration (r : Rules) : Parse Node := do
  let cst ← keyword? "const"
  let kw ← keyword "enum"
  let name ← wordAs "identifier"
  let o ← punct "\x7b"
  let member := do
    let n ← propertyName r
    if (← peek).isPunct "=" then
      let eq ← punct "="
      let v ← r.expression
      return build "enum_assignment" [n.withField "name", eq, v.withField "value"]
    else return n.withField "name"
  let items ← commaSeparatedUntil member "\x7d" false Token.isEnd
  let c ← closeBrace
  return build "enum_declaration"
    (cst.toList ++ [kw, name.withField "name", (build "enum_body" ([o] ++ items ++ [c])).withField
      "body"])

/-- A module name: a string, or a dotted name nested to the left. -/
def moduleName : Parse Node := do
  if (← peek).lexeme == .string then tokenAs "string"
  else
    let first ← wordAs "identifier"
    let parts ← manyOf (do
      if (← peek).isPunct "." then
        let d ← punct "."
        let p ← wordAs "identifier"
        return some (d, p)
      else return none)
    return parts.foldl (fun acc (d, p) => build "nested_identifier" [acc, d, p]) first

/-- A `module` or `namespace` declaration with an optional body. -/
def moduleDeclaration (r : Rules) (kw : String) : Parse Node := do
  let k ← keyword kw
  let name ← moduleName
  let body ← if (← peek).isPunct "\x7b" then
      some <$> withReader ({ · with moduleBlock := true }) r.block
    else pure none
  let kind := if kw == "module" then "module" else "internal_module"
  return build kind ([k, name.withField "name"] ++ fielded "body" body)

/-- Whether the tokens from `t` start a named function: `function`, an optional `*`, a word. -/
def namedFunctionAhead (t : Token) : Parse Bool := do
  if !t.isWord "function" then return false
  let t2 ← peekAfter t
  if t2.isPunct "*" then return (← peekAfter t2).isAnyWord
  else return t2.isAnyWord

/-- Where a declaration may stand. -/
inductive DeclarationPlace where
  /-- Opening a statement, where an expression statement may begin as well. -/
  | statement
  /-- After `export default`, where a class or function may also be an unnamed expression. -/
  | exportDefault
  /-- After `export` or `declare`, where only a declaration can come. -/
  | declarationOnly
deriving BEq

/-- Words that with types open a declaration and nothing else where a statement or an exported
default begins: there they are never names, so one not followed by its declaration is an
error. -/
def declarationWords : List String := ["abstract", "interface", "enum"]

/-- The words after `declare` that begin an ambient declaration. -/
def ambientStarts : List String :=
  ["function", "class", "const", "let", "var", "enum", "interface", "type", "namespace", "module",
   "global", "abstract", "async"]

mutual

/-- A declaration, when the next tokens begin one. Where `namespace` opens a statement it is left
to the expression statement. -/
def declaration? (r : Rules) (place : DeclarationPlace) : Nat → Parse (Option Node)
  | 0 => return none
  | fuel + 1 => do
    let t ← peek
    let t2 ← peekAfter t
    let isTyped ← typed
    -- Where the word could also be a name ending a statement, a line break after it ends the
    -- statement; after `export` or `declare` it cannot be a name, and the break is only a blank.
    let sameLine := place == .declarationOnly || !t2.lineBefore
    if t.isPunct "@" then
      let decs ← decorators r
      let t3 ← peek
      if t3.isWord "class" then some <$> classDeclaration r decs false false
      else if isTyped && t3.isWord "abstract" then some <$> classDeclaration r decs true true
      else stuck
    else
      match t.word? with
      | none => return none
      | some w =>
        match w with
        | "function" =>
          if ← namedFunctionAhead t then some <$> functionDeclaration r none else return none
        | "async" =>
          if sameLine && (← namedFunctionAhead t2) then
            let a ← keyword "async"
            some <$> functionDeclaration r (some a)
          else return none
        | "class" =>
          let anyName := place == .declarationOnly
          if t2.isAnyWord && (anyName || !(← heritageWord t2)) then
            some <$> classDeclaration r [] false anyName
          else return none
        | "const" =>
          if isTyped && t2.isWord "enum" then some <$> enumDeclaration r
          else some <$> variableDeclaration r true
        | "let" =>
          if t2.isAnyWord || t2.isPunct "[" || t2.isPunct "\x7b" then
            some <$> variableDeclaration r true
          else return none
        | "var" => some <$> variableDeclaration r true
        | "using" =>
          if t2.isAnyWord && !t2.lineBefore then some <$> usingDeclaration r else return none
        | "await" =>
          let t3 ← peekAfter t2
          if t2.isWord "using" && !t2.lineBefore && t3.isAnyWord && !t3.lineBefore then
            some <$> usingDeclaration r
          else return none
        | _ =>
          if !isTyped then return none
          else
            match w with
            | "abstract" =>
              if t2.isWord "class" then some <$> classDeclaration r [] true true
              else return none
            | "interface" =>
              if t2.isAnyWord then some <$> interfaceDeclaration r else return none
            | "type" =>
              let t3 ← peekAfter t2
              if t2.isAnyWord && sameLine && (t3.isPunct "=" || t3.isPunct "<") then
                some <$> typeAliasDeclaration r
              else return none
            | "enum" => if t2.isAnyWord then some <$> enumDeclaration r else return none
            | "declare" =>
              if sameLine && (t2.word?.map ambientStarts.contains).getD false then
                some <$> ambientDeclaration r fuel
              else return none
            | "module" =>
              if sameLine && (t2.isAnyWord || t2.lexeme == .string) then
                some <$> moduleDeclaration r "module"
              else return none
            | "namespace" =>
              if place != .statement && sameLine && t2.isAnyWord then
                some <$> moduleDeclaration r "namespace"
              else return none
            | _ => return none

/-- An ambient declaration: `declare` and a declaration, or `declare global { ... }`. -/
def ambientDeclaration (r : Rules) : Nat → Parse Node
  | 0 => stuck
  | fuel + 1 => do
    let d ← keyword "declare"
    if (← peek).isWord "global" then
      let g ← keyword "global"
      let body ← withReader ({ · with moduleBlock := true }) r.block
      return build "ambient_declaration" [d, g, body]
    else
      match ← declaration? r .declarationOnly fuel with
      | some decl => return build "ambient_declaration" [d, decl]
      | none => stuck

end

end ProjectIndex.Script
