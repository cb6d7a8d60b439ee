import ProjectIndex.Script.Syntax.Declaration

/-!
Import and export statements.

An import names its source string, either alone (`import './a'`) or after a clause: a default
name, a namespace import `* as ns`, braced specifiers `{ a, b as c }`, or a default name with one
of the other two. With types the statement or a specifier may be marked `type` (a `type` right
after `import` is always that mark), and `import a = b.c` and `import a = require('b')` bind a
name to an entity or a module. An import may carry attributes (`with { ... }`).

An export is `* from`, `* as name from`, a braced clause with an optional source, with types
`type { ... }`, `= expression`, `as namespace name` and an exported `import a = b.c`, or a
declaration, or `default` followed by a declaration or by an expression ended like a statement.
Decorators before `export` belong to the export statement.

Owns: `typeRenamedAhead`, `importStatement`, `exportIsName`, `exportStatement`, `decoratedExport`.
-/

namespace ProjectIndex.Script

/-- A module export name: a string, `default`, or a word that may be a name. -/
def exportName : Parse Node := do
  let t ← peek
  if t.lexeme == .string then tokenAs "string"
  else if t.isWord "default" then wordAs "identifier"
  else nameAs "identifier" []

/-- Whether an import specifier from `t` is `type` renamed, `type as x` closed by a comma or a
brace: there `type` is the name imported, which no other reading of the specifier can finish. -/
def typeRenamedAhead (t : Token) : Parse Bool := do
  if !t.isWord "type" then return false
  let a ← peekAfter t
  if !a.isWord "as" then return false
  let n ← peekAfter a
  if !n.isAnyWord then return false
  let e ← peekAfter n
  return e.isPunct "," || e.isPunct "\x7d"

/-- One braced specifier of an import or export, of the given kind. With types a leading `type`
or `typeof` marks the specifier, and a name must follow it, except that an import may rename
`type` itself. The name an import binds after `as` is an identifier, so an import of a string
name must rename it. -/
def specifier (kind : String) : Parse Node := do
  let t ← peek
  let renamesType ← if kind == "import_specifier" then typeRenamedAhead t else pure false
  let mark ← if (← typed) && (t.isWord "type" || t.isWord "typeof") && !renamesType then
      let m ← bump
      pure (some (m.anon (m.word?.getD "type")))
    else pure none
  let name ← exportName
  if (← peek).isWord "as" then
    let a ← keyword "as"
    let renamed ← if kind == "import_specifier" then nameAs "identifier" [] else exportName
    return build kind (mark.toList ++ [name.withField "name", a, renamed.withField "alias"])
  else if kind == "import_specifier" && name.kind == "string" then stuck
  else return build kind (mark.toList ++ [name.withField "name"])

/-- How far a specifier read with recovery has come. -/
inductive SpecifierStage where
  /-- Before a specifier. -/
  | start
  /-- After a name that may stand alone. -/
  | named
  /-- After a name that must be renamed: a string or `default` in an import. -/
  | quoted
  /-- After `as`. -/
  | renaming
  /-- After the second name. -/
  | renamed
deriving BEq

/-- The stage a specifier is in after its first `k` pieces. -/
def SpecifierStage.after (quoted : Bool) : Nat → SpecifierStage
  | 0 => .start
  | 1 => if quoted then .quoted else .named
  | 2 => .renaming
  | _ => .renamed

/-- A specifier list read with recovery, between its braces. -/
structure SpecifierRead where
  /-- The finished specifiers, commas and errors. -/
  items : List Node
  /-- A `type` or `typeof` mark of the specifier being read. -/
  mark : List Node
  /-- The names and `as` of the specifier being read. -/
  pieces : List Node
  /-- Errors inside the specifier being read. -/
  errors : List Node
  /-- Whether its first name must be renamed. -/
  quoted : Bool

/-- The specifier being read, finished as a node of the given kind. -/
def SpecifierRead.finish (r : SpecifierRead) (item : String) : Node :=
  let fielded := r.pieces.zipIdx.map fun (n, i) =>
    if i == 0 then n.withField "name" else if i == 2 then n.withField "alias" else n
  build item ((r.mark ++ fielded ++ r.errors).mergeSort fun a b => a.start ≤ b.start)

/-- The specifier being read, wrapped whole in an error. -/
def SpecifierRead.abandon (r : SpecifierRead) : Node :=
  errorNode ((r.mark ++ r.pieces ++ r.errors).mergeSort fun a b => a.start ≤ b.start)

/-- Whether a token may be a name in a specifier: a string, `default`, or a word that may be a
name. -/
def specifierName (t : Token) : Parse Bool := do
  match t.word? with
  | some w => return w == "default" || (← nameAllowed [] w)
  | none => return t.lexeme == .string

/-- Whether a specifier at this stage can take the token next; after `as`, an import takes only
a word other than `default`. -/
def SpecifierStage.takes (stage : SpecifierStage) (isImport : Bool) (t : Token) : Parse Bool := do
  match stage with
  | .start => return (← specifierName t) || t.isPunct "\x7d"
  | .named => return t.isWord "as" || t.isPunct "," || t.isPunct "\x7d"
  | .quoted => return t.isWord "as"
  | .renaming => return (← specifierName t) && !(isImport && (t.isWord "default" || !t.isAnyWord))
  | .renamed => return t.isPunct "," || t.isPunct "\x7d"

/-- Whether a whole specifier begins at the token and ends before a `,` or the closing brace: a
name, optionally renamed. Only then does a token after a specifier that has its second name
start a new specifier; otherwise skipping it costs less. -/
def wholeSpecifierAhead (t : Token) : Parse Bool := do
  if !(← specifierName t) then return false
  let t2 ← peekAfter t
  if t2.isPunct "," || t2.isPunct "\x7d" then return true
  if !t2.isWord "as" then return false
  let t3 ← peekAfter t2
  let t4 ← peekAfter t3
  return (← specifierName t3) && (t4.isPunct "," || t4.isPunct "\x7d")

/-- A specifier list that has just begun. -/
def SpecifierRead.empty (items : List Node) : SpecifierRead :=
  { items := items, mark := [], pieces := [], errors := [], quoted := false }

mutual
/-- Reads specifiers with recovery from where `st` stands, up to the closing brace. -/
def specifiersFrom (item : String) (st : SpecifierRead) : Nat → Parse (List Node × Node)
  | 0 => stuck
  | fuel + 1 => do
    let isImport := item == "import_specifier"
    let t ← peek
    let stage := SpecifierStage.after st.quoted st.pieces.length
    let marked := stage == .start && !st.mark.isEmpty
    if ← (if marked then specifierName t else stage.takes isImport t) then
      if t.isPunct "\x7d" then
        let c ← punct "\x7d"
        let items := if st.pieces.isEmpty then st.items else st.items ++ [st.finish item]
        return (items, c)
      else if t.isPunct "," then
        let c ← punct ","
        specifiersFrom item (SpecifierRead.empty (st.items ++ [st.finish item, c])) fuel
      else if t.isWord "as" && stage != .renaming then
        let a ← keyword "as"
        specifiersFrom item { st with pieces := st.pieces ++ [a] } fuel
      else if stage == .start && (← typed) && (t.isWord "type" || t.isWord "typeof") &&
          st.mark.isEmpty && !(isImport && (← typeRenamedAhead t)) then
        let m ← bump
        specifiersFrom item { st with mark := [m.anon (m.word?.getD "type")] } fuel
      else
        let n ← bump
        let leaf := if n.lexeme == .string then n.leaf "string" else n.leaf "identifier"
        let quoted := stage == .start && isImport && (n.lexeme == .string || n.isWord "default")
        specifiersFrom item { st with pieces := st.pieces ++ [leaf], quoted := st.quoted || quoted }
          fuel
    else if !isImport && t.isPunct ";" && (stage == .named || stage == .renamed) then
      return (st.items ++ [st.finish item], ← missingToken "\x7d")
    else
      let k := st.pieces.length
      let whole ← wholeSpecifierAhead t
      let earlier := if k == 3 then (if whole then [0] else []) else (List.range k).reverse
      match ← earlier.findM? (fun j => (SpecifierStage.after st.quoted j).takes isImport t) with
      | some 0 => specifiersFrom item (SpecifierRead.empty (st.items ++ [st.abandon])) fuel
      | some j =>
        let err := errorNode (st.pieces.drop j)
        specifiersFrom item { st with pieces := st.pieces.take j, errors := st.errors ++ [err] } fuel
      | none =>
        if t.isPunct ";" || t.isEnd then stuck
        else
          let first ← bump
          skipSpecifierTokens item st [skippedLeaf first] fuel

/-- Skips tokens into an error until the specifier being read, at its place or an earlier one,
can take the next token; the pieces after that place join the error. -/
def skipSpecifierTokens (item : String) (st : SpecifierRead) (skipped : List Node) :
    Nat → Parse (List Node × Node)
  | 0 => stuck
  | fuel + 1 => do
    let isImport := item == "import_specifier"
    let t ← peek
    let k := st.pieces.length
    let places := if k == 3 then [3] else (List.range (k + 1)).reverse
    match ← places.findM? (fun j => (SpecifierStage.after st.quoted j).takes isImport t) with
    | some 0 =>
      let err := errorNode ((st.mark ++ st.pieces ++ st.errors ++ skipped).mergeSort
        fun a b => a.start ≤ b.start)
      specifiersFrom item (SpecifierRead.empty (st.items ++ [err])) fuel
    | some j =>
      let err := errorNode (st.pieces.drop j ++ skipped)
      specifiersFrom item { st with pieces := st.pieces.take j, errors := st.errors ++ [err] } fuel
    | none =>
      if t.isPunct ";" || t.isEnd then stuck
      else
        let n ← bump
        skipSpecifierTokens item st (skipped ++ [skippedLeaf n]) fuel
end

/-- Braced specifiers of the given kinds, read as the grammar's recovery reads them, one token at
a time. A token the place cannot take is dealt with in one of three ways. Before a `;` after a
whole specifier of an export, the closing brace is missing. When an earlier place of the same
specifier can take the token, the pieces read after that place become an error and the specifier
goes on from there; a specifier that has its second name is whole, and only the place before it
is earlier, and only for a token that begins a whole specifier (`wholeSpecifierAhead`).
Otherwise the token is skipped into an error with the tokens after it, until one comes that the
place or an earlier one can take; a specifier that has its second name is then kept. A `;` or the end of the source that no place can
take leaves the parse stuck. -/
def recoveringSpecifiers (kind item : String) : Parse Node := do
  let o ← punct "\x7b"
  let (items, c) ← specifiersFrom item (SpecifierRead.empty []) ((← read).chars.size + 1)
  return build kind ([o] ++ items ++ [c])

/-- Braced specifiers of the given kinds; with recovery, read as `recoveringSpecifiers` does. -/
def bracedSpecifiers (kind item : String) : Parse Node := do
  if ← recovering then recoveringSpecifiers kind item
  else
    let o ← punct "\x7b"
    let items ← commaSeparated (specifier item) "\x7d" false
    let c ← punct "\x7d"
    return build kind ([o] ++ items ++ [c])

/-- `* as name`. -/
def namespaceImport : Parse Node := do
  let s ← punct "*"
  let a ← keyword "as"
  let n ← nameAs "identifier" []
  return build "namespace_import" [s, a, n]

/-- An import clause. -/
def importClause : Parse Node := do
  let t ← peek
  if t.isPunct "*" then return build "import_clause" [← namespaceImport]
  else if t.isPunct "\x7b" then
    return build "import_clause" [← bracedSpecifiers "named_imports" "import_specifier"]
  else
    let d ← nameAs "identifier" []
    if (← peek).isPunct "," then
      let c ← punct ","
      let rest ← if (← peek).isPunct "*" then namespaceImport
        else bracedSpecifiers "named_imports" "import_specifier"
      return build "import_clause" [d, c, rest]
    else return build "import_clause" [d]

/-- Import attributes: `with` or `assert` and an object. -/
def importAttributes (r : Rules) : Parse (List Node) := do
  let t ← peek
  if (t.isWord "with" || t.isWord "assert") && !t.lineBefore then
    let w ← bump
    let obj ← r.primary
    return [build "import_attribute" [w.anon (w.word?.getD "with"), obj]]
  else return []

/-- The source string after `from`. -/
def sourceString : Parse Node := do
  if (← peek).lexeme == .string then return (← tokenAs "string").withField "source" else stuck

/-- An import statement, from the `import` keyword. -/
def importStatement (r : Rules) : Parse Node := do
  let i ← keyword "import"
  let t ← peek
  let isTyped ← typed
  let mark ← if isTyped && (t.isWord "type" || t.isWord "typeof") then
      let m ← bump
      pure [m.anon (m.word?.getD "type")]
    else pure []
  let t ← peek
  let t2 ← peekAfter t
  if t.lexeme == .string then
    let s ← sourceString
    let attrs ← importAttributes r
    let semi ← semicolon
    return build "import_statement" ([i] ++ mark ++ [s] ++ attrs ++ semi)
  else if isTyped && t.isAnyWord && t2.isPunct "=" then
    let n ← wordAs "identifier"
    let eq ← punct "="
    let t3 ← peek
    if t3.isWord "require" && (← peekAfter t3).isPunct "(" then
      let req ← keyword "require"
      let o ← punct "("
      let s ← sourceString
      let c ← punct ")"
      let semi ← semicolon
      return build "import_statement"
        ([i] ++ mark ++ [build "import_require_clause" [n, eq, req, o, s, c]] ++ semi)
    else
      let target ← moduleName
      let semi ← semicolon
      return build "import_alias" ([i, n, eq, target] ++ semi)
  else
    let clause ← importClause
    -- with recovery, a source string without `from` before it makes the clause an error, and
    -- the statement imports the source alone
    if (← recovering) && (← peek).lexeme == .string then
      let s ← sourceString
      let attrs ← importAttributes r
      let semi ← semicolon
      return build "import_statement" ([i] ++ mark ++ [errorNode [clause], s] ++ attrs ++ semi)
    let fromKw ← keyword "from"
    let s ← sourceString
    let attrs ← importAttributes r
    let semi ← semicolon
    return build "import_statement" ([i] ++ mark ++ [clause, fromKw, s] ++ attrs ++ semi)

/-- An optional `from 'source'`. -/
def fromSource : Parse (List Node) := do
  if (← peek).isWord "from" then
    let f ← keyword "from"
    return [f, ← sourceString]
  else return []

/-- An export statement, from the `export` keyword. -/
def exportStatement (r : Rules) : Parse Node := do
  let e ← keyword "export"
  let t ← peek
  let isTyped ← typed
  if t.isPunct "*" then
    let star ← punct "*"
    if (← peek).isWord "as" then
      let a ← keyword "as"
      let n ← exportName
      let ns := build "namespace_export" [star, a, n]
      let f ← keyword "from"
      let s ← sourceString
      let attrs ← importAttributes r
      let semi ← semicolon
      return build "export_statement" ([e, ns, f, s] ++ attrs ++ semi)
    else
      let f ← keyword "from"
      let s ← sourceString
      let attrs ← importAttributes r
      let semi ← semicolon
      return build "export_statement" ([e, star, f, s] ++ attrs ++ semi)
  else if t.isPunct "\x7b" then
    let clause ← bracedSpecifiers "export_clause" "export_specifier"
    let src ← fromSource
    let semi ← semicolon
    return build "export_statement" ([e, clause] ++ src ++ semi)
  else if isTyped && t.isWord "type" && (← peekAfter t).isPunct "\x7b" then
    let ty ← keyword "type"
    let clause ← bracedSpecifiers "export_clause" "export_specifier"
    let src ← fromSource
    let semi ← semicolon
    return build "export_statement" ([e, ty, clause] ++ src ++ semi)
  else if isTyped && t.isPunct "=" then
    let eq ← punct "="
    let v ← r.expression
    let semi ← semicolon
    return build "export_statement" ([e, eq, v] ++ semi)
  else if isTyped && t.isWord "as" then
    let a ← keyword "as"
    let ns ← keyword "namespace"
    let n ← wordAs "identifier"
    let semi ← semicolon
    return build "export_statement" ([e, a, ns, n] ++ semi)
  else if isTyped && t.isWord "import" then
    let bound ← importStatement r
    if bound.kind == "import_alias" then
      return build "export_statement" [e, bound.withField "declaration"]
    else stuck
  else if t.isWord "default" then
    let d ← keyword "default"
    match ← declaration? r .exportDefault 8 with
    | some decl => return build "export_statement" [e, d, decl.withField "declaration"]
    | none =>
      if isTyped && ((← peek).word?.map declarationWords.contains).getD false then
        let _ ← bump
        stuck
      let v ← r.expression
      let semi ← semicolon
      return build "export_statement" ([e, d, v.withField "value"] ++ semi)
  else
    match ← declaration? r .declarationOnly 8 with
    | some decl => return build "export_statement" [e, decl.withField "declaration"]
    | none => stuck

/-- With types `export` is also a name, and at the start of a statement it is one when no export
can follow it: before the end, before a token after a line break that ends the statement there,
and before a token on its line that begins no export, such as `;`, `.`, `(` or an operator other
than `*` and `=`. -/
def exportIsName : Parse Bool := do
  if !(← typed) then return false
  let t ← peek
  if (← get).nameAt == some t.start then return true
  let t2 ← peekAfter t
  if t2.isEnd || t2.breakEnds then return true
  match t2.lexeme with
  | .word w => return w == "in" || w == "instanceof"
  | .punct p => return !(["*", "\x7b", "=", "@"].contains p)
  | _ => return true

/-- An export statement after decorators, which then belong to it. -/
def decoratedExport (r : Rules) : Parse Node := do
  let decs ← decorators r
  if !(← peek).isWord "export" then stuck
  let ex ← exportStatement r
  return build "export_statement" (decs.map (·.withField "decorator") ++ ex.children)

end ProjectIndex.Script
