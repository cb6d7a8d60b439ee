import ProjectIndex.Script.Syntax.Pattern

/-!
Classes: heritage clauses and class bodies.

A class has an optional name, optional type parameters, an optional heritage and a body. Where
the name may be left out, `extends` (and with types `implements`) right after `class` opens the
heritage; after `export class` or `abstract class` it is the name. With types the heritage is an
`extends` clause, whose entries are an expression with optional type arguments, and an
`implements` clause listing types; without types it is `extends` and one expression.

A class body is a braced list of members: methods (modifiers, an optional `*`, the name, the call
signature and a body), method signatures without a body, fields (modifiers, the name, an optional
type annotation and an optional initializer, ended like a statement), index signatures, static
blocks and stray semicolons. With types `abstract` and `accessor` open a member only as
modifiers, so neither names a member that no modifier comes before (see `modifierWithoutName`),
and an abstract method has no body. A body left open at the end of the source is closed by a
missing brace placed after its last token or comment.

Owns: `heritageWord`, `classHeritage`, `classParts`, `modifierWithoutName`, `classBodyRule`.
-/

namespace ProjectIndex.Script

/-- The heritage of a class, when it has one. -/
def classHeritage (r : Rules) : Parse (Option Node) := do
  if !(← typed) then
    if (← peek).isWord "extends" then
      let e ← keyword "extends"
      let v ← r.operand
      return some (build "class_heritage" [e, v])
    else return none
  else
    let clauses ← manyOf (do
      let t ← peek
      if t.isWord "extends" then
        let e ← keyword "extends"
        let entry := do
          let v ← r.operand
          let args ← if (← peek).isPunct "<" then some <$> r.typeArguments else pure none
          return [v.withField "value"] ++ fielded "type_arguments" args
        let first ← entry
        let more ← manyOf (do
          if (← peek).isPunct "," then
            let c ← punct ","
            return some (c :: (← entry))
          else return none)
        return some (build "extends_clause" ([e] ++ first ++ more.flatten))
      else if t.isWord "implements" then
        let i ← keyword "implements"
        let first ← r.typeExpr
        let more ← manyOf (do
          if (← peek).isPunct "," then
            let c ← punct ","
            return some [c, ← r.typeExpr]
          else return none)
        return some (build "implements_clause" ([i, first] ++ more.flatten))
      else return none)
    if clauses.isEmpty then return none else return some (build "class_heritage" clauses)

/-- Whether a word right after `class` would open its heritage: `extends`, and with types also
`implements`. Plain scripts have no `implements` clause, so there it is a name like any other. -/
def heritageWord (t : Token) : Parse Bool := do
  return t.isWord "extends" || ((← typed) && t.isWord "implements")

/-- The parts of a class after its keyword: the name (required or not), type parameters,
heritage and body. Where the name may be left out, a heritage word right after `class` opens the
heritage; where only a named declaration can stand (`anyName`), it is the name. -/
def classParts (r : Rules) (requireName anyName : Bool) : Parse (List Node) := do
  let t ← peek
  let isTyped ← typed
  let nameNode ←
    if t.isAnyWord && (anyName || !(← heritageWord t)) then
      some <$> (if isTyped then wordAs "type_identifier" else bindingIdentifier)
    else if requireName then stuck else pure none
  let tp ← if isTyped && (← peek).isPunct "<" then some <$> r.typeParameters else pure none
  let heritage ← classHeritage r
  let body ← r.classBody
  return fielded "name" nameNode ++ fielded "type_parameters" tp ++ heritage.toList ++
    [body.withField "body"]

/-- With types, `abstract` and `accessor` open a member only as modifiers: where no modifier
comes before one of them and no name follows it, the member is an error. -/
def modifierWithoutName : Parse Bool := do
  let t ← peek
  return t.isWord "abstract" || t.isWord "accessor"

/-- One member of a class body. -/
def classMember (r : Rules) : Parse Node := do
  let decs := (← decorators r).map (·.withField "decorator")
  let t ← peek
  if t.isWord "static" && (← peekAfter t).isPunct "\x7b" then
    let s ← keyword "static"
    let body ← r.block
    return build "class_static_block" [s, body.withField "body"]
  else
    let mods ← memberModifiers
    let star ← punct? "*"
    let isTyped ← typed
    if isTyped && (← indexAhead (← peek)) then indexSignature r (decs ++ mods)
    else
      if isTyped && mods.isEmpty && star.isNone && (← modifierWithoutName) then stuck
      let name ← propertyName r
      let mark ← if isTyped && ((← peek).isPunct "?" || (← peek).isPunct "!") then
          some <$> (do let m ← bump; pure (m.anon (if m.isPunct "?" then "?" else "!")))
        else pure none
      let t3 ← peek
      if t3.isPunct "(" || t3.isPunct "<" then
        let sig ← callSignature r
        if (← peek).isPunct "\x7b" then
          if mods.any (·.kind == "abstract") then stuck
          let body ← r.block
          return build "method_definition"
            (decs ++ mods ++ star.toList ++ [name.withField "name"] ++ mark.toList ++ sig ++
              [body.withField "body"])
        else
          let semi ← semicolon
          let kind := if mods.any (·.kind == "abstract") then "abstract_method_signature"
            else "method_signature"
          return build kind
            (decs ++ mods ++ star.toList ++ [name.withField "name"] ++ mark.toList ++ sig ++ semi)
      else
        let ann ← if isTyped && t3.isPunct ":" then some <$> typeAnnotation r else pure none
        let init ← if (← peek).isPunct "=" then
            let eq ← punct "="
            let v ← r.expression
            pure [eq, v.withField "value"]
          else pure []
        let semi ← semicolon
        if isTyped then
          return build "public_field_definition"
            (decs ++ mods ++ [name.withField "name"] ++ mark.toList ++ fielded "type" ann ++
              init ++ semi)
        else
          return build "field_definition"
            (decs ++ mods ++ [name.withField "property"] ++ init ++ semi)

/-- A class body: members between braces, closed by a missing brace at the end of the source.
A member stuck for good before an export is wrapped in an error up to it, since an export may
begin a member; with recovery, a member that cannot be read has its first token wrapped in an
error. -/
def classBodyRule (r : Rules) : Parse Node := do
  let o ← punct "\x7b"
  let size := (← read).chars.size
  let members ← manyOf (do
    let t ← peek
    if t.isPunct "\x7d" || t.isEnd then return none
    else if t.isPunct ";" then return some (← punct ";")
    else
      match ← attemptResuming (withClosableBlocks true (classMember r)) with
      | .ok m => return some (m.withField "member")
      | .error e =>
        match e.resume with
        | some p => if t.start < p && p < size then some <$> wrapUpTo p else throw e
        | none => if ← recovering then return some (errorNode [skippedLeaf (← bump)]) else stuck)
  let c ← closeBrace
  return build "class_body" ([o] ++ members ++ [c])

end ProjectIndex.Script
