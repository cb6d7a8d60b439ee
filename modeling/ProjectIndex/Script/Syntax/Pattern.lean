import ProjectIndex.Script.Syntax.Type

/-!
Binding patterns and parameter lists, and which words may be names.

A word is a keyword only where the grammar can use it as one. So with types `const class = 1`
declares `class`, while in a pattern or a parameter list, where an expression may also begin,
`new` or `this` is a keyword. Plain scripts also reserve the words of `reservedWords`, which are
never names.

A pattern binds names: an identifier, an object pattern `{ ... }`, an array pattern `[ ... ]`, or
a rest pattern `...p`. In an object pattern each entry is a rest pattern, a pair `key: pattern`
whose pattern may carry a default (`key: p = d` holds an assignment pattern), a shorthand name,
or a shorthand name with a default (an object assignment pattern). A property name may stand
where a shorthand name does, and no word is reserved there, so the shorthand name may be any word.
Array patterns hold patterns, patterns with defaults, and empty places.

With types, each parameter is a required or optional (`?`) parameter: optional decorators and
modifiers, the pattern (or `this`), an optional type annotation and an optional default value.
Without types a parameter is a pattern, or an assignment pattern when it has a default.

Owns: `reservedWords`, `expressionWords`, `nameAllowed`, `bindingIdentifier`, `patternIdentifier`,
`patternRule`, `parametersRule`, `decorator`.
-/

namespace ProjectIndex.Script

/-- The words that never name a binding or a variable. -/
def reservedWords : List String :=
  ["break", "case", "catch", "class", "const", "continue", "debugger", "default", "delete", "do",
   "else", "export", "extends", "false", "finally", "for", "function", "if", "import", "in",
   "instanceof", "new", "null", "return", "super", "switch", "this", "throw", "true", "try",
   "typeof", "var", "void", "while", "with"]

/-- Words that open an expression of their own (`this`, `new x`, `typeof x`, …), and with types
also `await`: where an expression or a pattern may begin they are no names. -/
def expressionWords : Parse (List String) := do
  let common := ["this", "super", "true", "false", "null", "function", "class", "new", "typeof",
    "void", "delete", "yield", "import"]
  return if ← typed then common ++ ["await"] else common

/-- Whether a word may be a name where the words `taken` have a meaning of their own there. A word
is a keyword only where the grammar can use it as one, so with types any other word is a name;
plain scripts also never take a reserved word for a name. -/
def nameAllowed (taken : List String) (w : String) : Parse Bool := do
  return !taken.contains w && ((← typed) || !reservedWords.contains w)

/-- Takes a word as a leaf of the given kind when it may be a name where the words `taken` have
a meaning of their own. -/
def nameAs (kind : String) (taken : List String) : Parse Node := do
  match (← peek).word? with
  | some w => if ← nameAllowed taken w then wordAs kind else stuck
  | none => stuck

/-- Takes the identifier that a declaration introduces, after `const`, `let`, `var`, `function`
or `class`, or in a `catch`: no keyword of the grammar fits there. -/
def bindingIdentifier : Parse Node := nameAs "identifier" []

/-- Takes an identifier inside a pattern, where an expression may also begin. -/
def patternIdentifier : Parse Node := do nameAs "identifier" (← expressionWords)

/-- A pattern followed by an optional default, which makes it an assignment pattern. -/
def patternWithDefault (r : Rules) : Parse Node := do
  let p ← r.pattern
  if (← peek).isPunct "=" then
    let eq ← punct "="
    let d ← r.expression
    return build "assignment_pattern" [p.withField "left", eq, d.withField "right"]
  else return p

/-- A rest pattern `...p`. -/
def restPattern (r : Rules) : Parse Node := do
  let d ← punct "..."
  let p ← r.pattern
  return build "rest_pattern" [d, p]

/-- One entry of an object pattern. -/
def objectPatternEntry (r : Rules) : Parse Node := do
  let t ← peek
  if t.isPunct "..." then restPattern r
  else
    let t2 ← peekAfter t
    if t2.isPunct ":" || !t.isAnyWord then
      let key ← propertyName r
      let colon ← punct ":"
      let value ← patternWithDefault r
      return build "pair_pattern" [key.withField "key", colon, value.withField "value"]
    else
      let name ← wordAs "shorthand_property_identifier_pattern"
      if (← peek).isPunct "=" then
        let eq ← punct "="
        let d ← r.expression
        return build "object_assignment_pattern" [name.withField "left", eq, d.withField "right"]
      else return name

/-- A binding pattern. -/
def patternRule (r : Rules) : Parse Node := do
  let t ← peek
  if t.isPunct "\x7b" then
    let o ← punct "\x7b"
    let items ← commaSeparated (objectPatternEntry r) "\x7d" true
    let c ← punct "\x7d"
    return build "object_pattern" ([o] ++ items ++ [c])
  else if t.isPunct "[" then
    let o ← punct "["
    let item := do if (← peek).isPunct "..." then restPattern r else patternWithDefault r
    let items ← commaSeparated item "]" true
    let c ← punct "]"
    return build "array_pattern" ([o] ++ items ++ [c])
  else if t.isPunct "..." then restPattern r
  else patternIdentifier

/-- A decorator: `@` and the expression it applies. -/
def decorator (r : Rules) : Parse Node := do
  let sign ← punct "@"
  let e ← r.operand
  return build "decorator" [sign, e]

/-- Decorators, as many as come. -/
def decorators (r : Rules) : Parse (List Node) :=
  manyOf (do if (← peek).isPunct "@" then some <$> decorator r else return none)

/-- Parameter modifiers: accessibility words, `override` and `readonly`, each followed by more of
the parameter on the same line. -/
def parameterModifiers : Parse (List Node) :=
  manyOf (do
    let t ← peek
    match t.word? with
    | some w =>
      let t2 ← peekAfter t
      let more := t2.isAnyWord || t2.isPunct "\x7b" || t2.isPunct "[" || t2.isPunct "..."
      if ["public", "private", "protected", "override", "readonly"].contains w && more then
        let _ ← bump
        return some (modifierNode t w)
      else return none
    | none => return none)

/-- A parameter with types: decorators, modifiers, the pattern or `this`, an optional `?`, an
optional type annotation and an optional default. -/
def typedParameter (r : Rules) : Parse Node := do
  let decs ← decorators r
  let mods ← parameterModifiers
  let pat ← if (← peek).isWord "this" then tokenAs "this" else r.pattern
  let q ← punct? "?"
  let ann ← if (← peek).isPunct ":" then some <$> typeAnnotation r else pure none
  let dflt ← if (← peek).isPunct "=" then
      let eq ← punct "="
      let d ← r.expression
      pure [eq, d.withField "value"]
    else pure []
  let kind := if q.isSome then "optional_parameter" else "required_parameter"
  return build kind
    ((decs.map (·.withField "decorator")) ++ mods ++ [pat.withField "pattern"] ++ q.toList ++
      fielded "type" ann ++ dflt)

/-- A parameter list between parentheses; with recovery, read by `commaSeparatedLeniently`,
where an element's `<` is not skipped: the parentheses then hold an expression, not parameters. -/
def parametersRule (r : Rules) : Parse Node := do
  let o ← punct "("
  let item := do if ← typed then typedParameter r else patternWithDefault r
  let markup ← markupAllowed
  let items ← if ← recovering then
      commaSeparatedLeniently item ")" false (·.isPunct "\x7b") fun t => markup && t.isPunct "<"
    else commaSeparatedUntil item ")" false (·.isPunct "\x7b")
  let c ← closer ")" (!items.isEmpty) (·.isPunct "\x7b")
  return build "formal_parameters" ([o] ++ items ++ [c])

end ProjectIndex.Script
