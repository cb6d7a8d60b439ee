import ProjectIndex.Module.Exports
import ProjectIndex.Text.Blank
import ProjectIndex.Text.Case

/-!
The props of a script's component.

The component is found first: the declaration of a default export when it is a function or
class, else what a default export's value resolves to; failing both, each exported function,
class or variable that is bound at the top level, capitalized names first and otherwise in export
order, resolved by name. Resolving follows a name to its binding and a variable to its value
(keeping the variable's type annotation), and looks through wrapping calls (`memo(...)`, the
first argument that resolves), parentheses and `as`/`satisfies`, at most four steps deep.

A class's props are the members of the first type argument of its `extends` clause. A function's
props come from its first parameter (comments skipped): the names it destructures, with their
defaults, and the members of its type, taken from the parameter's annotation or else from the
first type argument of the variable's annotation (`FC<Props>`). A parameter that is neither
destructured nor named `props` and has no type gives no props.

The members of a type are flattened through intersections, parentheses, local interfaces (their
`extends` types before their body) and local type aliases, at most four levels deep; method
members take their text after the name as their type. Members keep their first occurrence, and
destructured names without a member follow them.

Owns: `Document.props`, `typeMembers`, `destructuredNames`.
-/

namespace ProjectIndex.Script

open ProjectIndex

/-- Sets a key in an ordered table: in place when present, at the end otherwise. -/
def putOrdered (table : List (String × Option String)) (key : String) (v : Option String) :
    List (String × Option String) :=
  if table.any (·.1 == key) then table.map (fun (k, old) => if k == key then (k, v) else (k, old))
  else table ++ [(key, v)]

/-- The names an object pattern destructures, each with the text of its default. -/
def destructuredNames (d : Document) (pattern : Node) : List (String × Option String) :=
  pattern.namedChildren.foldl (fun names item =>
    if item.kind == "shorthand_property_identifier_pattern" then putOrdered names (d.text item) none
    else if item.kind == "object_assignment_pattern" then
      putOrdered names (d.text? (item.child? "left")) ((item.child? "right").map d.text)
    else if item.kind == "pair_pattern" then
      let dflt := match item.child? "value" with
        | some v => if v.kind == "assignment_pattern" then (v.child? "right").map d.text else none
        | none => none
      putOrdered names (d.text? (item.child? "key")) dflt
    else names) []

/-- The last part of a dotted name. -/
def lastDotted (name : String) : String := ((name.splitOn ".").getLast?).getD name

/-- Drops leading characters equal to `c`. -/
def dropLeading (c : Char) (s : String) : String := String.ofList (s.toList.dropWhile (· == c))

/-- The members of a props type, as name, type text and whether optional. -/
def typeMembers (d : Document) (locals : Locals) : Nat → Option Node → List (String × String × Bool)
  | 0, _ => []
  | _, none => []
  | fuel + 1, some t =>
    if t.kind == "object_type" || t.kind == "interface_body" then
      t.namedChildren.filterMap fun member =>
        if member.kind != "property_signature" && member.kind != "method_signature" then none
        else
          match member.child? "name" with
          | none => none
          | some nameNode =>
            let typeText :=
              if member.kind == "method_signature" then
                Text.trimBlanks (dropLeading '?'
                  (String.ofList ((d.text member).toList.drop (d.text nameNode).length)))
              else
                match member.child? "type" with
                | some ann => Text.trimBlanks (dropLeading ':' (d.text ann))
                | none => "unknown"
            some (d.stringValue nameNode, if typeText.isEmpty then "unknown" else typeText,
              member.hasToken "?")
    else if t.kind == "intersection_type" then
      t.namedChildren.flatMap fun part => typeMembers d locals fuel (some part)
    else if t.kind == "parenthesized_type" then typeMembers d locals fuel t.namedChildren.head?
    else if t.kind == "type_identifier" || t.kind == "generic_type" ||
        t.kind == "nested_type_identifier" then
      let name :=
        if t.kind == "generic_type" then
          match t.child? "name" with
          | some base => d.text base
          | none => d.text? t.namedChildren.head?
        else d.text t
      match locals.find? (lastDotted name) with
      | none => []
      | some (_, _, decl) =>
        if decl.kind == "interface_declaration" then
          let inherited := decl.namedChildren.flatMap fun c =>
            if c.kind == "extends_type_clause" then
              c.namedChildren.flatMap fun parent => typeMembers d locals fuel (some parent)
            else []
          inherited ++ typeMembers d locals fuel (decl.child? "body")
        else if decl.kind == "type_alias_declaration" then
          typeMembers d locals fuel (decl.child? "value")
        else []
    else []

/-- The props from a type's members and the destructured names. -/
def membersToProps (d : Document) (locals : Locals) (typeNode : Option Node)
    (destructured : List (String × Option String)) : List PropDecl :=
  let members := typeMembers d locals 5 typeNode
  let firsts := members.foldl (fun acc m => if acc.any (·.1 == m.1) then acc else acc ++ [m]) []
  firsts.map fun (name, typeText, optional) =>
    let dflt := (destructured.find? (·.1 == name)).bind (·.2)
    { name := name, type := typeText, required := !optional && dflt.isNone, defaultValue := dflt }

/-- What a node resolves to as a component: the function or class and the type annotation of
the variable it came through. -/
def resolveCallable (d : Document) (locals : Locals) :
    Nat → Option Node → Option String → Option (Node × Option Node)
  | 0, _, _ => none
  | fuel + 1, node, name => do
    let isName := match node with
      | none => true
      | some n => n.kind == "identifier"
    let (target, declaredType) ← if isName then
        let key := match name with
          | some k => if k.isEmpty then d.text? node else k
          | none => d.text? node
        let (_, _, bound) ← locals.find? key
        if bound.kind == "variable_declarator" then
          let value ← bound.child? "value"
          pure (value, bound.child? "type")
        else pure (bound, none)
      else
        match node with
        | some n => pure (n, none)
        | none => none
    if functionDeclarationKinds.contains target.kind || functionValueKinds.contains target.kind then
      some (target, declaredType)
    else if classDeclarationKinds.contains target.kind || classValueKinds.contains target.kind then
      some (target, none)
    else if target.kind == "call_expression" then
      let args := match target.child? "arguments" with
        | some a => a.namedChildren
        | none => []
      match args.findSome? (fun arg => resolveCallable d locals fuel (some arg) none) with
      | some (found, foundType) => some (found, foundType.orElse (fun _ => declaredType))
      | none => none
    else if ["parenthesized_expression", "as_expression", "satisfies_expression"].contains
        target.kind then
      match target.namedChildren.head? with
      | some inner => resolveCallable d locals fuel (some inner) none
      | none => none
    else none

/-- Whether a name starts with an upper-case letter. -/
def startsUpper (name : String) : Bool :=
  match name.toList.head? with
  | some c => Text.isUpperChar c
  | none => false

/-- The component of a script and the type annotation it was declared with. -/
def componentTarget (d : Document) (exports : List ExportDecl) (locals : Locals) :
    Option (Node × Option Node) :=
  let fromDefault := d.topLevel.findSome? fun child =>
    if child.kind == "export_statement" && child.hasToken "default" then
      let decl := unwrapDeclaration? (child.child? "declaration")
      match decl with
      | some dn =>
        if functionDeclarationKinds.contains dn.kind || classDeclarationKinds.contains dn.kind then
          some (dn, none)
        else (child.child? "value").bind fun v => resolveCallable d locals 5 (some v) none
      | none => (child.child? "value").bind fun v => resolveCallable d locals 5 (some v) none
    else none
  match fromDefault with
  | some found => some found
  | none =>
    let candidates := exports.filter fun e =>
      (e.kind == .function || e.kind == .class || e.kind == .variable) &&
        (locals.find? e.name).isSome
    let ordered := candidates.filter (startsUpper ·.name) ++
      candidates.filter (!startsUpper ·.name)
    ordered.findSome? fun e => resolveCallable d locals 5 none (some e.name)

/-- The first parameter of a function, comments skipped; an arrow function's single one. -/
def firstParameter (func : Node) : Option Node :=
  match func.child? "parameters" with
  | some params => params.namedChildren.find? (·.kind != "comment")
  | none => func.child? "parameter"

/-- A parameter's pattern and the type of its annotation. -/
def parameterParts (param : Node) : Option Node × Option Node :=
  if param.kind == "required_parameter" || param.kind == "optional_parameter" then
    let typeNode := (param.child? "type").bind (·.namedChildren.head?)
    (param.child? "pattern", typeNode)
  else if param.kind == "assignment_pattern" then (param.child? "left", none)
  else (some param, none)

/-- The first type argument of a generic annotation such as `FC<Props>`. -/
def propsTypeFromWrapper (declaredType : Option Node) : Option Node := do
  let ann ← declaredType
  let inner ← ann.namedChildren.head?
  if inner.kind != "generic_type" then none
  else
    let args ← inner.namedChildren.find? (·.kind == "type_arguments")
    args.namedChildren.head?

/-- The first type argument of a class's `extends` clause. -/
def classPropsType (cls : Node) : Option Node :=
  cls.namedChildren.findSome? fun heritage =>
    if heritage.kind != "class_heritage" then none
    else
      heritage.namedChildren.findSome? fun clause =>
        if clause.kind != "extends_clause" then none
        else
          let args := (clause.child? "type_arguments").orElse
            (fun _ => clause.namedChildren.find? (·.kind == "type_arguments"))
          args.bind (·.namedChildren.head?)

/-- The props of a script's component, given its exports. -/
def Document.props (d : Document) (exports : List ExportDecl) : List PropDecl :=
  let locals := d.locals
  match componentTarget d exports locals with
  | none => []
  | some (func, declaredType) =>
    if classDeclarationKinds.contains func.kind || classValueKinds.contains func.kind then
      membersToProps d locals (classPropsType func) []
    else
      match firstParameter func with
      | none => []
      | some param =>
        let (pattern, ownType) := parameterParts param
        let typeNode := ownType.orElse (fun _ => propsTypeFromWrapper declaredType)
        let destructured := match pattern with
          | some p => if p.kind == "object_pattern" then destructuredNames d p else []
          | none => []
        let refuse := match pattern with
          | none => true
          | some p => p.kind != "object_pattern" && p.kind == "identifier" &&
              d.text p != "props" && typeNode.isNone
        if refuse then []
        else
          let props := membersToProps d locals typeNode destructured
          props ++ (destructured.filter (fun (n, _) => !props.any (·.name == n))).map
            fun (n, dflt) => { name := n, type := "unknown", required := dflt.isNone,
                               defaultValue := dflt }

end ProjectIndex.Script
