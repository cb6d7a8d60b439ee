import ProjectIndex.Module.Declarations

/-!
What a script exports.

Each top-level export statement gives exports in order:

* with a declaration, one export per name it declares, default when the statement says
  `default` and type-only when the statement says `type` or the name is a type or interface; a
  default declaration that declares no name exports `default`, of the declaration's kind;
* with a default value, the name it refers to (of the kind that name is bound to, or a variable)
  when it is an identifier, else the value's own name when it is a named function or class, else
  `default`;
* otherwise the entries of its braced clause (each exported under its alias or its own name, of
  the kind its local name is bound to, default when exported as `default`, type-only when the
  statement or the entry says `type` or the kind is a type or interface) and its namespace
  export `* as name`.

Owns: `Document.exports`, `exportClauseEntries`.
-/

namespace ProjectIndex.Script

open ProjectIndex

/-- The entries of an export statement's braced clause and namespace export. -/
def exportClauseEntries (d : Document) (node : Node) (locals : Locals) : List ExportDecl :=
  let statementTypeOnly := node.hasToken "type"
  node.namedChildren.flatMap fun part =>
    if part.kind == "export_clause" then
      part.namedChildren.filterMap fun spec =>
        if spec.kind != "export_specifier" then none
        else
          let localName := d.text? (spec.child? "name")
          let exported := match spec.child? "alias" with
            | some a => d.text a
            | none => localName
          let kind := locals.kindOf localName
          some { name := exported, kind := kind, isDefault := exported == defaultBinding,
                 isTypeOnly := statementTypeOnly || spec.hasToken "type" || kind.isTypeLike }
    else if part.kind == "namespace_export" then
      match part.namedChildren.find? (fun c => c.kind == "identifier" || c.kind == "string") with
      | some ident => [{ name := d.stringValue ident, kind := .variable }]
      | none => []
    else []

/-- The export of a default value. -/
def defaultValueExport (d : Document) (value : Node) (locals : Locals) : ExportDecl :=
  if value.kind == "identifier" then
    let name := d.text value
    { name := name, kind := locals.kindOf name, isDefault := true }
  else
    let named := functionValueKinds.contains value.kind || classValueKinds.contains value.kind
    let name := match (if named then value.child? "name" else none) with
      | some n => d.text n
      | none => defaultBinding
    { name := name, kind := declarationKind (some value), isDefault := true }

/-- The exports of one export statement. -/
def statementExports (d : Document) (locals : Locals) (child : Node) : List ExportDecl :=
  let isDefault := child.hasToken "default"
  let typeOnly := child.hasToken "type"
  match child.child? "declaration", child.child? "value" with
  | some decl, _ =>
    let declared := declaredNames d (some decl)
    let anonymous : List ExportDecl :=
      if declared.isEmpty && isDefault then
        [{ name := defaultBinding, kind := declarationKind (some decl), isDefault := true }]
      else []
    anonymous ++ declared.map fun (name, kind, _) =>
      { name := name, kind := kind, isDefault := isDefault,
        isTypeOnly := typeOnly || kind.isTypeLike }
  | none, some value =>
    if isDefault then [defaultValueExport d value locals]
    else exportClauseEntries d child locals
  | none, none => exportClauseEntries d child locals

/-- The exports of a script, in order. -/
def Document.exports (d : Document) : List ExportDecl :=
  let locals := d.locals
  d.topLevel.flatMap fun child =>
    if child.kind == "export_statement" then statementExports d locals child else []

end ProjectIndex.Script
