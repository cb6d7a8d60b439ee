import ProjectIndex.Module.Exports

/-!
What a script imports.

First come the top-level statements in order. An import statement gives one edge: its source, the
names it binds (`default` for a default binding, the local name of a namespace import, the
imported name of each braced specifier), whether it binds a default, and whether it is type-only:
marked `type` itself, or with braced specifiers that are all marked `type` and no default. An
export statement with a source gives an edge with the names of its clause, no default, type-only
when marked `type`.

Then come the calls anywhere in the tree, in pre-order: a call of `require` or of `import` whose
arguments are exactly one node, a string, gives an edge to that string; a `require` binds the
default.

Owns: `Document.imports`.
-/

namespace ProjectIndex.Script

open ProjectIndex

/-- The edge of an import statement. -/
def importStatementEdge (d : Document) (node : Node) : ImportEdge :=
  let source := match node.child? "source" with
    | some s => d.stringValue s
    | none => ""
  let parts := match node.namedChildren.find? (·.kind == "import_clause") with
    | some clause => clause.namedChildren
    | none => []
  let step := fun (acc : List String × Bool × List Bool) (part : Node) =>
    let (names, isDefault, marks) := acc
    if part.kind == "identifier" then (names ++ [defaultBinding], true, marks)
    else if part.kind == "namespace_import" then
      match part.namedChildren.find? (·.kind == "identifier") with
      | some ident => (names ++ [d.text ident], isDefault, marks)
      | none => acc
    else if part.kind == "named_imports" then
      let specs := part.namedChildren.filter (·.kind == "import_specifier")
      (names ++ specs.map (fun s => d.text? (s.child? "name")), isDefault,
        marks ++ specs.map (·.hasToken "type"))
    else acc
  let (names, isDefault, marks) := parts.foldl step ([], false, [])
  let typeOnly := node.hasToken "type" || (!marks.isEmpty && marks.all id && !isDefault)
  { source := source, specifiers := names, isDefault := isDefault, isTypeOnly := typeOnly }

/-- The edge of a `require` or `import` call with one string argument. -/
def callEdge? (d : Document) (node : Node) : Option ImportEdge :=
  if node.kind != "call_expression" then none
  else
    match node.child? "function", node.child? "arguments" with
    | some func, some args =>
      let isRequire := func.kind == "identifier" && d.text func == "require"
      if !(isRequire || func.kind == "import") then none
      else
        match args.namedChildren, args.namedChildren.filter (·.kind == "string") with
        | [_], lit :: _ =>
          some { source := d.stringValue lit,
                 specifiers := if isRequire then [defaultBinding] else [],
                 isDefault := isRequire }
        | _, _ => none
    | _, _ => none

/-- The imports of a script, in order. -/
def Document.imports (d : Document) : List ImportEdge :=
  let statements := d.topLevel.filterMap fun child =>
    if child.kind == "import_statement" then some (importStatementEdge d child)
    else if child.kind == "export_statement" then
      match child.child? "source" with
      | some source =>
        some { source := d.stringValue source,
               specifiers := (exportClauseEntries d child []).map (·.name),
               isDefault := false, isTypeOnly := child.hasToken "type" }
      | none => none
    else none
  statements ++ d.walk.filterMap (callEdge? d)

end ProjectIndex.Script
