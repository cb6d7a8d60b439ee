import ProjectIndex.Script.Document

/-!
What the scorers look at in a script: its exported declarations and values, the functions among
them, the names they export, the modules it imports from, and the callees of calls.

The exported nodes are, for each top-level export statement, its declaration as written (no
`declare` wrapper removed) or else its value. Exported functions are function declarations with a
name and the declarators of variable declarations whose value is an arrow function or a function
expression; a declarator's name is taken as written, a pattern included.

Owns: `exportedNodes`, `exportedFunctions`, `exportedNames`, `defaultFunctions`,
`importSources`, `calleeText`, `takesProps`.
-/

namespace ProjectIndex.Heuristic

open ProjectIndex.Script

/-- The constructs that count as functions: declarations, values and methods. -/
def functionKinds : List String :=
  ["function_declaration", "generator_function_declaration", "arrow_function",
   "function_expression", "function", "method_definition"]

/-- Variable declaration constructs. -/
def variableKinds : List String := ["lexical_declaration", "variable_declaration"]

/-- The markup element constructs. -/
def markupKinds : List String := ["jsx_element", "jsx_self_closing_element"]

/-- The declaration of each top-level export statement, or else its value. -/
def exportedNodes (d : Document) : List Node :=
  d.topLevel.filterMap fun child =>
    if child.kind != "export_statement" then none
    else (child.child? "declaration").orElse (fun _ => child.child? "value")

/-- The exported functions with their names: named function declarations, and declarators whose
value is an arrow function or function expression, with that value. -/
def exportedFunctions (d : Document) : List (String × Node) :=
  (exportedNodes d).flatMap fun node =>
    if node.kind == "function_declaration" || node.kind == "generator_function_declaration" then
      match node.child? "name" with
      | some name => [(d.text name, node)]
      | none => []
    else if variableKinds.contains node.kind then
      node.namedChildren.filterMap fun declarator =>
        if declarator.kind != "variable_declarator" then none
        else
          match declarator.child? "name", declarator.child? "value" with
          | some name, some value =>
            if ["arrow_function", "function_expression", "function"].contains value.kind then
              some (d.text name, value)
            else none
          | _, _ => none
    else []

/-- The exported names of any kind: each declarator of an exported variable declaration, and
the name of any other exported node that has one. -/
def exportedNames (d : Document) : List String :=
  (exportedNodes d).flatMap fun node =>
    if variableKinds.contains node.kind then
      node.namedChildren.filterMap fun declarator =>
        if declarator.kind != "variable_declarator" then none
        else (declarator.child? "name").map d.text
    else
      match node.child? "name" with
      | some name => [d.text name]
      | none => []

/-- The functions a default export statement exports, named `default`. -/
def defaultFunctions (d : Document) : List (String × Node) :=
  d.topLevel.filterMap fun child =>
    if child.kind != "export_statement" || !child.hasToken "default" then none
    else
      match (child.child? "value").orElse (fun _ => child.child? "declaration") with
      | some value => if functionKinds.contains value.kind then some ("default", value) else none
      | none => none

/-- Each top-level import statement's module, with the names of its import specifiers. -/
def importSources (d : Document) : List (String × List String) :=
  d.topLevel.filterMap fun child =>
    if child.kind != "import_statement" then none
    else
      let source := match child.child? "source" with
        | some s => d.stringValue s
        | none => ""
      let names := child.walk.filterMap fun node =>
        if node.kind == "import_specifier" then (node.child? "name").map d.text else none
      some (source, names)

/-- The text of a call's callee; empty when it has none. -/
def calleeText (d : Document) (call : Node) : String :=
  d.text? (call.child? "function")

/-- The function's first parameter (comments skipped) is an object pattern or is named `props`,
looked at through its annotation and its default. -/
def takesProps (d : Document) (func : Node) : Bool :=
  let first : Option Node := match func.child? "parameters" with
    | some params => params.namedChildren.find? (fun (c : Node) => c.kind != "comment")
    | none => func.child? "parameter"
  match first with
  | none => false
  | some param =>
    let pattern := (param.child? "pattern").getD param
    let pattern :=
      if pattern.kind == "assignment_pattern" then (pattern.child? "left").getD pattern else pattern
    pattern.kind == "object_pattern" || d.text pattern == "props"

end ProjectIndex.Heuristic
