import ProjectIndex.Script.Document
import ProjectIndex.Module.Surface

/-!
The names a script declares at its top level.

A declaration is looked at through any `declare` wrappers. A variable declaration introduces the
names of its declarators whose name is a plain identifier: a function when the value is a
function or arrow function, a variable otherwise. Any other declaration with a name introduces
that name, of the kind its construct gives: functions and function signatures, classes, types
(aliases and enums), interfaces, and variables for the rest (modules and namespaces among them).

The top-level names come from the program's statements, and from the declaration an export
statement holds; the first binding of a name wins.

Owns: `unwrapDeclaration`, `declarationKind`, `declaredNames`, `Locals`, `Document.locals`.
-/

namespace ProjectIndex.Script

open ProjectIndex

/-- Constructs that declare functions. -/
def functionDeclarationKinds : List String :=
  ["function_declaration", "generator_function_declaration", "function_signature"]

/-- Constructs that are function values. -/
def functionValueKinds : List String :=
  ["arrow_function", "function_expression", "function", "generator_function"]

/-- Constructs that declare classes. -/
def classDeclarationKinds : List String := ["class_declaration", "abstract_class_declaration"]

/-- Constructs that are class values. -/
def classValueKinds : List String := ["class"]

/-- Constructs that declare variables. -/
def variableDeclarationKinds : List String := ["lexical_declaration", "variable_declaration"]

/-- A declaration without its `declare` wrappers: the first named child of each, in turn. -/
def unwrapDeclaration (n : Node) : Option Node :=
  if n.kind == "ambient_declaration" then
    match h : n.children.find? (·.named) with
    | some c =>
      have : sizeOf c < sizeOf n := Node.sizeOf_lt_of_mem_children (List.mem_of_find?_eq_some h)
      unwrapDeclaration c
    | none => none
  else some n
termination_by sizeOf n

/-- `unwrapDeclaration` on a node that may be absent. -/
def unwrapDeclaration? : Option Node → Option Node
  | some n => unwrapDeclaration n
  | none => none

/-- The kind of what a construct declares. -/
def kindOfConstruct (k : String) : ExportKind :=
  if functionDeclarationKinds.contains k || functionValueKinds.contains k then .function
  else if classDeclarationKinds.contains k || classValueKinds.contains k then .class
  else if k == "type_alias_declaration" || k == "enum_declaration" then .type
  else if k == "interface_declaration" then .interface
  else .variable

/-- The kind of a declaration, looked at through its wrappers; a variable when absent. -/
def declarationKind (n : Option Node) : ExportKind :=
  match unwrapDeclaration? n with
  | some d => kindOfConstruct d.kind
  | none => .variable

/-- A declared name with its kind and the node that declares it. -/
abbrev Binding := String × ExportKind × Node

/-- The bindings a declaration introduces. -/
def declaredNames (d : Document) (n : Option Node) : List Binding :=
  match unwrapDeclaration? n with
  | none => []
  | some decl =>
    if variableDeclarationKinds.contains decl.kind then
      decl.namedChildren.filterMap fun declarator =>
        if declarator.kind != "variable_declarator" then none
        else
          match declarator.child? "name" with
          | some nameNode =>
            if nameNode.kind != "identifier" then none
            else
              let isFunction := match declarator.child? "value" with
                | some v => functionValueKinds.contains v.kind
                | none => false
              some (d.text nameNode, if isFunction then .function else .variable, declarator)
          | none => none
    else
      match decl.child? "name" with
      | some nameNode => [(d.text nameNode, declarationKind (some decl), decl)]
      | none => []

/-- The top-level bindings by name, each name with its first binding. -/
abbrev Locals := List Binding

/-- The binding of a name. -/
def Locals.find? (locals : Locals) (name : String) : Option Binding :=
  List.find? (fun (b : Binding) => b.1 == name) locals

/-- The kind a name is bound to, a variable when unbound. -/
def Locals.kindOf (locals : Locals) (name : String) : ExportKind :=
  match locals.find? name with
  | some (_, k, _) => k
  | none => .variable

/-- Keeps the first binding of each name. -/
def firstBindings (bs : List Binding) : Locals :=
  bs.foldl (fun acc b => if (Locals.find? acc b.1).isSome then acc else acc ++ [b]) []

/-- The top-level bindings of a script, exported or not. -/
def Document.locals (d : Document) : Locals :=
  firstBindings <| d.topLevel.flatMap fun child =>
    if child.kind == "export_statement" then
      match child.child? "declaration" with
      | some decl => declaredNames d (some decl)
      | none => []
    else declaredNames d (some child)

end ProjectIndex.Script
