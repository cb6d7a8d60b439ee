import ProjectIndex.Data.Value

/-!
The surface of a script module: what it imports, what it exports, and the props its component
takes.

An import edge records the module specifier as written, the names it binds (`default` for a
default binding, the local name of a namespace import), whether it binds a default, whether it
imports types only, and, once the project's graph is known, the project file it resolves to.

Owns: `ImportEdge`, `ExportKind`, `ExportDecl`, `PropDecl`, their report values.
-/

namespace ProjectIndex

open ProjectIndex.Data

/-- The name a default import or an anonymous default export is known by. -/
def defaultBinding : String := "default"

/-- One import of a module. -/
structure ImportEdge where
  source : String
  specifiers : List String := []
  isDefault : Bool := false
  isTypeOnly : Bool := false
  resolvedPath : Option String := none
deriving Inhabited, DecidableEq, Repr

/-- What an exported name is. -/
inductive ExportKind where
  | function
  | «class»
  | variable
  | type
  | interface
deriving Inhabited, DecidableEq, Repr

/-- The lower-case name of an export kind. -/
def ExportKind.name : ExportKind → String
  | .function => "function"
  | .class => "class"
  | .variable => "variable"
  | .type => "type"
  | .interface => "interface"

/-- Whether an export kind names a type: a type alias, an enum or an interface. -/
def ExportKind.isTypeLike (k : ExportKind) : Bool := k == .type || k == .interface

/-- One exported name. -/
structure ExportDecl where
  name : String
  kind : ExportKind := .variable
  isDefault : Bool := false
  isTypeOnly : Bool := false
deriving Inhabited, DecidableEq, Repr

/-- One prop of a component. -/
structure PropDecl where
  name : String
  type : String := "unknown"
  required : Bool := true
  defaultValue : Option String := none
deriving Inhabited, DecidableEq, Repr

/-- The report value of an import edge; the resolved path only when known. -/
def ImportEdge.toValue (e : ImportEdge) : Value :=
  .table ([("source", .str e.source), ("specifiers", .list (e.specifiers.map .str)),
    ("isDefault", .bool e.isDefault), ("isTypeOnly", .bool e.isTypeOnly)] ++
    match e.resolvedPath with
    | some p => [("resolvedPath", .str p)]
    | none => [])

/-- The report value of an export. -/
def ExportDecl.toValue (e : ExportDecl) : Value :=
  .table [("name", .str e.name), ("kind", .str e.kind.name), ("isDefault", .bool e.isDefault),
    ("isTypeOnly", .bool e.isTypeOnly)]

/-- The report value of a prop; the default only when there is one. -/
def PropDecl.toValue (p : PropDecl) : Value :=
  .table ([("name", .str p.name), ("type", .str p.type), ("required", .bool p.required)] ++
    match p.defaultValue with
    | some d => [("defaultValue", .str d)]
    | none => [])

end ProjectIndex
