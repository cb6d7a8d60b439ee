import ProjectIndex.Script.Cursor

/-!
The rules of the script grammar that call one another.

Statements hold expressions, expressions hold functions and classes whose bodies hold statements,
and types hold parameter lists whose defaults are expressions again. Each rule is written once,
in the module of its construct, as a parse that takes this record for every rule it calls in
turn. The parser (`Script.Parse`) fills the record with the rules themselves, nested as deep as
the source is long; a record that has run out of depth makes every rule get stuck.

Owns: `Rules`, `Rules.exhausted`.
-/

namespace ProjectIndex.Script

/-- The rules a construct may call for the constructs nested in it. -/
structure Rules where
  /-- One statement. -/
  statement : Parse Node
  /-- A braced list of statements. -/
  block : Parse Node
  /-- One or more comma-separated expressions. -/
  expressions : Parse Node
  /-- One expression, assignments and arrow functions included. -/
  expression : Parse Node
  /-- A binary expression whose operators bind at least as tightly as the given level. -/
  binary : Nat → Parse Node
  /-- An expression with its prefix and postfix operators. -/
  unary : Parse Node
  /-- A primary expression with its member accesses and calls. -/
  operand : Parse Node
  /-- A primary expression. -/
  primary : Parse Node
  /-- A type. -/
  typeExpr : Parse Node
  /-- A type without union, intersection or function syntax at its top. -/
  typeOperand : Parse Node
  /-- Angle-bracketed type arguments. -/
  typeArguments : Parse Node
  /-- Angle-bracketed type parameters. -/
  typeParameters : Parse Node
  /-- A braced object type. -/
  objectType : Parse Node
  /-- A binding pattern. -/
  pattern : Parse Node
  /-- A parenthesized parameter list. -/
  parameters : Parse Node
  /-- A braced class body. -/
  classBody : Parse Node
  /-- An element, from its opening `<`. -/
  markup : Parse Node

/-- The rules once the depth has run out: every one gets stuck. -/
def Rules.exhausted : Rules where
  statement := stuck
  block := stuck
  expressions := stuck
  expression := stuck
  binary := fun _ => stuck
  unary := stuck
  operand := stuck
  primary := stuck
  typeExpr := stuck
  typeOperand := stuck
  typeArguments := stuck
  typeParameters := stuck
  objectType := stuck
  pattern := stuck
  parameters := stuck
  classBody := stuck
  markup := stuck

end ProjectIndex.Script
