import ProjectIndex.Data.Value

/-!
Tables and columns declared by SQL migrations.

A column has a name, a type text, nullability, primary and foreign key flags, and for a foreign key
the table and column it references.

Owns: `Column`, `Table`, their report values.
-/

namespace ProjectIndex.Sql

open ProjectIndex.Data

/-- A column of a table. -/
structure Column where
  name : String
  type : String
  nullable : Bool := true
  isPrimaryKey : Bool := false
  isForeignKey : Bool := false
  referencesTable : Option String := none
  referencesColumn : Option String := none
deriving Inhabited, DecidableEq, Repr

/-- A table and its columns. -/
structure Table where
  name : String
  columns : List Column := []
deriving Inhabited, DecidableEq, Repr

/-- The report value of a column: the reference only when it names a table. -/
def Column.toValue (c : Column) : Value :=
  let refTable := c.referencesTable.getD ""
  let refColumn := match c.referencesColumn with
    | some col => if col.isEmpty then "id" else col
    | none => "id"
  .table ([("name", .str c.name), ("type", .str c.type), ("nullable", .bool c.nullable),
    ("isPrimaryKey", .bool c.isPrimaryKey), ("isForeignKey", .bool c.isForeignKey)] ++
    if refTable.isEmpty then []
    else [("references", .table [("table", .str refTable), ("column", .str refColumn)])])

/-- The report value of a table. -/
def Table.toValue (t : Table) : Value :=
  .table [("name", .str t.name), ("columns", .list (t.columns.map Column.toValue))]

end ProjectIndex.Sql
