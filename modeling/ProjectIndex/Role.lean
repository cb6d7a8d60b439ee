import ProjectIndex.Data.Value

/-!
The roles a file plays in a project.

Every indexed file gets one of seven roles. Configuration tables name roles by their lower-case
names; a table may also hold a name that is no role, or a value that is no name at all. Such an
entry is a `RoleTag.other`: validation reports it, and classification passes it on unchanged.

Owns: `Role`, `Role.name`, `Role.ofName?`, `Role.all`, `RoleTag`.
-/

namespace ProjectIndex

open ProjectIndex.Data

/-- The role of a file in a project. -/
inductive Role where
  | route
  | component
  | hook
  | service
  | api
  | table
  | utility
deriving DecidableEq, Repr, Inhabited

namespace Role

/-- All roles, in the order reports count them. -/
def all : List Role := [.route, .component, .hook, .service, .api, .table, .utility]

/-- The lower-case name of a role. -/
def name : Role → String
  | .route => "route"
  | .component => "component"
  | .hook => "hook"
  | .service => "service"
  | .api => "api"
  | .table => "table"
  | .utility => "utility"

/-- The role with a given name. -/
def ofName? (s : String) : Option Role :=
  all.find? fun r => r.name == s

theorem ofName?_name (r : Role) : ofName? r.name = some r := by
  cases r <;> rfl

end Role

/-- A role as a configuration table gives it: a role, or any other value. -/
inductive RoleTag where
  | role (r : Role)
  | other (v : Value)
deriving Inhabited

namespace RoleTag

/-- Read a table value as a role tag. -/
def ofValue (v : Value) : RoleTag :=
  match v with
  | .str s => match Role.ofName? s with
    | some r => .role r
    | none => .other v
  | _ => .other v

/-- The value a tag stands for. -/
def toValue : RoleTag → Value
  | .role r => .str r.name
  | .other v => v

/-- The text of a tag, as messages show it. -/
def display (tag : RoleTag) : String :=
  tag.toValue.display

/-- The tag is the given role. -/
def isRole (tag : RoleTag) (r : Role) : Bool :=
  match tag with
  | .role r' => r' == r
  | .other _ => false

end RoleTag

end ProjectIndex
