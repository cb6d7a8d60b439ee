import ProjectIndex.Role
import ProjectIndex.Number.FloatText

/-!
Classifications: the role decided for a file, how sure the decision is, why, and which tier of
the classifier made it.

Confidence is kept in units of `10^-4`: the path and name tiers are always sure (`10000`), and the
heuristic tier reports its score rounded to four places.

Owns: `Tier`, `Confidence`, `Classification`, its report value.
-/

namespace ProjectIndex

open ProjectIndex.Data
open ProjectIndex.Number

/-- The tier of the classifier that decided a role. -/
inductive Tier where
  | migration
  | filename
  | pathSegment
  | folder
  | glob
  | pages
  | nameConvention
  | heuristic
deriving DecidableEq, Repr, Inhabited

/-- The name of a tier in reports. -/
def Tier.name : Tier → String
  | .migration => "migration"
  | .filename => "filename"
  | .pathSegment => "path_segment"
  | .folder => "folder"
  | .glob => "glob"
  | .pages => "pages"
  | .nameConvention => "name_convention"
  | .heuristic => "heuristic"

/-- A confidence in units of `10^-4`, from `0` to `10000`. -/
structure Confidence where
  units : Nat
deriving DecidableEq, Repr, Inhabited

/-- Full confidence. -/
def Confidence.full : Confidence := ⟨10000⟩

/-- The double nearest to the confidence: the quotient of two doubles that hold the units and
`10^4` exactly, which IEEE division rounds correctly. -/
def Confidence.toFloat (c : Confidence) : Float :=
  Float.ofScientific c.units true 4

/-- A score as a confidence: at most one, rounded to four places, ties to even. -/
def Confidence.ofScore (score : Float) : Confidence :=
  let capped := if 1.0 < score then 1.0 else score
  ⟨(Binary.ofBits capped.toBits).roundPlaces 4⟩

/-- The text of a confidence, as the double nearest to it is written. -/
def Confidence.text (c : Confidence) : String :=
  fixedText c.units 4

/-- A decided role. -/
structure Classification where
  role : RoleTag
  confidence : Confidence := .full
  reasons : List String
  tier : Tier
deriving Inhabited

/-- The report value of a classification. -/
def Classification.toValue (c : Classification) : Value :=
  .table [("role", c.role.toValue), ("confidence", .float c.confidence.toFloat),
    ("reasons", .list (c.reasons.map .str)), ("tier", .str c.tier.name)]

end ProjectIndex
