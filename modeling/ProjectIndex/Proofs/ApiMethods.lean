import Mathlib
import ProjectIndex.Index.File
import ProjectIndex.Proofs.Outcomes
import ProjectIndex.Proofs.Selection

/-!
HTTP methods of API files.

The API scorer and an API file's metadata name the file's HTTP methods from two readings of its
exports. The scorer reads a name off every exported node: each declarator of an exported variable
declaration, and the `name` of any other exported declaration or value. The metadata lists the
methods among the names of the export list, which takes names from a declaration, and from an
exported value only the name of a default-exported function or class.

On the shapes the grammars give exported declarations (`ExportShapes`), the two readings agree on
every method but those the scorer reads off an exported value that is not a default-exported
function or class (`valueNames`). The tag of a markup element is such a name: `export default
<GET />` is scored as exporting `GET`, while its export list holds only `default`. So a file
detected as an API route lists in its metadata every method the scorer names, except such value
names (`api_file_methods`). The scripts' tree parser is a parameter there: the argument reads the
tree only through those shapes.
-/

namespace ProjectIndex

open ProjectIndex.Script
open ProjectIndex.Classify

namespace Heuristic

/-- The names the scorer reads off one exported node. -/
def nodeNames (d : Document) (node : Node) : List String :=
  if variableKinds.contains node.kind then
    node.namedChildren.filterMap fun declarator =>
      if declarator.kind != "variable_declarator" then none
      else (declarator.child? "name").map d.text
  else
    match node.child? "name" with
    | some name => [d.text name]
    | none => []

/-- The HTTP methods the API scorer names, in method order. -/
def scoredMethods (d : Document) : List String := httpMethods.filter (exportedNames d).contains

/-- The HTTP methods the metadata of an API file lists, in method order. -/
def listedMethods (exports : List ExportDecl) : List String :=
  httpMethods.filter (exports.map (·.name)).contains

/-- The names the scorer reads off exported values other than a default-exported function or
class. The export list takes no name from such a value. -/
def valueNames (d : Document) : List String :=
  d.topLevel.flatMap fun child =>
    if child.kind != "export_statement" || (child.child? "declaration").isSome then []
    else
      match child.child? "value" with
      | some v =>
        if child.hasToken "default" &&
            (functionValueKinds.contains v.kind || classValueKinds.contains v.kind) then []
        else nodeNames d v
      | none => []

/-- What the grammars give exported declarations, as far as their names go: a declarator's name
is an identifier or a destructuring pattern, whose text opens with a bracket, and a `declare`
wrapper has no name of its own. -/
structure ExportShapes (d : Document) : Prop where
  declarators : ∀ child ∈ d.topLevel, child.kind = "export_statement" →
    ∀ decl, child.child? "declaration" = some decl → variableKinds.contains decl.kind →
      ∀ declarator ∈ decl.namedChildren, declarator.kind = "variable_declarator" →
        ∀ name, declarator.child? "name" = some name →
          name.kind = "identifier" ∨ (d.text name).toList.head? = some '{' ∨
            (d.text name).toList.head? = some '['
  wrappers : ∀ child ∈ d.topLevel, child.kind = "export_statement" →
    ∀ decl, child.child? "declaration" = some decl → decl.kind = "ambient_declaration" →
      decl.child? "name" = none

/-! ### The two readings, statement by statement -/

section Readings

variable {d : Document} {m : String}

theorem exportedNames_eq (d : Document) :
    exportedNames d = (exportedNodes d).flatMap (nodeNames d) := rfl

theorem mem_exportedNames :
    m ∈ exportedNames d ↔ ∃ child ∈ d.topLevel, child.kind = "export_statement" ∧
      ∃ node, (child.child? "declaration").orElse (fun _ => child.child? "value") = some node ∧
        m ∈ nodeNames d node := by
  rw [exportedNames_eq, List.mem_flatMap]
  simp only [exportedNodes, List.mem_filterMap]
  constructor
  · rintro ⟨node, ⟨child, member, exported⟩, named⟩
    by_cases isExport : child.kind = "export_statement"
    · rw [if_neg (by simp [isExport])] at exported
      exact ⟨child, member, isExport, node, exported, named⟩
    · rw [if_pos (by simpa using isExport)] at exported
      cases exported
  · rintro ⟨child, member, isExport, node, exported, named⟩
    exact ⟨node, ⟨child, member, by rw [if_neg (by simp [isExport])]; exact exported⟩, named⟩

theorem mem_exports_names {child : Node} (member : child ∈ d.topLevel)
    (isExport : child.kind = "export_statement")
    (listed : m ∈ (statementExports d d.locals child).map (·.name)) :
    m ∈ d.exports.map (·.name) := by
  obtain ⟨e, fromChild, rfl⟩ := List.mem_map.mp listed
  refine List.mem_map.mpr ⟨e, ?_, rfl⟩
  unfold Document.exports
  exact List.mem_flatMap.mpr ⟨child, member, by simpa [isExport] using fromChild⟩

/-- No HTTP method opens with a bracket, as a destructuring pattern does. -/
theorem httpMethods_head : ∀ m ∈ httpMethods, m.toList.head? ≠ some '{' ∧ m.toList.head? ≠ some '[' := by
  decide

theorem unwrapDeclaration_of_unwrapped {n : Node} (plain : n.kind ≠ "ambient_declaration") :
    unwrapDeclaration n = some n := by
  rw [unwrapDeclaration]
  simp [plain]

/-- A method the scorer reads off an exported declaration is a name it declares. -/
theorem mem_declaredNames (shapes : ExportShapes d) {child decl : Node} (member : child ∈ d.topLevel)
    (isExport : child.kind = "export_statement") (declared : child.child? "declaration" = some decl)
    (named : m ∈ nodeNames d decl) (method : m ∈ httpMethods) :
    m ∈ (declaredNames d (some decl)).map (·.1) := by
  by_cases wrapper : decl.kind = "ambient_declaration"
  · -- a `declare` wrapper has no name the scorer could read
    have nameless := shapes.wrappers child member isExport decl declared wrapper
    simp [nodeNames, wrapper, variableKinds, nameless] at named
  · unfold declaredNames
    rw [unwrapDeclaration?, unwrapDeclaration_of_unwrapped wrapper]
    dsimp only
    have sameKinds : variableDeclarationKinds = variableKinds := rfl
    rw [sameKinds]
    by_cases isVariable : variableKinds.contains decl.kind
    · rw [if_pos isVariable]
      simp only [nodeNames, if_pos isVariable, List.mem_filterMap] at named
      obtain ⟨declarator, inside, found⟩ := named
      have isDeclarator : declarator.kind = "variable_declarator" := by
        by_contra other
        simp [other] at found
      rw [if_neg (by simp [isDeclarator])] at found
      obtain ⟨name, nameChild, rfl⟩ := Option.map_eq_some_iff.mp found
      have identifier : name.kind = "identifier" := by
        rcases shapes.declarators child member isExport decl declared isVariable declarator inside
          isDeclarator name nameChild with plain | brace | bracket
        · exact plain
        · exact absurd brace (httpMethods_head _ method).1
        · exact absurd bracket (httpMethods_head _ method).2
      rw [List.map_filterMap]
      exact List.mem_filterMap.mpr ⟨declarator, inside, by simp [isDeclarator, nameChild, identifier]⟩
    · rw [if_neg isVariable]
      simp only [nodeNames, if_neg isVariable] at named
      cases nameChild : decl.child? "name" with
      | none => simp [nameChild] at named
      | some name => simp_all

/-- A method the scorer reads off one export statement is a name the statement exports, unless
the scorer reads it off a value other than a default-exported function or class. -/
theorem method_of_statement (shapes : ExportShapes d) {child node : Node} (member : child ∈ d.topLevel)
    (isExport : child.kind = "export_statement")
    (exported : (child.child? "declaration").orElse (fun _ => child.child? "value") = some node)
    (named : m ∈ nodeNames d node) (method : m ∈ httpMethods) :
    m ∈ (statementExports d d.locals child).map (·.name) ∨ m ∈ valueNames d := by
  cases declared : child.child? "declaration" with
  | some decl =>
    rw [declared] at exported
    cases exported
    left
    unfold statementExports
    rw [declared]
    simp only [List.map_append, List.map_map, List.mem_append]
    right
    simpa [Function.comp_def] using mem_declaredNames shapes member isExport declared named method
  | none =>
    rw [declared] at exported
    change child.child? "value" = some node at exported
    by_cases functionOrClass : child.hasToken "default" = true ∧
        (functionValueKinds.contains node.kind || classValueKinds.contains node.kind) = true
    · -- a default-exported function or class is listed under the name the scorer reads
      left
      obtain ⟨isDefault, kinds⟩ := functionOrClass
      have notIdentifier : node.kind ≠ "identifier" := by
        intro identifier
        simp [identifier, functionValueKinds, classValueKinds] at kinds
      have notVariables : variableKinds.contains node.kind = false := by
        simp only [functionValueKinds, classValueKinds, Bool.or_eq_true, List.contains_iff_mem,
          List.mem_cons, List.not_mem_nil, or_false] at kinds
        rcases kinds with (k | k | k | k) | k <;> simp [k, variableKinds]
      simp only [nodeNames, notVariables, Bool.false_eq_true, if_false] at named
      cases nameChild : node.child? "name" with
      | none => simp [nameChild] at named
      | some name =>
        simp only [nameChild, List.mem_singleton] at named
        subst named
        have valueKind : node.kind ∈ functionValueKinds ∨ node.kind ∈ classValueKinds := by
          simpa using kinds
        unfold statementExports
        rw [declared, exported]
        simp [isDefault, defaultValueExport, notIdentifier, valueKind, nameChild]
    · right
      refine List.mem_flatMap.mpr ⟨child, member, ?_⟩
      rw [if_neg (by simp [isExport, declared])]
      simp only [exported]
      rw [if_neg (by simpa using functionOrClass)]
      exact named

/-- **The scorer's methods are listed, but for value names.** On the shapes the grammars give,
every method the API scorer names is among the methods the export list names, or is read off an
exported value other than a default-exported function or class. -/
theorem scoredMethods_listed (shapes : ExportShapes d) :
    ∀ m ∈ scoredMethods d, m ∈ listedMethods d.exports ∨ m ∈ valueNames d := by
  intro m scored
  simp only [scoredMethods, List.mem_filter, List.contains_iff_mem] at scored
  obtain ⟨method, named⟩ := scored
  obtain ⟨child, member, isExport, node, exported, fromNode⟩ := mem_exportedNames.mp named
  rcases method_of_statement shapes member isExport exported fromNode method with listed | value
  · left
    simp only [listedMethods, List.mem_filter, List.contains_iff_mem]
    exact ⟨method, mem_exports_names member isExport listed⟩
  · exact Or.inr value

end Readings

/-! ### The scorer's reason -/

section Reason

variable {d : Document} {t : Config.Thresholds} {x : Detection}

theorem conclude_role {role : Role} {threshold : Float} {fs : List Finding}
    (concluded : conclude role threshold fs = some x) : x.role = role := by
  obtain ⟨-, -, rfl⟩ := conclude_eq_some_iff.mp concluded
  rfl

/-- A detection of the API role is the API scorer's. -/
theorem detect_api (detected : detect d t = some x) (api : x.role = .api) : scoreApi d t = some x := by
  have member := pickBest_mem ((detect_eq_pickBest d t) ▸ detected)
  simp only [scorers, List.map_cons, List.map_nil, List.mem_cons, List.not_mem_nil,
    or_false] at member
  rcases member with hook | component | found | service | utility
  · exact absurd (api.symm.trans (conclude_role hook.symm)) (by decide)
  · exact absurd (api.symm.trans (conclude_role component.symm)) (by decide)
  · exact found.symm
  · exact absurd (api.symm.trans (conclude_role service.symm)) (by decide)
  · obtain ⟨fs, -, concluded⟩ := Option.bind_eq_some_iff.mp utility.symm
    exact absurd (api.symm.trans (conclude_role concluded)) (by decide)

/-- The API scorer's findings: the methods it names, when it names any, then at most one
framework import, of weight `0.3`. -/
theorem apiFindings_eq (d : Document) :
    ∃ imported : Option Finding, (∀ f, imported = some f → f.weight = 0.3) ∧
      apiFindings d = (if (scoredMethods d).isEmpty then [] else
        [found ("exports HTTP method handlers: " ++ commaList (scoredMethods d)) 0.6]) ++
          imported.toList := by
  refine ⟨_, fun f imported => ?_, rfl⟩
  obtain ⟨entry, -, made⟩ := List.exists_of_findSome?_eq_some imported
  dsimp only at made
  split at made
  · cases made
  · cases made
    rfl

/-- **An accepted API score names methods.** Above a threshold of `0.3` the framework import
alone does not reach acceptance, so the scorer names at least one method, and its first reason
lists them. -/
theorem scoreApi_methods (threshold : 0.3 < t.api) (scored : scoreApi d t = some x) :
    scoredMethods d ≠ [] ∧
      x.reasons.head? = some ("exports HTTP method handlers: " ++ commaList (scoredMethods d)) := by
  obtain ⟨reached, reasoned, rfl⟩ := conclude_eq_some_iff.mp scored
  obtain ⟨imported, weight, findings⟩ := apiFindings_eq d
  rw [findings] at reached reasoned ⊢
  by_cases unnamed : scoredMethods d = []
  · exfalso
    rw [unnamed] at reached reasoned
    cases imported with
    | none => simp at reasoned
    | some f =>
      apply reached
      -- the framework import alone scores `0.0 + 0.3`, below the threshold
      have score : Finding.score ((if ([] : List String).isEmpty then [] else
          [found ("exports HTTP method handlers: " ++ commaList []) 0.6]) ++ (some f).toList) =
          0.0 + 0.3 := by
        rw [if_pos List.isEmpty_nil, Option.toList_some, List.nil_append, Finding.score, List.foldl_cons,
          List.foldl_nil, weight f rfl]
      rw [score]
      exact Number.float_lt_of_le_of_lt (by decide) threshold
  · refine ⟨unnamed, ?_⟩
    rw [if_neg (by simpa using unnamed)]
    simp [found]

end Reason

end Heuristic

/-! ### API files -/

section Files

variable {c : PathClassifier} {read : FileReader} {path : String}

/-- A heuristic classification is an accepted detection on a script's tree. -/
theorem classify_heuristic {u : SourceUnit} {cl : Classification} (classified : c.classify u = some cl)
    (heuristic : cl.tier = .heuristic) :
    ∃ d x, u.parsed = .script d ∧ Heuristic.detect d c.config.thresholds = some x ∧
      cl = { role := .role x.role, confidence := x.confidence, reasons := x.reasons,
             tier := .heuristic } := by
  unfold PathClassifier.classify at classified
  split at classified
  · rename_i byPath
    cases classified
    exact absurd heuristic (PathClassifier.classifyPath_tier byPath)
  · split at classified
    · cases classified
    · rename_i d parsed
      obtain ⟨x, detected, accepts⟩ := Option.bind_eq_some_iff.mp classified
      exact ⟨d, x, parsed, detected, accepted_eq accepts⟩

/-- The HTTP methods an API file's metadata holds. -/
theorem roleMetadata_api (exports : List ExportDecl) (tables : List Sql.Table) :
    (roleMetadata (.role .api) path exports tables).lookup "httpMethods" =
      some (.list ((Heuristic.listedMethods exports).map .str)) := by
  have differ : ("httpMethods" == "routePath") = false := by decide
  unfold roleMetadata
  cases routePath? path <;> cases tables <;>
    simp [RoleTag.isRole, Heuristic.listedMethods, List.lookup, differ]

/-- **API files list the methods the scorer names.** Whatever tree parser reads the scripts, when
the API threshold is above `0.3`, a file indexed as an API route at the heuristic tier is a script
whose scorer names at least one HTTP method, listed in the first reason of its classification. Its
metadata holds the methods its export list names, and when its tree has the shapes the grammars
give, these include every method the scorer names except those read off an exported value other
than a default-exported function or class. -/
theorem api_file_methods (tree : TreeParser) (c : PathClassifier) (read : FileReader)
    (path : String) (threshold : 0.3 < c.config.thresholds.api) :
    ∀ a, analyzeFileWith tree c read path = .ok (some a) → a.classification.role = .role .api →
      a.classification.tier = .heuristic →
      ∃ text u d, read path = .ok text ∧ parseSourceWith tree path text c.config.strictSyntax = .ok u ∧
        u.parsed = .script d ∧ Heuristic.scoredMethods d ≠ [] ∧
        a.classification.reasons.head? =
          some ("exports HTTP method handlers: " ++ Heuristic.commaList (Heuristic.scoredMethods d)) ∧
        a.metadata.lookup "httpMethods" = some (.list ((Heuristic.listedMethods d.exports).map .str)) ∧
        (Heuristic.ExportShapes d → ∀ m ∈ Heuristic.scoredMethods d,
          m ∈ Heuristic.listedMethods d.exports ∨ m ∈ Heuristic.valueNames d) := by
  intro a indexed api heuristic
  obtain ⟨-, text, u, reading, parsing, classified, -, -, exports, metadata⟩ :=
    analyzeFileWith_fields indexed
  obtain ⟨d, x, parsed, detected, classification⟩ := classify_heuristic classified heuristic
  have apiRole : x.role = .api := by simpa [classification] using api
  obtain ⟨named, reason⟩ := Heuristic.scoreApi_methods threshold (Heuristic.detect_api detected apiRole)
  refine ⟨text, u, d, reading, parsing, parsed, named, by rw [classification]; exact reason, ?_,
    Heuristic.scoredMethods_listed⟩
  rw [metadata, exports, parsed, classification, apiRole]
  exact roleMetadata_api _ _

/-- With this library's parser and the default thresholds, whose API threshold is above `0.3`. -/
theorem api_file_methods_default :
    0.3 < ({} : IndexConfig).thresholds.api ∧
      ∀ a, analyzeFile (.ofConfig {}) (fun _ => .ok "export default <GET />;") "a.js" = .ok (some a) →
        a.classification.role = .role .api → a.classification.tier = .heuristic →
        ∃ text u d, (fun _ => .ok "export default <GET />;" : FileReader) "a.js" = .ok text ∧
          parseSource "a.js" text ({} : IndexConfig).strictSyntax = .ok u ∧
          u.parsed = .script d ∧ Heuristic.scoredMethods d ≠ [] ∧
          a.classification.reasons.head? =
            some ("exports HTTP method handlers: " ++ Heuristic.commaList (Heuristic.scoredMethods d)) ∧
          a.metadata.lookup "httpMethods" =
            some (.list ((Heuristic.listedMethods d.exports).map .str)) ∧
          (Heuristic.ExportShapes d → ∀ m ∈ Heuristic.scoredMethods d,
            m ∈ Heuristic.listedMethods d.exports ∨ m ∈ Heuristic.valueNames d) :=
  ⟨by decide, api_file_methods parseTree (.ofConfig {}) _ "a.js" (by decide)⟩

end Files

end ProjectIndex
