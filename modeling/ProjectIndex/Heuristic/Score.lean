import ProjectIndex.Heuristic.Evidence
import ProjectIndex.Classify.Basic
import ProjectIndex.Config.Basic
import ProjectIndex.Text.Case
import ProjectIndex.Source.Language

/-!
Heuristic detection of a script's role from its syntax tree.

Five scorers each gather findings: a weight, and mostly a reason. A scorer's score is the sum of
its weights, added in the order found (as doubles, so that rounding is the same at every run). It
detects its role when the score reaches its threshold and it has a reason, with the score capped
at one and rounded to four places as its confidence.

* hooks: each function or variable named `use` and an upper-case letter; the stateful
  primitives called (up to three count); other `use…` calls;
* components: markup elements, and more than three of them; an exported or default function
  whose first parameter is destructured or named `props`; a markup extension (no reason);
* API routes: exported HTTP method names; a framework's request types imported from its module;
* services: classes whose name holds `service`, `api` or `client`; `fetch` calls and calls on an
  HTTP client (up to three of each count); two or more async functions;
* utilities, for scripts without markup that import no UI framework: two or more exported
  functions (more weight for up to five more); exported functions with helper-style names.

`detect` keeps the most confident detection, the earlier scorer on a tie.

Owns: `Finding`, `Detection`, the five scorers, `detect`.
-/

namespace ProjectIndex.Heuristic

open ProjectIndex.Script
open ProjectIndex.Config
open ProjectIndex.Data
open ProjectIndex

/-- A piece of evidence for a role: its weight, and the reason shown for it. -/
structure Finding where
  reason : Option String
  weight : Float

/-- A role detected from the syntax tree, with its confidence and reasons. -/
structure Detection where
  role : Role
  confidence : Confidence
  reasons : List String
deriving Inhabited

/-- The report value of a detection. -/
def Detection.toValue (x : Detection) : Value :=
  .table [("role", .str x.role.name), ("confidence", .float x.confidence.toFloat),
    ("reasons", .list (x.reasons.map .str))]

/-- The score of findings: their weights added in order, from zero. -/
def Finding.score (fs : List Finding) : Float :=
  fs.foldl (fun acc f => acc + f.weight) 0.0

/-- The detection the findings make for a role, when the score reaches the threshold and some
finding gives a reason. -/
def conclude (role : Role) (threshold : Float) (fs : List Finding) : Option Detection :=
  let score := Finding.score fs
  let reasons := fs.filterMap (·.reason)
  if score < threshold || reasons.isEmpty then none
  else some ⟨role, Confidence.ofScore score, reasons⟩

/-- A finding with a reason. -/
def found (reason : String) (weight : Float) : Finding := ⟨some reason, weight⟩

/-- The texts joined with commas. -/
def commaList (xs : List String) : String := ", ".intercalate xs

/-- The hooks every stateful hook builds on. -/
def statefulPrimitives : List String :=
  ["useState", "useEffect", "useCallback", "useMemo", "useRef", "useContext", "useReducer"]

/-- The HTTP methods a route module exports handlers for, in report order. -/
def httpMethods : List String := ["GET", "POST", "PUT", "DELETE", "PATCH", "HEAD", "OPTIONS"]

/-- The request and response types of web frameworks, by the module they come from. -/
def frameworkRequestTypes : List (String × List String) :=
  [("next/server", ["NextRequest", "NextResponse"]), ("next", ["NextApiRequest", "NextApiResponse"])]

/-- Words in a class name that mark a service. -/
def serviceClassHints : List String := ["service", "api", "client"]

/-- HTTP client libraries. -/
def httpClients : List String := ["axios", "ky", "got", "superagent"]

/-- UI framework packages. -/
def uiFrameworkPackages : List String :=
  ["react", "react-dom", "preact", "vue", "solid-js", "svelte"]

/-- Name prefixes of helper functions. -/
def utilityVerbPrefixes : List String :=
  ["format", "parse", "convert", "validate", "is", "has", "get", "set", "create", "generate",
   "calculate", "transform"]

/-- `use` followed by an ASCII upper-case letter starts the name. -/
def hookNamed (name : String) : Bool :=
  match name.toList with
  | 'u' :: 's' :: 'e' :: c :: _ => 'A' ≤ c && c ≤ 'Z'
  | _ => false

/-- The last part of a dotted callee. -/
def lastPart (s : String) : String := ((s.splitOn ".").getLast?).getD s

/-- The first part of a dotted callee. -/
def firstPart (s : String) : String := ((s.splitOn ".").head?).getD s

/-- Appends an item unless it is present. -/
def appendNew (xs : List String) (x : String) : List String := if xs.contains x then xs else xs ++ [x]

/-- Evidence of a hook module. -/
def hookFindings (d : Document) : List Finding :=
  let step := fun (acc : List Finding × List String) (node : Node) =>
    let (fs, calls) := acc
    let named : Option Node :=
      if node.kind == "function_declaration" || node.kind == "variable_declarator" then
        node.child? "name"
      else none
    match named with
    | some nameNode =>
      if nameNode.kind == "identifier" then
        let name := d.text nameNode
        if hookNamed name then
          (fs ++ [found ("declares '" ++ name ++ "' (use* naming convention)") 0.4], calls)
        else acc
      else
        acc
    | none =>
      if node.kind == "call_expression" then
        let callee := lastPart (calleeText d node)
        if callee.startsWith "use" && callee.length > 3 then (fs, appendNew calls callee) else acc
      else acc
  let (named, calls) := d.walk.foldl step ([], [])
  let primitives := statefulPrimitives.filter calls.contains
  let custom := calls.filter (!statefulPrimitives.contains ·)
  named ++
    (if primitives.isEmpty then []
     else [found ("calls stateful primitives: " ++ commaList primitives)
       (0.2 * (min primitives.length 3).toFloat)]) ++
    (if custom.isEmpty then []
     else [found ("calls other hooks: " ++ commaList (custom.take 3)) 0.1])

/-- Evidence of a component module. -/
def componentFindings (d : Document) : List Finding :=
  let markup := (d.walk.filter (markupKinds.contains ·.kind)).length
  let elements :=
    if markup == 0 then []
    else
      [found "contains JSX elements" 0.5] ++
        (if markup > 3 then [found ("many JSX elements (" ++ toString markup ++ ")") 0.2] else [])
  let props := match (exportedFunctions d ++ defaultFunctions d).find? (takesProps d ·.2) with
    | some (name, _) => [found ("'" ++ name ++ "' takes a props parameter") 0.2]
    | none => []
  let ext := if markupExtensions.contains d.extension then [⟨none, 0.1⟩] else []
  elements ++ props ++ ext

/-- Evidence of an API route module. -/
def apiFindings (d : Document) : List Finding :=
  let names := exportedNames d
  let methods := httpMethods.filter names.contains
  let handlers :=
    if methods.isEmpty then []
    else [found ("exports HTTP method handlers: " ++ commaList methods) 0.6]
  let imported := (importSources d).findSome? fun (module, imported) =>
    let wanted := ((frameworkRequestTypes.find? (·.1 == module)).map (·.2)).getD []
    let hits := imported.filter wanted.contains
    if hits.isEmpty then none
    else some (found ("imports " ++ commaList hits ++ " from '" ++ module ++ "'") 0.3)
  handlers ++ imported.toList

/-- Counts of what a service does, gathered in one walk. -/
structure ServiceTally where
  classes : List Finding := []
  fetches : Nat := 0
  clientCalls : Nat := 0
  asyncFunctions : Nat := 0

/-- Evidence of a service module. -/
def serviceFindings (d : Document) : List Finding :=
  let step := fun (t : ServiceTally) (node : Node) =>
    if ["class_declaration", "abstract_class_declaration", "class"].contains node.kind then
      match node.child? "name" with
      | some nameNode =>
        let name := d.text nameNode
        let lowered := Text.lower name
        if serviceClassHints.any (fun hint => (lowered.splitOn hint).length > 1) then
          { t with classes := t.classes ++ [found ("service-like class '" ++ name ++ "'") 0.5] }
        else t
      | none => t
    else if node.kind == "call_expression" then
      let callee := calleeText d node
      if callee == "fetch" then { t with fetches := t.fetches + 1 }
      else if httpClients.contains (firstPart callee) then { t with clientCalls := t.clientCalls + 1 }
      else t
    else if functionKinds.contains node.kind && node.hasToken "async" then
      { t with asyncFunctions := t.asyncFunctions + 1 }
    else t
  let t := d.walk.foldl step {}
  t.classes ++
    (if t.fetches == 0 then []
     else [found ("generic network calls (fetch): " ++ toString t.fetches)
       (0.2 * (min t.fetches 3).toFloat)]) ++
    (if t.clientCalls == 0 then []
     else [found ("HTTP client network calls: " ++ toString t.clientCalls)
       (0.2 * (min t.clientCalls 3).toFloat)]) ++
    (if t.asyncFunctions ≥ 2 then [found (toString t.asyncFunctions ++ " async functions") 0.15] else [])

/-- The module is a UI framework package or lies inside one. -/
def uiModule (module : String) : Bool :=
  uiFrameworkPackages.any fun pkg => module == pkg || module.startsWith (pkg ++ "/")

/-- Evidence of a utility module; none for a script with markup or a UI framework import. -/
def utilityFindings (d : Document) : Option (List Finding) :=
  if d.walk.any (markupKinds.contains ·.kind) then none
  else if (importSources d).any (uiModule ·.1) then none
  else
    let exported := (exportedFunctions d).map (·.1)
    let count :=
      if exported.length < 2 then []
      else
        let extra := min (exported.length - 2) 5
        [found ("exports " ++ toString exported.length ++ " functions") (0.3 + 0.1 * extra.toFloat)]
    let verbs := exported.filter fun n =>
      let lowered := Text.lower n
      utilityVerbPrefixes.any (fun (p : String) => lowered.startsWith p)
    let helpers :=
      if verbs.isEmpty then []
      else [found ("helper-style names: " ++ commaList (verbs.take 3)) 0.2]
    some (count ++ helpers)

/-- The hook scorer. -/
def scoreHook (d : Document) (t : Thresholds) : Option Detection :=
  conclude .hook t.hook (hookFindings d)

/-- The component scorer. -/
def scoreComponent (d : Document) (t : Thresholds) : Option Detection :=
  conclude .component t.component (componentFindings d)

/-- The API route scorer. -/
def scoreApi (d : Document) (t : Thresholds) : Option Detection :=
  conclude .api t.api (apiFindings d)

/-- The service scorer. -/
def scoreService (d : Document) (t : Thresholds) : Option Detection :=
  conclude .service t.service (serviceFindings d)

/-- The utility scorer. -/
def scoreUtility (d : Document) (t : Thresholds) : Option Detection :=
  (utilityFindings d).bind (conclude .utility t.utility)

/-- The scorers with their names, in tie-break order. -/
def scorers : List (String × (Document → Thresholds → Option Detection)) :=
  [("hook", scoreHook), ("component", scoreComponent), ("api", scoreApi),
   ("service", scoreService), ("utility", scoreUtility)]

/-- The better of two detections: the later one only when strictly more confident, their
confidences compared as doubles. -/
def better (best : Option Detection) (next : Detection) : Detection :=
  match best with
  | some b => if b.confidence.toFloat < next.confidence.toFloat then next else b
  | none => next

/-- The most confident detection of all scorers, the earlier scorer on a tie. -/
def detect (d : Document) (t : Thresholds) : Option Detection :=
  scorers.foldl (fun best (_, scorer) =>
    match scorer d t with
    | some next => some (better best next)
    | none => best) none

end ProjectIndex.Heuristic
