import ProjectIndex.Role
import ProjectIndex.Keyword.Split
import ProjectIndex.Path.Posix

/-!
Roles implied by file names alone.

A file name first meets six conventions, in order: `useX….ts` (a hook: `use`, a capital, ASCII
letters and digits, and a script extension), `*.service.ts`, `*XService.ts` (a capital, then ASCII
letters and digits, then `Service`), `*.action.ts`/`*.actions.ts`/`*.api.ts`, `*.util.ts` and its
variants, and `*.component.tsx`. The conventions look at the end of the name, where one final line
break is ignored. Failing those, the words of the name's stem decide: a first word `use` followed
by more words makes a hook, and a last word `service`, `util(s)`, `helper(s)`, `action(s)`, `api`
or `component` makes the matching role.

Owns: `roleOfFileName?`.
-/

namespace ProjectIndex.Classify

open ProjectIndex.Keyword

/-- An ASCII letter or digit. -/
def isAsciiAlnum (c : Char) : Bool :=
  ('a' ≤ c && c ≤ 'z') || ('A' ≤ c && c ≤ 'Z') || ('0' ≤ c && c ≤ '9')

/-- The name without one final line break. -/
def withoutFinalBreak (name : String) : List String :=
  if name.endsWith "\n" then [name, String.ofList name.toList.dropLast] else [name]

/-- The name, or the name without its final line break, ends with one of the texts. -/
def endsWithOneOf (name : String) (endings : List String) : Bool :=
  (withoutFinalBreak name).any fun n => endings.any fun e => n.endsWith e

/-- Every combination of a middle and an extension, after a prefix. -/
def endings (prefix_ : String) (middles exts : List String) : List String :=
  middles.flatMap fun m => exts.map fun e => prefix_ ++ m ++ "." ++ e

/-- `use`, a capital, ASCII letters and digits, a dot and a script extension: the whole name. -/
def isHookFileName (name : String) : Bool :=
  (withoutFinalBreak name).any fun n =>
    match n.toList with
    | 'u' :: 's' :: 'e' :: c :: rest =>
      'A' ≤ c && c ≤ 'Z' &&
        let body := rest.takeWhile isAsciiAlnum
        let ext := String.ofList (rest.drop body.length)
        [".ts", ".tsx", ".js", ".jsx"].contains ext
    | _ => false

/-- A capital, ASCII letters and digits, then `Service.ts` or `Service.js` at the end. -/
def isServiceClassFileName (name : String) : Bool :=
  (withoutFinalBreak name).any fun n =>
    ["Service.ts", "Service.js"].any fun ending =>
      n.endsWith ending &&
        let before := (n.toList.take (n.length - ending.length)).reverse
        (before.takeWhile isAsciiAlnum).any fun c => 'A' ≤ c && c ≤ 'Z'

/-- The role of a name's last word, for the words that imply one. -/
def roleOfLastWord? : String → Option Role
  | "service" => some .service
  | "util" | "utils" | "helper" | "helpers" => some .utility
  | "action" | "actions" | "api" => some .api
  | "component" => some .component
  | _ => none

/-- The role a file name implies, and why. -/
def roleOfFileName? (name : String) : Option (Role × String) :=
  if isHookFileName name then some (.hook, "hook file (use*.ts)")
  else if endsWithOneOf name (endings "." ["service", "Service"] ["ts", "js"]) then
    some (.service, "service file (*.service.ts)")
  else if isServiceClassFileName name then some (.service, "service class file (*Service.ts)")
  else if endsWithOneOf name (endings "." ["action", "actions", "api"] ["ts", "js"]) then
    some (.api, "api/action file (*.action.ts, *.api.ts)")
  else if endsWithOneOf name (endings "." ["util", "utils", "helper", "helpers"] ["ts", "js"]) then
    some (.utility, "utility file (*.util.ts, *.helper.ts)")
  else if endsWithOneOf name (endings "." ["component"] ["tsx", "jsx"]) then
    some (.component, "component file (*.component.tsx)")
  else
    match splitIdentifier (Path.SegmentedPath.ofString name).stem with
    | [] => none
    | words@(first :: _ :: _) =>
      if first == "use" then some (.hook, "name starts with 'use'")
      else
        let last := words.getLast?.getD ""
        (roleOfLastWord? last).map fun r => (r, "name ends with '" ++ last ++ "'")
    | [only] => (roleOfLastWord? only).map fun r => (r, "name ends with '" ++ only ++ "'")

end ProjectIndex.Classify
