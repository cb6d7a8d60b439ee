import ProjectIndex.Path.Posix
import ProjectIndex.Text.Case

/-!
Which language a source file is written in, by its extension.

Extensions are compared lower-cased. `.sql` files are SQL migrations; `.tsx` and `.jsx` files are
markup, that is scripts with embedded elements; `.ts`, `.mts`, `.cts`, `.js`, `.mjs` and `.cjs`
files are plain scripts. Each script extension has a grammar: TypeScript for `.ts`, `.mts` and
`.cts`, TypeScript with elements for `.tsx`, and JavaScript, which always admits elements, for
`.js`, `.jsx`, `.mjs` and `.cjs`.

Owns: `Language`, `Grammar`, `extensionOf`, `languageOf?`, `grammarOf?`.
-/

namespace ProjectIndex

/-- The language of a source file. -/
inductive Language where
  | script
  | markup
  | sql
deriving DecidableEq, Repr, Inhabited

/-- The lower-case name of a language. -/
def Language.name : Language → String
  | .script => "script"
  | .markup => "markup"
  | .sql => "sql"

/-- The grammars scripts are parsed with. -/
inductive Grammar where
  /-- TypeScript without elements. -/
  | typescript
  /-- TypeScript with elements. -/
  | typescriptMarkup
  /-- JavaScript, elements included. -/
  | javascript
deriving DecidableEq, Repr, Inhabited

/-- The lower-cased extension of a path's file name. -/
def extensionOf (path : String) : String :=
  Text.lower (Path.SegmentedPath.ofString path).suffix

/-- The extensions of scripts, markup included. -/
def scriptExtensions : List String := [".ts", ".tsx", ".js", ".jsx", ".mjs", ".cjs"]

/-- The grammar of a script extension. -/
def grammarOf? (ext : String) : Option Grammar :=
  match ext with
  | ".ts" | ".mts" | ".cts" => some .typescript
  | ".tsx" => some .typescriptMarkup
  | ".js" | ".jsx" | ".mjs" | ".cjs" => some .javascript
  | _ => none

/-- The extensions of scripts with markup. -/
def markupExtensions : List String := [".tsx", ".jsx"]

/-- The language of a file, or none for a file the index does not read. -/
def languageOf? (path : String) : Option Language :=
  let ext := extensionOf path
  if ext == ".sql" then some .sql
  else if markupExtensions.contains ext then some .markup
  else if scriptExtensions.contains ext || (grammarOf? ext).isSome then some .script
  else none

end ProjectIndex
