import ProjectIndex.Toml.Text
import ProjectIndex.Data.Value

/-!
Writing a table as a TOML document.

Plain values come first, one `key = value` line each; then every sub-table under a `[header]`
line with its dotted path, a blank line before it, breadth first by nesting depth; a header is
written when the table has plain values or has no sub-tables at all. A list holding a table is
written as an array of tables, `[[header]]` once per item. Null values are left out.

Values: strings in double quotes, booleans in lower case, integers and doubles as written in
reports (an exponent loses the leading zero of its digits), and lists as `[ a, b,]`. A table met
inside a list is written as the list of its keys.

A string is quoted from its literal form (`quoteText`): the outer quotes become double quotes,
escapes stay as they are, and a double quote inside is escaped. A `\x` escape is then folded:
the text before it loses one level of doubled backslashes and the escape becomes `x` or `u00`,
depending on the backslashes before it. A text that is nothing but such escapes has nothing to
fold them onto and stops the writer.

A key is bare when it is made of ASCII letters, digits, `_` and `-` (a final line break
allowed), and quoted as a string otherwise.

Owns: `quoteString`, `renderValue`, `renderDocument`.
-/

namespace ProjectIndex.Toml

open ProjectIndex.Data

/-- Whether the last character decides an `x` joiner: an odd run of backslashes before the end,
not counting the first character, gives `u00` instead. -/
def joinsWithX (cs : List Char) : Bool :=
  match cs.getLast? with
  | none => true
  | some last =>
    if last != '\\' then true
    else
      let run := (cs.reverse.takeWhile (· == '\\')).length
      (min run (cs.length - 1)) % 2 == 1

/-- Folds the pieces of a quoted text split at its `\x` escapes into one. -/
def foldEscapes : Nat → List String → Except TomlFault String
  | 0, _ => .error listIndexError
  | _, [] => .error listIndexError
  | _, [one] => .ok one
  | fuel + 1, first :: rest =>
    let (head, rest) := if first.isEmpty then
        match rest with
        | h :: t => (h, t)
        | [] => ("", [])
      else (first, rest)
    let head := replaceAll head "\\\\" "\\"
    if head.isEmpty then .error stringIndexError
    else
      match rest with
      | [] => .error listIndexError
      | next :: more =>
        let joiner := if joinsWithX head.toList then "x" else "u00"
        foldEscapes fuel ((head ++ joiner ++ next) :: more)

/-- A string as a TOML value. -/
def quoteString (s : String) : Except TomlFault String := do
  let literal := quoteText s
  let single := literal.startsWith "'"
  let body := String.ofList ((literal.toList.drop 1).dropLast)
  let body := if single then replaceAll (replaceAll body "\\'" "'") "\"" "\\\"" else body
  let pieces := splitAll body "\\x"
  let folded ← foldEscapes (pieces.length + 1) pieces
  pure ("\"" ++ folded ++ "\"")

/-- A double as a TOML value. -/
def renderFloat (x : Float) : String :=
  replaceAll (replaceAll (Number.floatText x) "e+0" "e+") "e-0" "e-"

mutual
/-- A value as TOML text. -/
def renderValue : Value → Except TomlFault String
  | .null => quoteString "None"
  | .bool b => .ok (if b then "true" else "false")
  | .int n => .ok (toString n)
  | .float x => .ok (renderFloat x)
  | .str s => quoteString s
  | .moment m => .ok (replaceAll m.isoText "+00:00" "Z")
  | .list items => do pure ("[" ++ (← renderItems items) ++ "]")
  | .table entries => do pure ("[" ++ (← renderKeys entries) ++ "]")

/-- List items, each after a blank and before a comma. -/
def renderItems : List Value → Except TomlFault String
  | [] => .ok ""
  | item :: rest => do pure (" " ++ (← renderValue item) ++ "," ++ (← renderItems rest))

/-- The keys of a table met inside a list, as list items. -/
def renderKeys : List (String × Value) → Except TomlFault String
  | [] => .ok ""
  | (key, _) :: rest => do pure (" " ++ (← quoteString key) ++ "," ++ (← renderKeys rest))
end

/-- A key as written: bare when it is ASCII letters, digits, `_` and `-`, with a final line
break allowed; quoted otherwise. -/
def renderKey (key : String) : Except TomlFault String :=
  let cs := key.toList
  let body := if cs.getLast? == some '\n' then cs.dropLast else cs
  let bare := !body.isEmpty && body.all fun c => c.isAlphanum || c == '_' || c == '-'
  if bare then .ok key else quoteString key

/-- The value holds a table among its items. -/
def holdsTable : Value → Bool
  | .list items => items.any fun
    | .table _ => true
    | _ => false
  | _ => false

/-- The entries of a value that is a table. -/
def tableEntries : Value → List (String × Value)
  | .table entries => entries
  | _ => []

/-- One level of a table: its plain lines, its arrays of tables, and the sub-tables left for the
next level, by written key. `fuel` bounds the nesting of arrays of tables. -/
def renderSection (fuel : Nat) (entries : List (String × Value)) (prefixPath : String) :
    Except TomlFault (String × List (String × Value)) :=
  match fuel with
  | 0 => .ok ("", [])
  | fuel + 1 => do
    let sup := if !prefixPath.isEmpty && !prefixPath.endsWith "." then prefixPath ++ "." else prefixPath
    let mut lines := ""
    let mut arrays := ""
    let mut tables : List (String × Value) := []
    for (key, value) in entries do
      let qkey ← renderKey key
      match value with
      | .table inner => tables := Value.setEntry tables qkey (.table inner)
      | .null => pure ()
      | _ =>
        if holdsTable value then
          let items := match value with
            | .list xs => xs
            | _ => []
          for item in items do
            let mut tail := "\n"
            arrays := arrays ++ "[[" ++ sup ++ qkey ++ "]]\n"
            let (s, d) ← renderSection fuel (tableEntries item) (sup ++ qkey)
            if !s.isEmpty then
              if s.startsWith "[" then tail := tail ++ s else arrays := arrays ++ s
            let mut pending := d
            for _ in List.range (fuel + 1) do
              if pending.isEmpty then break
              let mut next : List (String × Value) := []
              for (dsec, dval) in pending do
                let (s1, d1) ← renderSection fuel (tableEntries dval) (sup ++ qkey ++ "." ++ dsec)
                if !s1.isEmpty then
                  tail := tail ++ "[" ++ sup ++ qkey ++ "." ++ dsec ++ "]\n" ++ s1
                for (k1, v1) in d1 do
                  next := Value.setEntry next (dsec ++ "." ++ k1) v1
              pending := next
            arrays := arrays ++ tail
        else
          lines := lines ++ qkey ++ " = " ++ (← renderValue value) ++ "\n"
    pure (lines ++ arrays, tables)

/-- A table as a TOML document. -/
def renderDocument (entries : List (String × Value)) : Except TomlFault String := do
  let depth := 64
  let (top, sections) ← renderSection depth entries ""
  let mut out := top
  let mut pending := sections
  for _ in List.range depth do
    if pending.isEmpty then break
    let mut next : List (String × Value) := []
    for (name, value) in pending do
      let (s, d) ← renderSection depth (tableEntries value) name
      if !s.isEmpty || d.isEmpty then
        if !out.isEmpty && !out.endsWith "\n\n" then out := out ++ "\n"
        out := out ++ "[" ++ name ++ "]\n" ++ s
      for (k, v) in d do
        next := Value.setEntry next (name ++ "." ++ k) v
    pending := next
  pure out

end ProjectIndex.Toml
