import ProjectIndex.Toml.Scan
import ProjectIndex.Toml.Load

/-!
Reading a TOML document into a table.

After the character pass (`scanText`), the text is read line by line, each line stripped of
blanks (except inside a multi-line string), blank lines skipped:

* `[a.b]` opens the table at that path, creating the tables on the way; `[[a.b]]` appends a new
  table to the array at that path. Header parts are bare (ASCII letters, digits, `_`, `-`) or
  quoted; a header with anything after its closing bracket is refused. A table may be opened
  once, except a table first created on the way to another one. The path of a header goes into
  the last table of each array of tables it passes through.
* `{ … }` adds the entries of an inline table to the open table.
* A line with `=` is a `key = value` line (`loadLine`) for the open table; a multi-line string it
  opens is continued on the next lines until a line ends with the closing quotes (or, for a
  value that starts with `[`, with `]`), then read as one value.
* Any other line is passed over.

The open table is kept as a path from the root: keys, and steps into the last item of an array.

Owns: `Step`, `readToml`, `loads`.
-/

namespace ProjectIndex.Toml

open ProjectIndex.Data

/-- A step of a path into a document: a key of a table, or the last item of an array. -/
inductive Step where
  | key (k : String)
  | lastItem
deriving DecidableEq, Repr

/-- The value a path leads to. -/
def getAt : Value → List Step → Option Value
  | v, [] => some v
  | .table entries, .key k :: rest =>
    match entries.find? (·.1 == k) with
    | some (_, child) => getAt child rest
    | none => none
  | .list items, .lastItem :: rest =>
    match items.getLast? with
    | some child => getAt child rest
    | none => none
  | _, _ => none

/-- Changes the value a path leads to; `none` when the path leads nowhere. -/
def modifyAt {α : Type} (v : Value) (path : List Step) (f : Value → Except TomlFault (Value × α)) :
    Except TomlFault (Value × α) :=
  match path, v with
  | [], _ => f v
  | .key k :: rest, .table entries =>
    match entries.find? (·.1 == k) with
    | some (_, child) => do
      let (child', a) ← modifyAt child rest f
      pure (.table (Value.setEntry entries k child'), a)
    | none => .error (.crash "KeyError" k)
  | .lastItem :: rest, .list items =>
    match items.getLast? with
    | some child => do
      let (child', a) ← modifyAt child rest f
      pure (.list (items.dropLast ++ [child']), a)
    | none => .error listIndexError
  | _, _ => .error (.crash "TypeError" "object is not subscriptable")

/-- Changes the value at a path, with nothing else to return. -/
def updateAt (v : Value) (path : List Step) (f : Value → Except TomlFault Value) :
    Except TomlFault Value := do
  let (v', _) ← modifyAt v path fun here => do pure ((← f here), ())
  pure v'

/-- The type name of a value, as error messages say it. -/
def typeName : Value → String
  | .null => "NoneType"
  | .bool _ => "bool"
  | .int _ => "int"
  | .float _ => "float"
  | .str _ => "str"
  | .moment m => m.kindName
  | .list _ => "list"
  | .table _ => "dict"

/-- A header part is bare: ASCII letters, digits, `_` and `-`, at least one. -/
def bareHeaderPart (s : String) : Bool :=
  !s.isEmpty && s.toList.all fun c => c.isAlphanum || c == '_' || c == '-'

/-- The parts of a header's inside: split at dots, quoted parts joined back and unquoted. -/
def headerParts (inside : String) : Except TomlFault (List String) := do
  let groups := (splitAll inside ".").toArray
  let mut groups := groups
  let mut i := 0
  for _ in List.range (groups.size + 1) do
    if i ≥ groups.size then break
    let g := strip (groups[i]?.getD "")
    groups := groups.set! i g
    match firstChar? g with
    | some q =>
      if q == '"' || q == '\'' then
        let mut groupstr := g
        let mut j := i + 1
        for _ in List.range (groups.size + 4) do
          let cs := groupstr.toList
          if cs.head? == cs.getLast? && cs.length != 1 then break
          j := j + 1
          if j > groups.size + 2 then throw .malformed
          groupstr := strip (".".intercalate ((groups.toList.take j).drop i))
        let cs := groupstr.toList
        if !(cs.head? == cs.getLast? && cs.length != 1) then throw .malformed
        groups := (groups.toList.take i ++ [cut groupstr 1 1] ++ groups.toList.drop j).toArray
      else if !bareHeaderPart g then throw .malformed
    | none => throw .malformed
    i := i + 1
  return groups.toList

/-- The parts of a header line, and whether it opens an array of tables. -/
def headerOf (line : String) : Except TomlFault (List String × Bool) := do
  let cs := line.toList
  if cs.length == 1 then throw .malformed
  let array := cs[1]? == some '['
  let body := if array then cut line 2 0 else cut line 1 0
  let closer := if array then "]]" else "]"
  let mut count := 1
  let mut quoted := false
  for piece in splitOnQuotes body do
    if !quoted && (splitAll piece closer).length > 1 then break
    count := count + countOf piece closer
    quoted := !quoted
  let pieces := splitAtMost body closer count
  if pieces.length < count + 1 || strip (pieces.getLast?.getD "") != "" then throw .malformed
  let parts ← headerParts (closer.intercalate pieces.dropLast)
  return (parts, array)

/-- The crash of appending to a value that is no list. -/
def appendCrash (v : Value) : TomlFault :=
  .crash "AttributeError" ("'" ++ typeName v ++ "' object has no attribute 'append'")

/-- Opens the table a header names: the document, the names created on the way, and the path of
the open table. -/
def openHeader (doc : Value) (implicit : List String) (parts : List String) (array : Bool) :
    Except TomlFault (Value × List String × List Step) := do
  let mut doc := doc
  let mut implicit := implicit
  let mut cur : List Step := []
  let n := parts.length
  for (group, i) in parts.zipIdx do
    if group == "" then throw .malformed
    let last := i + 1 == n
    let fresh : Value := if last && array then .list [.table []] else .table []
    match getAt doc cur with
    | some (.table entries) =>
      match entries.find? (·.1 == group) with
      | some (_, existing) =>
        if last then
          if implicit.contains group then
            implicit := implicit.erase group
            if array then throw .malformed
          else if array then
            match existing with
            | .list items =>
              doc ← updateAt doc (cur ++ [.key group]) fun _ => pure (.list (items ++ [.table []]))
            | other => throw (appendCrash other)
          else throw .malformed
      | none =>
        if !last then implicit := implicit ++ [group]
        doc ← updateAt doc cur fun here => pure (.table (here.entries ++ [(group, fresh)]))
    | some (.list items) =>
      if items.isEmpty then throw listIndexError
      cur := cur ++ [.lastItem]
      match getAt doc cur with
      | some (.table entries) =>
        if !entries.any (·.1 == group) then
          doc ← updateAt doc cur fun here => pure (.table (here.entries ++ [(group, fresh)]))
      | _ => throw (.crash "TypeError" "argument of type is not iterable")
    | some other => throw (.crash "TypeError" ("'" ++ typeName other ++ "' object is not subscriptable"))
    | none => throw (.crash "TypeError" "object is not subscriptable")
    cur := cur ++ [.key group]
    if array then
      match getAt doc cur with
      | some (.list items) =>
        if items.isEmpty then throw listIndexError
        cur := cur ++ [.lastItem]
      | some (.table _) => pure ()
      | _ => throw (.crash "TypeError" "object is not subscriptable")
  return (doc, implicit, cur)

/-- What the line pass knows between lines. -/
structure LineState where
  doc : Value := .table []
  cur : List Step := []
  implicit : List String := []
  pendingKey : Option String := none
  pendingText : String := ""
  backslashed : Bool := false

/-- Reads one line of the line pass. -/
def readLine (st : LineState) (raw : String) : Except TomlFault LineState := do
  let fuel := raw.length + st.pendingText.length + 8
  let keepRaw := !st.pendingText.isEmpty && !st.backslashed && st.pendingText.contains '\n'
  let line := if keepRaw then raw else strip raw
  if line == "" && (st.pendingKey.isNone || st.backslashed) then return st
  match st.pendingKey with
  | some key =>
    let text := st.pendingText ++ line
    let lineChars := line.toList
    let opener := (firstChar? text).getD ' '
    let closed ←
      if opener == '[' then
        match lineChars.getLast? with
        | some c => pure (c == ']')
        | none => throw stringIndexError
      else if lineChars.length > 2 then
        pure (lineChars.reverse.take 3 == [opener, opener, opener])
      else pure false
    if closed then
      let (value, _) ← loadValue fuel text true
      let doc ← updateAt st.doc st.cur fun here =>
        match here with
        | .table entries => pure (.table (Value.setEntry entries key value))
        | _ => throw (.crash "TypeError" "list indices must be integers or slices, not str")
      return { st with doc := doc, pendingKey := none, pendingText := "", backslashed := false }
    else
      let odd := trailingBackslashes text % 2 == 1
      let text := if odd then cut text 0 1 else text ++ "\n"
      return { st with pendingText := text, backslashed := odd }
  | none =>
    match firstChar? line with
    | some '[' =>
      let (parts, array) ← headerOf line
      let (doc, implicit, cur) ← openHeader st.doc st.implicit parts array
      return { st with doc := doc, implicit := implicit, cur := cur }
    | some '\x7b' =>
      if lastChar? line != some '\x7d' then throw .malformed
      let doc ← updateAt st.doc st.cur fun here => loadInlineTable fuel line here
      return { st with doc := doc }
    | _ =>
      if !line.contains '=' then return st
      let (doc, pending) ← modifyAt st.doc st.cur fun here => loadLine fuel here line false
      match pending with
      | some (key, text, odd) =>
        return { st with doc := doc, pendingKey := some key, pendingText := text, backslashed := odd }
      | none => return { st with doc := doc }

/-- Reads a TOML document into a table, or says why it cannot. -/
def readToml (text : String) : Except TomlFault Value := do
  let scanned ← scanText text
  let mut st : LineState := {}
  for line in splitAll scanned "\n" do
    st ← readLine st line
  return st.doc

/-- The reader as the configuration loader calls `toml.loads`: a text the reader refuses fails
with a decode error. The error's text is not the package's wording, only a statement that the
text is no TOML document. -/
def loads (text : String) : Except LoadsFailure Value :=
  match readToml text with
  | .ok v => .ok v
  | .error .malformed => .error (.decode "not a TOML document")
  | .error (.crash kind message) => .error (.raised kind message)

end ProjectIndex.Toml
