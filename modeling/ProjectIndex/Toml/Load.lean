import ProjectIndex.Toml.Text
import ProjectIndex.Toml.Moment
import ProjectIndex.Data.Json

/-!
Reading TOML values and `key = value` lines, as the line pass of the reader meets them.

**Lines.** The key ends at the first `=` outside quotes. When the value does not start with a
blank, a quote, a bracket, a brace or a boolean and is no number, the key takes in the next `=`
too, until the value reads as one. A key with dots names nested tables, created as needed (parts
in quotes keep their dots); a quoted key loses its quotes and escapes. A value that opens a
multi-line string (three quotes, not closed on the line) is handed back to be continued on the
next lines, under the last part of its key. A key that is already present is refused.

**Values.** Strings in either quote, single- or triple-quoted; in double quotes the escapes
`\b \t \n \f \r \" \\ \0` and `\u`/`\U` with hexadecimal digits, any other escape refused.
Booleans in lower case. Numbers: an optional sign, then an integer (decimal without leading
zeros, or with a `0x`, `0o`, `0b` prefix) or a float (digits before the point and after it, or an
exponent; `inf` and `nan`); underscores between digits are dropped. Past the first character,
which must be an ASCII digit for a float, the digits may be those of any script, each read as the
ASCII digit of the same value (`numeralCore`). Arrays hold values of one
kind, and are split at commas with the strings, nested arrays and inline tables kept whole.
Inline tables `{ key = value, … }`. Times of day and dates, with or without a time, as
`Toml.Moment` reads them; arrays count dates and dates with times as one kind.

The splitting follows the text and not a grammar, so its odd corners are part of the reading:
for instance a comma inside a string of an array of strings is found again by checking which
pieces are closed strings.

Owns: `loadValue`, `loadArray`, `loadInlineTable`, `loadLine`, `splitOnQuotes`.
-/

namespace ProjectIndex.Toml

open ProjectIndex.Data

/-- The pieces of a line between quotes: outside and inside pieces alternate, as far as the
reader tracks them. -/
def splitOnQuotes (line : String) : List String :=
  let dq := splitAll line "\""
  let (start, rest) :=
    match dq with
    | first :: more =>
      if more.length > 0 && first.contains '\'' then
        (settle (splitAll first "'") more (more.length + 1))
      else ([], dq)
    | [] => ([], [])
  let (out, _) := rest.foldl (fun (acc : List String × Bool) piece =>
    let (pieces, quoted) := acc
    if quoted then (pieces ++ [piece], quoted) else (pieces ++ splitAll piece "'", true))
    (start, false)
  out
where
  /-- Joins double-quoted pieces onto an unfinished single-quoted one. -/
  settle (sq dq : List String) : Nat → List String × List String
    | 0 => (sq, dq)
    | fuel + 1 =>
      match dq with
      | d :: more =>
        if sq.length % 2 == 0 then
          let last := sq.getLast?.getD "" ++ "\"" ++ d
          let sq := if last.contains '\'' then sq.dropLast ++ splitAll last "'" else sq.dropLast ++ [last]
          settle sq more fuel
        else (sq, dq)
      | [] => (sq, dq)

/-- `s[a:-b]`: the characters without the first `a` and the last `b`. -/
def cut (s : String) (a b : Nat) : String :=
  let cs := s.toList
  String.ofList ((cs.take (cs.length - b)).drop a)

/-- The first character. -/
def firstChar? (s : String) : Option Char := s.toList.head?

/-- The last character. -/
def lastChar? (s : String) : Option Char := s.toList.getLast?

/-- The number of backslashes at the end. -/
def trailingBackslashes (s : String) : Nat := (s.toList.reverse.takeWhile (· == '\\')).length

/-- A number text is written without stray underscores or leading zeros. -/
def strictlyValidNumber (n : String) : Bool :=
  let n := strip n
  let cs := n.toList
  match cs with
  | [] => false
  | [c] => c != '_'
  | first :: second :: rest =>
    if first == '_' || cs.getLast? == some '_' then false
    else if (splitAll n "_.").length > 1 || (splitAll n "._").length > 1 then false
    else if first == '0' && !(['.', 'o', 'b', 'x'].contains second) then false
    else
      let signed := first == '+' || first == '-'
      let leadingZero := match second :: rest with
        | '0' :: c :: _ => c != '.'
        | _ => false
      if signed && leadingZero then false
      else
        let unsigned := if signed then second :: rest else cs
        (splitAll (String.ofList unsigned) "__").length == 1

/-- ASCII decimal digits. -/
def isAsciiDigit (c : Char) : Bool := '0' ≤ c && c ≤ '9'

/-- Digits, each separated from the next by at most one underscore, none at either end. -/
def digitGroups (cs : List Char) : Bool :=
  cs.head?.any isAsciiDigit && cs.getLast?.any isAsciiDigit &&
    (List.range cs.length).all fun i =>
      match cs[i]? with
      | some '_' => cs[i + 1]?.any isAsciiDigit && (i > 0 && cs[i - 1]?.any isAsciiDigit)
      | some c => isAsciiDigit c
      | none => true

/-- The text reads as a double: blanks around, a sign, then `inf`, `infinity` or `nan` in any
case, or digits with a point and an exponent. -/
def readsAsFloat (s : String) : Bool :=
  let t := numeralCore s
  let t := match t with
    | '+' :: r => r
    | '-' :: r => r
    | r => r
  let lowered := String.ofList (t.map Char.toLower)
  if lowered == "inf" || lowered == "infinity" || lowered == "nan" then true
  else
    let (mant, expo) := match t.findIdx? (fun c => c == 'e' || c == 'E') with
      | some k => (t.take k, some (t.drop (k + 1)))
      | none => (t, none)
    let mantOk := match mant.findIdx? (· == '.') with
      | some k =>
        let intPart := mant.take k
        let fracPart := mant.drop (k + 1)
        (!intPart.isEmpty || !fracPart.isEmpty) &&
          (intPart.isEmpty || digitGroups intPart) && (fracPart.isEmpty || digitGroups fracPart)
      | none => digitGroups mant
    let expOk := match expo with
      | none => true
      | some e =>
        let e := match e with
          | '+' :: r => r
          | '-' :: r => r
          | r => r
        digitGroups e
    mantOk && expOk

/-- The natural number of digits in a base. -/
def digitsIn (base : Nat) (cs : List Char) : Option Nat :=
  if cs.isEmpty then none
  else cs.foldl (fun acc c =>
    acc.bind fun n =>
      let d := if isAsciiDigit c then c.toNat - '0'.toNat
        else if 'a' ≤ c.toLower && c.toLower ≤ 'z' then c.toLower.toNat - 'a'.toNat + 10 else 99
      if d < base then some (n * base + d) else none) (some 0)

/-- An integer as written with base prefixes: `0x`, `0o`, `0b`, or decimal without leading zeros
(except zero itself); a sign and blanks around allowed. -/
def readInteger (s : String) : Option Int :=
  let t := numeralCore s
  let (negative, t) := match t with
    | '+' :: r => (false, r)
    | '-' :: r => (true, r)
    | r => (false, r)
  let value : Option Nat := match t with
    | '0' :: p :: r =>
      if p == 'x' || p == 'X' then digitsIn 16 r
      else if p == 'o' || p == 'O' then digitsIn 8 r
      else if p == 'b' || p == 'B' then digitsIn 2 r
      else if t.all (· == '0') then some 0 else none
    | _ => if t.all isAsciiDigit then digitsIn 10 t else none
  value.map fun n => if negative then -(n : Int) else n

/-- A float as written: digits, an optional point with digits, an optional exponent; or `inf`
and `nan`. -/
def readFloat (s : String) : Option Float :=
  let t := numeralCore s
  let lowered := String.ofList (t.map Char.toLower)
  if lowered == "inf" then some (1.0 / 0.0)
  else if lowered == "nan" then some (0.0 / 0.0)
  else
    let (mant, expo) := match t.findIdx? (fun c => c == 'e' || c == 'E') with
      | some k => (t.take k, some (t.drop (k + 1)))
      | none => (t, none)
    let (intPart, fracPart) := match mant.findIdx? (· == '.') with
      | some k => (mant.take k, mant.drop (k + 1))
      | none => (mant, [])
    let mantOk := !(intPart.isEmpty && fracPart.isEmpty) && intPart.all isAsciiDigit &&
      fracPart.all isAsciiDigit
    let expValue : Option Int := match expo with
      | none => some 0
      | some e =>
        let (neg, digits) := match e with
          | '+' :: r => (false, r)
          | '-' :: r => (true, r)
          | r => (false, r)
        if digits.isEmpty || !digits.all isAsciiDigit then none
        else some (if neg then -(Data.digitsValue digits : Int) else Data.digitsValue digits)
    match mantOk, expValue with
    | true, some e =>
      some (Data.scientificFloat (Data.digitsValue (intPart ++ fracPart)) (e - fracPart.length))
    | _, _ => none

/-- The escapes of double-quoted strings and the characters they stand for. -/
def escapeTable : List (Char × Char) :=
  [('0', '\x00'), ('b', '\x08'), ('f', '\x0c'), ('n', '\n'), ('r', '\r'), ('t', '\t'), ('"', '"')]

/-- Replaces the escapes of a double-quoted string; `\u` and `\U` are left for later, and any
other escape is refused. -/
def unescape (v : String) : Except TomlFault String :=
  go v.toList [] false (v.length + 1)
where
  /-- `acc` holds the output reversed; after a backslash, `pending` is set. -/
  go : List Char → List Char → Bool → Nat → Except TomlFault String
    | [], acc, pending, _ =>
      .ok (String.ofList ((if pending then '\\' :: acc else acc).reverse))
    | _, _, _, 0 => .error .malformed
    | c :: rest, acc, pending, fuel + 1 =>
      if pending then
        match escapeTable.lookup c with
        | some e => go rest (e :: acc) false fuel
        | none =>
          if c == '\\' then go rest ('\\' :: acc) false fuel
          else if c == 'u' || c == 'U' then go rest (c :: '\\' :: acc) false fuel
          else .error .malformed
      else if c == '\\' then go rest acc true fuel
      else go rest (c :: acc) false fuel

/-- Replaces the `\u` (four digits) or `\U` (eight digits) escapes of a string split at them. -/
def unicodeEscapes (head : String) (pieces : List String) (upper : Bool) :
    Except TomlFault String := do
  let pfx := if upper then "\\U" else "\\u"
  let width := if upper then 8 else 4
  let mut v := head
  let mut skip := trailingBackslashes head % 2 == 1
  for hx in pieces do
    if skip then
      skip := trailingBackslashes hx % 2 == 1
      v := v ++ pfx ++ hx
    else
      let hxb := String.ofList ((hx.toList.take width).map Char.toLower)
      if !hxb.toList.all (fun c => isAsciiDigit c || ('a' ≤ c && c ≤ 'f')) then throw .malformed
      match hxb.toList with
      | 'd' :: second :: _ => if !"01234567".toList.contains second then throw .malformed
      | ['d'] => throw stringIndexError
      | _ => pure ()
      match digitsIn 16 hxb.toList with
      | some n =>
        if n > 0x10FFFF || (0xD800 ≤ n && n ≤ 0xDFFF) then throw .malformed
        v := v ++ (Char.ofNat n).toString ++ String.ofList (hx.toList.drop hxb.length)
      | none => throw stringIndexError
  pure v

/-- The text has equal quotes at both ends that an odd run of backslashes does not escape. -/
def boundedString (s : String) : Bool :=
  let cs := s.toList
  match cs.head?, cs.getLast? with
  | none, _ => true
  | some a, some b =>
    if a != b then false
    else
      let inner := cs.dropLast
      let run := (inner.reverse.takeWhile (· == '\\')).length
      (min run (cs.length - 1)) % 2 == 0
  | _, _ => true

/-- The array text, without its brackets, starts with a quote. -/
def isStringArray (a : String) : Bool :=
  match firstChar? (strip (cut a 1 1)) with
  | some c => c == '"' || c == '\''
  | none => false

/-- Where a value opens a multi-line string: the position of its last character and the offset
of the string inside the value (past the array items before it); `none` when it opens none. -/
def multilineStart (p : String) : Except TomlFault (Option (Nat × Nat)) := do
  if p.length < 3 then return none
  let mut q := p
  let mut offset := 0
  if firstChar? p == some '[' && lastChar? (strip p) != some ']' && isStringArray p then
    let mut parts := splitAll (strip (cut p 1 0)) ","
    for _ in List.range (parts.length + 1) do
      if parts.length ≤ 1 then break
      match firstChar? (parts.getLast?.getD "") with
      | none => throw stringIndexError
      | some c =>
        if c == '"' || c == '\'' then break
        let n := parts.length
        parts := parts.take (n - 2) ++ [(parts[n - 2]?.getD "") ++ "," ++ (parts[n - 1]?.getD "")]
    q := parts.getLast?.getD ""
    offset := p.length - q.length
  let cs := q.toList
  match cs with
  | a :: b :: c :: _ =>
    if a != '"' && a != '\'' then return none
    if b != a || c != a then return none
    if cs.length > 5 && cs.getLast? == some a && cs[cs.length - 2]? == some a &&
        cs[cs.length - 3]? == some a then return none
    return some (cs.length - 1, offset)
  | _ => if (firstChar? q).any (fun a => a != '"' && a != '\'') then return none
         else throw stringIndexError

/-- The kind of a value, for the rule that arrays hold one kind. -/
abbrev ValueKind := String

/-- Splits an array of inline tables into the tables' texts, by matching braces outside strings. -/
def inlineGroups (a : String) : List String := Id.run do
  let cs := a.toList.toArray
  let n := cs.size - 1
  let mut groups : List String := []
  let mut start := 1
  let mut stop := 2
  let mut depth : Nat := if cs[1]? == some '{' then 1 else 0
  let mut inString := false
  for _ in List.range (cs.size * 2 + 2) do
    if stop ≥ n then break
    let c := cs[stop]?.getD ' '
    if c == '"' || c == '\'' then
      if inString then
        let mut k := stop
        for _ in List.range (stop + 1) do
          if k == 0 then break
          if cs[k - 1]? == some '\\' then
            inString := !inString
            k := k - 1
          else break
      inString := !inString
    if !inString && c == '{' then depth := depth + 1
    if inString || c != '}' then
      stop := stop + 1
    else if depth > 1 then
      depth := depth - 1
      stop := stop + 1
    else
      stop := stop + 1
      groups := groups ++ [String.ofList ((cs.toList.take stop).drop start)]
      start := stop + 1
      for _ in List.range (cs.size + 1) do
        if start < n && cs[start]? != some '{' then start := start + 1 else break
      stop := start + 1
  return groups

/-- Joins the pieces of an array of strings split at commas inside strings. -/
def rejoinStrings (parts : List String) : Except TomlFault (List String) := do
  let mut a := parts.toArray
  let mut b := 0
  for _ in List.range (parts.length + 1) do
    if b + 1 ≥ a.size then break
    for _ in List.range (a.size + 1) do
      let ab := strip (a[b]?.getD "")
      let cs := ab.toList
      let unfinishedTriple :=
        cs.length > 2 && cs[0]? == cs[1]? && cs[1]? == cs[2]? &&
          cs[cs.length - 2]? != cs[0]? && cs[cs.length - 3]? != cs[0]?
      if boundedString ab && !unfinishedTriple then break
      match a[b + 1]? with
      | none => throw listIndexError
      | some next =>
        a := a.set! b ((a[b]?.getD "") ++ "," ++ next)
        a := (a.toList.take (b + 1) ++ a.toList.drop (b + 2)).toArray
    b := b + 1
  return a.toList

/-- Splits an array's inner text at the commas outside nested arrays. -/
def splitTopLevel (cs : List Char) : List String :=
  let (parts, current, _) := cs.foldl (fun (acc : List String × List Char × Int) c =>
    let (parts, current, depth) := acc
    if c == '[' then (parts, c :: current, depth + 1)
    else if c == ']' then (parts, c :: current, depth - 1)
    else if c == ',' && depth == 0 then (parts ++ [String.ofList current.reverse], [], depth)
    else (parts, c :: current, depth)) ([], [], 0)
  parts ++ [String.ofList current.reverse]

/-- Reads a quoted string value. -/
def loadString (v : String) (quote : Char) : Except TomlFault (Value × ValueKind) := do
  let pieces := splitAll (cut v 1 0) quote.toString
  let (pieces, triple) := match pieces with
    | "" :: "" :: rest => (rest, true)
    | _ => (pieces, false)
  let mut closed := false
  let mut quotes := 0
  for piece in pieces do
    if piece == "" then
      if triple then quotes := quotes + 1 else closed := true
    else if trailingBackslashes piece % 2 == 0 then
      if closed then throw .malformed
      if !triple || quotes > 1 then closed := true else quotes := 0
  let mut v := v
  if quote == '"' then
    let mut backslash := false
    for piece in (splitAll v "\\").drop 1 do
      match firstChar? piece with
      | none => backslash := !backslash
      | some c =>
        if (escapeTable.lookup c).isNone && c != 'u' && c != 'U' && !backslash then throw .malformed
        backslash := false
    for upper in [false, true] do
      let pfx := if upper then "\\U" else "\\u"
      match splitAll v pfx with
      | head :: more => if !more.isEmpty then v ← unicodeEscapes head more upper
      | [] => pure ()
    v ← unescape v
  let cs := v.toList
  if cs.length > 1 && cs[1]? == some quote && (cs.length < 3 || cs[1]? == cs[2]?) then
    v := cut v 2 2
  return (.str (cut v 1 1), "str")

/-- Reads a number value; `strict` says the text passed the number check. -/
def loadNumber (v : String) (strict : Bool) : Except TomlFault (Value × ValueKind) := do
  if !strict then throw .malformed
  let (negative, rest) := match v.toList with
    | '-' :: r => (true, r)
    | '+' :: r => (false, r)
    | r => (false, r)
  let digits := rest.filter (· != '_')
  let text := String.ofList digits
  let lowered := String.ofList (digits.map Char.toLower)
  let isFloat := digits.contains '.' || (!digits.contains 'x' && (digits.contains 'e' || digits.contains 'E'))
  if isFloat then
    if digits.contains '.' && (splitAtMost text "." 1).getLast? == some "" then throw .malformed
    if !(digits.head?.any isAsciiDigit) then throw .malformed
    match readFloat text with
    | some x => return (.float (if negative then 0.0 - x else x), "float")
    | none => throw .malformed
  if digits.length == 3 && (lowered == "inf" || lowered == "nan") then
    match readFloat text with
    | some x => return (.float (if negative then 0.0 - x else x), "float")
    | none => throw .malformed
  match readInteger text with
  | some n => return (.int (if negative then 0 - n else n), "int")
  | none => throw .malformed

/-- A time of day starts the text: two digits, a colon, two digits, a colon, two digits. -/
def startsWithTime (s : String) : Bool :=
  match s.toList with
  | a :: b :: ':' :: c :: d :: ':' :: e :: f :: _ => [a, b, c, d, e, f].all isAsciiDigit
  | _ => false

/-- Splits a line into its key text, its value text, and whether the value passed the number
check. -/
def splitKeyValue (line : String) : Except TomlFault (String × String × Bool) := do
  let mut count := 1
  let mut quoted := false
  for piece in splitOnQuotes line do
    if !quoted && piece.contains '=' then break
    count := count + countOf piece "="
    quoted := !quoted
  let mut pair := splitAtMost line "=" count
  let mut strict := strictlyValidNumber (pair.getLast?.getD "")
  if (firstChar? (pair.getLast?.getD "")).any isAsciiDigit then
    pair := pair.dropLast ++ [replaceAll (pair.getLast?.getD "") "_" ""]
  for _ in List.range (countOf line "=" + 2) do
    let last := pair.getLast?.getD ""
    match firstChar? last with
    | none => break
    | some c =>
      if [' ', '\t', '\'', '"', '[', '\x7b'].contains c || strip last == "true" || strip last == "false" then
        break
      if readsAsFloat last || (loadDate? last).isSome || startsWithTime last then break
      count := count + 1
      pair := splitAtMost line "=" count
      if pair.getLast?.getD "" == last then throw .malformed
      if strict then strict := strictlyValidNumber (pair.getLast?.getD "")
  return (strip ("=".intercalate pair.dropLast), strip (pair.getLast?.getD ""), strict)

/-- The tables a key text passes through and its last part. -/
def keyPath (keyText : String) : Except TomlFault (List String × String) := do
  if keyText.contains '.' then
    let levels :=
      if keyText.contains '"' || keyText.contains '\'' then
        let (out, _) := (splitOnQuotes keyText).foldl (fun (acc : List String × Bool) piece =>
          let (out, quoted) := acc
          if quoted then (out ++ [piece], false)
          else (out ++ (splitAll piece ".").map strip, true)) ([], false)
        out
      else splitAll keyText "."
    let levels := (levels.reverse.dropWhile (· == "")).reverse
    match levels.getLast? with
    | none => throw listIndexError
    | some last => return (levels.dropLast, strip last)
  match firstChar? keyText, lastChar? keyText with
  | some a, some z =>
    if (a == '"' || a == '\'') && z == a then return ([], ← unescape (cut keyText 1 1))
    return ([], keyText)
  | _, _ => throw stringIndexError

/-- Applies `k` to the table that a path of key parts leads to from `level`, creating the tables
on the way; empty parts are skipped. -/
def placeAt {α : Type} (levels : List String) (level : Value)
    (k : Value → Except TomlFault (Value × α)) : Except TomlFault (Value × α) :=
  match levels with
  | [] => k level
  | part :: rest =>
    if part == "" then placeAt rest level k
    else
      match level with
      | .table entries => do
        let child := ((entries.find? (·.1 == part)).map (·.2)).getD (.table [])
        let (child', a) ← placeAt rest child k
        return (.table (Value.setEntry entries part child'), a)
      | _ => .error (.crash "TypeError" "'list' object does not support item assignment")

mutual
/-- Reads a value; `strict` says the text passed the number check. `fuel` bounds nesting. -/
def loadValue (fuel : Nat) (v : String) (strict : Bool) : Except TomlFault (Value × ValueKind) :=
  match fuel with
  | 0 => .error .malformed
  | fuel + 1 =>
    match v.toList with
    | [] => .error .malformed
    | first :: _ =>
      if v == "true" then .ok (.bool true, "bool")
      else if v == "false" then .ok (.bool false, "bool")
      else if String.ofList (v.toList.map Char.toLower) == "true" ||
          String.ofList (v.toList.map Char.toLower) == "false" then .error .malformed
      else if first == '"' || first == '\'' then loadString v first
      else if first == '[' then do
        let items ← loadArray fuel v
        pure (.list items, "array")
      else if first == '{' then do
        let t ← loadInlineTable fuel v (.table [])
        pure (t, "inline_object")
      else
        match timePrefix? v with
        | some (h, m, s, us) =>
          if Moment.validTime h m s us then .ok (.moment (.time h m s us), "time") else .error .malformed
        | none =>
          match loadDate? v with
          | some d => .ok (.moment d, "date")
          | none => loadNumber v strict

/-- Reads an array's items. -/
def loadArray (fuel : Nat) (a : String) : Except TomlFault (List Value) :=
  match fuel with
  | 0 => .error .malformed
  | fuel + 1 => do
    let a := strip a
    let inner := cut a 1 1
    let flat := !inner.contains '[' || strip ((splitAll inner "[").head?.getD "") != ""
    let parts ← if flat then do
        let pieces := if !(strip inner).startsWith "\x7b" then splitAll inner "," else inlineGroups a
        if isStringArray a then rejoinStrings pieces else pure pieces
      else pure (splitTopLevel inner.toList)
    let mut kind : Option ValueKind := none
    let mut out : List Value := []
    for part in parts do
      let part := strip part
      if part != "" then
        let (value, k) ← loadValue fuel part true
        match kind with
        | some expected => if k != expected then throw .malformed
        | none => kind := some k
        out := out ++ [value]
    return out

/-- Reads an inline table's entries into a table. -/
def loadInlineTable (fuel : Nat) (line : String) (level : Value) : Except TomlFault Value :=
  match fuel with
  | 0 => .error .malformed
  | fuel + 1 => do
    let mut candidates := splitAll (cut line 1 1) ","
    if candidates.length == 1 && strip (candidates.head?.getD "") == "" then candidates := []
    let mut groups : List String := []
    for _ in List.range (candidates.length + 1) do
      match candidates with
      | [] => break
      | group :: rest =>
        candidates := rest
        match splitAtMost group "=" 1 with
        | [_, raw] =>
          let value := strip raw
          match firstChar? value, lastChar? value with
          | some a, some z =>
            let accepted := (a == z && (a == '"' || a == '\'')) || "-0123456789".toList.contains a ||
              value == "true" || value == "false" || (a == '[' && z == ']') || (a == '{' && z == '}')
            if accepted then groups := groups ++ [group]
            else
              match candidates with
              | next :: more => candidates := (group ++ "," ++ next) :: more
              | [] => throw .malformed
          | _, _ => throw stringIndexError
        | _ => throw .malformed
    let mut level := level
    for group in groups do
      let (level', status) ← loadLine fuel level group false
      level := level'
      if status.isSome then break
    return level

/-- Reads a `key = value` line into a table: the table, and the key, text and backslash state of
a multi-line string the value opens. -/
def loadLine (fuel : Nat) (level : Value) (line : String) (backslashed : Bool) :
    Except TomlFault (Value × Option (String × String × Bool)) :=
  match fuel with
  | 0 => .error .malformed
  | fuel + 1 => do
    let (keyText, valueText, strict) ← splitKeyValue line
    let (levels, key) ← keyPath keyText
    placeAt levels level fun here => do
      let start ← multilineStart valueText
      let (value?, pending) ← match start with
        | some (k, offset) =>
          let cs := valueText.toList
          let run := min ((cs.take (k + offset + 1)).reverse.takeWhile (· == '\\')).length (k + 1)
          let odd := if run % 2 == 1 then !backslashed else backslashed
          pure (none, some (key, if odd then cut valueText 0 1 else valueText ++ "\n", odd))
        | none => do
          let (value, _) ← loadValue fuel valueText strict
          pure (some value, none)
      match here with
      | .table entries =>
        if entries.any (·.1 == key) then throw .malformed
        match pending, value? with
        | some p, _ =>
          if p.1.isEmpty then throw (.crash "UnboundLocalError"
            "cannot access local variable 'value' where it is not associated with a value")
          return (here, some p)
        | none, some value => return (.table (entries ++ [(key, value)]), none)
        | none, none => throw .malformed
      | _ => throw .malformed
end

end ProjectIndex.Toml
