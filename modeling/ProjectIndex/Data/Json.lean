import ProjectIndex.Data.Value

/-!
JSON documents: reading text into a `Value` and writing a `Value` as text.

Reading accepts one value surrounded by blanks (space, tab, newline, carriage return). Numbers
without a fraction or an exponent are integers of any size; the others are doubles, rounded to
nearest. `NaN`, `Infinity` and `-Infinity` are read as the special doubles. A key given twice keeps
its first position and its last value. A string escape pair of surrogates stands for one
character; a lone surrogate is kept as `Text.surrogateChar` keeps it.

Writing puts `", "` between items and `": "` after keys, escapes every character outside ASCII as
`\uXXXX` (two of them, a surrogate pair, above U+FFFF; a kept lone surrogate as its own escape)
and writes doubles with `floatText`.

Owns: `JsonError`, `readJson`, `Value.toJson`.
-/

namespace ProjectIndex.Data

open ProjectIndex.Number

/-- Why a text is no JSON document, and at which character. -/
structure JsonError where
  what : String
  offset : Nat
deriving Inhabited

/-- A reading position: the characters not yet read, and how many were read before them. -/
structure Cursor where
  rest : List Char
  offset : Nat

namespace Cursor

/-- The cursor after `n` more characters. -/
def advance (c : Cursor) (n : Nat) : Cursor :=
  ⟨c.rest.drop n, c.offset + n⟩

/-- The cursor after the blanks at its position. -/
def skipBlanks (c : Cursor) : Cursor :=
  let blanks := c.rest.takeWhile (fun ch => ch == ' ' || ch == '\t' || ch == '\n' || ch == '\r')
  c.advance blanks.length

end Cursor

/-- Value of a hexadecimal digit. -/
def hexValue? (c : Char) : Option Nat :=
  if '0' ≤ c && c ≤ '9' then some (c.toNat - '0'.toNat)
  else if 'a' ≤ c && c ≤ 'f' then some (c.toNat - 'a'.toNat + 10)
  else if 'A' ≤ c && c ≤ 'F' then some (c.toNat - 'A'.toNat + 10)
  else none

/-- The number written by four hexadecimal digits. -/
def hex4? : List Char → Option Nat
  | [a, b, c, d] => do
    let va ← hexValue? a
    let vb ← hexValue? b
    let vc ← hexValue? c
    let vd ← hexValue? d
    pure (((va * 16 + vb) * 16 + vc) * 16 + vd)
  | _ => none

/-- The character of a code point; a surrogate is kept as `Text.surrogateChar` keeps it. -/
def charOfCode (n : Nat) : Char :=
  if Text.isSurrogateCode n then Text.surrogateChar n else Char.ofNat n

/-- Read the body of a string after its opening quote, up to and including the closing quote.
The accumulator holds the characters read so far, last first; every step reads at least one
character, so `fuel` above the number of characters left suffices. -/
def readStringBody (start : Nat) : Nat → List Char → Cursor → Except JsonError (String × Cursor)
  | 0, _, c => .error ⟨"Unterminated string starting at", c.offset⟩
  | _ + 1, _, ⟨[], _⟩ => .error ⟨"Unterminated string starting at", start⟩
  | fuel + 1, acc, ⟨c :: rest, offset⟩ =>
    if c == '"' then .ok (String.ofList acc.reverse, ⟨rest, offset + 1⟩)
    else if c == '\\' then
      match rest with
      | [] => .error ⟨"Unterminated string starting at", start⟩
      | e :: rest' =>
        let simple : Option Char :=
          match e with
          | '"' => some '"' | '\\' => some '\\' | '/' => some '/'
          | 'b' => some (Char.ofNat 8) | 'f' => some (Char.ofNat 12)
          | 'n' => some '\n' | 'r' => some '\r' | 't' => some '\t'
          | _ => none
        match simple with
        | some ch => readStringBody start fuel (ch :: acc) ⟨rest', offset + 2⟩
        | none =>
          if e == 'u' then
            match hex4? (rest'.take 4) with
            | none => .error ⟨"Invalid \\uXXXX escape", offset + 1⟩
            | some code =>
              let after := rest'.drop 4
              if 0xD800 ≤ code && code < 0xDC00 then
                match after with
                | '\\' :: 'u' :: more =>
                  match hex4? (more.take 4) with
                  | some low =>
                    if 0xDC00 ≤ low && low < 0xE000 then
                      let combined := 0x10000 + (code - 0xD800) * 0x400 + (low - 0xDC00)
                      readStringBody start fuel (Char.ofNat combined :: acc) ⟨more.drop 4, offset + 12⟩
                    else readStringBody start fuel (charOfCode code :: acc) ⟨after, offset + 6⟩
                  | none => readStringBody start fuel (charOfCode code :: acc) ⟨after, offset + 6⟩
                | _ => readStringBody start fuel (charOfCode code :: acc) ⟨after, offset + 6⟩
              else readStringBody start fuel (charOfCode code :: acc) ⟨after, offset + 6⟩
          else .error ⟨"Invalid \\escape", offset⟩
    else if c.toNat < 0x20 then .error ⟨"Invalid control character at", offset⟩
    else readStringBody start fuel (c :: acc) ⟨rest, offset + 1⟩

/-- The natural number written by decimal digits. -/
def digitsValue (ds : List Char) : Nat :=
  ds.foldl (fun acc d => acc * 10 + (d.toNat - '0'.toNat)) 0

/-- The double `mantissa × 10^exponent`, rounded to nearest. -/
def scientificFloat (mantissa : Nat) (exponent : Int) : Float :=
  if exponent ≥ 0 then Float.ofScientific mantissa false exponent.toNat
  else Float.ofScientific mantissa true (-exponent).toNat

/-- Read a number: an optional minus, an integer part without leading zeros, an optional fraction
and an optional exponent. `none` when no number starts here. -/
def readNumber (c : Cursor) : Option (Value × Cursor) :=
  let (negative, afterSign) :=
    match c.rest with
    | '-' :: rest => (true, rest)
    | rest => (false, rest)
  let intDigits :=
    match afterSign with
    | '0' :: _ => ['0']
    | _ => afterSign.takeWhile Char.isDigit
  if intDigits.isEmpty then none
  else
    let afterInt := afterSign.drop intDigits.length
    let fracDigits :=
      match afterInt with
      | '.' :: rest => rest.takeWhile Char.isDigit
      | _ => []
    let afterFrac := if fracDigits.isEmpty then afterInt else afterInt.drop (fracDigits.length + 1)
    let (expSign, expDigits) :=
      match afterFrac with
      | e :: rest =>
        if e == 'e' || e == 'E' then
          match rest with
          | '+' :: more => (1, more.takeWhile Char.isDigit)
          | '-' :: more => (-1, more.takeWhile Char.isDigit)
          | more => (0, more.takeWhile Char.isDigit)
        else (0, [])
      | [] => (0, [])
    let expLength :=
      if expDigits.isEmpty then 0 else 1 + (if expSign == 0 then 0 else 1) + expDigits.length
    let used := (if negative then 1 else 0) + intDigits.length +
      (if fracDigits.isEmpty then 0 else fracDigits.length + 1) + expLength
    let next := c.advance used
    if fracDigits.isEmpty && expDigits.isEmpty then
      let n : Int := digitsValue intDigits
      some (.int (if negative then -n else n), next)
    else
      let mantissa := digitsValue (intDigits ++ fracDigits)
      let exp10 : Int := (if expSign == -1 then -(digitsValue expDigits : Int)
        else (digitsValue expDigits : Int)) - fracDigits.length
      let x := scientificFloat mantissa exp10
      some (.float (if negative then -x else x), next)

mutual
/-- Read one value at the cursor, after blanks. `fuel` bounds the nesting and item count. -/
def readValue : Nat → Cursor → Except JsonError (Value × Cursor)
  | 0, c => .error ⟨"Expecting value", c.offset⟩
  | fuel + 1, c0 =>
    let c := c0.skipBlanks
    match c.rest with
    | '{' :: _ => readEntries fuel [] true (c.advance 1)
    | '[' :: _ => readItems fuel [] true (c.advance 1)
    | '"' :: rest =>
      (readStringBody c.offset (rest.length + 1) [] ⟨rest, c.offset + 1⟩).map fun (s, next) => (.str s, next)
    | 'n' :: 'u' :: 'l' :: 'l' :: _ => .ok (.null, c.advance 4)
    | 't' :: 'r' :: 'u' :: 'e' :: _ => .ok (.bool true, c.advance 4)
    | 'f' :: 'a' :: 'l' :: 's' :: 'e' :: _ => .ok (.bool false, c.advance 5)
    | 'N' :: 'a' :: 'N' :: _ => .ok (.float (0.0 / 0.0), c.advance 3)
    | 'I' :: 'n' :: 'f' :: 'i' :: 'n' :: 'i' :: 't' :: 'y' :: _ => .ok (.float (1.0 / 0.0), c.advance 8)
    | '-' :: 'I' :: 'n' :: 'f' :: 'i' :: 'n' :: 'i' :: 't' :: 'y' :: _ =>
      .ok (.float (-1.0 / 0.0), c.advance 9)
    | _ =>
      match readNumber c with
      | some result => .ok result
      | none => .error ⟨"Expecting value", c.offset⟩

/-- Read the items of a list after its opening bracket; `first` tells that none was read yet. -/
def readItems : Nat → List Value → Bool → Cursor → Except JsonError (Value × Cursor)
  | 0, _, _, c => .error ⟨"Expecting value", c.offset⟩
  | fuel + 1, acc, first, c0 =>
    let c := c0.skipBlanks
    match c.rest with
    | ']' :: _ =>
      if first then .ok (.list acc.reverse, c.advance 1)
      else .error ⟨"Expecting value", c.offset⟩
    | _ => do
      let (item, afterItem) ← readValue fuel c
      let next := afterItem.skipBlanks
      match next.rest with
      | ',' :: _ =>
        -- A closing bracket right after a comma is refused by the next round.
        let afterComma := (next.advance 1).skipBlanks
        match afterComma.rest with
        | ']' :: _ => .error ⟨"Expecting value", afterComma.offset⟩
        | _ => readItems fuel (item :: acc) false afterComma
      | ']' :: _ => .ok (.list (item :: acc).reverse, next.advance 1)
      | _ => .error ⟨"Expecting ',' delimiter", next.offset⟩

/-- Read the entries of a table after its opening brace; `first` tells that none was read yet. -/
def readEntries : Nat → List (String × Value) → Bool → Cursor → Except JsonError (Value × Cursor)
  | 0, _, _, c => .error ⟨"Expecting value", c.offset⟩
  | fuel + 1, acc, first, c0 =>
    let c := c0.skipBlanks
    match c.rest with
    | '}' :: _ =>
      if first then .ok (.table acc, c.advance 1)
      else .error ⟨"Expecting property name enclosed in double quotes", c.offset⟩
    | '"' :: rest => do
      let (key, afterKey) ← readStringBody c.offset (rest.length + 1) [] ⟨rest, c.offset + 1⟩
      let colon := afterKey.skipBlanks
      match colon.rest with
      | ':' :: _ =>
        let (value, afterValue) ← readValue fuel (colon.advance 1)
        let table := Value.setEntry acc key value
        let next := afterValue.skipBlanks
        match next.rest with
        | ',' :: _ =>
          let afterComma := (next.advance 1).skipBlanks
          match afterComma.rest with
          | '"' :: _ => readEntries fuel table false afterComma
          | _ => .error ⟨"Expecting property name enclosed in double quotes", afterComma.offset⟩
        | '}' :: _ => .ok (.table table, next.advance 1)
        | _ => .error ⟨"Expecting ',' delimiter", next.offset⟩
      | _ => .error ⟨"Expecting ':' delimiter", colon.offset⟩
    | _ => .error ⟨"Expecting property name enclosed in double quotes", c.offset⟩
end

/-- Read a whole JSON document. -/
def readJson (text : String) : Except JsonError Value := do
  let chars := text.toList
  let (value, after) ← readValue (chars.length + 1) ⟨chars, 0⟩
  let tail := after.skipBlanks
  if tail.rest.isEmpty then pure value else .error ⟨"Extra data", tail.offset⟩

/-- The message of a reading error, with line and column of its position in `text`. -/
def JsonError.message (err : JsonError) (text : String) : String :=
  let before := text.toList.take err.offset
  let line := (before.filter (· == '\n')).length + 1
  let column := (before.reverse.takeWhile (· != '\n')).length + 1
  err.what ++ ": line " ++ toString line ++ " column " ++ toString column ++
    " (char " ++ toString err.offset ++ ")"

/-- One character of a JSON string, escaped so that the text stays within ASCII. -/
def jsonEscape (c : Char) : String :=
  if c == '"' then "\\\""
  else if c == '\\' then "\\\\"
  else if c == '\n' then "\\n"
  else if c == '\r' then "\\r"
  else if c == '\t' then "\\t"
  else if c.toNat == 8 then "\\b"
  else if c.toNat == 12 then "\\f"
  else if c.toNat < 0x20 then "\\u" ++ hexPadded c.toNat 4
  else if c.toNat < 0x7F then c.toString
  else if Text.codePoint c ≤ 0xFFFF then "\\u" ++ hexPadded (Text.codePoint c) 4
  else
    let v := c.toNat - 0x10000
    "\\u" ++ hexPadded (0xD800 + v / 0x400) 4 ++ "\\u" ++ hexPadded (0xDC00 + v % 0x400) 4

/-- A string as a JSON string literal. -/
def jsonString (s : String) : String :=
  "\"" ++ String.join (s.toList.map jsonEscape) ++ "\""

/-- A double as JSON writes it. -/
def jsonFloat (x : Float) : String :=
  if x.isNaN then "NaN"
  else if x.isInf then (if x > 0 then "Infinity" else "-Infinity")
  else floatText x

namespace Value

mutual
/-- The JSON text of a value. -/
def toJson : Value → String
  | .null => "null"
  | .bool b => if b then "true" else "false"
  | .int n => toString n
  | .float x => jsonFloat x
  | .str s => jsonString s
  | .moment m => jsonString m.text
  | .list items => "[" ++ jsonItems items ++ "]"
  | .table entries => "\x7b" ++ jsonEntries entries ++ "\x7d"

/-- JSON texts of list items, separated by `", "`. -/
def jsonItems : List Value → String
  | [] => ""
  | [item] => item.toJson
  | item :: rest => item.toJson ++ ", " ++ jsonItems rest

/-- JSON texts of table entries, separated by `", "`. -/
def jsonEntries : List (String × Value) → String
  | [] => ""
  | [(key, value)] => jsonString key ++ ": " ++ value.toJson
  | (key, value) :: rest => jsonString key ++ ": " ++ value.toJson ++ ", " ++ jsonEntries rest
end

end Value

end ProjectIndex.Data
