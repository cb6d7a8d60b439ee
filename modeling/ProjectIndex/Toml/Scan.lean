import ProjectIndex.Toml.Text

/-!
The character pass of the TOML reader.

Before any line is read, one pass over the characters follows which strings, key names, table
headers and arrays are open, and rewrites the text for the line pass:

* comments (from `#` outside strings and headers to the end of the line) become blanks;
* a line break inside an open array becomes a blank, so an array is read as one line;
* a line break right after two quotes inside a multi-line string becomes a quote (and a quote
  three places back becomes a blank), so that the closing quotes end a line;
* `\r` before `\n` becomes a blank.

It refuses a key name that runs into the end of its line or of the text, a key name with a
character other than letters, digits, `_`, `-`, dots and blanks (quoted parts after a dot
excepted), a line that starts with `=`, a line break inside a single-line string, and a string
still open at the end.

Quotes are matched as written: a quote preceded by an odd run of backslashes does not close a
double-quoted string, and three quotes in a row open or close a multi-line string. Looking back
before the first character wraps around to the end of the text, as negative indexing does.

Owns: `ScanState`, `scanText`.
-/

namespace ProjectIndex.Toml

/-- The character at a position that may count from the end when negative. -/
def charAt? (sl : Array Char) (j : Int) : Option Char :=
  let n : Int := sl.size
  let k := if j < 0 then j + n else j
  if 0 ≤ k && k < n then sl[k.toNat]? else none

/-- Whether the character at a position is `c`; an index error when there is none. -/
def charIs (sl : Array Char) (j : Int) (c : Char) : Except TomlFault Bool :=
  match charAt? sl j with
  | some d => .ok (d == c)
  | none => .error listIndexError

/-- Replaces the character at a position that may count from the end. -/
def setAt (sl : Array Char) (j : Int) (c : Char) : Array Char :=
  let n : Int := sl.size
  let k := if j < 0 then j + n else j
  if 0 ≤ k && k < n then sl.set! k.toNat c else sl

/-- What the character pass knows at a position. -/
structure ScanState where
  sl : Array Char
  openArrays : Int := 0
  openString : Bool := false
  stringQuote : Option Char := none
  multiline : Bool := false
  tableArray : Bool := false
  beginLine : Bool := true
  header : Bool := false
  dottedKey : Bool := false
  /-- `0` outside a key name, `1` inside one, `2` after a blank or closing quote in one. -/
  keyName : Nat := 0

/-- Looks back from position `i` over a run of `c`, with wrap-around: the distance reached, which
is `cap` when the run is that long, and whether the look-back left the text. -/
def runBefore (sl : Array Char) (i : Nat) (c : Char) (cap : Nat) : Nat × Bool :=
  go 1 (cap + 1)
where
  /-- `k` is the distance looked back. -/
  go (k : Nat) : Nat → Nat × Bool
    | 0 => (k, false)
    | fuel + 1 =>
      match charAt? sl ((i : Int) - k) with
      | none => (k, true)
      | some d =>
        if d != c then (k, false)
        else if k + 1 == cap then (cap, false)
        else go (k + 1) fuel

/-- The number of backslashes before position `i - k`, going back, with wrap-around; stops at an
index error. -/
def backslashesFrom (sl : Array Char) (i k : Nat) : Nat :=
  go k (sl.size + i + 1) 0
where
  /-- Counts backslashes from distance `k` on. -/
  go (k : Nat) : Nat → Nat → Nat
    | 0, count => count
    | fuel + 1, count =>
      match charAt? sl ((i : Int) - k) with
      | some '\\' => go (k + 1) fuel (count + 1)
      | _ => count

/-- The backslashes directly before position `i`, without wrap-around. -/
def backslashesBefore (sl : Array Char) (i : Nat) : Nat :=
  go 1 i 0
where
  /-- Counts while `k ≤ i`. -/
  go (k : Nat) : Nat → Nat → Nat
    | 0, count => count
    | fuel + 1, count =>
      if k ≤ i && sl[i - k]? == some '\\' then go (k + 1) fuel (count + 1) else count

/-- The outcome of one step: go on, or stop the pass early. -/
inductive ScanStep where
  | next (st : ScanState)
  | stop (st : ScanState)

/-- The key-name part of a step, for a character inside a key name: the new state and whether the
rest of the step is skipped. -/
def keyNameStep (st : ScanState) (i : Nat) (item : Char) : Except TomlFault (ScanState × Bool) := do
  if item == '\n' then throw .malformed
  if st.openString && some item == st.stringQuote then
    if backslashesBefore st.sl i % 2 == 1 then return (st, true)
    return ({ st with keyName := 2, openString := false, stringQuote := none }, true)
  if st.keyName == 1 then
    if Text.isBlank item then return ({ st with keyName := 2 }, true)
    if item == '.' then return ({ st with dottedKey := true }, true)
    if isKeyChar item then return (st, true)
    if st.dottedKey && (← charIs st.sl ((i : Int) - 1) '.') && (item == '"' || item == '\'') then
      return ({ st with openString := true, stringQuote := some item }, true)
  else if st.keyName == 2 then
    if Text.isBlank item then
      if st.dottedKey then
        match charAt? st.sl ((i : Int) + 1) with
        | none => throw listIndexError
        | some nextItem =>
          if !Text.isBlank nextItem && nextItem != '.' then return ({ st with keyName := 1 }, true)
      return (st, true)
    if item == '.' then
      let st := { st with dottedKey := true }
      match charAt? st.sl ((i : Int) + 1) with
      | none => throw listIndexError
      | some nextItem =>
        if !Text.isBlank nextItem && nextItem != '.' then return ({ st with keyName := 1 }, true)
        return (st, true)
  if item == '=' then return ({ st with keyName := 0, dottedKey := false }, false)
  throw .malformed

/-- One step of the character pass at position `i`. -/
def scanStep (st0 : ScanState) (i : Nat) : Except TomlFault ScanStep := do
  let item := st0.sl[i]?.getD ' '
  if item == '\r' then
    match charAt? st0.sl ((i : Int) + 1) with
    | none => throw listIndexError
    | some '\n' => return .next { st0 with sl := setAt st0.sl i ' ' }
    | some _ => pure ()
  let mut st := st0
  if st.keyName != 0 then
    let (st', skip) ← keyNameStep st i item
    st := st'
    if skip then return .next st
  -- single quotes
  if item == '\'' && st.stringQuote != some '"' then
    let (k, _) := runBefore st.sl i '\'' 3
    if k == 3 then
      st := { st with multiline := !st.multiline }
      st := { st with openString := st.multiline }
    else st := { st with openString := !st.openString }
    st := { st with stringQuote := if st.openString then some '\'' else none }
  -- double quotes
  if item == '"' && st.stringQuote != some '\'' then
    let (k, stopped) := runBefore st.sl i '"' 3
    let triple := k == 3 && !stopped
    let odd :=
      if stopped then false
      else if k == 1 || triple then backslashesFrom st.sl i k % 2 == 1 else false
    if !odd then
      if triple then
        st := { st with multiline := !st.multiline }
        st := { st with openString := st.multiline }
      else st := { st with openString := !st.openString }
    st := { st with stringQuote := if st.openString then some '"' else none }
  -- comments
  if item == '#' && !st.openString && !st.header && !st.tableArray then
    let mut sl := st.sl
    let mut j := i
    let mut reachedEnd := true
    for _ in List.range (sl.size - i + 1) do
      match sl[j]? with
      | none => break
      | some '\n' =>
        reachedEnd := false
        break
      | some _ =>
        sl := sl.set! j ' '
        j := j + 1
    st := { st with sl := sl }
    if reachedEnd then return .stop st
  -- brackets
  if item == '[' && !st.openString && !st.header && !st.tableArray then
    if st.beginLine then
      if st.sl.size > i + 1 && st.sl[i + 1]? == some '[' then st := { st with tableArray := true }
      else st := { st with header := true }
    else st := { st with openArrays := st.openArrays + 1 }
  if item == ']' && !st.openString then
    if st.header then st := { st with header := false }
    else if st.tableArray then
      if (← charIs st.sl ((i : Int) - 1) ']') then st := { st with tableArray := false }
    else st := { st with openArrays := st.openArrays - 1 }
  -- line breaks and line starts
  if item == '\n' then
    if st.openString || st.multiline then
      if !st.multiline then throw .malformed
      let prev := charAt? st.sl ((i : Int) - 1)
      let prev2 := charAt? st.sl ((i : Int) - 2)
      if (prev == some '\'' || prev == some '"') && prev2 == prev then
        st := { st with sl := setAt st.sl i (prev.getD ' ') }
        if charAt? st.sl ((i : Int) - 3) == prev then
          st := { st with sl := setAt st.sl ((i : Int) - 3) ' ' }
    else if st.openArrays != 0 then st := { st with sl := setAt st.sl i ' ' }
    else st := { st with beginLine := true }
  else
    let here := st.sl[i]?.getD ' '
    if st.beginLine && here != ' ' && here != '\t' then
      st := { st with beginLine := false }
      if !st.header && !st.tableArray then
        if here == '=' then throw .malformed
        st := { st with keyName := 1 }
  return .next st

/-- Runs the character pass from position `i` on. -/
def scanFrom (st : ScanState) (i : Nat) : Nat → Except TomlFault ScanState
  | 0 => .ok st
  | fuel + 1 =>
    if i ≥ st.sl.size then .ok st
    else do
      match ← scanStep st i with
      | .next st' => scanFrom st' (i + 1) fuel
      | .stop st' => .ok st'

/-- The character pass: the rewritten text, or why the text is refused. -/
def scanText (text : String) : Except TomlFault String := do
  let sl := text.toList.toArray
  let st ← scanFrom { sl := sl } 0 (sl.size + 1)
  if st.keyName != 0 then throw .malformed
  if st.openString then throw .malformed
  pure (String.ofList st.sl.toList)

end ProjectIndex.Toml
