import ProjectIndex.Number.FloatText
import ProjectIndex.Text.Printable
import ProjectIndex.Text.Surrogate
import ProjectIndex.Data.Moment

/-!
Values of configuration documents and of reports.

A configuration file, in either of its two formats, reads into a `Value`: null, a boolean, an
integer, a double, a string, a list, or a table of named values in the order the document gives
them. Reports are built as values too, and written out by the document writers.

Configuration problems quote the values they complain about. The quoting is fixed here once:
strings in single quotes (double quotes when the text holds a single quote and no double quote),
with backslash escapes for the quote, the backslash, tab, newline, carriage return and every
non-printable character; `None`, `True` and `False`; lists in brackets and tables in braces, items
separated by `", "`.

Owns: `Value`, its accessors, `Value.kindName`, `quoteText`, `Value.literal`, `Value.display`,
`Value.truthy`.
-/

namespace ProjectIndex.Data

open ProjectIndex.Number

/-- A value of a configuration document or a report. -/
inductive Value where
  | null
  | bool (b : Bool)
  | int (n : Int)
  | float (x : Float)
  | str (s : String)
  | moment (m : Moment)
  | list (items : List Value)
  | table (entries : List (String × Value))
deriving Inhabited

namespace Value

/-- The value under `key` in a table; `none` for a missing key or a value that is no table. -/
def get? (v : Value) (key : String) : Option Value :=
  match v with
  | .table entries => (entries.find? (fun entry => entry.1 == key)).map Prod.snd
  | _ => none

/-- The entries of a table, and nothing for any other value. -/
def entries : Value → List (String × Value)
  | .table entries => entries
  | _ => []

/-- The name of the value's kind, as configuration problems name it. -/
def kindName : Value → String
  | .null => "NoneType"
  | .bool _ => "bool"
  | .int _ => "int"
  | .float _ => "float"
  | .str _ => "str"
  | .moment m => m.kindName
  | .list _ => "list"
  | .table _ => "dict"

/-- A table with `key` set to `value`: replaced in place when present, appended otherwise. -/
def setEntry (entries : List (String × Value)) (key : String) (value : Value) :
    List (String × Value) :=
  if entries.any (fun entry => entry.1 == key) then
    entries.map fun entry => if entry.1 == key then (key, value) else entry
  else
    entries ++ [(key, value)]

end Value

/-- Lower-case hexadecimal digits of `n`, padded with zeros to `width`. -/
def hexPadded (n : Nat) (width : Nat) : String :=
  let ds := Nat.toDigits 16 n
  String.ofList (List.replicate (width - ds.length) '0' ++ ds)

/-- The escaped form of one character inside quotes delimited by `quote`. -/
def escapeInQuotes (quote : Char) (c : Char) : String :=
  if c == quote || c == '\\' then String.ofList ['\\', c]
  else if c == '\t' then "\\t"
  else if c == '\n' then "\\n"
  else if c == '\r' then "\\r"
  else if c.toNat < 0x20 || c.toNat == 0x7F then "\\x" ++ hexPadded c.toNat 2
  else if c.toNat < 0x7F then c.toString
  else if ProjectIndex.Text.isPrintable c then c.toString
  else
    let n := ProjectIndex.Text.codePoint c
    if n ≤ 0xFF then "\\x" ++ hexPadded n 2
    else if n ≤ 0xFFFF then "\\u" ++ hexPadded n 4
    else "\\U" ++ hexPadded n 8

/-- A string in quotes, as configuration problems show it: single quotes unless the text holds a
single quote and no double quote. -/
def quoteText (s : String) : String :=
  let quote := if s.contains '\'' && !s.contains '"' then '"' else '\''
  quote.toString ++ String.join (s.toList.map (escapeInQuotes quote)) ++ quote.toString

namespace Value

mutual
/-- The literal text of a value, as configuration problems quote it. -/
def literal : Value → String
  | .null => "None"
  | .bool b => if b then "True" else "False"
  | .int n => toString n
  | .float x => floatText x
  | .str s => quoteText s
  | .moment m => m.literal
  | .list items => "[" ++ literalItems items ++ "]"
  | .table entries => "\x7b" ++ literalEntries entries ++ "\x7d"

/-- Literals of list items, separated by `", "`. -/
def literalItems : List Value → String
  | [] => ""
  | [item] => item.literal
  | item :: rest => item.literal ++ ", " ++ literalItems rest

/-- Literals of table entries as `key: value`, separated by `", "`. -/
def literalEntries : List (String × Value) → String
  | [] => ""
  | [(key, value)] => quoteText key ++ ": " ++ value.literal
  | (key, value) :: rest => quoteText key ++ ": " ++ value.literal ++ ", " ++ literalEntries rest
end

/-- The text of a value where text is expected: a string is itself, anything else its literal. -/
def display : Value → String
  | .str s => s
  | .moment m => m.text
  | v => v.literal

/-- Whether a value counts as set: false for null, false, zero, and empty text, lists and tables. -/
def truthy : Value → Bool
  | .null => false
  | .bool b => b
  | .int n => n != 0
  | .float x => x != 0
  | .str s => !s.isEmpty
  | .moment _ => true
  | .list items => !items.isEmpty
  | .table entries => !entries.isEmpty

end Value

end ProjectIndex.Data
