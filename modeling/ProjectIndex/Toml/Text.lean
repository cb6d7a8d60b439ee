import ProjectIndex.Text.Blank
import ProjectIndex.Text.WordChar

/-!
Text operations the TOML reader and writer are defined with: splitting at every occurrence of a
separator (at most a given number of times), replacing every occurrence left to right, stripping
blanks, and the character classes of key names.

All work on character lists, so that positions count characters.

Owns: `TomlFault`, `LoadsFailure`, `numeralCore`, `splitAll`, `splitAtMost`, `replaceAll`, `strip`, `isKeyChar`.
-/

namespace ProjectIndex.Toml

/-- Why a document could not be read or written. -/
inductive TomlFault where
  /-- The text is not a document the reader accepts. -/
  | malformed
  /-- The reader or writer stops on an internal error of this kind, with this message. -/
  | crash (kind message : String)
deriving DecidableEq, Repr, Inhabited

/-- How `toml.loads` fails, as its callers see it: with the package's own decode error and its
text, or with any other exception, of this kind and with this message. -/
inductive LoadsFailure where
  | decode (message : String)
  | raised (kind message : String)
deriving DecidableEq, Repr

/-- An index error on a list. -/
def listIndexError : TomlFault := .crash "IndexError" "list index out of range"

/-- An index error on a string. -/
def stringIndexError : TomlFault := .crash "IndexError" "string index out of range"

/-- The text a number reader sees. ASCII characters stay as they are, other blanks become
spaces, and a decimal digit of any script becomes the ASCII digit of the same value; any other
character becomes `?`, which no number holds. -/
def numeralText (s : String) : String :=
  s.map fun c =>
    if c.toNat < 127 then c
    else if Text.isBlank c then ' '
    else match Text.decimalDigitValue? c with
      | some d => Char.ofNat ('0'.toNat + d)
      | none => '?'

/-- An ASCII blank: tab to carriage return, or space. -/
def isAsciiBlank (c : Char) : Bool := c == ' ' || ('\t' ≤ c && c ≤ '\r')

/-- The text as a number reader takes it: in ASCII, without ASCII blanks at either end. -/
def numeralCore (s : String) : List Char :=
  (((numeralText s).toList.dropWhile isAsciiBlank).reverse.dropWhile isAsciiBlank).reverse

/-- `sep` starts the characters. -/
def startsWithChars (cs sep : List Char) : Bool := cs.take sep.length == sep

/-- The pieces between occurrences of a non-empty separator, scanned left to right, with at
most `limit` cuts. -/
def splitChars (sep : List Char) (limit : Nat) (cs : List Char) : List (List Char) :=
  go cs [] limit cs.length
where
  /-- `current` is the reversed piece so far; `fuel` bounds the characters left. -/
  go (rest current : List Char) (cuts : Nat) : Nat → List (List Char)
    | 0 => [current.reverse ++ rest]
    | fuel + 1 =>
      match rest with
      | [] => [current.reverse]
      | c :: tail =>
        if cuts > 0 && !sep.isEmpty && startsWithChars rest sep then
          current.reverse :: go (rest.drop sep.length) [] (cuts - 1) fuel
        else go tail (c :: current) cuts fuel

/-- Splits at every occurrence of `sep`. -/
def splitAll (s sep : String) : List String :=
  (splitChars sep.toList s.length s.toList).map String.ofList

/-- Splits at the first `limit` occurrences of `sep`. -/
def splitAtMost (s sep : String) (limit : Nat) : List String :=
  (splitChars sep.toList limit s.toList).map String.ofList

/-- Replaces every occurrence of `old`, left to right and without overlap, by `new`. -/
def replaceAll (s old new : String) : String :=
  new.intercalate (splitAll s old)

/-- The text without blanks at either end. -/
def strip (s : String) : String := Text.trimBlanks s

/-- The characters of a bare key name: letters and digits of any script, `_` and `-`. -/
def isKeyChar (c : Char) : Bool := Text.isWordChar c || c == '-'

/-- The number of occurrences of `sep` in `s`. -/
def countOf (s sep : String) : Nat := (splitAll s sep).length - 1

/-- The character at a position counted from the end (`1` is the last), if any. -/
def fromEnd? (cs : List Char) (k : Nat) : Option Char :=
  if k == 0 || k > cs.length then none else cs[cs.length - k]?

end ProjectIndex.Toml
