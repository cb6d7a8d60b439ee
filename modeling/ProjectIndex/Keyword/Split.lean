import ProjectIndex.Text.Blank
import ProjectIndex.Text.Case
import ProjectIndex.Text.WordChar
import ProjectIndex.Text.Span
import ProjectIndex.Path.Posix

/-!
Splitting identifiers and paths into lower-case words.

An identifier is first cut at separators: blanks and the characters ``- _ . / \ ( ) [ ] { } @ $ :
, +``. Each remaining piece is read left to right into case tokens:

* a run of ASCII capitals followed by a lower-case ASCII letter gives up its last capital to the
  word that follows (`XMLParser` reads `XML`, `Parser`);
* a capital followed by lower-case ASCII letters, or lower-case letters alone, form a word;
* a run of ASCII capitals not followed by a lower-case letter is a word;
* a run of decimal digits, of any script, is a word;
* a run of word characters that are neither ASCII letters nor digits (letters of other scripts)
  is a word;
* any other character is skipped.

Every word is then lower-cased with the full Unicode mapping. A path contributes the words of its
directory segments and of its file name without extension.

Owns: `splitIdentifier`, `pathWords`.
-/

namespace ProjectIndex.Keyword

open ProjectIndex.Text

/-- Characters that cut an identifier into pieces. -/
def isSeparator (c : Char) : Bool :=
  isBlank c || "-_./\\()[]\x7b\x7d@$:,+".toList.contains c

/-- An ASCII capital letter. -/
def isAsciiUpper (c : Char) : Bool := 'A' ≤ c && c ≤ 'Z'

/-- An ASCII lower-case letter. -/
def isAsciiLower (c : Char) : Bool := 'a' ≤ c && c ≤ 'z'

/-- A word character that is neither an ASCII letter, a decimal digit nor the underscore. -/
def isOtherLetter (c : Char) : Bool :=
  isWordChar c && !isDecimalDigit c && c != '_' && !isAsciiUpper c && !isAsciiLower c

/-- The case tokens of a piece, in order, before lower-casing. -/
def caseTokens (cs : List Char) : List (List Char) :=
  match cs with
  | [] => []
  | c :: rest =>
    if isAsciiUpper c then
      let capitals := rest.takeWhile isAsciiUpper
      let after := rest.dropWhile isAsciiUpper
      match after with
      | d :: _ =>
        if isAsciiLower d then
          match capitals with
          | [] =>
            -- one capital and its lower-case letters
            (c :: rest.takeWhile isAsciiLower) :: caseTokens (rest.dropWhile isAsciiLower)
          | _ :: _ =>
            -- the last capital starts the next word
            (c :: capitals.dropLast) :: caseTokens (rest.drop (capitals.length - 1))
        else (c :: capitals) :: caseTokens after
      | [] => (c :: capitals) :: caseTokens after
    else if isAsciiLower c then
      (c :: rest.takeWhile isAsciiLower) :: caseTokens (rest.dropWhile isAsciiLower)
    else if isDecimalDigit c then
      (c :: rest.takeWhile isDecimalDigit) :: caseTokens (rest.dropWhile isDecimalDigit)
    else if isOtherLetter c then
      (c :: rest.takeWhile isOtherLetter) :: caseTokens (rest.dropWhile isOtherLetter)
    else caseTokens rest
termination_by cs.length
decreasing_by all_goals grind [length_dropWhile_le, List.length_drop]

/-- The lower-case words of an identifier. -/
def splitIdentifier (identifier : String) : List String :=
  (splitRuns isSeparator identifier.toList).flatMap fun piece =>
    (caseTokens piece).map fun token => lower (String.ofList token)

/-- The words of a path: those of its directory segments, then those of its file name without
extension. A backslash counts as a slash. -/
def pathWords (path : String) : List String :=
  let p := Path.SegmentedPath.ofString (path.replace "\\" "/")
  let parts := p.parent.parts ++ [p.stem]
  (parts.filter fun part => part != "." && part != "/").flatMap splitIdentifier

end ProjectIndex.Keyword
