/-!
Blank characters: the characters with the White_Space property of the Unicode character database,
together with the four information separators U+001C to U+001F.

These are the characters that separate words when text is split into words or trimmed.

Owns: `isBlank`, `trimBlanks`, `splitBlanks`.
-/

namespace ProjectIndex.Text

/-- `c` is a blank: tab to carriage return, the information separators, space, next line,
no-break space, and the Unicode spaces and line and paragraph separators. -/
def isBlank (c : Char) : Bool :=
  let n := c.toNat
  (9 ≤ n && n ≤ 13) || (28 ≤ n && n ≤ 32) || n == 0x85 || n == 0xA0 || n == 0x1680 ||
    (0x2000 ≤ n && n ≤ 0x200A) || n == 0x2028 || n == 0x2029 || n == 0x202F ||
    n == 0x205F || n == 0x3000

/-- The text without blanks at either end. -/
def trimBlanks (s : String) : String :=
  String.ofList ((s.toList.dropWhile isBlank).reverse.dropWhile isBlank).reverse

/-- Split characters into the maximal runs of characters that `sep` does not hold. -/
def splitRuns (sep : Char → Bool) : List Char → List (List Char)
  | [] => []
  | c :: rest =>
    if sep c then splitRuns sep rest
    else
      match splitRuns sep rest with
      | [] => [[c]]
      | run :: runs =>
        match rest with
        | d :: _ => if sep d then [c] :: run :: runs else (c :: run) :: runs
        | [] => [[c]]

/-- The words of a text: its maximal runs of non-blank characters. -/
def splitBlanks (s : String) : List String :=
  (splitRuns isBlank s.toList).map String.ofList

end ProjectIndex.Text
