/-!
Lone surrogates in text.

Text read from JSON may hold a lone surrogate: a code point from U+D800 to U+DFFF that an escape
such as `\ud800` names without its partner. Such text is still a sequence of code points, and it
is carried through unchanged: written back as the same escape, quoted as the same escape, and
refused only where it is turned into UTF-8 bytes, which cannot hold a surrogate.

A character here is a Unicode scalar value, which no surrogate is, so the 2048 surrogates are kept
in the last 2048 code points, U+10F800 to U+10FFFF, at the end of the supplementary private use
area B, in the same order. Reading and writing map between the two. Everything in between treats
such a character as a surrogate is treated: it is no letter, digit or blank, it is not printable,
and case mapping leaves it alone.

Every character is some scalar value, so no placement of the surrogates avoids the real
characters: one of U+10F800 to U+10FFFF that a text holds itself is read as the surrogate it keeps.
`utf8Fault?`, and the check of environment names built on it, refuse such a text, although UTF-8
can hold those characters; a text without them is read exactly.

Owns: `surrogateChar`, `surrogateCode?`, `codePoint`, `utf8Fault?`.
-/

namespace ProjectIndex.Text

/-- The first surrogate code point. -/
def surrogateFirst : Nat := 0xD800

/-- The code point that keeps the first surrogate; the others follow it in order. -/
def keptSurrogateFirst : Nat := 0x10F800

/-- The code point is a surrogate. -/
def isSurrogateCode (n : Nat) : Bool := surrogateFirst ≤ n && n < surrogateFirst + 0x800

/-- The character that keeps the surrogate with code point `code`, for `code` from U+D800 to
U+DFFF. -/
def surrogateChar (code : Nat) : Char := Char.ofNat (keptSurrogateFirst + (code - surrogateFirst))

/-- The character keeps a lone surrogate. -/
def isSurrogate (c : Char) : Bool := keptSurrogateFirst ≤ c.toNat

/-- The surrogate a character keeps, if it keeps one. -/
def surrogateCode? (c : Char) : Option Nat :=
  if isSurrogate c then some (c.toNat - keptSurrogateFirst + surrogateFirst) else none

/-- The code point a character stands for: its own, or the surrogate it keeps. -/
def codePoint (c : Char) : Nat := (surrogateCode? c).getD c.toNat

/-- Four lower-case hexadecimal digits of a number below 65536. -/
def hexFour (n : Nat) : String :=
  let ds := Nat.toDigits 16 n
  String.ofList (List.replicate (4 - ds.length) '0' ++ ds)

/-- Why the text cannot be written as UTF-8, in the words of the encoder: the first run of lone
surrogates, by the position of its first character (counted in characters from zero), and by
its last position when the run is longer than one. `none` when the text has no surrogate. -/
def utf8Fault? (s : String) : Option String :=
  let cs := s.toList
  match cs.findIdx? isSurrogate with
  | none => none
  | some start =>
    let run := (cs.drop start).takeWhile isSurrogate
    match run with
    | [c] =>
      some ("'utf-8' codec can't encode character '\\u" ++ hexFour (codePoint c) ++
        "' in position " ++ toString start ++ ": surrogates not allowed")
    | _ =>
      some ("'utf-8' codec can't encode characters in position " ++ toString start ++ "-" ++
        toString (start + run.length - 1) ++ ": surrogates not allowed")

end ProjectIndex.Text
