/-!
Tokens of scripts.

Between tokens lie blanks and comments. Blanks are the white-space characters of Unicode, the
no-break and zero-width spaces, and the byte-order mark; comments run from `//` to the end of the
line or from `/*` to the next `*/`. A statement may end without a semicolon where a line break
follows the previous token or a comment with only *statement blanks* before it, a narrower set
that leaves out the no-break and zero-width spaces; a line break inside a block comment does not
count. A token records this, and whether only statement blanks follow the last comment before it.

A word is a run of characters other than controls, blanks, digits at its start, and the
punctuation of the language, and of `\u` escapes; so letters of every script, `$`, `_` and even
pictographs are word characters. A number is the longest numeric literal of the grammar at its
place (hexadecimal, binary and octal integers, decimals with fraction and exponent, big integers
with `n`, single underscores between digits), so `1__0` is the number `1` and then a word.
Strings end at their quote; a line break or an escape `\x` or `\u` without its digits breaks
them off. `#!` reads to the end of its line. Private names (`#name`) and punctuators (longest
first) are the other tokens. A backquote opens a template, whose pieces the parser reads with the scanners
at the end of this module, as it does regular expressions and element text, since which of these
the text holds depends on where the parser stands.

Owns: `Lexeme`, `Token`, `scanToken`, `skipTrivia`, `scanRegex?`, `TemplatePiece`,
`scanTemplatePiece`, `scanMarkupText`, `isDashedNamePart`, `scanMarkupName`.
-/

namespace ProjectIndex.Script

/-- Characters skipped between tokens. -/
def isBlank (c : Char) : Bool :=
  let n := c.toNat
  (9 ≤ n && n ≤ 13) || n == 0x20 || n == 0x85 || n == 0xA0 || n == 0x1680 ||
    (0x2000 ≤ n && n ≤ 0x200B) || n == 0x2028 || n == 0x2029 || n == 0x202F ||
    n == 0x205F || n == 0x2060 || n == 0x3000 || n == 0xFEFF

/-- Characters that end a line for the purpose of ending statements. -/
def isLineBreak (c : Char) : Bool := c == '\n' || c == '\u2028' || c == '\u2029'

/-- The blanks across which a statement may end at a line break, a closing brace or the end of
the source: the white space of the C library's wide-character classes, which leaves out the
no-break spaces (U+00A0, U+2007, U+202F), the zero-width characters, the byte-order mark and
U+0085. -/
def isStatementBlank (c : Char) : Bool :=
  let n := c.toNat
  (9 ≤ n && n ≤ 13) || n == 0x20 || n == 0x1680 || (0x2000 ≤ n && n ≤ 0x2006) ||
    (0x2008 ≤ n && n ≤ 0x200A) || n == 0x2028 || n == 0x2029 || n == 0x205F || n == 0x3000

/-- The punctuation that never belongs to a word. -/
def wordBreakers : List Char := ":;`\"'@#.,|^&<=>+-*/\\%?!~()[]\x7b\x7d".toList

/-- Characters that may continue a word. -/
def isWordPart (c : Char) : Bool :=
  c.toNat ≥ 0x20 && !isBlank c && !wordBreakers.contains c

/-- Characters that may start a word: word characters other than decimal digits. -/
def isWordStart (c : Char) : Bool := isWordPart c && !c.isDigit

/-- What a token is. -/
inductive Lexeme where
  /-- A word: an identifier or a keyword, told apart by the parser. -/
  | word (text : String)
  /-- A private name such as `#count`. -/
  | privateName
  /-- A numeric literal. -/
  | number
  /-- A quoted string. -/
  | string
  /-- The backquote that opens or closes a template. -/
  | backquote
  /-- A punctuator. -/
  | punct (text : String)
  /-- The `#!` line at the very start of a file. -/
  | hashBang
  /-- Text no token starts with, or a string or comment left open. -/
  | unknown
  /-- The end of the source. -/
  | eof
deriving DecidableEq, Repr, Inhabited

/-- A token with its range and what the blanks and comments before it allow. -/
structure Token where
  lexeme : Lexeme
  start : Nat
  stop : Nat
  /-- A line break comes after the previous token or after a comment, with only statement
  blanks before it: a statement may end before this token. -/
  lineBefore : Bool
  /-- Only statement blanks lie between the last comment (or the previous token) and this
  token. -/
  plainBefore : Bool
deriving Repr, Inhabited

/-- The first position at or after `pos` that holds a line feed, or the end. -/
def lineEnd (src : Array Char) (pos : Nat) : Nat :=
  if h : pos < src.size then
    if src[pos] == '\n' then pos else lineEnd src (pos + 1)
  else pos
termination_by src.size - pos

/-- The position just after the first `*/` at or after `pos`, with whether a line break comes
before it. -/
def blockCommentEnd? (src : Array Char) (pos : Nat) (line : Bool) : Option (Nat × Bool) :=
  if h : pos < src.size then
    if src[pos] == '*' && src[pos + 1]? == some '/' then some (pos + 2, line)
    else blockCommentEnd? src (pos + 1) (line || isLineBreak src[pos])
  else none
termination_by src.size - pos

theorem lineEnd_ge (src : Array Char) (pos : Nat) : pos ≤ lineEnd src pos := by
  induction pos using lineEnd.induct src with
  | case1 p h heq => rw [lineEnd]; simp [h, heq]
  | case2 p h heq ih => rw [lineEnd]; simp [h, heq]; omega
  | case3 p h => rw [lineEnd]; simp [h]

theorem blockCommentEnd_gt (src : Array Char) (pos : Nat) (line : Bool) (e : Nat) (l : Bool)
    (h : blockCommentEnd? src pos line = some (e, l)) : pos < e := by
  induction pos, line using blockCommentEnd?.induct src with
  | case1 p ln hp hc =>
    rw [blockCommentEnd?] at h; simp [hp, hc] at h; omega
  | case2 p ln hp hc ih =>
    rw [blockCommentEnd?] at h; simp [hp, hc] at h; have := ih h; omega
  | case3 p ln hp => rw [blockCommentEnd?] at h; simp [hp] at h

/-- Skips blanks and comments from `pos`; gives the next token's start, whether a line break was
passed that ends a statement, and whether the blanks since the last comment are all statement
blanks. Each comment starts the blanks afresh: a line break counts only when the blanks before it
since the previous token or comment are statement blanks, so one inside a block comment does not.
A `/*` that is never closed is not skipped. -/
def skipTrivia (src : Array Char) (pos : Nat) (line plain : Bool) : Nat × Bool × Bool :=
  if h : pos < src.size then
    let c := src[pos]
    if isBlank c then
      skipTrivia src (pos + 1) (line || (plain && isLineBreak c)) (plain && isStatementBlank c)
    else if c == '/' && src[pos + 1]? == some '/' then
      let e := lineEnd src (pos + 2)
      have : pos < e := Nat.lt_of_lt_of_le (by omega) (lineEnd_ge src (pos + 2))
      skipTrivia src e line true
    else if c == '/' && src[pos + 1]? == some '*' then
      match hb : blockCommentEnd? src (pos + 2) false with
      | some (e, _) =>
        have : pos < e := Nat.lt_trans (by omega) (blockCommentEnd_gt src _ _ _ _ hb)
        skipTrivia src e line true
      | none => (pos, line, plain)
    else (pos, line, plain)
  else (pos, line, plain)
termination_by src.size - pos

/-- The end of a run of characters satisfying `p`, from `pos`. -/
def spanWhile (src : Array Char) (p : Char → Bool) (pos : Nat) : Nat :=
  if h : pos < src.size then
    if p src[pos] then spanWhile src p (pos + 1) else pos
  else pos
termination_by src.size - pos

/-- A character in `0`–`9`. -/
def isDecimalDigit (c : Char) : Bool := '0' ≤ c && c ≤ '9'

/-- A hexadecimal digit. -/
def isHexDigit (c : Char) : Bool :=
  isDecimalDigit c || ('a' ≤ c && c ≤ 'f') || ('A' ≤ c && c ≤ 'F')

/-- The places where a run of digits of a kind starting at `pos` may end: just after each of its
digits, where a single `_` may stand between two digits. Empty when no digit is at `pos`. -/
def digitRunEnds (src : Array Char) (digit : Char → Bool) (pos : Nat) : List Nat :=
  if (src[pos]?.map digit).getD false then go (pos + 1) (src.size - pos) [pos + 1] else []
where
  /-- Continues the run from `p`, with the ends found so far in reverse. -/
  go (p : Nat) : Nat → List Nat → List Nat
    | 0, acc => acc.reverse
    | fuel + 1, acc =>
      if (src[p]?.map digit).getD false then go (p + 1) fuel ((p + 1) :: acc)
      else if src[p]? == some '_' && (src[p + 1]?.map digit).getD false then
        go (p + 2) fuel ((p + 2) :: acc)
      else acc.reverse

/-- The places where a text from a list of alternatives may end after `pos`. -/
def literalEnds (src : Array Char) (texts : List String) (pos : Nat) : List Nat :=
  (texts.filter fun t => (t.toList.zipIdx).all fun (c, i) => src[pos + i]? == some c).map
    (pos + ·.length)

/-- The places where an exponent may end after `pos`: `e` or `E`, an optional sign, digits. -/
def exponentEnds (src : Array Char) (pos : Nat) : List Nat :=
  (literalEnds src ["e", "E"] pos).flatMap fun p =>
    ((p :: literalEnds src ["+", "-"] p).flatMap (digitRunEnds src isDecimalDigit))

/-- The places where a decimal integer may end: `0`, or an optional `0`, a digit from 1 to 9 and
more digits, perhaps after one `_`. -/
def decimalIntegerEnds (src : Array Char) (pos : Nat) : List Nat :=
  let zero := literalEnds src ["0"] pos
  let lead := (pos :: zero).flatMap fun p =>
    if (src[p]?.map fun c => '1' ≤ c && c ≤ '9').getD false then [p + 1] else []
  zero ++ lead ++ lead.flatMap fun p =>
    (p :: literalEnds src ["_"] p).flatMap (digitRunEnds src isDecimalDigit)

/-- The places where a numeric literal starting at `pos` may end, by its grammar: hexadecimal,
binary and octal integers after their prefixes, decimal numbers with an optional fraction and
exponent, and big integers ending in `n`. -/
def numberEnds (src : Array Char) (pos : Nat) : List Nat :=
  let radix (prefixes : List String) (digit : Char → Bool) :=
    (literalEnds src prefixes pos).flatMap (digitRunEnds src digit)
  let hex := radix ["0x", "0X"] isHexDigit
  let binary := radix ["0b", "0B"] (fun c => c == '0' || c == '1')
  let octal := radix ["0o", "0O"] (fun c => '0' ≤ c && c ≤ '7')
  let digits := digitRunEnds src isDecimalDigit pos
  let integer := decimalIntegerEnds src pos
  let withPoint := (integer.flatMap (literalEnds src ["."])).flatMap fun p =>
    ((p :: digitRunEnds src isDecimalDigit p).flatMap fun q => q :: exponentEnds src q)
  let pointFirst := ((literalEnds src ["."] pos).flatMap (digitRunEnds src isDecimalDigit)).flatMap
    fun q => q :: exponentEnds src q
  let withExponent := integer.flatMap (exponentEnds src)
  let big := (hex ++ binary ++ octal ++ digits).flatMap (literalEnds src ["n"])
  hex ++ binary ++ octal ++ digits ++ withPoint ++ pointFirst ++ withExponent ++ big

/-- The end of the longest numeric literal starting at `pos`. -/
def numberEnd (src : Array Char) (pos : Nat) : Nat :=
  (numberEnds src pos).foldl max (pos + 1)

/-- The end of an escape sequence whose backslash is at `pos`: `\x` and two hexadecimal digits,
`\u` and four of them or some in braces, a carriage return or `?` before a line break, or any
other single character; `none` when `\x` or `\u` lack their digits or the source ends. -/
def escapeEnd? (src : Array Char) (pos : Nat) : Option Nat :=
  let hexRun (p : Nat) : Nat := spanWhile src isHexDigit p
  match src[pos + 1]? with
  | none => none
  | some 'x' => if hexRun (pos + 2) ≥ pos + 4 then some (pos + 4) else none
  | some 'u' =>
    if src[pos + 2]? == some '\x7b' then
      let e := hexRun (pos + 3)
      if e > pos + 3 && src[e]? == some '\x7d' then some (e + 1) else none
    else if hexRun (pos + 2) ≥ pos + 6 then some (pos + 6) else none
  | some c =>
    if (c == '\r' || c == '?') && (src[pos + 2]?.map isLineBreak).getD false then some (pos + 3)
    else some (pos + 2)

/-- Reads a quoted string whose quote is at `pos`: the end just after the closing quote, or
the place where it broke off (a line break, a malformed escape or the end). -/
def stringEnd (src : Array Char) (quote : Char) (pos : Nat) : Except Nat Nat :=
  if h : pos < src.size then
    let c := src[pos]
    if c == quote then .ok (pos + 1)
    else if c == '\\' then
      match escapeEnd? src pos with
      | some e => stringEnd src quote (max e (pos + 1))
      | none => .error pos
    else if c == '\n' || c == '\r' then .error pos
    else stringEnd src quote (pos + 1)
  else .error pos
termination_by src.size - pos

/-- The end of a `\u` escape inside a word at `pos`: four hexadecimal digits, or some in braces. -/
def wordEscapeEnd? (src : Array Char) (pos : Nat) : Option Nat :=
  if src[pos]? == some '\\' && src[pos + 1]? == some 'u' then
    match escapeEnd? src pos with
    | some e => if e > pos + 2 then some e else none
    | none => none
  else none

/-- The end of a word whose first character or escape is at `pos`: word characters and `\u`
escapes. -/
def wordEnd (src : Array Char) (pos : Nat) : Nat :=
  go pos (src.size - pos + 1)
where
  /-- Continues the word from `p`. -/
  go (p : Nat) : Nat → Nat
    | 0 => p
    | fuel + 1 =>
      match src[p]? with
      | none => p
      | some c =>
        if isWordPart c then go (p + 1) fuel
        else
          match wordEscapeEnd? src p with
          | some e => go e fuel
          | none => p

/-- The punctuators, longest first. -/
def punctuators : List String :=
  [">>>=", "...", "===", "!==", "**=", "<<=", ">>=", ">>>", "&&=", "||=", "??=",
   "=>", "==", "!=", "<=", ">=", "&&", "||", "??", "?.", "++", "--", "+=", "-=", "*=", "/=",
   "%=", "&=", "|=", "^=", "**", "<<", ">>",
   "\x7b", "\x7d", "(", ")", "[", "]", ";", ",", "<", ">", "+", "-", "*", "/", "%", "&", "|",
   "^", "!", "~", "?", ":", "=", ".", "@"]

/-- Whether the source holds the text `s` at `pos`. -/
def holdsAt (src : Array Char) (pos : Nat) (s : String) : Bool :=
  (s.toList.zipIdx).all fun (c, i) => src[pos + i]? == some c

/-- The longest punctuator at `pos`; `?.` before a digit is only `?`. -/
def punctuatorAt? (src : Array Char) (pos : Nat) : Option String :=
  match punctuators.find? (holdsAt src pos) with
  | some "?." =>
    if (src[pos + 2]?.map Char.isDigit).getD false then some "?" else some "?."
  | r => r

/-- The token that starts at `pos`, blanks and comments already skipped. -/
def tokenAt (src : Array Char) (pos : Nat) (line plain : Bool) : Token :=
  let mk := fun (l : Lexeme) (stop : Nat) => Token.mk l pos stop line plain
  match src[pos]? with
  | none => mk .eof pos
  | some c =>
    if isWordStart c || (wordEscapeEnd? src pos).isSome then
      let e := wordEnd src pos
      mk (.word (String.ofList (src.extract pos e).toList)) e
    else if c.isDigit || (c == '.' && (src[pos + 1]?.map Char.isDigit).getD false) then
      mk .number (numberEnd src pos)
    else if c == '"' || c == '\'' then
      match stringEnd src c (pos + 1) with
      | .ok e => mk .string e
      | .error e => mk .unknown e
    else if c == '`' then mk .backquote (pos + 1)
    else if c == '#' && src[pos + 1]? == some '!' then mk .hashBang (lineEnd src pos)
    else if c == '#' && (src[pos + 1]?.map isWordStart).getD false then
      mk .privateName (spanWhile src isWordPart (pos + 1))
    else
      match punctuatorAt? src pos with
      | some p => mk (.punct p) (pos + p.length)
      | none => mk .unknown (pos + 1)

/-- The next token at or after `pos`. -/
def scanToken (src : Array Char) (pos : Nat) : Token :=
  let (start, line, plain) := skipTrivia src pos false true
  tokenAt src start line plain

/-- The end of the flags after the closing slash of a regular expression at `pos`: a run of
lower-case ASCII letters. A run of word characters holding anything else is a word of its own,
and the expression has no flags. -/
def regexFlagsEnd (src : Array Char) (pos : Nat) : Nat :=
  let stop := spanWhile src isWordPart (pos + 1)
  if (List.range (stop - (pos + 1))).all fun i =>
      (src[pos + 1 + i]?.map fun c => 'a' ≤ c && c ≤ 'z').getD false then stop
  else pos + 1

/-- The end of a regular expression whose opening slash is at `pos`, flags included; `none` when
a line feed, an escaped line feed or the end comes first. -/
def regexEnd? (src : Array Char) (pos : Nat) (inClass : Bool) : Option Nat :=
  if h : pos < src.size then
    let c := src[pos]
    if c == '\n' then none
    else if c == '\\' then
      if pos + 1 < src.size && src[pos + 1]? != some '\n' then regexEnd? src (pos + 2) inClass
      else none
    else if c == '[' then regexEnd? src (pos + 1) true
    else if c == ']' then regexEnd? src (pos + 1) false
    else if c == '/' && !inClass then some (regexFlagsEnd src pos)
    else regexEnd? src (pos + 1) inClass
  else none
termination_by src.size - pos

/-- The end of a regular expression literal starting at `pos`. -/
def scanRegex? (src : Array Char) (pos : Nat) : Option Nat := regexEnd? src (pos + 1) false

/-- A piece of a template's text. -/
inductive TemplatePiece where
  /-- Plain characters up to `stop`. -/
  | chars (stop : Nat)
  /-- An escape sequence up to `stop`. -/
  | escape (stop : Nat)
  /-- The `${` that opens a substitution. -/
  | substitution
  /-- The closing backquote. -/
  | close
  /-- The end of the source. -/
  | unfinished
  /-- A backslash that starts no escape sequence. -/
  | malformed
deriving Repr, Inhabited

/-- The end of plain template characters from `pos`. -/
def templateCharsEnd (src : Array Char) (pos : Nat) : Nat :=
  if h : pos < src.size then
    let c := src[pos]
    if c == '`' || c == '\\' || (c == '$' && src[pos + 1]? == some '\x7b') then pos
    else templateCharsEnd src (pos + 1)
  else pos
termination_by src.size - pos

/-- The template piece that starts at `pos`. -/
def scanTemplatePiece (src : Array Char) (pos : Nat) : TemplatePiece :=
  match src[pos]? with
  | none => .unfinished
  | some '`' => .close
  | some '\\' =>
    if pos + 1 < src.size then
      match escapeEnd? src pos with
      | some e => .escape e
      | none => .malformed
    else .unfinished
  | some '$' =>
    if src[pos + 1]? == some '\x7b' then .substitution else .chars (templateCharsEnd src (pos + 1))
  | some _ => .chars (templateCharsEnd src (pos + 1))

/-- Whether a character ends a stretch of element text. -/
def endsMarkupText (c : Char) : Bool :=
  c == '\x7b' || c == '\x7d' || c == '<' || c == '>' || c == '\n' || c == '&'

/-- The end of element text starting at `pos` (not a blank): the stretch up to a brace, angle
bracket, ampersand or line feed, without the spaces at its end. -/
def scanMarkupText (src : Array Char) (pos : Nat) : Nat :=
  let e := spanWhile src (fun c => !endsMarkupText c) pos
  let rec trim (k : Nat) (e : Nat) : Nat :=
    match k with
    | 0 => e
    | k + 1 => if e > pos + 1 && src[e - 1]? == some ' ' then trim k (e - 1) else e
  trim (e - pos) e

/-- A character of a dashed element name: an ASCII letter or digit, `_` or `$`. -/
def isDashedNamePart (c : Char) : Bool := c.isAlphanum || c == '_' || c == '$'

/-- The end of an element or attribute name starting at `pos`, where a word ends at `wordEnd`.
A dashed name is an ASCII letter, `_` or `$`, more ASCII letters, digits, `_` or `$`, a dash,
and then those characters and dashes; the longer of the word and a dashed name is the name, as
the scanner takes the longest token. So `a-é` is the name `a-` before the word `é`, and `é-a`
is the word `é` before a dash. -/
def scanMarkupName (src : Array Char) (pos wordEnd : Nat) : Nat :=
  match src[pos]? with
  | some c =>
    if c.isAlpha || c == '_' || c == '$' then
      let e := spanWhile src isDashedNamePart (pos + 1)
      if src[e]? == some '-' then
        max wordEnd (spanWhile src (fun c => isDashedNamePart c || c == '-') (e + 1))
      else wordEnd
    else wordEnd
  | none => wordEnd

end ProjectIndex.Script
