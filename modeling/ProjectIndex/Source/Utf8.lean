/-!
Strict UTF-8 decoding of file contents.

Decoding reads well-formed sequences only: one to four bytes, no overlong forms, no surrogates, no
code points above U+10FFFF. The first ill-formed sequence stops decoding with one of three
reasons: a byte that cannot start a sequence (`invalid start byte`), a byte inside a sequence that
cannot continue it (`invalid continuation byte`; this covers the second byte's narrower ranges
after `E0`, `ED`, `F0` and `F4`), or data that ends inside a sequence whose bytes so far are fine
(`unexpected end of data`).

Reading a file as text may also translate line ends: `\r\n` and a lone `\r` become `\n`.

Owns: `decodeUtf8`, `decodeUtf8At`, `Utf8Error`, `translateNewlines`.
-/

namespace ProjectIndex.Source

/-- A byte that continues a sequence. -/
def isContinuation (b : UInt8) : Bool := 0x80 ≤ b && b ≤ 0xBF

/-- The range allowed for the second byte after a given first byte. -/
def secondRange (first : UInt8) : UInt8 × UInt8 :=
  if first == 0xE0 then (0xA0, 0xBF)
  else if first == 0xED then (0x80, 0x9F)
  else if first == 0xF0 then (0x90, 0xBF)
  else if first == 0xF4 then (0x80, 0x8F)
  else (0x80, 0xBF)

/-- The number of bytes of the sequence a first byte starts, or none for an invalid start. -/
def sequenceLength (first : UInt8) : Option Nat :=
  if first < 0x80 then some 1
  else if 0xC2 ≤ first && first ≤ 0xDF then some 2
  else if 0xE0 ≤ first && first ≤ 0xEF then some 3
  else if 0xF0 ≤ first && first ≤ 0xF4 then some 4
  else none

/-- The continuation bytes after `first` are acceptable so far: the second in its range, the
others in the continuation range. -/
def continuationsOk (first : UInt8) (rest : List UInt8) : Bool :=
  match rest with
  | [] => true
  | second :: more =>
    let (lo, hi) := secondRange first
    lo ≤ second && second ≤ hi && more.all isContinuation

/-- The code point of a well-formed sequence. -/
def codePoint (first : UInt8) (rest : List UInt8) : Nat :=
  let lead := match rest.length with
    | 0 => first.toNat
    | 1 => first.toNat % 32
    | 2 => first.toNat % 16
    | _ => first.toNat % 8
  rest.foldl (fun acc b => acc * 64 + b.toNat % 64) lead

/-- Where and why bytes are not UTF-8. -/
structure Utf8Error where
  reason : String
  /-- The position of the first byte of the ill-formed sequence. -/
  start : Nat
  /-- The position after the bytes the reason covers. -/
  stop : Nat
  /-- The first byte of the ill-formed sequence. -/
  first : UInt8

/-- The number of bytes of a sequence that are fine before its first bad continuation. -/
def validPrefix (first : UInt8) (rest : List UInt8) : Nat :=
  match rest with
  | [] => 1
  | second :: more =>
    let (lo, hi) := secondRange first
    if lo ≤ second && second ≤ hi then 2 + (more.takeWhile isContinuation).length else 1

/-- Decode bytes from position `pos`; the accumulator holds the characters so far, last first. -/
def decodeBytes : Nat → List Char → List UInt8 → Except Utf8Error String
  | _, acc, [] => .ok (String.ofList acc.reverse)
  | pos, acc, first :: rest =>
    match sequenceLength first with
    | none => .error ⟨"invalid start byte", pos, pos + 1, first⟩
    | some n =>
      let tail := rest.take (n - 1)
      if !continuationsOk first tail then
        .error ⟨"invalid continuation byte", pos, pos + validPrefix first tail, first⟩
      else if tail.length < n - 1 then
        .error ⟨"unexpected end of data", pos, pos + 1 + tail.length, first⟩
      else decodeBytes (pos + n) (Char.ofNat (codePoint first tail) :: acc) (rest.drop (n - 1))
termination_by _ _ bytes => bytes.length
decreasing_by simp only [List.length_drop, List.length_cons]; omega

/-- The text of UTF-8 bytes, or where and why they are not UTF-8. -/
def decodeUtf8At (bytes : List UInt8) : Except Utf8Error String :=
  decodeBytes 0 [] bytes

/-- The text of UTF-8 bytes, or the reason they are not UTF-8. -/
def decodeUtf8 (bytes : List UInt8) : Except String String :=
  (decodeUtf8At bytes).mapError (·.reason)

/-- Two lower-case hexadecimal digits of a byte. -/
def byteHex (b : UInt8) : String :=
  let digit (n : Nat) : Char := if n < 10 then Char.ofNat (48 + n) else Char.ofNat (87 + n)
  String.ofList [digit (b.toNat / 16), digit (b.toNat % 16)]

/-- The message of a decoding failure: the byte and its position, or the range of positions. -/
def Utf8Error.message (e : Utf8Error) : String :=
  if e.stop == e.start + 1 then
    "'utf-8' codec can't decode byte 0x" ++ byteHex e.first ++ " in position " ++
      toString e.start ++ ": " ++ e.reason
  else
    "'utf-8' codec can't decode bytes in position " ++ toString e.start ++ "-" ++
      toString (e.stop - 1) ++ ": " ++ e.reason

/-- Line ends as reading text sees them: `\r\n` and a lone `\r` become `\n`. -/
def translateNewlines : List Char → List Char
  | [] => []
  | '\r' :: '\n' :: rest => '\n' :: translateNewlines rest
  | '\r' :: rest => '\n' :: translateNewlines rest
  | c :: rest => c :: translateNewlines rest

end ProjectIndex.Source
