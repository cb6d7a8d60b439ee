import Mathlib
import ProjectIndex.Keyword.Split

/-!
Contract: the words of an identifier are its maximal runs of word characters (the underscore
aside), each cut at the case and class boundaries below, then lower-cased.

Three steps describe `splitIdentifier` without reference to how it reads its input:

1. every character that is not a word character, and the underscore, is dropped; what remains
   falls into maximal runs of adjacent *kept* characters (`isKept`);
2. each run is cut between adjacent characters `x` and `y` when they fall in different classes
   among ASCII letters, decimal digits and other word characters, when `x` is an ASCII
   lower-case letter and `y` an ASCII capital, or when both are ASCII capitals and the
   character after `y` is an ASCII lower-case letter (`cutsBetween`, `cutPieces`);
3. every piece is lower-cased with the full Unicode mapping.

The reader in `Keyword.Split` instead cuts at separators first and then scans each piece left to
right, taking a run of one class at a time. The proof follows that scan: each token it takes is a
whole piece in front of the rest of the text (`IsPiece`), and a whole piece in front of the rest
is exactly the first word of the three-step description (`wordPieces_append`). Separators are
never kept, so cutting at them first changes nothing (`flatMap_splitRuns`).

Owns: `isKept`, `CharClass`, `cutsBetween`, `cutPieces`, `wordPieces`, `IsPiece`,
`caseTokens_eq_wordPieces`, `splitIdentifier_eq_wordPieces`.
-/

namespace ProjectIndex.Keyword

open ProjectIndex.Text

/-! ### The three-step description -/

/-- A character that can stand in a word: a word character other than `_`. -/
def isKept (c : Char) : Bool := isWordChar c && c != '_'

/-- The classes whose meeting cuts a run. -/
inductive CharClass where
  | asciiLetter
  | digit
  | otherWord
deriving DecidableEq

/-- The class of a character: an ASCII letter, else a decimal digit, else another character. -/
def charClass (c : Char) : CharClass :=
  if isAsciiUpper c || isAsciiLower c then .asciiLetter
  else if isDecimalDigit c then .digit
  else .otherWord

/-- The list starts with an ASCII lower-case letter. -/
def lowerFirst : List Char → Bool
  | c :: _ => isAsciiLower c
  | [] => false

/-- A run is cut between the adjacent characters `x` and `y`; `lowerAfter` tells whether an ASCII
lower-case letter follows `y`. -/
def cutsBetween (x y : Char) (lowerAfter : Bool) : Bool :=
  charClass x != charClass y || (isAsciiLower x && isAsciiUpper y) ||
    (isAsciiUpper x && isAsciiUpper y && lowerAfter)

/-- A new piece starts after `x`: the run ends there, or it is cut before what follows. -/
def startsPiece (x : Char) : List Char → Bool
  | [] => true
  | y :: more => cutsBetween x y (lowerFirst more)

/-- Put a character in front of the first piece. -/
def joinFront (x : Char) : List (List Char) → List (List Char)
  | [] => [[x]]
  | piece :: pieces => (x :: piece) :: pieces

/-- The pieces of a run of kept characters: a character stands at the end of its piece exactly
where the run is cut after it. -/
def cutPieces : List Char → List (List Char)
  | [] => []
  | x :: rest => if startsPiece x rest then [x] :: cutPieces rest else joinFront x (cutPieces rest)

/-- The words of a text before lower-casing: its maximal runs of kept characters, each cut into
pieces. -/
def wordPieces (cs : List Char) : List (List Char) :=
  (splitRuns (fun c => !isKept c) cs).flatMap cutPieces

/-- `piece` is one whole piece in front of `rest`: no cut falls inside it, and one falls after it
(or the run ends there). -/
def IsPiece : List Char → List Char → Prop
  | [], _ => False
  | [x], rest => startsPiece x rest = true
  | x :: y :: more, rest => startsPiece x (y :: (more ++ rest)) = false ∧ IsPiece (y :: more) rest

/-! ### Character classes -/

section Characters

variable {c : Char}

theorem char_le_iff {a b : Char} : a ≤ b ↔ a.toNat ≤ b.toNat := by
  rw [Char.le_def, UInt32.le_iff_toNat_le]
  rfl

theorem isAsciiUpper_iff : isAsciiUpper c = true ↔ 65 ≤ c.toNat ∧ c.toNat ≤ 90 := by
  simp [isAsciiUpper, char_le_iff]

theorem isAsciiLower_iff : isAsciiLower c = true ↔ 97 ≤ c.toNat ∧ c.toNat ≤ 122 := by
  simp [isAsciiLower, char_le_iff]

theorem isAsciiUpper_eq_false_of_lower (lower : isAsciiLower c = true) : isAsciiUpper c = false := by
  rw [isAsciiLower_iff] at lower
  rw [Bool.eq_false_iff, ne_eq, isAsciiUpper_iff]
  omega

theorem isAsciiLower_eq_false_of_upper (upper : isAsciiUpper c = true) : isAsciiLower c = false := by
  rw [isAsciiUpper_iff] at upper
  rw [Bool.eq_false_iff, ne_eq, isAsciiLower_iff]
  omega

/-- Within ASCII, a word character is a letter, a digit or `_`. -/
theorem isWordChar_of_lt (small : c.toNat < 128) :
    isWordChar c = (c.isAlphanum || c == '_') := by
  simp [isWordChar, small]

theorem isKept_of_isAsciiUpper (upper : isAsciiUpper c = true) : isKept c = true := by
  rw [isAsciiUpper_iff] at upper
  have small : c.toNat < 128 := by omega
  have notUnderscore : c ≠ '_' := fun h => by subst h; simp at upper
  simp only [isKept, isWordChar_of_lt small, Char.isAlphanum, Char.isAlpha, Char.isUpper,
    UInt32.le_iff_toNat_le]
  simp [notUnderscore]
  omega

theorem isKept_of_isAsciiLower (lower : isAsciiLower c = true) : isKept c = true := by
  rw [isAsciiLower_iff] at lower
  have small : c.toNat < 128 := by omega
  have notUnderscore : c ≠ '_' := fun h => by subst h; simp at lower
  simp only [isKept, isWordChar_of_lt small, Char.isAlphanum, Char.isAlpha, Char.isLower,
    UInt32.le_iff_toNat_le]
  simp [notUnderscore]
  omega

/-- Every range of decimal digits lies inside a range of word characters. -/
theorem decimalTable_covered :
    decimalTable.toList.all (fun r => wordTable.toList.any fun r' => r'.1 ≤ r.1 && r.2 ≤ r'.2) =
      true := by
  decide +kernel

theorem RangeTable.containsNat_of_covered {small large : RangeTable} {n : Nat}
    (covered : small.toList.all (fun r => large.toList.any fun r' => r'.1 ≤ r.1 && r.2 ≤ r'.2) =
      true)
    (inSmall : small.containsNat n = true) : large.containsNat n = true := by
  simp only [RangeTable.containsNat, ← Array.any_toList, List.any_eq_true, List.all_eq_true,
    Bool.and_eq_true, decide_eq_true_eq] at covered inSmall ⊢
  obtain ⟨r, member, low, high⟩ := inSmall
  obtain ⟨r', member', low', high'⟩ := covered r member
  exact ⟨r', member', by omega, by omega⟩

theorem isKept_of_isDecimalDigit (digit : isDecimalDigit c = true) : isKept c = true := by
  unfold isKept
  by_cases small : c.toNat < 128
  · simp only [isDecimalDigit, small, if_true] at digit
    have notUnderscore : c ≠ '_' := fun h => by subst h; simp at digit
    simp [isWordChar_of_lt small, Char.isAlphanum, digit, notUnderscore]
  · simp only [isDecimalDigit, small, if_false] at digit
    have notUnderscore : c ≠ '_' := fun h => by subst h; simp at small
    have word : isWordChar c = true := by
      simp only [isWordChar, small, if_false]
      exact RangeTable.containsNat_of_covered decimalTable_covered digit
    simp [word, notUnderscore]

theorem isKept_of_isOtherLetter (other : isOtherLetter c = true) : isKept c = true := by
  simp only [isOtherLetter, Bool.and_eq_true, Bool.not_eq_true'] at other
  simp [isKept, other.1.1.1.1, other.1.1.2]

/-- A decimal digit is no ASCII letter. -/
theorem not_letter_of_isDecimalDigit (digit : isDecimalDigit c = true) :
    (isAsciiUpper c || isAsciiLower c) = false := by
  have outside : ¬(65 ≤ c.toNat ∧ c.toNat ≤ 90) ∧ ¬(97 ≤ c.toNat ∧ c.toNat ≤ 122) := by
    by_cases small : c.toNat < 128
    · simp only [isDecimalDigit, small, if_true] at digit
      have digitRange := Char.isDigit_iff_toNat.mp digit
      simp only [show ('0' : Char).toNat = 48 from rfl, show ('9' : Char).toNat = 57 from rfl]
        at digitRange
      omega
    · omega
  rw [← isAsciiUpper_iff, ← isAsciiLower_iff] at outside
  simp_all

theorem charClass_of_isAsciiUpper (upper : isAsciiUpper c = true) : charClass c = .asciiLetter := by
  simp [charClass, upper]

theorem charClass_of_isAsciiLower (lower : isAsciiLower c = true) : charClass c = .asciiLetter := by
  simp [charClass, lower]

theorem charClass_of_isDecimalDigit (digit : isDecimalDigit c = true) : charClass c = .digit := by
  simp [charClass, not_letter_of_isDecimalDigit digit, digit]

theorem charClass_of_isOtherLetter (other : isOtherLetter c = true) : charClass c = .otherWord := by
  simp only [isOtherLetter, Bool.and_eq_true, Bool.not_eq_true'] at other
  simp [charClass, other.1.2, other.2, other.1.1.1.2]

/-- A kept character of neither class named by the reader's first four tests is none. -/
theorem isKept_eq_false (notUpper : isAsciiUpper c = false) (notLower : isAsciiLower c = false)
    (notDigit : isDecimalDigit c = false) (notOther : isOtherLetter c = false) :
    isKept c = false := by
  simp only [isOtherLetter, notUpper, notLower, notDigit, Bool.not_false, Bool.and_true,
    Bool.and_eq_false_iff, bne_eq_false_iff_eq] at notOther
  simp only [isKept, Bool.and_eq_false_iff, bne_eq_false_iff_eq]
  exact notOther

/-- A kept character whose class is neither letters nor digits is another word character. -/
theorem isOtherLetter_of_charClass (kept : isKept c = true) (other : charClass c = .otherWord) :
    isOtherLetter c = true := by
  simp only [isKept, Bool.and_eq_true, bne_iff_ne, ne_eq] at kept
  unfold charClass at other
  split at other
  · cases other
  · split at other
    · cases other
    · simp_all [isOtherLetter]

/-- Within ASCII, the word characters are the letters, the digits and `_`. -/
theorem isWordChar_iff_of_lt (small : c.toNat < 128) :
    isWordChar c = true ↔ (48 ≤ c.toNat ∧ c.toNat ≤ 57) ∨ (65 ≤ c.toNat ∧ c.toNat ≤ 90) ∨
      (97 ≤ c.toNat ∧ c.toNat ≤ 122) ∨ c.toNat = 95 := by
  have underscore : c = '_' ↔ c.toNat = 95 :=
    ⟨fun h => by subst h; rfl, fun h => Char.toNat_inj.mp (by rw [h]; rfl)⟩
  simp only [isWordChar_of_lt small, Bool.or_eq_true, Char.isAlphanum, Char.isAlpha,
    Char.isUpper, Char.isLower, Char.isDigit, Bool.and_eq_true, decide_eq_true_eq,
    UInt32.le_iff_toNat_le, beq_iff_eq, underscore]
  have : c.toNat = c.val.toNat := rfl
  have : ('0' : Char).val.toNat = 48 := rfl
  have : ('9' : Char).val.toNat = 57 := rfl
  have : ('A' : Char).val.toNat = 65 := rfl
  have : ('Z' : Char).val.toNat = 90 := rfl
  have : ('a' : Char).val.toNat = 97 := rfl
  have : ('z' : Char).val.toNat = 122 := rfl
  omega

/-- The blanks outside ASCII, as ranges of code points. -/
def wideBlanks : List (Nat × Nat) :=
  [(0x85, 0x85), (0xA0, 0xA0), (0x1680, 0x1680), (0x2000, 0x200A), (0x2028, 0x2029),
    (0x202F, 0x202F), (0x205F, 0x205F), (0x3000, 0x3000)]

theorem wordTable_apart_wideBlanks :
    wideBlanks.all (fun blank => wordTable.toList.all fun r => r.2 < blank.1 || blank.2 < r.1) =
      true := by
  decide +kernel

theorem RangeTable.containsNat_eq_false {table : RangeTable} {lo hi n : Nat}
    (apart : table.toList.all (fun r => r.2 < lo || hi < r.1) = true) (low : lo ≤ n)
    (high : n ≤ hi) : table.containsNat n = false := by
  simp only [List.all_eq_true, Bool.or_eq_true, decide_eq_true_eq] at apart
  rw [RangeTable.containsNat, ← Array.any_toList, Bool.eq_false_iff, ne_eq, List.any_eq_true]
  rintro ⟨r, member, inside⟩
  simp only [Bool.and_eq_true, decide_eq_true_eq] at inside
  rcases apart r member with below | above <;> omega

/-- No blank is a word character. -/
theorem isWordChar_eq_false_of_isBlank (blank : isBlank c = true) : isWordChar c = false := by
  simp only [isBlank, Bool.or_eq_true, Bool.and_eq_true, decide_eq_true_eq, beq_iff_eq] at blank
  by_cases small : c.toNat < 128
  · rw [Bool.eq_false_iff, ne_eq, isWordChar_iff_of_lt small]
    omega
  · obtain ⟨range, member, low, high⟩ :
        ∃ range ∈ wideBlanks, range.1 ≤ c.toNat ∧ c.toNat ≤ range.2 := by
      simp only [wideBlanks, List.mem_cons, List.not_mem_nil, or_false, exists_eq_or_imp,
        exists_eq_left]
      omega
    have apart := List.all_eq_true.mp wordTable_apart_wideBlanks range member
    simp only [isWordChar, small, if_false, RangeTable.contains]
    exact RangeTable.containsNat_eq_false apart low high

/-- The punctuation that separates words. -/
theorem separatorMarks_eq :
    "-_./\\()[]\x7b\x7d@$:,+".toList =
      ['-', '_', '.', '/', '\\', '(', ')', '[', ']', '\x7b', '\x7d', '@', '$', ':', ',', '+'] := by
  decide

/-- Separators are never kept: the blanks and the listed punctuation are no word characters, and
`_` is dropped by name. -/
theorem isKept_eq_false_of_isSeparator (separator : isSeparator c = true) : isKept c = false := by
  simp only [isSeparator, Bool.or_eq_true, List.contains_iff_mem, separatorMarks_eq] at separator
  rcases separator with blank | mark
  · simp [isKept, isWordChar_eq_false_of_isBlank blank]
  · simp only [List.mem_cons, List.not_mem_nil, or_false] at mark
    rcases mark with rfl | rfl | rfl | rfl | rfl | rfl | rfl | rfl | rfl | rfl | rfl | rfl | rfl |
      rfl | rfl | rfl <;> decide

end Characters

/-! ### Cutting between two characters -/

section Cuts

variable {x y : Char} {lowerAfter : Bool}

theorem cutsBetween_of_charClass (differ : charClass x ≠ charClass y) :
    cutsBetween x y lowerAfter = true := by
  simp [cutsBetween, differ]

/-- Two characters of one class other than the ASCII letters are never cut apart. -/
theorem cutsBetween_of_same_class (same : charClass x = charClass y)
    (notLetter : charClass x ≠ .asciiLetter) : cutsBetween x y lowerAfter = false := by
  have notLower : isAsciiLower x = false := by
    cases lower : isAsciiLower x
    · rfl
    · exact absurd (charClass_of_isAsciiLower lower) notLetter
  have notUpper : isAsciiUpper x = false := by
    cases upper : isAsciiUpper x
    · rfl
    · exact absurd (charClass_of_isAsciiUpper upper) notLetter
  simp [cutsBetween, same, notLower, notUpper]

/-- An ASCII letter stays joined to the lower-case letter after it. -/
theorem cutsBetween_of_lower (letter : charClass x = .asciiLetter) (lower : isAsciiLower y = true) :
    cutsBetween x y lowerAfter = false := by
  simp [cutsBetween, letter, charClass_of_isAsciiLower lower,
    isAsciiUpper_eq_false_of_lower lower]

/-- A lower-case letter is cut from the capital after it. -/
theorem cutsBetween_lower_upper (lower : isAsciiLower x = true) (upper : isAsciiUpper y = true) :
    cutsBetween x y lowerAfter = true := by
  simp [cutsBetween, lower, upper]

/-- Two capitals are cut apart exactly when a lower-case letter follows the second. -/
theorem cutsBetween_upper_upper (upperX : isAsciiUpper x = true) (upperY : isAsciiUpper y = true) :
    cutsBetween x y lowerAfter = lowerAfter := by
  simp [cutsBetween, upperX, upperY, charClass_of_isAsciiUpper,
    isAsciiLower_eq_false_of_upper upperX]

end Cuts

/-! ### Whole pieces -/

section Pieces

/-- A whole piece in front of the rest of a run is the run's first piece. -/
theorem cutPieces_append : ∀ {piece rest : List Char}, IsPiece piece rest →
    cutPieces (piece ++ rest) = piece :: cutPieces rest
  | [x], rest, ends => by
      simp only [IsPiece] at ends
      simp [cutPieces, ends]
  | x :: y :: more, rest, whole => by
      simp only [IsPiece] at whole
      have following := cutPieces_append whole.2
      simp only [List.cons_append] at following ⊢
      rw [cutPieces, if_neg (by simp [whole.1]), following]
      rfl

variable {P : Char → Bool} {rest : List Char}

/-- A run of one class whose characters are never cut apart, with a cut after it, is a whole
piece. -/
theorem isPiece_run (inside : ∀ a b lowerAfter, P a → P b → cutsBetween a b lowerAfter = false)
    (ends : ∀ a, P a → startsPiece a rest = true) :
    ∀ {x : Char} {run : List Char}, P x → (∀ z ∈ run, P z) → IsPiece (x :: run) rest
  | x, [], first, _ => by
      simp only [IsPiece]
      exact ends x first
  | x, y :: run, first, later => by
      simp only [IsPiece]
      have second := later y List.mem_cons_self
      exact ⟨inside x y _ first second,
        isPiece_run inside ends second fun z member => later z (List.mem_cons_of_mem y member)⟩

/-- A run of capitals not followed by a lower-case letter, with a cut after it, is a whole piece:
no capital inside it has a lower-case letter after its successor. -/
theorem isPiece_upperRun (notLower : lowerFirst rest = false)
    (ends : ∀ a, isAsciiUpper a = true → startsPiece a rest = true) :
    ∀ {x : Char} {run : List Char}, isAsciiUpper x = true → (∀ z ∈ run, isAsciiUpper z = true) →
      IsPiece (x :: run) rest
  | x, [], first, _ => by
      simp only [IsPiece]
      exact ends x first
  | x, y :: run, first, later => by
      simp only [IsPiece]
      have second := later y List.mem_cons_self
      have noLowerNext : lowerFirst (run ++ rest) = false := by
        cases run with
        | nil => exact notLower
        | cons z _ =>
            exact isAsciiLower_eq_false_of_upper (later z (by simp))
      refine ⟨?_, isPiece_upperRun notLower ends second fun z member =>
        later z (List.mem_cons_of_mem y member)⟩
      simp [startsPiece, cutsBetween_upper_upper first second, noLowerNext]

end Pieces

/-! ### Runs between separators -/

section Runs

variable {sep : Char → Bool}

theorem splitRuns_cons_of_sep {c : Char} (rest : List Char) (separator : sep c = true) :
    splitRuns sep (c :: rest) = splitRuns sep rest := by
  simp [splitRuns, separator]

/-- A character that is no separator starts a run, which goes on up to the next separator. -/
theorem splitRuns_cons_run {c : Char} (rest : List Char) (inRun : sep c = false) :
    splitRuns sep (c :: rest) =
      (c :: rest.takeWhile (fun d => !sep d)) :: splitRuns sep (rest.dropWhile fun d => !sep d) := by
  induction rest generalizing c with
  | nil => simp [splitRuns, inRun]
  | cons d rest inductionHypothesis =>
      cases separator : sep d with
      | true =>
          rw [splitRuns.eq_2, if_neg (by simp [inRun])]
          simp only [List.takeWhile_cons, List.dropWhile_cons, separator, Bool.not_true,
            Bool.false_eq_true, if_false]
          cases splitRuns sep (d :: rest) <;> simp
      | false =>
          have following := inductionHypothesis separator
          simp only [splitRuns, inRun, separator, Bool.false_eq_true, if_false] at following ⊢
          rw [following]
          simp [separator]

/-- What follows a run of characters of a class starts with a character outside the class. -/
theorem dropWhile_head {p : Char → Bool} {cs more : List Char} {d : Char}
    (dropped : cs.dropWhile p = d :: more) : p d = false := by
  have outside := List.head_dropWhile_not p (by simp [dropped] : cs.dropWhile p ≠ [])
  simpa [dropped] using outside

theorem takeWhile_append_of_stop {p : Char → Bool} {xs rest : List Char}
    (stop : ∀ d more, rest = d :: more → p d = false) : (xs ++ rest).takeWhile p = xs.takeWhile p := by
  induction xs with
  | nil =>
      cases rest with
      | nil => rfl
      | cons d more => simp [stop d more rfl]
  | cons x xs inductionHypothesis =>
      simp only [List.cons_append, List.takeWhile_cons]
      split <;> simp [inductionHypothesis]

theorem dropWhile_append_of_stop {p : Char → Bool} {xs rest : List Char}
    (stop : ∀ d more, rest = d :: more → p d = false) :
    (xs ++ rest).dropWhile p = xs.dropWhile p ++ rest := by
  induction xs with
  | nil =>
      cases rest with
      | nil => rfl
      | cons d more => simp [stop d more rfl]
  | cons x xs inductionHypothesis =>
      simp only [List.cons_append, List.dropWhile_cons]
      split <;> simp [inductionHypothesis]

/-- Text before a separator splits on its own. -/
theorem splitRuns_append_of_sep {rest : List Char}
    (boundary : ∀ d more, rest = d :: more → sep d = true) :
    ∀ xs : List Char, splitRuns sep (xs ++ rest) = splitRuns sep xs ++ splitRuns sep rest
  | [] => rfl
  | x :: xs => by
      have stop : ∀ d more, rest = d :: more → (!sep d) = false := fun d more found => by
        simp [boundary d more found]
      cases separator : sep x with
      | true =>
          rw [List.cons_append, splitRuns_cons_of_sep _ separator, splitRuns_cons_of_sep _ separator,
            splitRuns_append_of_sep boundary xs]
      | false =>
          rw [List.cons_append, splitRuns_cons_run _ separator, splitRuns_cons_run _ separator,
            takeWhile_append_of_stop stop, dropWhile_append_of_stop stop,
            splitRuns_append_of_sep boundary (xs.dropWhile _)]
          rfl
termination_by xs => xs.length
decreasing_by all_goals grind [length_dropWhile_le]

/-- Cutting at a few separators first, then at more, is cutting at the more. -/
theorem flatMap_splitRuns {sep' : Char → Bool} (finer : ∀ c, sep c = true → sep' c = true) :
    ∀ cs : List Char, (splitRuns sep cs).flatMap (splitRuns sep') = splitRuns sep' cs
  | [] => rfl
  | c :: rest => by
      cases separator : sep c with
      | true =>
          rw [splitRuns_cons_of_sep rest separator, splitRuns_cons_of_sep rest (finer c separator),
            flatMap_splitRuns finer rest]
      | false =>
          rw [splitRuns_cons_run rest separator, List.flatMap_cons,
            flatMap_splitRuns finer (rest.dropWhile _)]
          have whole : c :: rest =
              (c :: rest.takeWhile fun d => !sep d) ++ rest.dropWhile fun d => !sep d := by
            simp
          conv_rhs => rw [whole]
          refine (splitRuns_append_of_sep (fun d more following => ?_) _).symm
          exact finer d (by simpa using dropWhile_head following)
termination_by cs => cs.length
decreasing_by all_goals grind [length_dropWhile_le]

end Runs

/-! ### Words as whole pieces -/

section Words

theorem wordPieces_nil : wordPieces [] = [] := rfl

theorem wordPieces_cons_of_not_kept {c : Char} (rest : List Char) (dropped : isKept c = false) :
    wordPieces (c :: rest) = wordPieces rest := by
  simp only [wordPieces]
  rw [splitRuns_cons_of_sep rest (by simp [dropped])]

/-- The words of a text: the pieces of its first run of kept characters, then the words of what
follows that run. -/
theorem wordPieces_eq (cs : List Char) :
    wordPieces cs = cutPieces (cs.takeWhile isKept) ++ wordPieces (cs.dropWhile isKept) := by
  cases cs with
  | nil => rfl
  | cons c rest =>
      cases kept : isKept c with
      | false => simp [kept, cutPieces]
      | true =>
          simp only [wordPieces]
          rw [splitRuns_cons_run rest (by simp [kept])]
          simp [kept]

/-- A whole piece of kept characters in front of a text is its first word. -/
theorem wordPieces_append {piece rest : List Char} (kept : ∀ c ∈ piece, isKept c = true)
    (whole : IsPiece piece (rest.takeWhile isKept)) :
    wordPieces (piece ++ rest) = piece :: wordPieces rest := by
  have taken : (piece ++ rest).takeWhile isKept = piece ++ rest.takeWhile isKept := by
    rw [List.takeWhile_append, if_pos (by rw [List.takeWhile_eq_self_iff.mpr kept])]
  have dropped : (piece ++ rest).dropWhile isKept = rest.dropWhile isKept := by
    rw [List.dropWhile_append, if_pos (by simp [List.dropWhile_eq_nil_iff.mpr kept])]
  rw [wordPieces_eq (piece ++ rest), taken, dropped, cutPieces_append whole, wordPieces_eq rest]
  rfl

/-- A text of kept characters only is one run. -/
theorem wordPieces_of_kept {cs : List Char} (kept : ∀ c ∈ cs, isKept c = true) :
    wordPieces cs = cutPieces cs := by
  rw [wordPieces_eq, List.takeWhile_eq_self_iff.mpr kept, List.dropWhile_eq_nil_iff.mpr kept,
    wordPieces_nil, List.append_nil]

end Words

/-! ### The tokens of the reader -/

section Tokens

theorem charClass_eq_asciiLetter {c : Char} (letter : charClass c = .asciiLetter) :
    (isAsciiUpper c || isAsciiLower c) = true := by
  unfold charClass at letter
  split at letter
  · assumption
  · split at letter <;> cases letter

theorem charClass_eq_digit {c : Char} (digit : charClass c = .digit) : isDecimalDigit c = true := by
  unfold charClass at digit
  split at digit
  · cases digit
  · split at digit
    · assumption
    · cases digit

/-- After a run of a class, the kept characters that follow start a new piece when every kept
character outside the class is cut from the class. -/
theorem startsPiece_after_run {P : Char → Bool} {rest : List Char}
    (cut : ∀ a y lowerAfter, P a = true → isKept y = true → P y = false →
      cutsBetween a y lowerAfter = true) :
    ∀ a, P a = true → startsPiece a ((rest.dropWhile P).takeWhile isKept) = true := by
  intro a inClass
  cases following : rest.dropWhile P with
  | nil => rfl
  | cons y more =>
      cases kept : isKept y with
      | false => simp [kept, startsPiece]
      | true =>
          simp only [List.takeWhile_cons, kept, if_true, startsPiece]
          exact cut a y _ inClass kept (dropWhile_head following)

/-- A run of one class, taken whole, is a piece in front of the kept characters after it. -/
theorem isPiece_classRun {P : Char → Bool} {c : Char} {rest : List Char}
    (inside : ∀ a b lowerAfter, P a = true → P b = true → cutsBetween a b lowerAfter = false)
    (cut : ∀ a y lowerAfter, P a = true → isKept y = true → P y = false →
      cutsBetween a y lowerAfter = true)
    (first : P c = true) :
    IsPiece (c :: rest.takeWhile P) ((rest.dropWhile P).takeWhile isKept) :=
  isPiece_run inside (startsPiece_after_run cut) first fun _ member => List.mem_takeWhile_imp member

/-- A run of one class of kept characters is the first word of the text it starts. -/
theorem wordPieces_cons_classRun {P : Char → Bool} {c : Char} {rest : List Char}
    (keptClass : ∀ a, P a = true → isKept a = true)
    (inside : ∀ a b lowerAfter, P a = true → P b = true → cutsBetween a b lowerAfter = false)
    (cut : ∀ a y lowerAfter, P a = true → isKept y = true → P y = false →
      cutsBetween a y lowerAfter = true)
    (first : P c = true) :
    wordPieces (c :: rest) = (c :: rest.takeWhile P) :: wordPieces (rest.dropWhile P) := by
  have whole : c :: rest = (c :: rest.takeWhile P) ++ rest.dropWhile P := by simp
  rw [whole]
  refine wordPieces_append (fun a member => keptClass a ?_) (isPiece_classRun inside cut first)
  rcases List.mem_cons.mp member with rfl | later
  · exact first
  · exact List.mem_takeWhile_imp later

theorem lower_inside (a b : Char) (lowerAfter : Bool) (lowerA : isAsciiLower a = true)
    (lowerB : isAsciiLower b = true) : cutsBetween a b lowerAfter = false :=
  cutsBetween_of_lower (charClass_of_isAsciiLower lowerA) lowerB

theorem lower_cut (a y : Char) (lowerAfter : Bool) (lower : isAsciiLower a = true)
    (_ : isKept y = true) (notLower : isAsciiLower y = false) :
    cutsBetween a y lowerAfter = true := by
  cases upper : isAsciiUpper y with
  | true => exact cutsBetween_lower_upper lower upper
  | false =>
      apply cutsBetween_of_charClass
      rw [charClass_of_isAsciiLower lower]
      intro letter
      have := charClass_eq_asciiLetter letter.symm
      simp [upper, notLower] at this

/-- Two characters of one class other than the ASCII letters are never cut apart. -/
theorem inside_of_class {P : Char → Bool} {k : CharClass}
    (classOf : ∀ {a}, P a = true → charClass a = k) (notLetter : k ≠ .asciiLetter)
    (a b : Char) (lowerAfter : Bool) (inA : P a = true) (inB : P b = true) :
    cutsBetween a b lowerAfter = false :=
  cutsBetween_of_same_class (by rw [classOf inA, classOf inB]) (by rw [classOf inA]; exact notLetter)

/-- A character of a class is cut from a kept character outside it, when the class is all the
kept characters of its kind. -/
theorem cut_of_class {P : Char → Bool} {k : CharClass}
    (classOf : ∀ {a}, P a = true → charClass a = k)
    (ofClass : ∀ {y}, isKept y = true → charClass y = k → P y = true)
    (a y : Char) (lowerAfter : Bool) (inA : P a = true) (kept : isKept y = true)
    (notInY : P y = false) : cutsBetween a y lowerAfter = true := by
  apply cutsBetween_of_charClass
  rw [classOf inA]
  intro same
  rw [ofClass kept same.symm] at notInY
  cases notInY

/-- A capital and the run of capitals after it, when no lower-case letter follows the run, are a
piece in front of the kept characters after them. -/
theorem isPiece_capitals {c : Char} {rest : List Char} (upper : isAsciiUpper c = true)
    (noLower : ∀ d more, rest.dropWhile isAsciiUpper = d :: more → isAsciiLower d = false) :
    IsPiece (c :: rest.takeWhile isAsciiUpper)
      ((rest.dropWhile isAsciiUpper).takeWhile isKept) := by
  refine isPiece_upperRun ?_ ?_ upper fun _ member => List.mem_takeWhile_imp member
  · cases following : rest.dropWhile isAsciiUpper with
    | nil => rfl
    | cons d more =>
        cases kept : isKept d with
        | false => simp [kept, lowerFirst]
        | true => simp [kept, lowerFirst, noLower d more following]
  · intro a upperA
    cases following : rest.dropWhile isAsciiUpper with
    | nil => rfl
    | cons d more =>
        cases kept : isKept d with
        | false => simp [kept, startsPiece]
        | true =>
            simp only [List.takeWhile_cons, kept, if_true, startsPiece]
            apply cutsBetween_of_charClass
            rw [charClass_of_isAsciiUpper upperA]
            intro letter
            have := charClass_eq_asciiLetter letter.symm
            simp [dropWhile_head following, noLower d more following] at this

/-- A capital followed by lower-case letters takes them into its word. -/
theorem wordPieces_cons_capitalized {c d : Char} {more : List Char} (upper : isAsciiUpper c = true)
    (lower : isAsciiLower d = true) :
    wordPieces (c :: d :: more) =
      (c :: (d :: more).takeWhile isAsciiLower) :: wordPieces ((d :: more).dropWhile isAsciiLower) := by
  have lowerRun : IsPiece (d :: more.takeWhile isAsciiLower)
      ((more.dropWhile isAsciiLower).takeWhile isKept) :=
    isPiece_classRun lower_inside lower_cut lower
  have whole : c :: d :: more =
      (c :: (d :: more).takeWhile isAsciiLower) ++ (d :: more).dropWhile isAsciiLower := by
    simp
  rw [whole]
  refine wordPieces_append ?_ ?_
  · exact List.forall_mem_cons.mpr ⟨isKept_of_isAsciiUpper upper,
      fun _ later => isKept_of_isAsciiLower (List.mem_takeWhile_imp later)⟩
  · -- no cut between the capital and the first lower-case letter
    simp only [List.takeWhile_cons, List.dropWhile_cons, lower, if_true] at lowerRun ⊢
    exact ⟨by simp [startsPiece, cutsBetween_of_lower (charClass_of_isAsciiUpper upper) lower],
      lowerRun⟩

/-- A capital and the run of capitals after it are one word when no lower-case letter follows. -/
theorem wordPieces_cons_capitals {c : Char} {rest : List Char} (upper : isAsciiUpper c = true)
    (noLower : ∀ d more, rest.dropWhile isAsciiUpper = d :: more → isAsciiLower d = false) :
    wordPieces (c :: rest) =
      (c :: rest.takeWhile isAsciiUpper) :: wordPieces (rest.dropWhile isAsciiUpper) := by
  have whole : c :: rest = (c :: rest.takeWhile isAsciiUpper) ++ rest.dropWhile isAsciiUpper := by
    simp
  rw [whole]
  refine wordPieces_append ?_ (isPiece_capitals upper noLower)
  exact List.forall_mem_cons.mpr ⟨isKept_of_isAsciiUpper upper,
    fun _ later => isKept_of_isAsciiUpper (List.mem_takeWhile_imp later)⟩

/-- Capitals before a capitalised word: the last capital starts that word, the others are one word
of their own. -/
theorem wordPieces_cons_capitals_before {c last d : Char} {init more : List Char}
    (upper : isAsciiUpper c = true) (capital : ∀ z ∈ init ++ [last], isAsciiUpper z = true)
    (lower : isAsciiLower d = true) :
    wordPieces ((c :: init) ++ last :: d :: more) = (c :: init) :: wordPieces (last :: d :: more) := by
  have lastUpper : isAsciiUpper last = true := capital last (by simp)
  refine wordPieces_append ?_ ?_
  · exact List.forall_mem_cons.mpr ⟨isKept_of_isAsciiUpper upper,
      fun a later => isKept_of_isAsciiUpper (capital a (by simp [later]))⟩
  · simp only [List.takeWhile_cons, isKept_of_isAsciiUpper lastUpper,
      isKept_of_isAsciiLower lower, if_true]
    refine isPiece_upperRun (by simp [lowerFirst, isAsciiLower_eq_false_of_upper lastUpper])
      ?_ upper fun z member => capital z (by simp [member])
    -- every capital is cut from the last one, which a lower-case letter follows
    intro a upperA
    simp [startsPiece, cutsBetween_upper_upper upperA lastUpper, lowerFirst, lower]

end Tokens

/-- **The reader's tokens are the words of the three-step description.** The induction follows
the reader's scan; each branch takes a whole piece from the front of the text. -/
theorem caseTokens_eq_wordPieces (cs : List Char) : caseTokens cs = wordPieces cs := by
  fun_induction caseTokens cs with
  | case1 => rfl
  | case2 c rest upper capitals after d more afterEq lower noCapitals inductionHypothesis =>
      -- no second capital: the rest starts with the lower-case letters that join `c`
      have restEq : rest = d :: more := by
        have whole := @List.takeWhile_append_dropWhile _ isAsciiUpper rest
        simp only [capitals, after] at noCapitals afterEq
        rw [noCapitals, afterEq, List.nil_append] at whole
        exact whole.symm
      rw [inductionHypothesis]
      subst restEq
      rw [wordPieces_cons_capitalized upper lower]
  | case3 c rest upper capitals after d more afterEq lower k ks someCapitals inductionHypothesis =>
      -- the last capital starts the next piece, since a lower-case letter follows it
      rw [inductionHypothesis]
      obtain ⟨init, last, split⟩ : ∃ init last, capitals = init ++ [last] := by
        rcases List.eq_nil_or_concat' capitals with empty | found
        · rw [someCapitals] at empty
          cases empty
        · exact found
      have capital : ∀ z ∈ init ++ [last], isAsciiUpper z = true := fun _ member =>
        List.mem_takeWhile_imp (split ▸ member)
      have restEq : rest = init ++ last :: d :: more := by
        have whole := @List.takeWhile_append_dropWhile _ isAsciiUpper rest
        change capitals ++ after = rest at whole
        rw [split, afterEq] at whole
        simpa using whole.symm
      have dropped : rest.drop (capitals.length - 1) = last :: d :: more := by
        rw [restEq, split]
        simp
      have whole : c :: rest = (c :: init) ++ last :: d :: more := by
        rw [restEq]
        rfl
      rw [dropped, split, List.dropLast_concat, whole, wordPieces_cons_capitals_before upper capital lower]
  | case4 c rest upper capitals after d more afterEq notLower inductionHypothesis =>
      rw [inductionHypothesis, wordPieces_cons_capitals upper]
      intro d' more' following
      simp only [after] at afterEq
      rw [afterEq] at following
      cases following
      simpa using notLower
  | case5 c rest upper capitals after afterEq inductionHypothesis =>
      rw [inductionHypothesis, wordPieces_cons_capitals upper]
      intro d' more' following
      simp only [after] at afterEq
      rw [afterEq] at following
      cases following
  | case6 c rest notUpper lower inductionHypothesis =>
      rw [inductionHypothesis, wordPieces_cons_classRun (fun _ => isKept_of_isAsciiLower) lower_inside
        lower_cut lower]
  | case7 c rest notUpper notLower digit inductionHypothesis =>
      rw [inductionHypothesis, wordPieces_cons_classRun (fun _ => isKept_of_isDecimalDigit)
        (inside_of_class charClass_of_isDecimalDigit (by decide))
        (cut_of_class charClass_of_isDecimalDigit fun _ same => charClass_eq_digit same) digit]
  | case8 c rest notUpper notLower notDigit other inductionHypothesis =>
      rw [inductionHypothesis, wordPieces_cons_classRun (fun _ => isKept_of_isOtherLetter)
        (inside_of_class charClass_of_isOtherLetter (by decide))
        (cut_of_class charClass_of_isOtherLetter isOtherLetter_of_charClass) other]
  | case9 c rest notUpper notLower notDigit notOther inductionHypothesis =>
      rw [inductionHypothesis, wordPieces_cons_of_not_kept rest (isKept_eq_false (by simpa using notUpper)
        (by simpa using notLower) (by simpa using notDigit) (by simpa using notOther))]

/-- **The words of an identifier.** `splitIdentifier` lower-cases the pieces of the maximal runs of
kept characters, each run cut wherever the boundary rule says. -/
theorem splitIdentifier_eq_wordPieces (identifier : String) :
    splitIdentifier identifier =
      (wordPieces identifier.toList).map fun piece => lower (String.ofList piece) := by
  have separatorsDropped : ∀ c, isSeparator c = true → (!isKept c) = true := fun c separator => by
    simp [isKept_eq_false_of_isSeparator separator]
  unfold splitIdentifier wordPieces
  rw [← flatMap_splitRuns separatorsDropped, List.flatMap_assoc, List.map_flatMap]
  congr 1
  funext piece
  rw [caseTokens_eq_wordPieces]
  rfl

end ProjectIndex.Keyword
