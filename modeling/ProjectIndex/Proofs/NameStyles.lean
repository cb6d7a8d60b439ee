import Mathlib
import ProjectIndex.Keyword.Normalizer
import ProjectIndex.Proofs.IdentifierWords

/-!
Contract: the words of a name written in one of the four common styles, and the keywords they
give.

A list of lower-case ASCII words can be written kebab-case (`attendance-modal`), snake_case,
camelCase (`attendanceModal`) or PascalCase (`AttendanceModal`). Written with separators, the
words come back as they were. Written with capitals, they come back too, except where two
one-letter words meet: the reader keeps capitals together as an acronym (`XMLParser` reads `xml`,
`parser`), so a capital that no lower-case letter follows stays with the capital before it. Each
run of adjacent capitalised one-letter words comes back as one word (`joinSingles`), and the
words come back unchanged exactly when no two capitalised one-letter words are adjacent.

Whatever the style, every word of a name's split is a keyword of the file exactly once, since the
keyword list keeps the first occurrence of each word.

Owns: `capitalize`, `kebabCase`, `snakeCase`, `camelCase`, `pascalCase`, `LowerWords`,
`joinSingles`, `NoAdjacentSingles`, the split of each style, `count_keywords_of_mem`.
-/

namespace ProjectIndex.Keyword

open ProjectIndex.Text

/-! ### Spellings -/

/-- A word with its first letter made a capital. -/
def capitalize : List Char → List Char
  | [] => []
  | c :: rest => c.toUpper :: rest

/-- The words joined by hyphens. -/
def kebabCase (words : List (List Char)) : List Char := ['-'].intercalate words

/-- The words joined by underscores. -/
def snakeCase (words : List (List Char)) : List Char := ['_'].intercalate words

/-- The words capitalised and run together. -/
def pascalCase (words : List (List Char)) : List Char := (words.map capitalize).flatten

/-- The first word as it is, then the others capitalised, run together. -/
def camelCase : List (List Char) → List Char
  | [] => []
  | first :: rest => first ++ pascalCase rest

/-- Words that are non-empty runs of lower-case ASCII letters. -/
def LowerWords (words : List (List Char)) : Prop :=
  ∀ word ∈ words, word ≠ [] ∧ ∀ c ∈ word, isAsciiLower c = true

instance (words : List (List Char)) : Decidable (LowerWords words) :=
  inferInstanceAs (Decidable (∀ word ∈ words, word ≠ [] ∧ ∀ c ∈ word, isAsciiLower c = true))

/-- Each run of adjacent one-letter words joined into one word. -/
def joinSingles : List (List Char) → List (List Char)
  | [] => []
  | word :: rest =>
    match word, rest with
    | [c], [_] :: _ => joinFront c (joinSingles rest)
    | _, _ => word :: joinSingles rest

/-- No two adjacent words are both one letter long. -/
def NoAdjacentSingles (words : List (List Char)) : Prop :=
  words.IsChain fun u v => ¬(u.length = 1 ∧ v.length = 1)

instance (words : List (List Char)) : Decidable (NoAdjacentSingles words) :=
  inferInstanceAs (Decidable (words.IsChain fun u v => ¬(u.length = 1 ∧ v.length = 1)))

/-! ### Lower-case ASCII letters -/

section Letters

variable {c : Char}

/-- The case mappings on the 26 lower-case letters, checked one by one. -/
theorem lowerLetters : ∀ n < 123, 97 ≤ n →
    (Char.ofNat n).toLower = Char.ofNat n ∧ isAsciiUpper (Char.ofNat n).toUpper = true ∧
      (Char.ofNat n).toUpper.toLower = Char.ofNat n ∧ (Char.ofNat n).toUpper.toNat < 128 := by
  decide

theorem lowerLetter (lower : isAsciiLower c = true) :
    c.toLower = c ∧ isAsciiUpper c.toUpper = true ∧ c.toUpper.toLower = c ∧
      c.toUpper.toNat < 128 := by
  rw [isAsciiLower_iff] at lower
  have facts := lowerLetters c.toNat (by omega) (by omega)
  rwa [Char.ofNat_toNat] at facts

/-- On ASCII text, full lower-casing is the ASCII mapping character by character. -/
theorem lowerFrom_of_ascii {cs : List Char} (ascii : ∀ c ∈ cs, c.toNat < 128) :
    ∀ before, lowerFrom before cs = cs.map Char.toLower := by
  induction cs with
  | nil => intro before; rfl
  | cons c rest inductionHypothesis =>
      intro before
      have small := ascii c List.mem_cons_self
      have notSigma : (c == 'Σ') = false := by
        rw [beq_eq_false_iff_ne]
        intro sigma
        subst sigma
        simp at small
      rw [lowerFrom, notSigma, if_neg Bool.false_ne_true,
        inductionHypothesis fun d member => ascii d (List.mem_cons_of_mem c member)]
      simp [lowerChar, small]

theorem lower_ofList_of_ascii {cs : List Char} (ascii : ∀ c ∈ cs, c.toNat < 128) :
    lower (String.ofList cs) = String.ofList (cs.map Char.toLower) := by
  rw [lower, String.toList_ofList, lowerFrom_of_ascii ascii]

theorem small_of_lower (lower : isAsciiLower c = true) : c.toNat < 128 := by
  rw [isAsciiLower_iff] at lower
  omega

/-- A lower-case word lower-cases to itself. -/
theorem map_toLower_of_lower {word : List Char} (lower : ∀ c ∈ word, isAsciiLower c = true) :
    word.map Char.toLower = word := by
  conv_rhs => rw [← List.map_id word]
  exact List.map_congr_left fun c member => (lowerLetter (lower c member)).1

theorem lower_ofList_of_lower {word : List Char} (lower : ∀ c ∈ word, isAsciiLower c = true) :
    Text.lower (String.ofList word) = String.ofList word := by
  rw [lower_ofList_of_ascii fun c member => small_of_lower (lower c member),
    map_toLower_of_lower lower]

end Letters

/-! ### Words joined by a separator -/

section Separated

variable {word rest : List Char} {words : List (List Char)}

theorem LowerWords.head {word : List Char} (lowerWords : LowerWords (word :: words)) :
    word ≠ [] ∧ ∀ c ∈ word, isAsciiLower c = true :=
  lowerWords word List.mem_cons_self

theorem LowerWords.tail {word : List Char} (lowerWords : LowerWords (word :: words)) :
    LowerWords words :=
  fun other member => lowerWords other (List.mem_cons_of_mem word member)

/-- A lower-case word is a whole piece when the run ends after it. -/
theorem isPiece_lowerWord (nonempty : word ≠ []) (lower : ∀ c ∈ word, isAsciiLower c = true) :
    IsPiece word [] := by
  obtain ⟨c, letters, rfl⟩ := List.exists_cons_of_ne_nil nonempty
  exact isPiece_run lower_inside (fun _ _ => rfl) (lower c List.mem_cons_self)
    fun z member => lower z (List.mem_cons_of_mem c member)

theorem wordPieces_lowerWord_append {mark : Char} (nonempty : word ≠ [])
    (lower : ∀ c ∈ word, isAsciiLower c = true) (dropped : isKept mark = false) :
    wordPieces (word ++ mark :: rest) = word :: wordPieces rest := by
  have whole : IsPiece word ((mark :: rest).takeWhile isKept) := by
    simpa [dropped] using isPiece_lowerWord nonempty lower
  rw [wordPieces_append (fun c member => isKept_of_isAsciiLower (lower c member)) whole,
    wordPieces_cons_of_not_kept rest dropped]

theorem wordPieces_lowerWord (nonempty : word ≠ []) (lower : ∀ c ∈ word, isAsciiLower c = true) :
    wordPieces word = [word] := by
  have whole : IsPiece word (([] : List Char).takeWhile isKept) := isPiece_lowerWord nonempty lower
  simpa [wordPieces_nil] using
    wordPieces_append (fun c member => isKept_of_isAsciiLower (lower c member)) whole

/-- Lower-case words joined by a character that is never kept come back as they were. -/
theorem wordPieces_intercalate {mark : Char} (dropped : isKept mark = false) :
    ∀ {words : List (List Char)}, LowerWords words → wordPieces ([mark].intercalate words) = words
  | [], _ => rfl
  | [word], lowerWords => by
      rw [List.intercalate_singleton]
      exact wordPieces_lowerWord lowerWords.head.1 lowerWords.head.2
  | word :: next :: more, lowerWords => by
      rw [List.intercalate_cons_cons, List.append_assoc, List.singleton_append,
        wordPieces_lowerWord_append lowerWords.head.1 lowerWords.head.2 dropped,
        wordPieces_intercalate dropped lowerWords.tail]

/-- A name whose words are lower-case words splits into them. -/
theorem split_of_wordPieces {name : List Char} (lowerWords : LowerWords words)
    (pieces : wordPieces name = words) :
    splitIdentifier (String.ofList name) = words.map String.ofList := by
  rw [splitIdentifier_eq_wordPieces, String.toList_ofList, pieces]
  exact List.map_congr_left fun word member => lower_ofList_of_lower (lowerWords word member).2

theorem split_kebabCase (lowerWords : LowerWords words) :
    splitIdentifier (String.ofList (kebabCase words)) = words.map String.ofList :=
  split_of_wordPieces lowerWords (wordPieces_intercalate (by decide) lowerWords)

theorem split_snakeCase (lowerWords : LowerWords words) :
    splitIdentifier (String.ofList (snakeCase words)) = words.map String.ofList :=
  split_of_wordPieces lowerWords (wordPieces_intercalate (by decide) lowerWords)

end Separated

/-! ### Joining one-letter words -/

section Singles

theorem joinSingles_singles (c d : Char) (more : List (List Char)) :
    joinSingles ([c] :: [d] :: more) = joinFront c (joinSingles ([d] :: more)) := rfl

/-- A word that is not a one-letter word followed by another stays a word of its own. -/
theorem joinSingles_cons_of_apart {word : List Char} {rest : List (List Char)}
    (apart : ¬∃ c d more, word = [c] ∧ rest = [d] :: more) :
    joinSingles (word :: rest) = word :: joinSingles rest := by
  rcases word with _ | ⟨c, _ | ⟨c', letters⟩⟩
  · simp [joinSingles]
  · rcases rest with _ | ⟨next, more⟩
    · simp [joinSingles]
    · rcases next with _ | ⟨d, _ | ⟨d', letters'⟩⟩
      · simp [joinSingles]
      · exact absurd ⟨c, d, more, rfl, rfl⟩ apart
      · simp [joinSingles]
  · simp [joinSingles]

theorem length_joinFront (c : Char) (groups : List (List Char)) :
    (joinFront c groups).length = max 1 groups.length := by
  cases groups <;> simp [joinFront]

theorem length_joinSingles_le (words : List (List Char)) :
    (joinSingles words).length ≤ words.length := by
  induction words with
  | nil => exact le_refl 0
  | cons word rest inductionHypothesis =>
      by_cases meets : ∃ c d more, word = [c] ∧ rest = [d] :: more
      · obtain ⟨c, d, more, rfl, rfl⟩ := meets
        rw [joinSingles_singles, length_joinFront]
        simp only [List.length_cons] at inductionHypothesis ⊢
        omega
      · rw [joinSingles_cons_of_apart meets]
        simpa using inductionHypothesis

/-- **The words come back unchanged exactly when no two one-letter words are adjacent.** -/
theorem joinSingles_eq_self_iff (words : List (List Char)) :
    joinSingles words = words ↔ NoAdjacentSingles words := by
  induction words with
  | nil => exact ⟨fun _ => List.isChain_nil, fun _ => rfl⟩
  | cons word rest inductionHypothesis =>
      by_cases meets : ∃ c d more, word = [c] ∧ rest = [d] :: more
      · obtain ⟨c, d, more, rfl, rfl⟩ := meets
        -- joining shortens the list, so it is not the list
        refine ⟨fun joined => ?_, fun apart => ?_⟩
        · have shorter := length_joinSingles_le ([d] :: more)
          have same := congrArg List.length joined
          rw [joinSingles_singles, length_joinFront] at same
          simp only [List.length_cons] at shorter same
          omega
        · simp [NoAdjacentSingles, List.isChain_cons_cons] at apart
      · rw [joinSingles_cons_of_apart meets, List.cons.injEq, eq_self_iff_true, true_and,
          inductionHypothesis]
        unfold NoAdjacentSingles
        rw [List.isChain_cons]
        constructor
        · intro chain
          refine ⟨fun next first singles => meets ?_, chain⟩
          obtain ⟨c, rfl⟩ := List.length_eq_one_iff.mp singles.1
          obtain ⟨d, rfl⟩ := List.length_eq_one_iff.mp singles.2
          cases rest with
          | nil => cases first
          | cons head more =>
              cases first
              exact ⟨c, d, more, rfl, rfl⟩
        · exact fun chain => chain.2

end Singles

/-! ### Words run together with capitals -/

section Capitals

variable {words : List (List Char)}

theorem pascalCase_nil : pascalCase [] = [] := rfl

theorem pascalCase_cons (word : List Char) (rest : List (List Char)) :
    pascalCase (word :: rest) = capitalize word ++ pascalCase rest := by
  simp [pascalCase]

/-- A PascalCase name starts with a capital, when it is not empty. -/
theorem pascalCase_head (lowerWords : LowerWords words) :
    ∀ d more, pascalCase words = d :: more → isAsciiUpper d = true := by
  intro d more spelled
  cases words with
  | nil => cases spelled
  | cons word rest =>
      obtain ⟨c, letters, rfl⟩ := List.exists_cons_of_ne_nil lowerWords.head.1
      rw [pascalCase_cons, capitalize, List.cons_append, List.cons.injEq] at spelled
      rw [← spelled.1]
      exact (lowerLetter (lowerWords.head.2 c List.mem_cons_self)).2.1

theorem lowerFirst_pascalCase (lowerWords : LowerWords words) :
    lowerFirst (pascalCase words) = false := by
  cases spelled : pascalCase words with
  | nil => rfl
  | cons d more => exact isAsciiLower_eq_false_of_upper (pascalCase_head lowerWords d more spelled)

/-- After a lower-case letter, a PascalCase name starts a new piece. -/
theorem startsPiece_pascalCase (lowerWords : LowerWords words) {a : Char}
    (lower : isAsciiLower a = true) : startsPiece a (pascalCase words) = true := by
  cases spelled : pascalCase words with
  | nil => rfl
  | cons d more => exact cutsBetween_lower_upper lower (pascalCase_head lowerWords d more spelled)

/-- A lower-case word is a whole piece in front of a PascalCase name. -/
theorem isPiece_lowerWord_pascalCase {word : List Char} (lowerWords : LowerWords words)
    (nonempty : word ≠ []) (lower : ∀ c ∈ word, isAsciiLower c = true) :
    IsPiece word (pascalCase words) := by
  obtain ⟨c, letters, rfl⟩ := List.exists_cons_of_ne_nil nonempty
  exact isPiece_run lower_inside (fun _ => startsPiece_pascalCase lowerWords)
    (lower c List.mem_cons_self) fun z member => lower z (List.mem_cons_of_mem c member)

/-- **Capitalised words are cut apart, except runs of one-letter words.** A capital followed by
lower-case letters is a piece of its own; a capital alone stays with the capital before it unless
a lower-case letter follows the next capital. -/
theorem cutPieces_pascalCase :
    ∀ {words : List (List Char)}, LowerWords words →
      cutPieces (pascalCase words) = joinSingles (words.map capitalize)
  | [], _ => rfl
  | word :: rest, lowerWords => by
      obtain ⟨c, letters, rfl⟩ := List.exists_cons_of_ne_nil lowerWords.head.1
      have first := lowerLetter (lowerWords.head.2 c List.mem_cons_self)
      have following := cutPieces_pascalCase lowerWords.tail
      rw [pascalCase_cons, capitalize]
      cases letters with
      | cons e more =>
          -- a longer word: a whole piece
          have lowerE := lowerWords.head.2 e (by simp)
          have piece : IsPiece (c.toUpper :: e :: more) (pascalCase rest) := by
            simp only [IsPiece]
            refine ⟨by simp [startsPiece, cutsBetween_of_lower
              (charClass_of_isAsciiUpper first.2.1) lowerE], ?_⟩
            exact isPiece_lowerWord_pascalCase lowerWords.tail (List.cons_ne_nil e more)
              fun z member => lowerWords.head.2 z (List.mem_cons_of_mem c member)
          rw [cutPieces_append piece, following, List.map_cons, capitalize,
            joinSingles_cons_of_apart (by simp)]
      | nil =>
          cases rest with
          | nil => simp [cutPieces, joinSingles, startsPiece, pascalCase_nil, capitalize]
          | cons next more =>
              obtain ⟨d, nextLetters, rfl⟩ := List.exists_cons_of_ne_nil lowerWords.tail.head.1
              have second := lowerLetter (lowerWords.tail.head.2 d List.mem_cons_self)
              rw [pascalCase_cons, capitalize] at following ⊢
              cases nextLetters with
              | nil =>
                  -- two one-letter words: the capitals stay together
                  have noLower := lowerFirst_pascalCase lowerWords.tail.tail
                  rw [List.singleton_append, cutPieces, if_neg (by
                    simp [startsPiece, cutsBetween_upper_upper first.2.1 second.2.1, noLower]),
                    following]
                  simp [capitalize, joinSingles_singles]
              | cons e rest' =>
                  -- a one-letter word before a longer one: the next capital starts a word
                  have lowerE := lowerWords.tail.head.2 e (by simp)
                  rw [List.singleton_append, cutPieces, if_pos (by
                    simp [startsPiece, cutsBetween_upper_upper first.2.1 second.2.1, lowerFirst,
                      lowerE]), following]
                  simp [capitalize, joinSingles_cons_of_apart]

end Capitals

/-! ### Lower-casing the joined words -/

section Lowering

variable {words : List (List Char)}

theorem joinFront_map (f : Char → Char) (c : Char) (groups : List (List Char)) :
    joinFront (f c) (groups.map (List.map f)) = (joinFront c groups).map (List.map f) := by
  cases groups <;> rfl

/-- Joining one-letter words looks only at lengths, so it commutes with a mapping of letters. -/
theorem joinSingles_map (f : Char → Char) (words : List (List Char)) :
    joinSingles (words.map (List.map f)) = (joinSingles words).map (List.map f) := by
  induction words with
  | nil => rfl
  | cons word rest inductionHypothesis =>
      by_cases meets : ∃ c d more, word = [c] ∧ rest = [d] :: more
      · obtain ⟨c, d, more, rfl, rfl⟩ := meets
        simp only [List.map_cons, List.map_nil] at inductionHypothesis ⊢
        rw [joinSingles_singles, joinSingles_singles, inductionHypothesis, joinFront_map]
      · have mappedApart : ¬∃ c d more,
            word.map f = [c] ∧ rest.map (List.map f) = [d] :: more := by
          rintro ⟨c, d, more, single, following⟩
          obtain ⟨c', rfl⟩ := List.length_eq_one_iff.mp (by simpa using congrArg List.length single)
          cases rest with
          | nil => cases following
          | cons next more' =>
              simp only [List.map_cons, List.cons.injEq] at following
              obtain ⟨d', rfl⟩ :=
                List.length_eq_one_iff.mp (by simpa using congrArg List.length following.1)
              exact meets ⟨c', d', more', rfl, rfl⟩
        rw [List.map_cons, joinSingles_cons_of_apart mappedApart, joinSingles_cons_of_apart meets,
          inductionHypothesis, List.map_cons]

theorem flatten_joinSingles (words : List (List Char)) :
    (joinSingles words).flatten = words.flatten := by
  induction words with
  | nil => rfl
  | cons word rest inductionHypothesis =>
      by_cases meets : ∃ c d more, word = [c] ∧ rest = [d] :: more
      · obtain ⟨c, d, more, rfl, rfl⟩ := meets
        rw [joinSingles_singles]
        cases joined : joinSingles ([d] :: more) with
        | nil => simp [joined] at inductionHypothesis
        | cons group groups =>
            rw [joined] at inductionHypothesis
            simp [joinFront, ← inductionHypothesis]
      · rw [joinSingles_cons_of_apart meets, List.flatten_cons, inductionHypothesis,
          List.flatten_cons]

/-- A capitalised lower-case word is made of ASCII letters and lower-cases back to the word. -/
theorem capitalize_letters {word : List Char} (lower : ∀ c ∈ word, isAsciiLower c = true) :
    (∀ c ∈ capitalize word, c.toNat < 128 ∧ isKept c = true) ∧
      (capitalize word).map Char.toLower = word := by
  cases word with
  | nil => simp [capitalize]
  | cons c rest =>
      have first := lowerLetter (lower c List.mem_cons_self)
      have later : ∀ d ∈ rest, isAsciiLower d = true := fun d member =>
        lower d (List.mem_cons_of_mem c member)
      refine ⟨fun d member => ?_, ?_⟩
      · rcases List.mem_cons.mp member with rfl | inRest
        · exact ⟨first.2.2.2, isKept_of_isAsciiUpper first.2.1⟩
        · exact ⟨small_of_lower (later d inRest), isKept_of_isAsciiLower (later d inRest)⟩
      · simp [capitalize, first.2.2.1, map_toLower_of_lower later]

theorem pascalCase_letters (lowerWords : LowerWords words) :
    ∀ c ∈ pascalCase words, c.toNat < 128 ∧ isKept c = true := by
  intro c member
  obtain ⟨spelled, inWords, inSpelled⟩ := List.mem_flatten.mp member
  obtain ⟨word, wordMember, rfl⟩ := List.mem_map.mp inWords
  exact (capitalize_letters (lowerWords word wordMember).2).1 c inSpelled

/-- Lower-casing the joined capitalised words gives the joined words. -/
theorem lower_joinSingles_capitalize (lowerWords : LowerWords words) :
    (joinSingles (words.map capitalize)).map (fun group => lower (String.ofList group)) =
      (joinSingles words).map String.ofList := by
  have ascii : ∀ group ∈ joinSingles (words.map capitalize), ∀ c ∈ group, c.toNat < 128 := by
    intro group member c inGroup
    have inFlat : c ∈ (joinSingles (words.map capitalize)).flatten :=
      List.mem_flatten.mpr ⟨group, member, inGroup⟩
    rw [flatten_joinSingles] at inFlat
    exact (pascalCase_letters lowerWords c inFlat).1
  have lowered : (words.map capitalize).map (List.map Char.toLower) = words := by
    rw [List.map_map]
    conv_rhs => rw [← List.map_id words]
    exact List.map_congr_left fun word member => (capitalize_letters (lowerWords word member).2).2
  rw [List.map_congr_left fun group member => lower_ofList_of_ascii (ascii group member),
    show (fun group => String.ofList (group.map Char.toLower)) =
      String.ofList ∘ List.map Char.toLower from rfl,
    ← List.map_map, ← joinSingles_map, lowered]

end Lowering

/-! ### The four styles -/

section Styles

variable {words : List (List Char)}

/-- **PascalCase.** The words come back, each run of adjacent one-letter words as one word. -/
theorem split_pascalCase (lowerWords : LowerWords words) :
    splitIdentifier (String.ofList (pascalCase words)) = (joinSingles words).map String.ofList := by
  rw [splitIdentifier_eq_wordPieces, String.toList_ofList,
    wordPieces_of_kept fun c member => (pascalCase_letters lowerWords c member).2,
    cutPieces_pascalCase lowerWords, lower_joinSingles_capitalize lowerWords]

/-- **camelCase.** The first word comes back, then the others as in PascalCase. -/
theorem split_camelCase {word : List Char} {rest : List (List Char)}
    (lowerWords : LowerWords (word :: rest)) :
    splitIdentifier (String.ofList (camelCase (word :: rest))) =
      String.ofList word :: (joinSingles rest).map String.ofList := by
  have kept : ∀ c ∈ camelCase (word :: rest), isKept c = true := by
    intro c member
    rcases List.mem_append.mp member with inWord | inRest
    · exact isKept_of_isAsciiLower (lowerWords.head.2 c inWord)
    · exact (pascalCase_letters lowerWords.tail c inRest).2
  rw [splitIdentifier_eq_wordPieces, String.toList_ofList, wordPieces_of_kept kept, camelCase,
    cutPieces_append (isPiece_lowerWord_pascalCase lowerWords.tail lowerWords.head.1
      lowerWords.head.2),
    cutPieces_pascalCase lowerWords.tail, List.map_cons, lower_joinSingles_capitalize lowerWords.tail,
    lower_ofList_of_lower lowerWords.head.2]

/-- camelCase for any list of words: the first word as it is, then the others as in PascalCase. -/
theorem split_camelCase_words (lowerWords : LowerWords words) :
    splitIdentifier (String.ofList (camelCase words)) =
      (words.take 1 ++ joinSingles words.tail).map String.ofList := by
  cases words with
  | nil => exact split_of_wordPieces lowerWords rfl
  | cons word rest =>
    rw [split_camelCase lowerWords, List.take_succ_cons, List.take_zero, List.tail_cons,
      List.singleton_append, List.map_cons]

theorem map_ofList_inj {groups words : List (List Char)} :
    groups.map String.ofList = words.map String.ofList ↔ groups = words :=
  (List.map_injective_iff.mpr fun _ _ same => String.ofList_injective same).eq_iff

end Styles

/-! ### Keywords -/

section Keywords

/-- One step of keeping first occurrences adds the word exactly when it is non-empty and new. -/
theorem keepFirst_step (acc : List String) (word : String) (distinct : acc.Nodup) :
    (if word.isEmpty || acc.contains word then acc else word :: acc).Nodup ∧
      ∀ w, w ∈ (if word.isEmpty || acc.contains word then acc else word :: acc) ↔
        w ∈ acc ∨ (w = word ∧ w ≠ "") := by
  by_cases skipped : (word.isEmpty || acc.contains word) = true
  · rw [if_pos skipped]
    simp only [Bool.or_eq_true, String.isEmpty_iff, List.contains_iff_mem] at skipped
    refine ⟨distinct, fun w => ⟨Or.inl, ?_⟩⟩
    rintro (old | ⟨rfl, nonempty⟩)
    · exact old
    · exact skipped.resolve_left nonempty
  · rw [if_neg skipped]
    simp only [Bool.or_eq_true, String.isEmpty_iff, List.contains_iff_mem, not_or] at skipped
    refine ⟨List.nodup_cons.mpr ⟨skipped.2, distinct⟩, fun w => ?_⟩
    rw [List.mem_cons]
    constructor
    · rintro (rfl | old)
      · exact Or.inr ⟨rfl, skipped.1⟩
      · exact Or.inl old
    · rintro (old | ⟨rfl, _⟩)
      · exact Or.inr old
      · exact Or.inl rfl

/-- Keeping first occurrences: the kept words are distinct, and they are the words met before
and the non-empty words of the list. -/
theorem foldl_keepFirst (words : List String) :
    ∀ acc : List String, acc.Nodup →
      (words.foldl (fun acc word => if word.isEmpty || acc.contains word then acc else word :: acc)
          acc).Nodup ∧
        ∀ w, w ∈ words.foldl (fun acc word =>
            if word.isEmpty || acc.contains word then acc else word :: acc) acc ↔
          w ∈ acc ∨ (w ∈ words ∧ w ≠ "") := by
  induction words with
  | nil => intro acc distinct; simp [distinct]
  | cons word rest inductionHypothesis =>
      intro acc distinct
      obtain ⟨stepDistinct, stepMem⟩ := keepFirst_step acc word distinct
      obtain ⟨runDistinct, runMem⟩ := inductionHypothesis _ stepDistinct
      rw [List.foldl_cons]
      refine ⟨runDistinct, fun w => ?_⟩
      rw [runMem, stepMem, List.mem_cons, or_and_right, or_assoc]

/-- A word occurs once among the deduplicated words when it is non-empty and among the words, and
not at all otherwise. -/
theorem count_dedupe (words : List String) (w : String) :
    (dedupe words).count w = if w ∈ words ∧ w ≠ "" then 1 else 0 := by
  have kept := foldl_keepFirst words [] List.nodup_nil
  unfold dedupe
  rw [List.count_reverse, List.Nodup.count kept.1]
  simp only [kept.2, List.not_mem_nil, false_or]

/-- Every non-empty word of a file's name is one of its keywords, exactly once. -/
theorem count_keywords_of_mem {synonyms : Synonyms} {name path word : String}
    {exports props : List String} (inName : word ∈ splitIdentifier name) (nonempty : word ≠ "") :
    (keywords synonyms name path exports props).count word = 1 := by
  unfold keywords
  have inRaw : word ∈ (splitIdentifier name ++ pathWords path ++ exports.flatMap splitIdentifier ++
      props.flatMap splitIdentifier).flatMap fun word =>
        word :: (synonyms.of word).map fun synonym => lower (trimBlanks synonym) :=
    List.mem_flatMap.mpr ⟨word, by simp [inName], List.mem_cons_self⟩
  rw [count_dedupe, if_pos ⟨inRaw, nonempty⟩]

end Keywords

/-! ### Spellings and keywords -/

/-- **The words of a name in each style, and its keywords.** For lower-case ASCII words, the
kebab-case and snake_case names split back into the words. The PascalCase name splits into the
words with each run of adjacent one-letter words joined, and the camelCase name into the first word
and then the others so joined; so they split back into the words exactly when no two capitalised
one-letter words are adjacent. Whenever a name splits into the words, each of them is a keyword of
the file exactly once. -/
theorem splitIdentifier_spellings {words : List (List Char)} (lowerWords : LowerWords words) :
    splitIdentifier (String.ofList (kebabCase words)) = words.map String.ofList ∧
      splitIdentifier (String.ofList (snakeCase words)) = words.map String.ofList ∧
      splitIdentifier (String.ofList (camelCase words)) =
        (words.take 1 ++ joinSingles words.tail).map String.ofList ∧
      (splitIdentifier (String.ofList (camelCase words)) = words.map String.ofList ↔
        NoAdjacentSingles words.tail) ∧
      splitIdentifier (String.ofList (pascalCase words)) = (joinSingles words).map String.ofList ∧
      (splitIdentifier (String.ofList (pascalCase words)) = words.map String.ofList ↔
        NoAdjacentSingles words) ∧
      ∀ (synonyms : Synonyms) (name path : String) (exports props : List String),
        splitIdentifier name = words.map String.ofList →
          ∀ word ∈ words,
            (keywords synonyms name path exports props).count (String.ofList word) = 1 := by
  refine ⟨split_kebabCase lowerWords, split_snakeCase lowerWords, split_camelCase_words lowerWords,
    ?_, split_pascalCase lowerWords, ?_, ?_⟩
  · rw [split_camelCase_words lowerWords, map_ofList_inj]
    -- the first word is kept whole, so only the later words can be joined
    cases words with
    | nil => exact ⟨fun _ => List.isChain_nil, fun _ => rfl⟩
    | cons word rest =>
        rw [List.take_succ_cons, List.take_zero, List.tail_cons, List.singleton_append,
          List.cons.injEq, joinSingles_eq_self_iff]
        simp
  · rw [split_pascalCase lowerWords, map_ofList_inj, joinSingles_eq_self_iff]
  · intro synonyms name path exports props split word member
    refine count_keywords_of_mem (by rw [split]; exact List.mem_map_of_mem member) ?_
    intro empty
    exact (lowerWords word member).1 (String.ofList_injective (empty.trans String.ofList_nil.symm))

theorem splitIdentifier_spellings_isOpen :
    LowerWords [['i', 's'], ['o', 'p', 'e', 'n']] ∧
      splitIdentifier (String.ofList (camelCase [['i', 's'], ['o', 'p', 'e', 'n']])) =
        [String.ofList ['i', 's'], String.ofList ['o', 'p', 'e', 'n']] := by
  have lowerWords : LowerWords [['i', 's'], ['o', 'p', 'e', 'n']] := by
    simp [LowerWords, isAsciiLower_iff]
  exact ⟨lowerWords, (splitIdentifier_spellings lowerWords).2.2.2.1.mpr (by decide)⟩

/-- Two capitalised one-letter words come back as one word: `AB` splits into `ab`. -/
theorem pascalCase_one_letter_words_join :
    splitIdentifier (String.ofList (pascalCase [['a'], ['b']])) = [String.ofList ['a', 'b']] ∧
      [String.ofList ['a', 'b']] ≠ [['a'], ['b']].map String.ofList := by
  refine ⟨?_, by simp⟩
  rw [split_pascalCase (by simp [LowerWords, isAsciiLower_iff])]
  rfl

end ProjectIndex.Keyword
