import Mathlib
import ProjectIndex.Sql.Reader

/-!
Contract: which comments a migration's reader skips.

The reader takes comments out in two passes: first every block comment, from `/*` to the next
`*/`, becomes one space, then every line comment, from `--` to the end of its line, is removed.
Reading left to right instead finds each comment where it starts: a `--` inside a block comment
belongs to the block comment, and a `/*` inside a line comment belongs to the line comment.

The two ways agree whenever no line comment holds a `/*` and every block comment closes
(`commentsClose`): the reader then reads the text with its comments taken out left to right, each
block comment leaving one space (`stripComments_eq_lexComments`, `parseSql_reads_lexed`). So the
line an unclosed table reports is counted in that copy, where a block comment spans no line
break. A `/*` inside a line comment instead opens a block comment that runs on to the next `*/`,
past the end of its line, and a `/*` that never closes is read as text.

Owns: `lexComments`, `holdsOpener`, `commentsClose`, `commentFree`, `parseSql_reads_lexed`.
-/

namespace ProjectIndex.Sql

open ProjectIndex.Text

/-! ### Comments found left to right -/

/-- The characters with every comment that a left-to-right reading finds taken out. A line
comment, from `--` to the end of its line, leaves its line break; a block comment, from `/*` to
the next `*/`, leaves one space, and when it never closes it runs to the end. -/
def lexComments : List Char → List Char
  | [] => []
  | '/' :: '*' :: rest =>
    match h : afterBlockClose rest with
    | some after =>
      have := afterBlockClose_length h
      ' ' :: lexComments after
    | none => [' ']
  | '-' :: '-' :: rest => lexComments (rest.dropWhile (· != '\n'))
  | c :: rest => c :: lexComments rest
termination_by cs => cs.length
decreasing_by
  all_goals
    have := length_dropWhile_le (· != '\n') rest
    simp only [List.length_cons]
    omega

/-- A `/*` stands in the characters. -/
def holdsOpener : List Char → Bool
  | '/' :: '*' :: _ => true
  | _ :: rest => holdsOpener rest
  | [] => false

/-- Read left to right, no line comment holds a `/*` and every block comment closes. -/
def commentsClose : List Char → Bool
  | [] => true
  | '/' :: '*' :: rest =>
    match h : afterBlockClose rest with
    | some after =>
      have := afterBlockClose_length h
      commentsClose after
    | none => false
  | '-' :: '-' :: rest =>
    !holdsOpener (rest.takeWhile (· != '\n')) && commentsClose (rest.dropWhile (· != '\n'))
  | _ :: rest => commentsClose rest
termination_by cs => cs.length
decreasing_by
  all_goals
    have := length_dropWhile_le (· != '\n') rest
    simp only [List.length_cons]
    omega

/-- No `/*` and no `--` stands in the characters. -/
def commentFree : List Char → Bool
  | '/' :: '*' :: _ => false
  | '-' :: '-' :: _ => false
  | _ :: rest => commentFree rest
  | [] => true

/-! ### One step of each pass -/

section Steps

variable {c : Char} {rest : List Char}

theorem stripBlockComments_cons (plain : ¬(c = '/' ∧ rest.head? = some '*')) :
    stripBlockComments (c :: rest) = c :: stripBlockComments rest := by
  rw [stripBlockComments]
  intro rest' same more
  exact plain ⟨same, by simp [more]⟩

theorem stripBlockComments_opener {after : List Char} (closes : afterBlockClose rest = some after) :
    stripBlockComments ('/' :: '*' :: rest) = ' ' :: stripBlockComments after := by
  rw [stripBlockComments]
  split
  · case h_1 after' found => rw [closes] at found; cases found; rfl
  · case h_2 found => rw [closes] at found; cases found

theorem stripBlockComments_unclosed (open_ : afterBlockClose rest = none) :
    stripBlockComments ('/' :: '*' :: rest) = '/' :: '*' :: rest := by
  rw [stripBlockComments]
  split
  · case h_1 after found => rw [open_] at found; cases found
  · rfl

theorem stripLineComments_cons (plain : ¬(c = '-' ∧ rest.head? = some '-')) :
    stripLineComments (c :: rest) = c :: stripLineComments rest := by
  rw [stripLineComments]
  intro rest' same more
  exact plain ⟨same, by simp [more]⟩

theorem stripLineComments_dashes :
    stripLineComments ('-' :: '-' :: rest) = stripLineComments (rest.dropWhile (· != '\n')) := by
  rw [stripLineComments]

theorem holdsOpener_of_cons (holds : holdsOpener (c :: rest) = false) :
    holdsOpener rest = false := by
  rcases rest with _ | ⟨d, more⟩
  · rfl
  · by_cases opener : c = '/' ∧ d = '*'
    · obtain ⟨rfl, rfl⟩ := opener
      simp [holdsOpener] at holds
    · rwa [holdsOpener] at holds
      rintro _ rfl ⟨⟩
      exact opener ⟨rfl, rfl⟩

theorem commentFree_of_cons (free : commentFree (c :: rest) = true) : commentFree rest = true := by
  rcases rest with _ | ⟨d, more⟩
  · rfl
  · by_cases opener : c = '/' ∧ d = '*'
    · obtain ⟨rfl, rfl⟩ := opener
      simp [commentFree] at free
    · by_cases dashes : c = '-' ∧ d = '-'
      · obtain ⟨rfl, rfl⟩ := dashes
        simp [commentFree] at free
      · rwa [commentFree] at free
        · rintro _ rfl ⟨⟩
          exact opener ⟨rfl, rfl⟩
        · rintro _ rfl ⟨⟩
          exact dashes ⟨rfl, rfl⟩

theorem commentFree_cons (notOpener : ¬(c = '/' ∧ rest.head? = some '*'))
    (notDashes : ¬(c = '-' ∧ rest.head? = some '-')) :
    commentFree (c :: rest) = commentFree rest := by
  rw [commentFree]
  · rintro r rfl rfl
    exact notOpener ⟨rfl, rfl⟩
  · rintro r rfl rfl
    exact notDashes ⟨rfl, rfl⟩

end Steps

/-! ### Left-to-right reading, one step at a time -/

section Lexing

variable {c : Char} {rest after : List Char}

theorem lexComments_opener (closes : afterBlockClose rest = some after) :
    lexComments ('/' :: '*' :: rest) = ' ' :: lexComments after := by
  rw [lexComments]
  split
  · case h_1 after' found => rw [closes] at found; cases found; rfl
  · case h_2 found => rw [closes] at found; cases found

theorem lexComments_unclosed (open_ : afterBlockClose rest = none) :
    lexComments ('/' :: '*' :: rest) = [' '] := by
  rw [lexComments]
  split
  · case h_1 after found => rw [open_] at found; cases found
  · rfl

theorem lexComments_dashes :
    lexComments ('-' :: '-' :: rest) = lexComments (rest.dropWhile (· != '\n')) := by
  rw [lexComments]

theorem lexComments_cons (notOpener : ∀ r, c = '/' → rest = '*' :: r → False)
    (notDashes : ∀ r, c = '-' → rest = '-' :: r → False) :
    lexComments (c :: rest) = c :: lexComments rest := by
  rw [lexComments] <;> assumption

theorem commentsClose_opener (closes : afterBlockClose rest = some after) :
    commentsClose ('/' :: '*' :: rest) = commentsClose after := by
  rw [commentsClose]
  split
  · case h_1 after' found => rw [closes] at found; cases found; rfl
  · case h_2 found => rw [closes] at found; cases found

theorem commentsClose_unclosed (open_ : afterBlockClose rest = none) :
    commentsClose ('/' :: '*' :: rest) = false := by
  rw [commentsClose]
  split
  · case h_1 after found => rw [open_] at found; cases found
  · rfl

theorem commentsClose_dashes :
    commentsClose ('-' :: '-' :: rest) =
      (!holdsOpener (rest.takeWhile (· != '\n')) &&
        commentsClose (rest.dropWhile (· != '\n'))) := by
  rw [commentsClose]

theorem commentsClose_cons (notOpener : ∀ r, c = '/' → rest = '*' :: r → False)
    (notDashes : ∀ r, c = '-' → rest = '-' :: r → False) :
    commentsClose (c :: rest) = commentsClose rest := by
  rw [commentsClose] <;> assumption

end Lexing

/-! ### The two passes read as one -/

section Passes

/-- A line comment runs to a line break, or to the end of the text. -/
theorem head?_dropWhile_line {cs : List Char} {d : Char}
    (found : (cs.dropWhile (· != '\n')).head? = some d) : d = '\n' := by
  have ends := List.head?_dropWhile_not (· != '\n') cs
  rw [found] at ends
  simpa using ends

/-- The block pass keeps a stretch without `/*` as it is, when no `*` follows it. -/
theorem stripBlockComments_append {line : List Char} (tail : List Char)
    (noOpener : holdsOpener line = false) (noStar : tail.head? ≠ some '*') :
    stripBlockComments (line ++ tail) = line ++ stripBlockComments tail := by
  induction line with
  | nil => rfl
  | cons c line ih =>
    -- a `/` of the stretch is followed by no `*`, inside the stretch or after it
    have plain : ¬(c = '/' ∧ (line ++ tail).head? = some '*') := by
      rintro ⟨rfl, star⟩
      cases line with
      | nil => exact noStar (by simpa using star)
      | cons d more =>
        simp only [List.cons_append, List.head?_cons, Option.some.injEq] at star
        subst star
        simp [holdsOpener] at noOpener
    rw [List.cons_append, stripBlockComments_cons plain, ih (holdsOpener_of_cons noOpener),
      List.cons_append]

/-- After the block pass a line comment ends where it ended before, when it holds no `/*`. -/
theorem dropWhile_stripBlockComments {cs : List Char}
    (noOpener : holdsOpener (cs.takeWhile (· != '\n')) = false) :
    (stripBlockComments cs).dropWhile (· != '\n') =
      stripBlockComments (cs.dropWhile (· != '\n')) := by
  have noStar : (cs.dropWhile (· != '\n')).head? ≠ some '*' := fun star =>
    absurd (head?_dropWhile_line star) (by decide)
  conv => lhs; rw [← List.takeWhile_append_dropWhile (p := (· != '\n')) (l := cs)]
  rw [stripBlockComments_append _ noOpener noStar,
    List.dropWhile_append_of_pos fun a member =>
      List.mem_takeWhile_imp (p := (· != '\n')) member]
  cases found : cs.dropWhile (· != '\n') with
  | nil => simp [stripBlockComments]
  | cons d more =>
    have breaks : d = '\n' := head?_dropWhile_line (by rw [found]; rfl)
    subst breaks
    rw [stripBlockComments_cons (by simp)]
    simp

/-- The block pass starts with a space or with the text's own first character. -/
theorem head?_stripBlockComments {cs : List Char} {x : Char}
    (first : (stripBlockComments cs).head? = some x) : x = ' ' ∨ cs.head? = some x := by
  rcases cs with _ | ⟨c, rest⟩
  · simp [stripBlockComments] at first
  · by_cases opener : c = '/' ∧ rest.head? = some '*'
    · obtain ⟨rfl, star⟩ := opener
      obtain ⟨more, rfl⟩ := List.head?_eq_some_iff.mp star
      cases closes : afterBlockClose more with
      | some after =>
        rw [stripBlockComments_opener closes] at first
        exact Or.inl (by simpa using first.symm)
      | none =>
        rw [stripBlockComments_unclosed closes] at first
        exact Or.inr first
    · rw [stripBlockComments_cons opener] at first
      exact Or.inr first

/-- A pair of characters the reading's match rules out at `c` does not start at `c`. -/
theorem not_pair_of {a b c : Char} {rest : List Char}
    (apart : ∀ r, c = a → rest = b :: r → False) :
    ¬(c = a ∧ rest.head? = some b) := by
  rintro ⟨same, next⟩
  obtain ⟨r, rfl⟩ := List.head?_eq_some_iff.mp next
  exact apart r same rfl

/-- When no line comment holds `/*` and every block comment closes, the two passes take out
exactly the comments that a left-to-right reading finds. -/
theorem stripComments_eq_lexComments (cs : List Char) (clean : commentsClose cs = true) :
    stripLineComments (stripBlockComments cs) = lexComments cs := by
  induction cs using lexComments.induct with
  | case1 => simp [stripBlockComments, stripLineComments, lexComments]
  | case2 rest after closes _ ih =>
    rw [commentsClose_opener closes] at clean
    rw [stripBlockComments_opener closes, stripLineComments_cons (by simp), ih clean,
      lexComments_opener closes]
  | case3 rest open_ =>
    rw [commentsClose_unclosed open_] at clean
    cases clean
  | case4 rest ih =>
    rw [commentsClose_dashes, Bool.and_eq_true, Bool.not_eq_true'] at clean
    rw [stripBlockComments_cons (by simp), stripBlockComments_cons (by simp),
      stripLineComments_dashes, dropWhile_stripBlockComments clean.1, ih clean.2,
      lexComments_dashes]
  | case5 c rest notOpener notDashes ih =>
    rw [commentsClose_cons notOpener notDashes] at clean
    -- after the block pass, a `-` is still followed by no `-`
    have plain : ¬(c = '-' ∧ (stripBlockComments rest).head? = some '-') := by
      rintro ⟨rfl, dash⟩
      rcases head?_stripBlockComments dash with space | same
      · exact absurd space (by decide)
      · exact not_pair_of notDashes ⟨rfl, same⟩
    rw [stripBlockComments_cons (not_pair_of notOpener), stripLineComments_cons plain, ih clean,
      lexComments_cons notOpener notDashes]

/-- Taking comments out leaves a space, a line break, or the text's own first character in
front. -/
theorem head?_lexComments {cs : List Char} {x : Char} (first : (lexComments cs).head? = some x) :
    x = ' ' ∨ x = '\n' ∨ cs.head? = some x := by
  induction cs using lexComments.induct with
  | case1 => simp [lexComments] at first
  | case2 rest after closes _ _ =>
    rw [lexComments_opener closes] at first
    exact Or.inl (by simpa using first.symm)
  | case3 rest open_ =>
    rw [lexComments_unclosed open_] at first
    exact Or.inl (by simpa using first.symm)
  | case4 rest ih =>
    rw [lexComments_dashes] at first
    rcases ih first with space | breaks | found
    · exact Or.inl space
    · exact Or.inr (Or.inl breaks)
    · exact Or.inr (Or.inl (head?_dropWhile_line found))
  | case5 c rest notOpener notDashes _ =>
    rw [lexComments_cons notOpener notDashes] at first
    exact Or.inr (Or.inr first)

/-- The text with its comments taken out holds no comment. -/
theorem commentFree_lexComments (cs : List Char) : commentFree (lexComments cs) = true := by
  induction cs using lexComments.induct with
  | case1 => simp [lexComments, commentFree]
  | case2 rest after closes _ ih =>
    rw [lexComments_opener closes, commentFree_cons (by simp) (by simp), ih]
  | case3 rest open_ =>
    rw [lexComments_unclosed open_]
    rfl
  | case4 rest ih => rw [lexComments_dashes, ih]
  | case5 c rest notOpener notDashes ih =>
    -- what follows `c` is a space, a line break or the next character of the text, so a pair
    -- that starts at `c` after it, and ends in neither, starts there in the text
    have kept : ∀ a b, b ≠ ' ' → b ≠ '\n' → ¬(c = a ∧ rest.head? = some b) →
        ¬(c = a ∧ (lexComments rest).head? = some b) := by
      rintro a b notSpace notBreak apart ⟨same, first⟩
      rcases head?_lexComments first with space | breaks | found
      · exact notSpace space
      · exact notBreak breaks
      · exact apart ⟨same, found⟩
    rw [lexComments_cons notOpener notDashes,
      commentFree_cons (kept _ _ (by decide) (by decide) (not_pair_of notOpener))
        (kept _ _ (by decide) (by decide) (not_pair_of notDashes)), ih]

theorem not_opener_of_commentFree {c : Char} {rest : List Char}
    (free : commentFree (c :: rest) = true) : ¬(c = '/' ∧ rest.head? = some '*') := by
  rintro ⟨rfl, star⟩
  obtain ⟨r, rfl⟩ := List.head?_eq_some_iff.mp star
  simp [commentFree] at free

theorem not_dashes_of_commentFree {c : Char} {rest : List Char}
    (free : commentFree (c :: rest) = true) : ¬(c = '-' ∧ rest.head? = some '-') := by
  rintro ⟨rfl, dash⟩
  obtain ⟨r, rfl⟩ := List.head?_eq_some_iff.mp dash
  simp [commentFree] at free

theorem stripBlockComments_of_commentFree {cs : List Char} (free : commentFree cs = true) :
    stripBlockComments cs = cs := by
  induction cs with
  | nil => simp [stripBlockComments]
  | cons c rest ih =>
    rw [stripBlockComments_cons (not_opener_of_commentFree free), ih (commentFree_of_cons free)]

theorem stripLineComments_of_commentFree {cs : List Char} (free : commentFree cs = true) :
    stripLineComments cs = cs := by
  induction cs with
  | nil => simp [stripLineComments]
  | cons c rest ih =>
    rw [stripLineComments_cons (not_dashes_of_commentFree free), ih (commentFree_of_cons free)]

/-- The reader takes nothing more out of a text whose comments are already taken out. -/
theorem stripComments_ofList_lexComments (cs : List Char) :
    stripComments (String.ofList (lexComments cs)) = lexComments cs := by
  rw [stripComments, String.toList_ofList,
    stripBlockComments_of_commentFree (commentFree_lexComments cs),
    stripLineComments_of_commentFree (commentFree_lexComments cs)]

/-- Reading a migration looks at its text only through the comment-free copy. -/
theorem parseSql_congr {a b : String} (same : stripComments a = stripComments b) (path : String) :
    parseSql a path = parseSql b path := by
  unfold parseSql readTables
  rw [same]

end Passes

/-- **Comments read left to right.** When no line comment holds `/*` and every block comment
closes, reading a migration is reading its text with the comments that a left-to-right reading
finds taken out, each block comment leaving one space: the same tables, or the same error at the
same line, counted in that copy. -/
theorem parseSql_reads_lexed {text : String} (clean : commentsClose text.toList = true)
    (path : String) :
    parseSql text path = parseSql (String.ofList (lexComments text.toList)) path :=
  parseSql_congr (by rw [stripComments_ofList_lexComments, stripComments,
    stripComments_eq_lexComments _ clean]) path

theorem parseSql_reads_lexed_migration :
    commentsClose "-- users\nCREATE TABLE a (x int); /* old:\nCREATE TABLE b (y int); -- */\nALTER TABLE a ADD y int;".toList = true ∧
      parseSql "-- users\nCREATE TABLE a (x int); /* old:\nCREATE TABLE b (y int); -- */\nALTER TABLE a ADD y int;" "m.sql" =
        parseSql (String.ofList (lexComments "-- users\nCREATE TABLE a (x int); /* old:\nCREATE TABLE b (y int); -- */\nALTER TABLE a ADD y int;".toList)) "m.sql" :=
  ⟨by decide +kernel, parseSql_reads_lexed (by decide +kernel) "m.sql"⟩

/-- A block comment that spans a line break leaves one space, so the line of an unclosed table
after it is counted without that break. -/
example : parseSql "/*\n*/CREATE TABLE t (" "m.sql" = .error ⟨"m.sql", .unbalancedTable 1⟩ := by
  decide +kernel

end ProjectIndex.Sql
