import Mathlib
import ProjectIndex.Glob

/-!
Contract: which paths a glob pattern matches.

The language of a pattern is read off the pattern's characters, left to right (`Spells`): `**/`
is empty or a run that ends in `/`, `**` not followed by `/` is any run, `*` (not followed by
`*`) is a run without `/`, `?` is one character other than `/`, `{` up to the first `}` after it
is one of the comma-separated options, each trimmed of blanks and taken literally, and a `{` with
no `}` after it, like every other character, is itself. `Spells` takes as a parameter which
characters the two `**` forms may span.

The matcher accepts a path exactly when the path, or the path less one final newline, is spelled
by the pattern with `**` spanning no newline (`accepts_iff_spells`). On paths without a newline
that is the plain glob language, where `**` spans anything.

The proof has three layers. The pieces of a pattern cover the texts the pattern spells
(`spells_iff_covers`). Each piece ends, from a position, exactly where a text it spans ends
(`mem_ends`), so the positions the matcher carries are the ends of the texts the pieces read so
far cover (`mem_runPieces`). The matcher's last test reads the whole path, or all but a final
newline.

Owns: `Spells`, `Piece.Spans`, `Covers`, `Occupies`, `mem_ends`, `mem_runPieces`,
`acceptsPieces_iff`, `spells_iff_covers`, `accepts_iff_spells`.
-/

namespace ProjectIndex.Glob

open ProjectIndex.Text

/-- The texts a pattern spells; `wild` says which characters `**` and `**/` may span. -/
inductive Spells (wild : Char → Bool) : List Char → List Char → Prop
  | done : Spells wild [] []
  | anyDirsEmpty {rest w : List Char} : Spells wild rest w →
      Spells wild ('*' :: '*' :: '/' :: rest) w
  | anyDirs {rest w : List Char} (d : List Char) : (∀ c ∈ d, wild c = true) → Spells wild rest w →
      Spells wild ('*' :: '*' :: '/' :: rest) (d ++ '/' :: w)
  | anyText {rest w : List Char} (d : List Char) : rest.head? ≠ some '/' →
      (∀ c ∈ d, wild c = true) → Spells wild rest w → Spells wild ('*' :: '*' :: rest) (d ++ w)
  | anySegment {rest w : List Char} (d : List Char) : rest.head? ≠ some '*' → (∀ c ∈ d, c ≠ '/') →
      Spells wild rest w → Spells wild ('*' :: rest) (d ++ w)
  | oneChar {rest w : List Char} (c : Char) : c ≠ '/' → Spells wild rest w →
      Spells wild ('?' :: rest) (c :: w)
  | choice {rest w : List Char} (body : List Char) (option : String) : '}' ∉ body →
      option ∈ (String.ofList body).splitOn "," → Spells wild rest w →
      Spells wild ('{' :: (body ++ '}' :: rest)) ((trimBlanks option).toList ++ w)
  | openBrace {rest w : List Char} : '}' ∉ rest → Spells wild rest w →
      Spells wild ('{' :: rest) ('{' :: w)
  | literal {rest w : List Char} (c : Char) : c ≠ '*' → c ≠ '?' → c ≠ '{' → Spells wild rest w →
      Spells wild (c :: rest) (c :: w)

/-- The texts one piece spans; `wild` as for `Spells`. -/
def Piece.Spans (wild : Char → Bool) : Piece → List Char → Prop
  | .anyDirs, w => w = [] ∨ ∃ d, w = d ++ ['/'] ∧ ∀ c ∈ d, wild c = true
  | .anyText, w => ∀ c ∈ w, wild c = true
  | .anySegment, w => ∀ c ∈ w, c ≠ '/'
  | .oneChar, w => ∃ c, w = [c] ∧ c ≠ '/'
  | .choice options, w => ∃ o ∈ options, w = o.toList
  | .literal c, w => w = [c]

/-- The texts a run of pieces covers, each piece spanning its part in turn. -/
def Covers (wild : Char → Bool) : List Piece → List Char → Prop
  | [], w => w = []
  | piece :: rest, w => ∃ u v, w = u ++ v ∧ piece.Spans wild u ∧ Covers wild rest v

/-- `w` stands in `cs` from position `p` to position `q`. -/
def Occupies (cs : List Char) (p : Nat) (w : List Char) (q : Nat) : Prop :=
  q = p + w.length ∧ cs.drop p = w ++ cs.drop q

/-! ### Positions in a text -/

section Positions

variable {cs : List Char} {p q : Nat} {u v w : List Char}

theorem occupies_iff_take : Occupies cs p w q ↔ q = p + w.length ∧ (cs.drop p).take w.length = w := by
  constructor
  · rintro ⟨ends, stands⟩
    rw [stands]
    exact ⟨ends, by simp⟩
  · rintro ⟨ends, taken⟩
    refine ⟨ends, ?_⟩
    conv_lhs => rw [← List.take_append_drop w.length (cs.drop p)]
    rw [taken, List.drop_drop, ends]

theorem occupies_append :
    Occupies cs p (u ++ v) q ↔ Occupies cs p u (p + u.length) ∧ Occupies cs (p + u.length) v q := by
  constructor
  · rintro ⟨ends, stands⟩
    have rest : cs.drop (p + u.length) = v ++ cs.drop q := by
      rw [← List.drop_drop, stands, List.append_assoc, List.drop_left]
    refine ⟨⟨rfl, ?_⟩, ⟨by simp [ends]; omega, rest⟩⟩
    rw [stands, rest, List.append_assoc]
  · rintro ⟨⟨_, first⟩, ⟨ends, second⟩⟩
    refine ⟨by simp [ends]; omega, ?_⟩
    rw [first, second, List.append_assoc]

theorem occupies_single {c : Char} : Occupies cs p [c] q ↔ q = p + 1 ∧ cs[p]? = some c := by
  rw [occupies_iff_take]
  constructor
  · rintro ⟨ends, taken⟩
    refine ⟨ends, ?_⟩
    have first := congrArg (·[0]?) taken
    simpa [List.getElem?_drop] using first
  · rintro ⟨ends, found⟩
    refine ⟨ends, ?_⟩
    obtain ⟨inside, rfl⟩ := List.getElem?_eq_some_iff.mp found
    rw [List.drop_eq_getElem_cons inside]
    rfl

/-- The positions `reachWithout` lists are the ends of the runs free of `stop` that start at `p`. -/
theorem mem_reachWithout {s : Array Char} {stop : Char → Bool} :
    q ∈ reachWithout s stop p ↔ ∃ w, (∀ c ∈ w, stop c = false) ∧ Occupies s.toList p w q := by
  unfold reachWithout
  simp only [List.mem_map, List.mem_range]
  set rest := s.toList.drop p
  set run := rest.takeWhile fun c => !stop c
  have runPrefix : run <+: rest := List.takeWhile_prefix _
  constructor
  · rintro ⟨i, within, rfl⟩
    -- the first `i` characters lie in the run, so none of them stops it
    have short : i ≤ run.length := by omega
    have inRun : rest.take i = run.take i := by
      rw [List.prefix_iff_eq_take.mp runPrefix, List.take_take, Nat.min_eq_left short]
    have fits : i ≤ rest.length := short.trans runPrefix.length_le
    refine ⟨rest.take i, fun c member => ?_, ?_⟩
    · rw [inRun] at member
      simpa using List.mem_takeWhile_imp (List.mem_of_mem_take member)
    · rw [occupies_iff_take]
      rw [List.length_take, Nat.min_eq_left fits]
      exact ⟨rfl, rfl⟩
  · rintro ⟨w, free, ends, stands⟩
    -- a run free of `stop` at `p` lies inside the longest one
    have longer : w.length ≤ run.length := by
      have split : run = w ++ (s.toList.drop q).takeWhile fun c => !stop c := by
        rw [show run = rest.takeWhile _ from rfl, show rest = s.toList.drop p from rfl, stands]
        exact List.takeWhile_append_of_pos fun c member => by simp [free c member]
      rw [split, List.length_append]
      omega
    exact ⟨w.length, by omega, ends.symm⟩

end Positions

/-! ### The matcher over positions -/

section Matcher

variable {s : Array Char} {p q : Nat}

theorem occupies_last {cs : List Char} {d : List Char} {x : Char}
    (stands : Occupies cs p (d ++ [x]) q) : cs[q - 1]? = some x := by
  obtain ⟨_, last⟩ := occupies_append.mp stands
  obtain ⟨ends, found⟩ := occupies_single.mp last
  rwa [ends, Nat.add_sub_cancel]

theorem mem_insertPositions {acc ps : List Nat} : q ∈ insertPositions acc ps ↔ q ∈ acc ∨ q ∈ ps := by
  induction ps generalizing acc with
  | nil => simp [insertPositions]
  | cons x rest ih =>
      unfold insertPositions at ih ⊢
      rw [List.foldl_cons, ih]
      by_cases seen : acc.contains x
      · have member : x ∈ acc := by simpa using seen
        rw [if_pos seen, List.mem_cons]
        constructor
        · rintro (old | later)
          · exact Or.inl old
          · exact Or.inr (Or.inr later)
        · rintro (old | rfl | later)
          · exact Or.inl old
          · exact Or.inl member
          · exact Or.inr later
      · rw [if_neg seen]
        simp [or_assoc]

theorem mem_foldl_ends (piece : Piece) :
    ∀ starts acc : List Nat,
      q ∈ starts.foldl (fun acc p => insertPositions acc (piece.ends s p)) acc ↔
        q ∈ acc ∨ ∃ p ∈ starts, q ∈ piece.ends s p
  | [], acc => by simp
  | start :: rest, acc => by
      rw [List.foldl_cons, mem_foldl_ends piece rest, mem_insertPositions]
      simp [or_assoc]

/-- **A piece ends where a text it spans ends.** From `p`, a piece may end at `q` exactly when
some text it spans, with `**` spanning no newline, stands in the path from `p` to `q`. -/
theorem mem_ends (piece : Piece) :
    q ∈ piece.ends s p ↔ ∃ w, piece.Spans (· != '\n') w ∧ Occupies s.toList p w q := by
  cases piece with
  | anyDirs =>
      simp only [Piece.ends, List.mem_cons, List.mem_filter, mem_reachWithout, Piece.Spans,
        Bool.and_eq_true, decide_eq_true_eq, beq_iff_eq]
      constructor
      · rintro (rfl | ⟨⟨w, free, stands⟩, after, slash⟩)
        · exact ⟨[], Or.inl rfl, by simp [Occupies]⟩
        -- a run past `p` is not empty, and the character before its end is the `/`
        have ends := stands.1
        rcases List.eq_nil_or_concat w with empty | ⟨d, x, rfl⟩
        · subst empty
          simp at after ends
          omega
        simp only [List.concat_eq_append] at stands free
        have last := occupies_last stands
        rw [Array.getElem?_toList] at last
        have isSlash : x = '/' := by simpa [last] using slash
        subst isSlash
        refine ⟨d ++ ['/'], Or.inr ⟨d, rfl, fun c member => ?_⟩, stands⟩
        simpa using free c (List.mem_append_left _ member)
      · rintro ⟨w, (rfl | ⟨d, rfl, free⟩), stands⟩
        · exact Or.inl (by simpa [Occupies] using stands.1)
        refine Or.inr ⟨⟨d ++ ['/'], fun c member => ?_, stands⟩, ?_⟩
        · rcases List.mem_append.mp member with inD | isSlash
          · simpa using free c inD
          · simp at isSlash
            simp [isSlash]
        have last := occupies_last stands
        rw [Array.getElem?_toList] at last
        exact ⟨by rw [stands.1]; simp, last⟩
  | anyText =>
      simp only [Piece.ends, mem_reachWithout, Piece.Spans, beq_eq_false_iff_ne, bne_iff_ne]
  | anySegment =>
      simp only [Piece.ends, mem_reachWithout, Piece.Spans, beq_eq_false_iff_ne]
  | oneChar =>
      -- one character other than `/` stands at `p` exactly when the path has such a character there
      have single : (∃ w, (∃ c, w = [c] ∧ c ≠ '/') ∧ Occupies s.toList p w q) ↔
          ∃ c, s[p]? = some c ∧ c ≠ '/' ∧ q = p + 1 := by
        constructor
        · rintro ⟨_, ⟨c, rfl, slash⟩, stands⟩
          obtain ⟨ends, found⟩ := occupies_single.mp stands
          exact ⟨c, by rwa [Array.getElem?_toList] at found, slash, ends⟩
        · rintro ⟨c, found, slash, ends⟩
          exact ⟨[c], ⟨c, rfl, slash⟩, occupies_single.mpr ⟨ends, by rwa [Array.getElem?_toList]⟩⟩
      simp only [Piece.Spans, single]
      cases found : s[p]? with
      | none => simp [Piece.ends, found]
      | some c => by_cases slash : c = '/' <;> simp [Piece.ends, found, slash]
  | choice options =>
      simp only [Piece.ends, Piece.Spans, List.mem_map, List.mem_filter, occursAt]
      constructor
      · rintro ⟨o, ⟨listed, occurs⟩, rfl⟩
        refine ⟨o.toList, ⟨o, listed, rfl⟩, occupies_iff_take.mpr ⟨by rw [String.length_toList], ?_⟩⟩
        simpa [String.length_toList] using occurs
      · rintro ⟨w, ⟨o, listed, rfl⟩, stands⟩
        obtain ⟨ends, taken⟩ := occupies_iff_take.mp stands
        refine ⟨o, ⟨listed, ?_⟩, by rw [ends, String.length_toList]⟩
        simpa [String.length_toList] using taken
  | literal c =>
      simp only [Piece.Spans, exists_eq_left, occupies_single, Array.getElem?_toList]
      by_cases found : s[p]? = some c <;> simp [Piece.ends, found]

/-- **The matcher carries the ends of the covered texts.** Run from a set of starts, the pieces
may end at `q` exactly when a text they cover stands from one of the starts to `q`. -/
theorem mem_runPieces :
    ∀ (pieces : List Piece) (starts : List Nat),
      q ∈ runPieces s starts pieces ↔
        ∃ p ∈ starts, ∃ w, Covers (· != '\n') pieces w ∧ Occupies s.toList p w q
  | [], starts => by
      simp only [runPieces, Covers]
      constructor
      · intro member
        exact ⟨q, member, [], rfl, by simp [Occupies]⟩
      · rintro ⟨p, member, w, rfl, ends, _⟩
        simpa [ends] using member
  | piece :: rest, starts => by
      rw [runPieces, mem_runPieces rest]
      simp only [mem_foldl_ends, List.not_mem_nil, false_or, mem_ends, Covers]
      constructor
      · rintro ⟨m, ⟨p, start, u, spans, first⟩, v, covers, second⟩
        have middle := first.1
        subst middle
        exact ⟨p, start, u ++ v, ⟨u, v, rfl, spans, covers⟩, occupies_append.mpr ⟨first, second⟩⟩
      · rintro ⟨p, start, _, ⟨u, v, rfl, spans, covers⟩, stands⟩
        obtain ⟨first, second⟩ := occupies_append.mp stands
        exact ⟨p + u.length, ⟨p, start, u, spans, first⟩, v, covers, second⟩

end Matcher

/-! ### The last test -/

section Whole

variable {cs w : List Char}

theorem occupies_whole : Occupies cs 0 w cs.length ↔ cs = w := by
  constructor
  · rintro ⟨_, stands⟩
    simpa using stands
  · rintro rfl
    exact ⟨by simp, by simp⟩

theorem occupies_allButNewline :
    (0 < cs.length ∧ cs[cs.length - 1]? = some '\n' ∧ Occupies cs 0 w (cs.length - 1)) ↔
      cs = w ++ ['\n'] := by
  constructor
  · rintro ⟨nonempty, last, _, stands⟩
    -- what stands after `w` is the one character left, the newline
    have inside : cs.length - 1 < cs.length := by omega
    have past : cs.drop (cs.length - 1 + 1) = [] := List.drop_eq_nil_of_le (by omega)
    obtain ⟨_, isNewline⟩ := List.getElem?_eq_some_iff.mp last
    rw [List.drop_eq_getElem_cons inside, isNewline, past] at stands
    rwa [List.drop_zero] at stands
  · rintro rfl
    refine ⟨by simp, by simp, by simp, by simp⟩

/-- The matcher accepts a path exactly when the pieces cover all of it, or all of it but one final
newline. -/
theorem acceptsPieces_iff (pieces : List Piece) (path : String) :
    acceptsPieces pieces path = true ↔
      ∃ body, (path.toList = body ∨ path.toList = body ++ ['\n']) ∧
        Covers (· != '\n') pieces body := by
  unfold acceptsPieces
  simp only [Bool.or_eq_true, Bool.and_eq_true, List.contains_iff_mem, mem_runPieces,
    List.mem_singleton, exists_eq_left, List.size_toArray, List.getElem?_toArray,
    decide_eq_true_eq, beq_iff_eq]
  constructor
  · rintro (⟨w, covers, stands⟩ | ⟨⟨nonempty, last⟩, w, covers, stands⟩)
    · exact ⟨w, Or.inl (occupies_whole.mp stands), covers⟩
    · exact ⟨w, Or.inr (occupies_allButNewline.mp ⟨nonempty, last, stands⟩), covers⟩
  · rintro ⟨w, (whole | allButNewline), covers⟩
    · exact Or.inl ⟨w, covers, occupies_whole.mpr whole⟩
    · obtain ⟨nonempty, last, stands⟩ := occupies_allButNewline.mpr allButNewline
      exact Or.inr ⟨⟨nonempty, last⟩, w, covers, stands⟩

end Whole

/-! ### The pieces of a pattern -/

section Pieces

variable {wild : Char → Bool}

theorem indexOf?_append_cons {c : Char} {body rest : List Char} (absent : c ∉ body) :
    indexOf? c (body ++ c :: rest) = some body.length := by
  unfold indexOf?
  induction body with
  | nil => simp [List.findIdx?_cons]
  | cons b bs ih =>
      have other : (b == c) = false := by
        rw [beq_eq_false_iff_ne]
        rintro rfl
        exact absent List.mem_cons_self
      rw [List.cons_append, List.findIdx?_cons, other, ih fun inRest => absent (List.mem_cons_of_mem _ inRest)]
      rfl

theorem indexOf?_eq_none {c : Char} {cs : List Char} : indexOf? c cs = none ↔ c ∉ cs := by
  simp only [indexOf?, List.findIdx?_eq_none_iff, beq_eq_false_iff_ne]
  constructor
  · exact fun neverC member => neverC c member rfl
  · rintro absent x member rfl
    exact absent member

theorem eq_append_of_indexOf? {c : Char} {cs : List Char} {k : Nat} (found : indexOf? c cs = some k) :
    ∃ body rest, cs = body ++ c :: rest ∧ c ∉ body ∧ body.length = k := by
  obtain ⟨inside, isC, before⟩ := List.findIdx?_eq_some_iff_getElem.mp found
  refine ⟨cs.take k, cs.drop (k + 1), ?_, fun member => ?_, by simp; omega⟩
  · have isC : cs[k] = c := by simpa using isC
    conv_lhs => rw [← List.take_append_drop k cs, List.drop_eq_getElem_cons inside]
    rw [isC]
  · obtain ⟨j, early, same⟩ := List.getElem_of_mem member
    simp only [List.length_take] at early
    have := before j (by omega)
    simp_all

/-- A `{` closed by a later `}` reads the options between them. -/
theorem parseChars_closed {body rest : List Char} (closed : '}' ∉ body) :
    parseChars ('{' :: (body ++ '}' :: rest)) =
      .choice (((String.ofList body).splitOn ",").map trimBlanks) :: parseChars rest := by
  have after : (body ++ '}' :: rest).drop (body.length + 1) = rest := by simp
  rw [parseChars.eq_6, indexOf?_append_cons closed]
  simp only [List.take_left, after]

/-- A `{` with no `}` after it stands for itself. -/
theorem parseChars_unclosed {rest : List Char} (unclosed : '}' ∉ rest) :
    parseChars ('{' :: rest) = .literal '{' :: parseChars rest := by
  rw [parseChars.eq_6, indexOf?_eq_none.mpr unclosed]

/-- **The pieces cover what the pattern spells.** -/
theorem spells_iff_covers {pattern w : List Char} :
    Spells wild pattern w ↔ Covers wild (parseChars pattern) w := by
  constructor
  · intro spells
    induction spells with
    | done => simp [parseChars, Covers]
    | anyDirsEmpty _ ih =>
        rw [parseChars.eq_2]
        exact ⟨[], _, rfl, Or.inl rfl, ih⟩
    | anyDirs d free _ ih =>
        rw [parseChars.eq_2]
        exact ⟨d ++ ['/'], _, by simp, Or.inr ⟨d, rfl, free⟩, ih⟩
    | anyText d notSlash free _ ih =>
        rw [parseChars.eq_3 _ fun tail isSlash => notSlash (by simp [isSlash])]
        exact ⟨d, _, rfl, free, ih⟩
    | anySegment d notStar noSlash _ ih =>
        rw [parseChars.eq_4 _ (fun tail isStar => notStar (by simp [isStar]))
          fun tail isStar => notStar (by simp [isStar])]
        exact ⟨d, _, rfl, noSlash, ih⟩
    | oneChar c notSlash _ ih =>
        rw [parseChars.eq_5]
        exact ⟨[c], _, rfl, ⟨c, rfl, notSlash⟩, ih⟩
    | choice body option closed listed _ ih =>
        rw [parseChars_closed closed]
        exact ⟨_, _, rfl, ⟨trimBlanks option, List.mem_map_of_mem listed, rfl⟩, ih⟩
    | openBrace unclosed _ ih =>
        rw [parseChars_unclosed unclosed]
        exact ⟨['{'], _, rfl, rfl, ih⟩
    | literal c notStar notQuery notBrace _ ih =>
        rw [parseChars.eq_7 _ _ (fun _ isStar => absurd isStar notStar)
          (fun _ isStar => absurd isStar notStar) notStar notQuery notBrace]
        exact ⟨[c], _, rfl, rfl, ih⟩
  · intro covers
    -- follow the reading of the pattern, one branch of `parseChars` at a time
    induction pattern using parseChars.induct generalizing w with
    | case1 =>
        rw [parseChars.eq_1] at covers
        rw [show w = [] from covers]
        exact .done
    | case2 rest ih =>
        rw [parseChars.eq_2] at covers
        obtain ⟨u, v, rfl, (rfl | ⟨d, rfl, free⟩), rest⟩ := covers
        · exact .anyDirsEmpty (ih rest)
        · rw [List.append_assoc]
          exact .anyDirs d free (ih rest)
    | case3 rest notSlash ih =>
        rw [parseChars.eq_3 _ notSlash] at covers
        obtain ⟨u, v, rfl, free, rest⟩ := covers
        refine .anyText u (fun head => ?_) free (ih rest)
        obtain ⟨tail, isSlash⟩ := List.head?_eq_some_iff.mp head
        exact notSlash tail isSlash
    | case4 rest notStarSlash notStar ih =>
        rw [parseChars.eq_4 _ notStarSlash notStar] at covers
        obtain ⟨u, v, rfl, noSlash, rest⟩ := covers
        refine .anySegment u (fun head => ?_) noSlash (ih rest)
        obtain ⟨tail, isStar⟩ := List.head?_eq_some_iff.mp head
        exact notStar tail isStar
    | case5 rest ih =>
        rw [parseChars.eq_5] at covers
        obtain ⟨u, v, rfl, ⟨c, rfl, notSlash⟩, rest⟩ := covers
        exact .oneChar c notSlash (ih rest)
    | case6 rest k found ih =>
        obtain ⟨body, after, rfl, closed, rfl⟩ := eq_append_of_indexOf? found
        have past : (body ++ '}' :: after).drop (body.length + 1) = after := by simp
        rw [parseChars_closed closed] at covers
        rw [past] at ih
        obtain ⟨u, v, rfl, ⟨o, listed, rfl⟩, rest⟩ := covers
        obtain ⟨option, split, rfl⟩ := List.mem_map.mp listed
        exact .choice body option closed split (ih rest)
    | case7 rest unclosed ih =>
        rw [parseChars_unclosed (indexOf?_eq_none.mp unclosed)] at covers
        obtain ⟨u, v, rfl, rfl, rest⟩ := covers
        exact .openBrace (indexOf?_eq_none.mp unclosed) (ih rest)
    | case8 c rest notStarStarSlash notStarStar notStar notQuery notBrace ih =>
        rw [parseChars.eq_7 c rest notStarStarSlash notStarStar notStar notQuery notBrace] at covers
        obtain ⟨u, v, rfl, rfl, rest⟩ := covers
        exact .literal c notStar notQuery notBrace (ih rest)

end Pieces

/-! ### The language of a pattern -/

section Language

/-- Which characters `**` may span matters only for the characters of the text. -/
theorem Spells.widen {wild wide : Char → Bool} {pattern w : List Char}
    (spells : Spells wild pattern w) (widens : ∀ c ∈ w, wild c = true → wide c = true) :
    Spells wide pattern w := by
  induction spells with
  | done => exact .done
  | anyDirsEmpty _ ih => exact .anyDirsEmpty (ih widens)
  | anyDirs d free _ ih =>
      exact .anyDirs d (fun c member => widens c (by simp [member]) (free c member))
        (ih fun c member => widens c (by simp [member]))
  | anyText d notSlash free _ ih =>
      exact .anyText d notSlash (fun c member => widens c (by simp [member]) (free c member))
        (ih fun c member => widens c (by simp [member]))
  | anySegment d notStar noSlash _ ih =>
      exact .anySegment d notStar noSlash (ih fun c member => widens c (by simp [member]))
  | oneChar c notSlash _ ih =>
      exact .oneChar c notSlash (ih fun c member => widens c (by simp [member]))
  | choice body option closed listed _ ih =>
      exact .choice body option closed listed (ih fun c member => widens c (by simp [member]))
  | openBrace unclosed _ ih =>
      exact .openBrace unclosed (ih fun c member => widens c (by simp [member]))
  | literal c notStar notQuery notBrace _ ih =>
      exact .literal c notStar notQuery notBrace (ih fun c member => widens c (by simp [member]))

/-- **What a glob pattern matches.** The matcher accepts a path exactly when the path, or the path
less one final newline, is spelled by the pattern with `**` spanning no newline. On a path without
a newline that is the glob language of the pattern, where `**` spans anything. -/
theorem accepts_iff_spells (pattern path : String) :
    (accepts pattern path = true ↔
      ∃ body, (path.toList = body ∨ path.toList = body ++ ['\n']) ∧
        Spells (· != '\n') pattern.toList body) ∧
    ('\n' ∉ path.toList →
      (accepts pattern path = true ↔ Spells (fun _ => true) pattern.toList path.toList)) := by
  have language : accepts pattern path = true ↔
      ∃ body, (path.toList = body ∨ path.toList = body ++ ['\n']) ∧
        Spells (· != '\n') pattern.toList body := by
    rw [accepts, acceptsPieces_iff, parse]
    simp only [spells_iff_covers]
  refine ⟨language, fun noNewline => ?_⟩
  rw [language]
  constructor
  · rintro ⟨body, (whole | allButNewline), spells⟩
    · rw [whole]
      exact spells.widen fun _ _ _ => rfl
    · exact absurd (by simp [allButNewline]) noNewline
  · intro spells
    -- no character of the path is a newline, so every span of `**` is one the matcher allows
    refine ⟨path.toList, Or.inl rfl, spells.widen fun c member _ => ?_⟩
    rw [bne_iff_ne]
    rintro rfl
    exact noNewline member

/-- `*.ts` matches a script name outside any folder. -/
theorem accepts_script_name :
    '\n' ∉ (String.ofList ['a', '.', 't', 's']).toList ∧
      accepts (String.ofList ['*', '.', 't', 's']) (String.ofList ['a', '.', 't', 's']) = true := by
  have noNewline : '\n' ∉ (String.ofList ['a', '.', 't', 's']).toList := by simp
  refine ⟨noNewline, ((accepts_iff_spells _ _).2 noNewline).mpr ?_⟩
  rw [String.toList_ofList, String.toList_ofList]
  exact .anySegment ['a'] (by simp) (by simp)
    (.literal '.' (by decide) (by decide) (by decide)
      (.literal 't' (by decide) (by decide) (by decide)
        (.literal 's' (by decide) (by decide) (by decide) .done)))

end Language

end ProjectIndex.Glob
