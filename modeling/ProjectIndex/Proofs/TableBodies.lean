import Mathlib
import ProjectIndex.Sql.Reader

/-!
Contract: reading a migration fails exactly at a table body that never closes.

`readTables` scans the comment-free text for table heads, left to right, and reads the body after
each head's opening parenthesis up to the parenthesis that closes it. The reading fails exactly when
some head's parenthesis is never closed, that is, when opening minus closing parentheses counted
from it never comes back to zero before the text ends; the failure then names the line of the
leftmost such parenthesis, and nothing else makes the reading fail.

The pattern side rests on one fact about the matcher: every answer of `matchWith` is an answer of
its continuation, at a position no earlier than where matching started. From it, a head match ends
right after its opening parenthesis, and the matches of `findAll` come left to right without
overlap.

Owns: `parenDepth`, `Unclosed`, `closeScan`, `parseSql_error_iff`.
-/

namespace ProjectIndex.Text.Pattern

/-! ### Answers of the matcher -/

section Answers

variable {α : Type} {s : Array Char}

/-- Every answer of a match is an answer of its continuation, at the start or later. -/
theorem matchWith_some {p : Pattern} {pos : Nat} {caps : Captures} {k : Nat → Captures → Option α}
    {r : α} (answer : matchWith s p pos caps k = some r) :
    ∃ stop caps', pos ≤ stop ∧ k stop caps' = some r := by
  induction p generalizing pos caps k with
  | keyword w =>
    simp only [matchWith] at answer
    split at answer
    · exact ⟨_, _, by omega, answer⟩
    · cases answer
  | char c =>
    simp only [matchWith] at answer
    split at answer
    · exact ⟨_, _, by omega, answer⟩
    · cases answer
  | run cls least greedy =>
    simp only [matchWith] at answer
    split at answer
    · cases answer
    · obtain ⟨n, _, found⟩ := List.exists_of_findSome?_eq_some answer
      exact ⟨pos + n, caps, by omega, found⟩
  | boundary =>
    simp only [matchWith] at answer
    split at answer
    · exact ⟨pos, caps, le_rfl, answer⟩
    · cases answer
  | optional p ih =>
    simp only [matchWith] at answer
    split at answer
    · case h_1 first inner => cases answer; exact ih inner
    · exact ⟨pos, caps, le_rfl, answer⟩
  | alt p q ihp ihq =>
    simp only [matchWith] at answer
    split at answer
    · case h_1 first inner => cases answer; exact ihp inner
    · exact ihq answer
  | seq p q ihp ihq =>
    obtain ⟨mid, caps', before, rest⟩ := ihp answer
    obtain ⟨stop, caps'', after, found⟩ := ihq rest
    exact ⟨stop, caps'', before.trans after, found⟩
  | capture i p ih =>
    obtain ⟨stop, caps', after, found⟩ := ih answer
    exact ⟨stop, _, after, found⟩

/-- A single character answers only where the text has it, one position on. -/
theorem matchWith_char_some {c : Char} {pos : Nat} {caps : Captures}
    {k : Nat → Captures → Option α} {r : α} (answer : matchWith s (.char c) pos caps k = some r) :
    s[pos]? = some c ∧ k (pos + 1) caps = some r := by
  simp only [matchWith] at answer
  split at answer
  · case isTrue here => exact ⟨by simpa using here, answer⟩
  · cases answer

/-- A sequence answers only through an answer of its last pattern. -/
theorem matchWith_all_concat {ps : List Pattern} {q : Pattern} {pos : Nat} {caps : Captures}
    {k : Nat → Captures → Option α} {r : α}
    (answer : matchWith s (all (ps ++ [q])) pos caps k = some r) :
    ∃ mid caps', pos ≤ mid ∧ matchWith s q mid caps' k = some r := by
  induction ps generalizing pos caps with
  | nil => exact ⟨pos, caps, le_rfl, answer⟩
  | cons p ps ih =>
    obtain ⟨next, more, split⟩ := List.exists_cons_of_ne_nil (List.concat_ne_nil q ps)
    have unfolded : all (p :: next :: more) = .seq p (all (next :: more)) := rfl
    rw [List.cons_append, split, unfolded, matchWith, ← split] at answer
    obtain ⟨start, caps', before, rest⟩ := matchWith_some answer
    obtain ⟨mid, caps'', after, last⟩ := ih rest
    exact ⟨mid, caps'', before.trans after, last⟩

/-- A match found at a position starts there and ends no earlier. -/
theorem matchAt_some {p : Pattern} {pos : Nat} {m : Match} (found : p.matchAt s pos = some m) :
    m.start = pos ∧ pos ≤ m.stop := by
  obtain ⟨stop, caps, after, answer⟩ := matchWith_some found
  cases answer
  exact ⟨rfl, after⟩

end Answers

/-! ### Matches left to right -/

section Scan

variable {p : Pattern} {s : Array Char}

/-- A search from a position finds a match at that position or later. -/
theorem searchFrom_some {pos : Nat} {m : Match} (found : p.searchFrom s pos = some m) :
    pos ≤ m.start ∧ p.matchAt s m.start = some m := by
  obtain ⟨i, _, at_i⟩ := List.exists_of_findSome?_eq_some found
  have start : m.start = pos + i := (matchAt_some at_i).1
  exact ⟨by omega, start ▸ at_i⟩

theorem mem_findAllFrom {fuel pos : Nat} {m : Match} (member : m ∈ p.findAllFrom s fuel pos) :
    pos ≤ m.start ∧ p.matchAt s m.start = some m := by
  induction fuel generalizing pos with
  | zero => simp [findAllFrom] at member
  | succ fuel ih =>
    simp only [findAllFrom] at member
    split at member
    · case h_1 first found =>
      obtain ⟨firstAfter, firstMatch⟩ := searchFrom_some found
      rcases List.mem_cons.mp member with rfl | later
      · exact ⟨firstAfter, firstMatch⟩
      · have stops := (matchAt_some firstMatch).2
        have := (ih later).1
        refine ⟨?_, (ih later).2⟩
        split at this <;> omega
    · cases member

/-- Each match of a scan ends no later than the next one starts. -/
theorem findAllFrom_pairwise {fuel pos : Nat} :
    (p.findAllFrom s fuel pos).Pairwise fun a b => a.stop ≤ b.start := by
  induction fuel generalizing pos with
  | zero => simp [findAllFrom]
  | succ fuel ih =>
    simp only [findAllFrom]
    split
    · case h_1 first found =>
      refine List.Pairwise.cons (fun later member => ?_) ih
      have := (mem_findAllFrom member).1
      split at this <;> omega
    · exact List.Pairwise.nil

theorem mem_findAll {m : Match} (member : m ∈ p.findAll s) : p.matchAt s m.start = some m :=
  (mem_findAllFrom member).2

theorem findAll_pairwise : (p.findAll s).Pairwise fun a b => a.stop ≤ b.start :=
  findAllFrom_pairwise

end Scan

end ProjectIndex.Text.Pattern

namespace ProjectIndex.Sql

open ProjectIndex.Text
open ProjectIndex.Text.Pattern

/-! ### Table heads -/

/-- A table head ends right after its opening parenthesis. -/
theorem createHead_matchAt {s : Array Char} {pos : Nat} {m : Match}
    (found : createHead.matchAt s pos = some m) :
    m.start = pos ∧ pos < m.stop ∧ s[m.stop - 1]? = some '(' := by
  unfold createHead Pattern.matchAt at found
  rw [← List.dropLast_append_getLast (List.cons_ne_nil _ _)] at found
  obtain ⟨mid, caps, after, last⟩ := matchWith_all_concat found
  obtain ⟨paren, answer⟩ := matchWith_char_some last
  cases answer
  exact ⟨rfl, Nat.lt_succ_of_le after, paren⟩

theorem createHead_findAll {s : Array Char} {m : Match} (member : m ∈ createHead.findAll s) :
    0 < m.stop ∧ s[m.stop - 1]? = some '(' := by
  obtain ⟨_, positive, paren⟩ := createHead_matchAt (mem_findAll member)
  exact ⟨by omega, paren⟩

/-- The parentheses of the heads come left to right: a head listed later has its parenthesis
further on. -/
theorem createHead_findAll_stop_lt {s : Array Char} {as bs : List Match} {a b : Match}
    (split : createHead.findAll s = as ++ a :: bs) (later : b ∈ bs) : a.stop < b.stop := by
  have ordered := findAll_pairwise (p := createHead) (s := s)
  rw [split, List.pairwise_append, List.pairwise_cons] at ordered
  have apart := ordered.2.1.1 b later
  have member : b ∈ createHead.findAll s := by simp [split, later]
  have := (createHead_matchAt (mem_findAll member)).2.1
  omega

/-! ### Closing parentheses -/

/-- Opening minus closing parentheses in a text. -/
def parenDepth (cs : List Char) : Int :=
  (cs.count '(' : Int) - cs.count ')'

/-- The parenthesis at `opening` is never closed: counted from it, opening minus closing
parentheses is not back at zero at any later point of the text, its end included. -/
def Unclosed (cs : List Char) (opening : Nat) : Prop :=
  ∀ pre ∈ (cs.drop opening).inits, pre ≠ [] → parenDepth pre ≠ 0

instance (cs : List Char) (opening : Nat) : Decidable (Unclosed cs opening) :=
  inferInstanceAs (Decidable (∀ pre ∈ (cs.drop opening).inits, pre ≠ [] → parenDepth pre ≠ 0))

/-- One character of the scan for a closing parenthesis: the depth so far, and the index of the
parenthesis that brings it back to zero once there is one. -/
def closeScan (acc : Int × Option Nat) (ci : Char × Nat) : Int × Option Nat :=
  match acc with
  | (_, some k) => (0, some k)
  | (depth, none) =>
    if ci.1 == '(' then (depth + 1, none)
    else if ci.1 == ')' then (if depth - 1 == 0 then (0, some ci.2) else (depth - 1, none))
    else (depth, none)

@[simp] theorem parenDepth_nil : parenDepth [] = 0 := rfl

theorem parenDepth_cons (c : Char) (cs : List Char) :
    parenDepth (c :: cs) = parenDepth [c] + parenDepth cs := by
  simp only [parenDepth, List.count_cons, List.count_nil]
  push_cast
  ring

theorem parenDepth_open : parenDepth ['('] = 1 := by decide

theorem parenDepth_close : parenDepth [')'] = -1 := by decide

theorem parenDepth_other {c : Char} (notOpen : c ≠ '(') (notClose : c ≠ ')') :
    parenDepth [c] = 0 := by
  simp [parenDepth, notOpen, notClose]

/-- The nonempty prefixes of `x :: xs` are `[x]` and `x` before each nonempty prefix of `xs`. -/
theorem forall_prefix_cons {d : Int} {x : Char} {xs : List Char} :
    (∀ pre, pre <+: x :: xs → pre ≠ [] → d + parenDepth pre ≠ 0) ↔
      d + parenDepth [x] ≠ 0 ∧
        ∀ pre, pre <+: xs → pre ≠ [] → d + parenDepth [x] + parenDepth pre ≠ 0 := by
  constructor
  · intro open_
    refine ⟨open_ [x] (by simp) (by simp), fun pre leading nonempty => ?_⟩
    have := open_ (x :: pre) (List.cons_prefix_cons.mpr ⟨rfl, leading⟩) (by simp)
    rwa [parenDepth_cons, ← add_assoc] at this
  · rintro ⟨first, rest⟩ pre leading nonempty
    rcases List.prefix_cons_iff.mp leading with rfl | ⟨tail, rfl, tailPrefix⟩
    · exact absurd rfl nonempty
    · rcases tail with _ | ⟨y, ys⟩
      · simpa using first
      · rw [parenDepth_cons, ← add_assoc]
        exact rest _ tailPrefix (by simp)

/-- Once the closing parenthesis is found, the scan keeps it. -/
theorem foldl_closeScan_found (xs : List (Char × Nat)) (d : Int) (k : Nat) :
    (xs.foldl closeScan (d, some k)).2 = some k := by
  induction xs generalizing d with
  | nil => rfl
  | cons x xs ih => exact ih 0

/-- From a positive depth, the scan finds no closing parenthesis exactly when the depth stays
away from zero over every nonempty prefix of the rest. -/
theorem foldl_closeScan_none_iff (xs : List Char) (d : Int) (n : Nat) (positive : 1 ≤ d) :
    ((xs.zipIdx n).foldl closeScan (d, none)).2 = none ↔
      ∀ pre, pre <+: xs → pre ≠ [] → d + parenDepth pre ≠ 0 := by
  induction xs generalizing d n with
  | nil =>
    simp only [List.zipIdx_nil, List.foldl_nil, true_iff]
    intro pre leading nonempty
    exact absurd (List.prefix_nil.mp leading) nonempty
  | cons x xs ih =>
    rw [List.zipIdx_cons, List.foldl_cons, forall_prefix_cons]
    by_cases opens : x = '('
    · subst opens
      have step : closeScan (d, none) ('(', n) = (d + 1, none) := rfl
      rw [step, ih _ _ (by omega), parenDepth_open]
      simp only [ne_eq, iff_and_self]
      omega
    by_cases closes : x = ')'
    · subst closes
      rw [parenDepth_close]
      by_cases back : d - 1 = 0
      · have step : closeScan (d, none) (')', n) = (0, some n) := by
          simp [closeScan, back]
        rw [step, foldl_closeScan_found]
        simp only [reduceCtorEq, false_iff, not_and]
        omega
      · have step : closeScan (d, none) (')', n) = (d - 1, none) := by
          simp [closeScan, back]
        rw [step, ih _ _ (by omega)]
        simp only [ne_eq, ← sub_eq_add_neg, iff_and_self]
        omega
    · have step : closeScan (d, none) (x, n) = (d, none) := by
        simp [closeScan, opens, closes]
      rw [step, ih _ _ positive, parenDepth_other opens closes]
      simp only [ne_eq, add_zero, iff_and_self]
      omega

/-- `balancedBody` is the scan for the closing parenthesis from the opening one. -/
theorem balancedBody_eq_scan (s : Array Char) (opening : Nat) :
    balancedBody s opening =
      (((s.toList.drop opening).zipIdx.foldl closeScan (0, none)).2.map fun k =>
        ((s.toList.drop opening).take k).drop 1) := by
  unfold balancedBody
  simp only []
  -- the definition's scan is `closeScan` once its pattern-matching lambda is unfolded
  split
  · case h_1 k found =>
    have scan : ((s.toList.drop opening).zipIdx.foldl closeScan (0, none)).2 = some k := found
    rw [scan, Option.map_some]
  · case h_2 found =>
    have scan : ((s.toList.drop opening).zipIdx.foldl closeScan (0, none)).2 = none := found
    rw [scan, Option.map_none]

/-- From an opening parenthesis, no body is read exactly when that parenthesis is never closed. -/
theorem balancedBody_eq_none_iff {s : Array Char} {opening : Nat}
    (paren : s[opening]? = some '(') :
    balancedBody s opening = none ↔ Unclosed s.toList opening := by
  obtain ⟨more, rest⟩ : ∃ more, s.toList.drop opening = '(' :: more := by
    obtain ⟨bound, value⟩ := List.getElem?_eq_some_iff.mp (show s.toList[opening]? = some '(' by
      simpa using paren)
    exact ⟨_, by rw [List.drop_eq_getElem_cons bound, value]⟩
  rw [balancedBody_eq_scan, Option.map_eq_none_iff, rest, List.zipIdx_cons, List.foldl_cons]
  have step : closeScan (0, none) ('(', 0) = (1, none) := rfl
  have first := @forall_prefix_cons 0 '(' more
  rw [zero_add, parenDepth_open] at first
  rw [step, foldl_closeScan_none_iff _ _ _ le_rfl, Unclosed, rest]
  simp only [List.mem_inits]
  constructor
  · intro open_ pre leading nonempty
    simpa using (first.mpr ⟨one_ne_zero, open_⟩) pre leading nonempty
  · intro open_
    exact (first.mp fun pre leading nonempty => by simpa using open_ pre leading nonempty).2

/-! ### Failing reads -/

/-- A fold that fails at an element independently of what it has built fails at the first such
element. -/
theorem foldlM_eq_error_iff {ε α β : Type} {f : β → α → Except ε β} (bad : α → Bool)
    (err : α → ε)
    (fails : ∀ b a, bad a = true → f b a = .error (err a))
    (passes : ∀ b a, bad a = false → ∃ b', f b a = .ok b') (l : List α) (init : β) (e : ε) :
    l.foldlM f init = .error e ↔ ∃ a, l.find? bad = some a ∧ err a = e := by
  induction l generalizing init with
  | nil => simp [pure, Except.pure]
  | cons a l ih =>
    rw [List.foldlM_cons, List.find?_cons]
    cases here : bad a
    · obtain ⟨b', ok⟩ := passes init a here
      simpa [ok, bind, Except.bind] using ih b'
    · simp [fails init a here, bind, Except.bind]

theorem bind_pure_eq_error {ε β γ : Type} {x : Except ε β} {g : β → γ} {e : ε} :
    (x >>= fun v => pure (g v)) = .error e ↔ x = .error e := by
  cases x <;> simp [bind, Except.bind, pure, Except.pure]

/-- The line of a position: one more than the line breaks before it. -/
def lineOf (cs : List Char) (position : Nat) : Nat :=
  (cs.take position).count '\n' + 1

/-- Reading the tables fails exactly at the first head whose body is not closed, with the line of
its opening parenthesis. -/
theorem readTables_eq_error_iff (text : String) (line : Nat) :
    readTables text = .error line ↔
      ∃ m, (createHead.findAll (stripComments text).toArray).find?
          (fun m => (balancedBody (stripComments text).toArray (m.stop - 1)).isNone) = some m ∧
        lineOf (stripComments text) (m.stop - 1) = line := by
  unfold readTables
  rw [bind_pure_eq_error, foldlM_eq_error_iff
    (fun m => (balancedBody (stripComments text).toArray (m.stop - 1)).isNone)
    (fun m => lineOf (stripComments text) (m.stop - 1)) ?fails ?passes]
  case fails =>
    intro tables m unclosed
    rw [Option.isNone_iff_eq_none] at unclosed
    simp [unclosed, lineOf, List.count_eq_countP, List.countP_eq_length_filter]
  case passes =>
    intro tables m closed
    obtain ⟨body, found⟩ := Option.isSome_iff_exists.mp (by simpa using closed)
    simp [found, pure, Except.pure]

theorem parseSql_eq_error_iff (text path : String) (e : SourceError) :
    parseSql text path = .error e ↔
      ∃ line, readTables text = .error line ∧ e = ⟨path, .unbalancedTable line⟩ := by
  rw [parseSql]
  cases readTables text <;> simp [eq_comm]

section Heads

variable {cs : List Char}

/-- For a table head, the body is missing exactly when its parenthesis is unclosed. -/
theorem isNone_balancedBody_iff {m : Match} (member : m ∈ createHead.findAll cs.toArray) :
    (balancedBody cs.toArray (m.stop - 1)).isNone = true ↔ Unclosed cs (m.stop - 1) := by
  rw [Option.isNone_iff_eq_none, balancedBody_eq_none_iff (createHead_findAll member).2,
    List.toList_toArray]

/-- The first head whose body is missing has the leftmost unclosed parenthesis. -/
theorem find?_unclosed_leftmost {m m' : Match}
    (found : (createHead.findAll cs.toArray).find?
      (fun m => (balancedBody cs.toArray (m.stop - 1)).isNone) = some m)
    (member : m' ∈ createHead.findAll cs.toArray) (unclosed : Unclosed cs (m'.stop - 1)) :
    m.stop ≤ m'.stop := by
  obtain ⟨_, before, after, split, earlier⟩ := List.find?_eq_some_iff_append.mp found
  have bad := (isNone_balancedBody_iff member).mpr unclosed
  rw [split, List.mem_append, List.mem_cons] at member
  rcases member with inBefore | rfl | inAfter
  · exact absurd (earlier m' inBefore) (by simp [bad])
  · exact le_rfl
  · exact (createHead_findAll_stop_lt split inAfter).le

end Heads

/-- **Unclosed table bodies.** Reading a migration fails exactly when some table head of the
comment-free text has an opening parenthesis that is never closed; the error then names the
path and the line of the leftmost such parenthesis, and no other error is possible. -/
theorem parseSql_error_iff (text path : String) (e : SourceError) :
    parseSql text path = .error e ↔
      ∃ m ∈ createHead.findAll (stripComments text).toArray,
        (stripComments text)[m.stop - 1]? = some '(' ∧
        Unclosed (stripComments text) (m.stop - 1) ∧
        (∀ m' ∈ createHead.findAll (stripComments text).toArray,
          Unclosed (stripComments text) (m'.stop - 1) → m.stop ≤ m'.stop) ∧
        e = ⟨path, .unbalancedTable (lineOf (stripComments text) (m.stop - 1))⟩ := by
  rw [parseSql_eq_error_iff]
  simp only [readTables_eq_error_iff]
  constructor
  · rintro ⟨line, ⟨m, found, rfl⟩, rfl⟩
    have member : m ∈ createHead.findAll (stripComments text).toArray :=
      List.mem_of_find?_eq_some found
    have paren := (createHead_findAll member).2
    refine ⟨m, member, by simpa using paren, ?_,
      fun m' member' => find?_unclosed_leftmost found member', rfl⟩
    exact (isNone_balancedBody_iff member).mp (List.find?_eq_some_iff_append.mp found).1
  · rintro ⟨m, member, -, unclosed, leftmost, rfl⟩
    -- the scan stops at some head; both it and `m` are leftmost among the unclosed heads
    cases found : (createHead.findAll (stripComments text).toArray).find?
        (fun m => (balancedBody (stripComments text).toArray (m.stop - 1)).isNone) with
    | none =>
      exact absurd ((isNone_balancedBody_iff member).mpr unclosed)
        (List.find?_eq_none.mp found m member)
    | some first =>
      have firstMember := List.mem_of_find?_eq_some found
      have firstUnclosed :=
        (isNone_balancedBody_iff firstMember).mp (List.find?_eq_some_iff_append.mp found).1
      have sameStop : first.stop = m.stop :=
        le_antisymm (find?_unclosed_leftmost found member unclosed)
          (leftmost first firstMember firstUnclosed)
      exact ⟨_, ⟨first, rfl, rfl⟩, by rw [sameStop]⟩

end ProjectIndex.Sql
