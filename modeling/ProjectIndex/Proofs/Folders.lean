import Mathlib
import ProjectIndex.Path.Posix

/-!
Contract: where a run of folder names stands in a path.

Reading a path text gives a root that is empty or one or two slashes, and segments that are
nonempty names other than `.` with no slash in them (`SegmentedPath.WellFormed`). Pieces written
each after a slash and closed by one more (`framed`, `/p₁/…/pₙ/`) contain another such text
exactly when the other's pieces are a run of theirs (`framed_infix_framed`). A folder written
between two slashes (`directoryText`) is the framed list of its segments after one empty piece for
each slash of its root, so a search for `/m/` in it is a search for the pieces of `m` among the
folder's parts (`infix_directoryText_iff`): a search that, for an empty `m`, finds the top folder
and every folder under a root, where no part is empty.

Owns: `framed`, `SegmentedPath.WellFormed`, `directoryText`, `UnderFolders`,
`infix_directoryText_iff`.
-/

namespace ProjectIndex.Path

/-! ### Splitting at a separator -/

section Split

variable {c x : Char}

theorem splitOn_cons_of_ne (rest : List Char) (other : x ≠ c) :
    ∃ first others, rest.splitOn c = first :: others ∧
      (x :: rest).splitOn c = (x :: first) :: others := by
  obtain ⟨first, others, split⟩ : ∃ first others, rest.splitOn c = first :: others :=
    List.exists_cons_of_ne_nil (List.splitOn_ne_nil c rest)
  refine ⟨first, others, split, ?_⟩
  have kept : (x == c) = false := beq_eq_false_iff_ne.mpr other
  simp only [List.splitOn] at split ⊢
  rw [List.splitOnP_cons_eq_if_modifyHead, kept, split]
  rfl

theorem not_mem_of_mem_splitOn : ∀ {cs piece : List Char}, piece ∈ cs.splitOn c → c ∉ piece
  | [], piece, member => by
      have empty : piece = [] := by simpa [List.splitOn] using member
      simp [empty]
  | x :: rest, piece, member => by
      by_cases separator : x = c
      · have split : (x :: rest).splitOn c = [] :: rest.splitOn c := by
          simp [List.splitOn, List.splitOnP_cons_eq_if_modifyHead, separator]
        rw [split] at member
        rcases List.mem_cons.mp member with rfl | later
        · simp
        · exact not_mem_of_mem_splitOn later
      · obtain ⟨first, others, split, splitCons⟩ := splitOn_cons_of_ne rest separator
        rw [splitCons] at member
        rcases List.mem_cons.mp member with rfl | later
        · have firstClear := not_mem_of_mem_splitOn (split ▸ List.mem_cons_self)
          simp [Ne.symm separator, firstClear]
        · exact not_mem_of_mem_splitOn (split ▸ List.mem_cons_of_mem _ later)

end Split

/-! ### Pieces between slashes -/

/-- Pieces written each after a slash, with one more slash at the end: `/p₁/…/pₙ/`. -/
def framed (pieces : List (List Char)) : List Char :=
  pieces.flatMap ('/' :: ·) ++ ['/']

section Framed

variable {x y : List Char} {xs ys : List (List Char)}

@[simp] theorem framed_nil : framed [] = ['/'] := rfl

@[simp] theorem framed_cons : framed (x :: xs) = '/' :: (x ++ framed xs) := by
  simp [framed]

theorem head?_framed : (framed xs).head? = some '/' := by
  cases xs <;> simp

theorem framed_eq_intercalate (nonempty : xs ≠ []) :
    framed xs = '/' :: (['/'].intercalate xs ++ ['/']) := by
  induction xs with
  | nil => exact absurd rfl nonempty
  | cons x rest ih =>
      cases rest with
      | nil => simp
      | cons y more =>
          rw [framed_cons, ih (List.cons_ne_nil _ _), List.intercalate_cons_cons]
          simp

/-- Two texts without a slash, each followed by a text that starts with one: the first whole text
leads the second exactly when the two texts agree and the first rest leads the second. -/
theorem append_prefix_append_iff {r s : List Char} (clearX : '/' ∉ x) (clearY : '/' ∉ y)
    (slashR : r.head? = some '/') (slashS : s.head? = some '/') :
    x ++ r <+: y ++ s ↔ x = y ∧ r <+: s := by
  obtain ⟨r, rfl⟩ := List.head?_eq_some_iff.mp slashR
  obtain ⟨s, rfl⟩ := List.head?_eq_some_iff.mp slashS
  induction x generalizing y with
  | nil =>
      cases y with
      | nil => simp
      | cons b y =>
          simp [List.cons_prefix_cons, List.ne_of_not_mem_cons clearY]
  | cons a x ih =>
      cases y with
      | nil =>
          simp [List.cons_prefix_cons, Ne.symm (List.ne_of_not_mem_cons clearX)]
      | cons b y =>
          rw [List.cons_append, List.cons_append, List.cons_prefix_cons,
            ih (List.not_mem_of_not_mem_cons clearX) (List.not_mem_of_not_mem_cons clearY)]
          simp [and_assoc]

/-- A text that starts with a slash stands in a text without one followed by `s` only inside `s`. -/
theorem infix_append_iff_of_head {l s : List Char} (slash : l.head? = some '/') (clear : '/' ∉ y) :
    l <:+: y ++ s ↔ l <:+: s := by
  induction y with
  | nil => rfl
  | cons b y ih =>
      obtain ⟨l, rfl⟩ := List.head?_eq_some_iff.mp slash
      rw [List.cons_append, List.infix_cons_iff, ih (List.not_mem_of_not_mem_cons clear)]
      simp [List.cons_prefix_cons, List.ne_of_not_mem_cons clear]

variable (clearXs : ∀ x ∈ xs, '/' ∉ x) (clearYs : ∀ y ∈ ys, '/' ∉ y)
include clearXs clearYs

theorem framed_prefix_framed : framed xs <+: framed ys ↔ xs <+: ys := by
  induction xs generalizing ys with
  | nil =>
      obtain ⟨t, slashed⟩ := List.head?_eq_some_iff.mp (head?_framed : (framed ys).head? = some '/')
      simp [slashed]
  | cons x xs ih =>
      cases ys with
      | nil =>
          have long : ¬ x ++ framed xs = [] := by simp [framed]
          simp [List.cons_prefix_cons, long]
      | cons y ys =>
          obtain ⟨clearX, clearRestX⟩ := List.forall_mem_cons.mp clearXs
          obtain ⟨clearY, clearRestY⟩ := List.forall_mem_cons.mp clearYs
          rw [framed_cons, framed_cons, List.cons_prefix_cons,
            append_prefix_append_iff clearX clearY head?_framed head?_framed,
            ih clearRestX clearRestY]
          simp

/-- **Framed pieces find runs.** Among pieces without a slash, one framed list stands in another
exactly when its pieces are a run of the other's. -/
theorem framed_infix_framed (nonempty : xs ≠ []) : framed xs <:+: framed ys ↔ xs <:+: ys := by
  induction ys with
  | nil =>
      obtain ⟨x, rest, rfl⟩ := List.exists_cons_of_ne_nil nonempty
      constructor
      · intro inside
        have bounded := inside.length_le
        simp [framed] at bounded
      · intro inside
        simp at inside
  | cons y ys ih =>
      obtain ⟨clearY, clearRest⟩ := List.forall_mem_cons.mp clearYs
      rw [List.infix_cons_iff, ← framed_prefix_framed clearXs clearYs, ← ih clearRest, framed_cons,
        List.infix_cons_iff, infix_append_iff_of_head head?_framed clearY]

end Framed

/-! ### Runs among parts -/

section Runs

variable {ps : List (List Char)} {r : List Char} {rest : List (List Char)}

theorem infix_cons_iff_of_head (differs : ps.head? ≠ some r) : ps <:+: r :: rest ↔ ps <:+: rest := by
  rw [List.infix_cons_iff]
  constructor
  · rintro (leads | inside)
    · rcases List.prefix_cons_iff.mp leads with empty | ⟨t, rfl, _⟩
      · rw [empty]
        exact List.nil_infix
      · simp at differs
    · exact inside
  · exact Or.inr

theorem infix_replicate_append (differs : ps.head? ≠ some []) (n : Nat) :
    ps <:+: List.replicate n [] ++ rest ↔ ps <:+: rest := by
  induction n with
  | zero => rfl
  | succ n ih => rw [List.replicate_succ, List.cons_append, infix_cons_iff_of_head differs, ih]

end Runs

/-! ### Well-formed paths -/

namespace SegmentedPath

/-- What reading a path text guarantees of the reading. -/
structure WellFormed (p : SegmentedPath) : Prop where
  root_slashes : p.root = "" ∨ p.root = "/" ∨ p.root = "//"
  segment_nonempty : ∀ seg ∈ p.segments, seg ≠ ""
  segment_ne_dot : ∀ seg ∈ p.segments, seg ≠ "."
  segment_clear : ∀ seg ∈ p.segments, '/' ∉ seg.toList

theorem rootOf_slashes (s : String) : rootOf s = "" ∨ rootOf s = "/" ∨ rootOf s = "//" := by
  unfold rootOf
  split <;> simp

theorem wellFormed_ofString (s : String) : (ofString s).WellFormed := by
  -- every segment is a nonempty piece of the split other than `.`
  have kept : ∀ seg ∈ (ofString s).segments,
      (∃ piece ∈ s.toList.splitOn '/', String.ofList piece = seg) ∧ seg ≠ "" ∧ seg ≠ "." := by
    intro seg member
    simpa [ofString] using member
  refine ⟨rootOf_slashes s, fun seg member => (kept seg member).2.1,
    fun seg member => (kept seg member).2.2, fun seg member => ?_⟩
  obtain ⟨⟨piece, split, rfl⟩, _⟩ := kept seg member
  rw [String.toList_ofList]
  exact not_mem_of_mem_splitOn split

theorem WellFormed.parent {p : SegmentedPath} (wf : p.WellFormed) : p.parent.WellFormed where
  root_slashes := wf.root_slashes
  segment_nonempty seg member := wf.segment_nonempty seg (List.mem_of_mem_dropLast member)
  segment_ne_dot seg member := wf.segment_ne_dot seg (List.mem_of_mem_dropLast member)
  segment_clear seg member := wf.segment_clear seg (List.mem_of_mem_dropLast member)

end SegmentedPath

/-! ### A folder between slashes -/

/-- A folder written between two slashes; the top folder, written `.`, is `//`. -/
def directoryText (folder : SegmentedPath) : String :=
  "/" ++ (if folder.toString == "." then "" else folder.toString) ++ "/"

section Directory

variable {folder : SegmentedPath}

theorem toList_joined (segments : List String) :
    ("/".intercalate segments).toList = ['/'].intercalate (segments.map String.toList) := by
  rw [String.toList_intercalate]
  rfl

/-- A folder's segments, when it has any, join to a text that is neither empty nor `.`. -/
theorem joined_of_cons (wf : folder.WellFormed) {seg : String} {more : List String}
    (segs : folder.segments = seg :: more) :
    "/".intercalate folder.segments ≠ "" ∧ "/".intercalate folder.segments ≠ "." := by
  have named := wf.segment_nonempty seg (by simp [segs])
  have notDot := wf.segment_ne_dot seg (by simp [segs])
  rw [segs]
  cases more with
  | nil =>
      rw [String.intercalate_singleton]
      exact ⟨named, notDot⟩
  | cons next others =>
      -- a slash follows the nonempty first segment, so the text has two characters at least
      have firstLong : 1 ≤ seg.toList.length :=
        List.length_pos_iff.mpr (String.toList_eq_nil_iff.not.mpr named)
      have long : 2 ≤ ("/".intercalate (seg :: next :: others)).toList.length := by
        rw [String.intercalate_cons_cons, String.toList_append, String.toList_append]
        simp only [List.length_append]
        have slash : ("/" : String).toList.length = 1 := rfl
        omega
      constructor
      · intro empty
        rw [empty] at long
        simp at long
      · intro dot
        rw [dot] at long
        simp at long

theorem framed_replicate (n : Nat) (xs : List (List Char)) :
    framed (List.replicate n [] ++ xs) = List.replicate n '/' ++ framed xs := by
  induction n with
  | zero => rfl
  | succ n ih => rw [List.replicate_succ, List.cons_append, framed_cons, ih]; rfl

/-- **A folder between slashes is its framed parts.** The framed list has an empty piece for each
slash of the root, then the segments, or one empty piece for a folder with no segments. -/
theorem directoryText_framed (wf : folder.WellFormed) :
    (directoryText folder).toList = framed (List.replicate folder.root.length [] ++
      if folder.segments = [] then [[]] else folder.segments.map String.toList) := by
  have rootChars : folder.root.toList = List.replicate folder.root.length '/' := by
    rcases wf.root_slashes with root | root | root <;> rw [root] <;> rfl
  obtain ⟨root, segments⟩ := folder
  simp only [directoryText, SegmentedPath.toString] at rootChars ⊢
  cases segments with
  | nil =>
      rcases wf.root_slashes with root | root | root <;> simp only at root <;> subst root <;> rfl
  | cons seg more =>
      obtain ⟨nonempty, notDot⟩ := joined_of_cons wf rfl
      simp only at nonempty notDot
      -- a root, or the joined segments, keep the folder from being written `.`
      have written : root ++ "/".intercalate (seg :: more) ≠ "." := by
        rcases wf.root_slashes with isRoot | isRoot | isRoot <;> simp only at isRoot <;> subst isRoot
        · simpa using notDot
        · intro dot
          simpa using congrArg String.toList dot
        · intro dot
          simpa using congrArg String.toList dot
      have shown : ¬ (root.isEmpty && ("/".intercalate (seg :: more)).isEmpty) = true := by
        simp [String.isEmpty_iff, nonempty]
      rw [if_neg shown, if_neg (by simpa using written), if_neg (List.cons_ne_nil _ _),
        framed_replicate, framed_eq_intercalate (by simp), String.toList_append,
        String.toList_append, String.toList_append, rootChars, toList_joined]
      -- the slash before the root's slashes may as well stand after them
      have slash : ("/" : String).toList = ['/'] := rfl
      rw [slash, List.singleton_append, ← List.cons_append, ← List.replicate_succ,
        List.replicate_succ', List.append_assoc, List.append_assoc, List.singleton_append]

end Directory

/-! ### Runs of folder names -/

namespace SegmentedPath

/-- `folder` lies under a directory `m`, as a search for `/m/` in the folder between slashes
finds it: the pieces of `m` between slashes are a run of the folder's parts, or `m` is empty and
the folder is the top folder or starts at a root. -/
def LiesUnder (folder : SegmentedPath) (m : String) : Prop :=
  m.toList.splitOn '/' <:+: folder.parts.map String.toList ∨
    (m = "" ∧ (folder.root ≠ "" ∨ folder.segments = []))

instance (folder : SegmentedPath) (m : String) : Decidable (folder.LiesUnder m) :=
  inferInstanceAs (Decidable (_ ∨ _))

example : (SegmentedPath.mk "" ["db", "migrations", "v1"]).LiesUnder "migrations/v1" := by decide

-- the empty directory takes the top folder, but no named one
example : (SegmentedPath.mk "" []).LiesUnder "" ∧ ¬ (SegmentedPath.mk "" ["db"]).LiesUnder "" := by
  decide

end SegmentedPath

section Search

variable {folder : SegmentedPath} {m : String}

theorem directoryPieces_clear (wf : folder.WellFormed) :
    ∀ y ∈ List.replicate folder.root.length [] ++
      (if folder.segments = [] then [[]] else folder.segments.map String.toList), '/' ∉ y := by
  intro y member
  rcases List.mem_append.mp member with blank | named
  · rw [(List.mem_replicate.mp blank).2]
    exact List.not_mem_nil
  · split at named
    · rw [List.mem_singleton.mp named]
      exact List.not_mem_nil
    · obtain ⟨seg, listed, rfl⟩ := List.mem_map.mp named
      exact wf.segment_clear seg listed

theorem parts_nonempty (wf : folder.WellFormed) : [] ∉ folder.parts.map String.toList := by
  intro member
  obtain ⟨part, listed, empty⟩ := List.mem_map.mp member
  have named : part = "" := String.toList_eq_nil_iff.mp empty
  unfold SegmentedPath.parts at listed
  split at listed
  · exact wf.segment_nonempty part listed named
  · rename_i rooted
    rcases List.mem_cons.mp listed with isRoot | inSegments
    · exact rooted (by simp [← isRoot, named])
    · exact wf.segment_nonempty part inSegments named

/-- **A search for `/m/` reads the folder's parts.** For `m` without a leading slash, `/m/` stands
in the folder between slashes exactly when the folder lies under `m`. -/
theorem infix_directoryText_iff (wf : folder.WellFormed) (trimmed : m.toList.head? ≠ some '/') :
    ("/" ++ m ++ "/").toList <:+: (directoryText folder).toList ↔ folder.LiesUnder m := by
  have pieces : ("/" ++ m ++ "/").toList = framed (m.toList.splitOn '/') := by
    rw [framed_eq_intercalate (List.splitOn_ne_nil _ _), List.intercalate_splitOn]
    simp
  rw [pieces, directoryText_framed wf,
    framed_infix_framed (fun _ member => not_mem_of_mem_splitOn member) (directoryPieces_clear wf)
      (List.splitOn_ne_nil _ _)]
  unfold SegmentedPath.LiesUnder
  cases chars : m.toList with
  | nil =>
      -- the empty directory is one empty piece: it stands where an empty piece does
      have empty : m = "" := String.toList_eq_nil_iff.mp chars
      rw [List.splitOn_nil, List.singleton_infix_iff, List.singleton_infix_iff,
        List.mem_append, List.mem_replicate]
      have noEmptyPart := parts_nonempty wf
      have rootLength : folder.root.length ≠ 0 ↔ folder.root ≠ "" :=
        String.length_eq_zero_iff.not
      by_cases segs : folder.segments = []
      · simp [segs, empty]
      · have noEmptySegment : [] ∉ folder.segments.map String.toList := by
          intro member
          obtain ⟨seg, listed, blank⟩ := List.mem_map.mp member
          exact wf.segment_nonempty seg listed (String.toList_eq_nil_iff.mp blank)
        simp [segs, empty, noEmptyPart, noEmptySegment, rootLength]
  | cons a rest =>
      have notSlash : a ≠ '/' := by simpa [chars] using trimmed
      have named : m ≠ "" := fun empty => by simp [empty] at chars
      obtain ⟨first, others, _, split⟩ := splitOn_cons_of_ne rest notSlash
      rw [split, infix_replicate_append (by simp)]
      simp only [named, false_and, or_false]
      -- the run starts with a named piece, so it is neither the empty piece nor the root
      by_cases segs : folder.segments = []
      · rw [if_pos segs, List.infix_singleton_iff]
        simp only [SegmentedPath.parts, segs, reduceCtorEq, false_or]
        split
        · simp
        · rw [List.map_cons, infix_cons_iff_of_head]
          · simp
          · rcases wf.root_slashes with root | root | root <;> simp_all
      · rw [if_neg segs]
        unfold SegmentedPath.parts
        split
        · rfl
        · rw [List.map_cons, infix_cons_iff_of_head]
          rcases wf.root_slashes with root | root | root <;> simp_all

end Search

end ProjectIndex.Path
