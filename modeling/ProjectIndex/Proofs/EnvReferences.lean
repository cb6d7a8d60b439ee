import Mathlib
import ProjectIndex.Config.Env
import ProjectIndex.Proofs.GlobLanguage

/-!
Environment references are replaced in one pass, left to right.

The reference pattern `${name}`, with a name of one or more characters other than `}`, is found
leftmost first and without overlaps. That reading is stated here without the reader: a list of
pieces that spells the text and takes a reference wherever one starts (`Leftmost`). There is
exactly one such reading (`Leftmost.unique`), and `envPieces` gives it.

Substitution replaces each reference of that reading by its variable's value, or keeps it as
written when the variable is not set, and keeps every other character; no value is read again
(`substituteChars_eq_expand`). Resolving first looks every name up, and the first name that has no
bytes in the environment stops it (`resolve_env_single_pass`).
-/

namespace ProjectIndex.Config

open ProjectIndex.Glob

namespace EnvPiece

/-- The text a piece is read from. -/
def source : EnvPiece → List Char
  | .char c => [c]
  | .ref name => '$' :: '{' :: (name ++ ['}'])

/-- What a piece becomes: a set variable's value, and anything else its own text. -/
def expand (env : Environment) : EnvPiece → List Char
  | .char c => [c]
  | .ref name =>
    match env.lookup (String.ofList name) with
    | some value => value.toList
    | none => source (.ref name)

end EnvPiece

/-- The text a reading spells. -/
def spelled (ps : List EnvPiece) : List Char := ps.flatMap EnvPiece.source

/-- A reference starts the text: `${`, one or more characters other than `}`, and `}`. -/
def StartsReference (cs : List Char) : Prop :=
  ∃ name rest, name ≠ [] ∧ '}' ∉ name ∧ cs = '$' :: '{' :: (name ++ '}' :: rest)

/-- A reading that takes every reference where it starts: a character stands alone only where no
reference starts, and a reference's name is one or more characters other than `}`. -/
inductive Leftmost : List EnvPiece → Prop
  | nil : Leftmost []
  | char {c : Char} {ps : List EnvPiece} :
      ¬ StartsReference (c :: spelled ps) → Leftmost ps → Leftmost (.char c :: ps)
  | ref {name : List Char} {ps : List EnvPiece} :
      name ≠ [] → '}' ∉ name → Leftmost ps → Leftmost (.ref name :: ps)

@[simp] theorem spelled_nil : spelled [] = [] := rfl

@[simp] theorem spelled_cons (p : EnvPiece) (ps : List EnvPiece) :
    spelled (p :: ps) = p.source ++ spelled ps := rfl

/-! ### Where a reference closes -/

section Close

variable {rest : List Char} {k : Nat}

/-- The first `}` of a text splits it into the characters before it and the rest. -/
theorem split_at_close (found : rest.findIdx? (· == '}') = some k) :
    rest = rest.take k ++ '}' :: rest.drop (k + 1) ∧ '}' ∉ rest.take k := by
  obtain ⟨body, after, split, absent, length⟩ := eq_append_of_indexOf? found
  subst split length
  simp [absent]

theorem take_succ_of_close (found : rest.findIdx? (· == '}') = some k) :
    rest.take (k + 1) = rest.take k ++ ['}'] := by
  obtain ⟨inside, isClose, -⟩ := List.findIdx?_eq_some_iff_getElem.mp found
  have close : rest[k] = '}' := by simpa using isClose
  simp [List.take_add_one, List.getElem?_eq_getElem inside, close]

/-- A name closed by the first `}` after one or more characters is not empty. -/
theorem take_ne_nil_of_close (found : rest.findIdx? (· == '}') = some (k + 1)) :
    rest.take (k + 1) ≠ [] := by
  have nonempty : rest ≠ [] := by
    rintro rfl
    simp at found
  simp [nonempty]

theorem startsReference_iff :
    StartsReference ('$' :: '{' :: rest) ↔ ∃ k, rest.findIdx? (· == '}') = some (k + 1) := by
  constructor
  · rintro ⟨name, after, named, closed, split⟩
    simp only [List.cons.injEq, true_and] at split
    have found : rest.findIdx? (· == '}') = some name.length := by
      rw [split]
      exact indexOf?_append_cons closed
    obtain ⟨k, length⟩ := Nat.exists_eq_succ_of_ne_zero (List.length_pos_iff.mpr named).ne'
    exact ⟨k, by rw [found, length]⟩
  · rintro ⟨k, found⟩
    obtain ⟨split, absent⟩ := split_at_close found
    exact ⟨rest.take (k + 1), rest.drop (k + 2), take_ne_nil_of_close found, absent, by rw [← split]⟩

/-- A text that does not begin with `${` starts no reference. -/
theorem not_startsReference {c : Char} (other : ∀ after, c = '$' → rest = '{' :: after → False) :
    ¬ StartsReference (c :: rest) := by
  rintro ⟨name, after, -, -, split⟩
  simp only [List.cons.injEq] at split
  exact other _ split.1 split.2

end Close

/-! ### The reading -/

theorem spelled_envPieces (cs : List Char) : spelled (envPieces cs) = cs := by
  fun_induction envPieces cs with
  | case1 => rfl
  | case2 rest k found ih =>
    have split := (split_at_close found).1
    simp only [spelled_cons, EnvPiece.source, ih]
    conv_rhs => rw [split]
    simp
  | case3 rest unclosed ih => simp [EnvPiece.source, ih]
  | case4 c rest other ih => simp [EnvPiece.source, ih]

theorem leftmost_envPieces (cs : List Char) : Leftmost (envPieces cs) := by
  fun_induction envPieces cs with
  | case1 => exact .nil
  | case2 rest k found ih =>
    obtain ⟨-, absent⟩ := split_at_close found
    exact .ref (take_ne_nil_of_close found) absent ih
  | case3 rest unclosed ih =>
    -- no `}` closes a name here, so the `$` stands alone
    refine .char ?_ ih
    rw [spelled_envPieces, startsReference_iff]
    rintro ⟨k, found⟩
    exact unclosed k found
  | case4 c rest other ih =>
    refine .char ?_ ih
    rw [spelled_envPieces]
    exact not_startsReference other

/-- Two readings that take every reference where it starts, and spell the same text, are the
same reading. -/
theorem Leftmost.unique {ps qs : List EnvPiece} (left : Leftmost ps) (right : Leftmost qs)
    (same : spelled ps = spelled qs) : ps = qs := by
  induction left generalizing qs with
  | nil =>
    cases right with
    | nil => rfl
    | char _ _ => simp [EnvPiece.source] at same
    | ref _ _ _ => simp [EnvPiece.source] at same
  | @char c ps alone _ ih =>
    cases right with
    | nil => simp [EnvPiece.source] at same
    | @char d qs _ rest =>
      simp only [spelled_cons, EnvPiece.source, List.singleton_append, List.cons.injEq] at same
      rw [same.1, ih rest same.2]
    | @ref name qs named closed _ =>
      -- the reference on the right starts where the left reads a lone character
      refine absurd ⟨name, spelled qs, named, closed, ?_⟩ alone
      simpa [EnvPiece.source] using same
  | @ref name ps named closed _ ih =>
    cases right with
    | nil => simp [EnvPiece.source] at same
    | @char d qs alone _ =>
      refine absurd ⟨name, spelled ps, named, closed, ?_⟩ alone
      simpa [EnvPiece.source] using same.symm
    | @ref name' qs _ closed' rest =>
      simp only [spelled_cons, EnvPiece.source, List.cons_append, List.cons.injEq, true_and,
        List.append_assoc, List.nil_append] at same
      -- both names end at the first `}`
      have names : name.length = name'.length := by
        have left : indexOf? '}' (name ++ '}' :: spelled ps) = some name.length :=
          indexOf?_append_cons closed
        have right : indexOf? '}' (name' ++ '}' :: spelled qs) = some name'.length :=
          indexOf?_append_cons closed'
        rw [same] at left
        exact Option.some.inj (left.symm.trans right)
      obtain ⟨rfl, tails⟩ := List.append_inj same names
      rw [ih rest (List.cons.inj tails).2]

theorem Leftmost.eq_envPieces {ps : List EnvPiece} (reading : Leftmost ps) :
    ps = envPieces (spelled ps) :=
  reading.unique (leftmost_envPieces _) (spelled_envPieces _).symm

/-! ### Substitution along the reading -/

theorem substituteChars_eq_expand (env : Environment) (cs : List Char) :
    substituteChars env cs = (envPieces cs).flatMap (EnvPiece.expand env) := by
  fun_induction substituteChars env cs with
  | case1 => simp [envPieces]
  | case2 rest k found isZero ih =>
    have : k = 0 := by simpa using isZero
    subst this
    simp [envPieces, found, EnvPiece.expand, ih]
  | case3 rest k found nonZero name after value set ih =>
    obtain ⟨j, rfl⟩ := Nat.exists_eq_succ_of_ne_zero (by simpa using nonZero)
    simp [envPieces, found, EnvPiece.expand, name, set, ih, after]
  | case4 rest k found nonZero name after unset ih =>
    obtain ⟨j, rfl⟩ := Nat.exists_eq_succ_of_ne_zero (by simpa using nonZero)
    simp [envPieces, found, EnvPiece.expand, EnvPiece.source, name, unset, ih, after,
      take_succ_of_close found]
  | case5 rest unclosed ih => simp [envPieces, unclosed, EnvPiece.expand, ih]
  | case6 c rest other ih => simp [envPieces.eq_3 c rest other, EnvPiece.expand, ih]

/-- A reference whose variable is not set expands to its own text. -/
theorem expand_of_unset {env : Environment} {p : EnvPiece}
    (unset : ∀ name, p.name? = some name → env.lookup name = none) : p.expand env = p.source := by
  cases p with
  | char c => rfl
  | ref name => simp [EnvPiece.expand, unset (String.ofList name) rfl]

/-! ### Resolving -/

/-- When no name of the reading faults, resolving substitutes along it. -/
theorem resolveEnv_of_names {env : Environment} {v : String} {ps : List EnvPiece}
    (pieces : envPieces v.toList = ps)
    (looked : ∀ name ∈ ps.filterMap EnvPiece.name?, envNameFault? name = none) :
    resolveEnv env v = .ok (String.ofList (ps.flatMap (EnvPiece.expand env))) := by
  have noFault : (ps.filterMap EnvPiece.name?).findSome? envNameFault? = none :=
    List.findSome?_eq_none_iff.mpr looked
  unfold resolveEnv
  rw [pieces, noFault, substituteEnv, substituteChars_eq_expand, pieces]

/-- **Resolving is one pass over the leftmost reading.** Every text has a reading that takes each
reference where it starts, and for any such reading: resolving fails exactly with the fault of the
first reference whose name has no bytes; when every name has bytes, each reference is replaced by
its variable's value or kept when the variable is not set, and the rest of the text kept, no value
read again; and when moreover no variable is set, the text comes back as it was. -/
theorem resolve_env_single_pass (env : Environment) (v : String) :
    (∃ ps, Leftmost ps ∧ spelled ps = v.toList) ∧
    ∀ ps, Leftmost ps → spelled ps = v.toList →
      (∀ fault, resolveEnv env v = .error fault ↔
        (ps.filterMap EnvPiece.name?).findSome? envNameFault? = some fault) ∧
      ((∀ name ∈ ps.filterMap EnvPiece.name?, envNameFault? name = none) →
        resolveEnv env v = .ok (String.ofList (ps.flatMap (EnvPiece.expand env)))) ∧
      ((∀ name ∈ ps.filterMap EnvPiece.name?, envNameFault? name = none ∧ env.lookup name = none) →
        resolveEnv env v = .ok v) := by
  refine ⟨⟨envPieces v.toList, leftmost_envPieces _, spelled_envPieces _⟩, ?_⟩
  intro ps reading spells
  have pieces : envPieces v.toList = ps := by rw [← spells, ← reading.eq_envPieces]
  refine ⟨fun fault => ?_, resolveEnv_of_names pieces, fun untouched => ?_⟩
  · unfold resolveEnv
    rw [pieces]
    cases (ps.filterMap EnvPiece.name?).findSome? envNameFault? <;> simp
  · -- no variable is set, so every piece expands to its own text
    have kept : ps.flatMap (EnvPiece.expand env) = spelled ps := by
      apply List.flatMap_congr
      intro p member
      apply expand_of_unset
      intro name named
      exact (untouched name (List.mem_filterMap.mpr ⟨p, member, named⟩)).2
    rw [resolveEnv_of_names pieces fun name member => (untouched name member).1, kept, spells,
      String.ofList_toList]

end ProjectIndex.Config
