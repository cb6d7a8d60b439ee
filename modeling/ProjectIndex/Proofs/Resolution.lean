import Mathlib
import ProjectIndex.Graph
import ProjectIndex.Proofs.LongestFirst

/-!
Contract: what an import specifier resolves to.

A path set answers with a registered path, spelled as it was registered, or with nothing. The
answer is read off three orders, each stated here without the path set's own tables: the base
paths a specifier stands for (`specifierBases`), the forms each base may take (`candidateForms`),
and, for a form, the last path registered with it (`lastRegistered`). The first base with a
registered form answers, with its first registered form (`resolve?_eq_findSome?`).

A relative specifier has one base, the specifier joined to the importer's folder. Any other
specifier has a base for each alias it starts with and each target of that alias: the rest of the
specifier joined to the target. The join is the posix one, so a rest that starts with `/` stands
for itself and the target is dropped. The aliases are tried longest prefix first, ties in the
order of the table (`LongestFirst`).

Owns: `lastRegistered`, `candidateForms`, `afterPrefix`, `specifierBases`,
`resolve?_eq_findSome?`, `resolve?_mem`, `resolve_ofPaths`.
-/

namespace ProjectIndex.Graph

open ProjectIndex.Path

/-- The path registered under a cleaned form: of the paths that clean to it, the last one. -/
def lastRegistered (paths : List String) (form : String) : Option String :=
  paths.reverse.find? fun p => cleanPath p == form

/-- The forms a base path may take, in the order they are tried: itself, itself with each script
extension, and the index file with each script extension inside it. -/
def candidateForms (base : String) : List String :=
  base :: (resolveExtensions.map (base ++ ·) ++
    resolveExtensions.map fun ext => join base ("index" ++ ext))

/-- A specifier without its first `n` characters, the length of an alias prefix. -/
def afterPrefix (pfx specifier : String) : String :=
  String.ofList (specifier.toList.drop pfx.length)

/-- The cleaned base paths a specifier stands for, in the order they are tried. -/
def specifierBases (aliases : List (String × List String)) (importer specifier : String) :
    List String :=
  if isRelative specifier then [cleanPath (join (dirname (cleanPath importer)) specifier)]
  else
    (aliases.filter fun a => specifier.startsWith a.1).flatMap fun a =>
      a.2.map fun target =>
        cleanPath (if target.isEmpty then afterPrefix a.1 specifier
          else join target (afterPrefix a.1 specifier))

/-! ### The registered paths -/

section Registered

variable {paths : List String} {form r : String}

theorem lastRegistered_mem (found : lastRegistered paths form = some r) : r ∈ paths :=
  List.mem_reverse.mp (List.mem_of_find?_eq_some found)

/-- A path that no other registered path cleans like is the one registered under its form. -/
theorem lastRegistered_of_unique (registered : r ∈ paths)
    (unique : ∀ q ∈ paths, cleanPath q = cleanPath r → q = r) :
    lastRegistered paths (cleanPath r) = some r := by
  cases found : lastRegistered paths (cleanPath r) with
  | none =>
      have passes := List.find?_eq_none.mp found r (List.mem_reverse.mpr registered)
      simp at passes
  | some q =>
      have cleansAlike : cleanPath q = cleanPath r := by
        simpa using List.find?_some found
      rw [unique q (lastRegistered_mem found) cleansAlike]

variable (aliases : List (String × List String))

theorem find?_ofPaths (form : String) :
    (PathSet.ofPaths paths aliases).find? form = lastRegistered paths form := by
  unfold PathSet.find? PathSet.ofPaths lastRegistered
  rw [← List.map_reverse, List.find?_map, Option.map_map]
  simp [Function.comp_def]

theorem lookup?_ofPaths (base : String) :
    (PathSet.ofPaths paths aliases).lookup? base =
      (candidateForms (cleanPath base)).findSome? (lastRegistered paths) := by
  have finds : (PathSet.ofPaths paths aliases).find? = lastRegistered paths :=
    funext (find?_ofPaths aliases)
  unfold PathSet.lookup?
  rw [finds]
  rfl

end Registered

/-! ### Bases in order -/

/-- Trying each alias the specifier starts with, and each of its targets, is trying the bases of
the aliases in turn. -/
theorem findSome?_aliases (look : String → Option String) (specifier : String) :
    ∀ aliases : List (String × List String),
      aliases.findSome? (fun (pfx, targets) =>
        if specifier.startsWith pfx then
          targets.findSome? fun target =>
            look (if target.isEmpty then afterPrefix pfx specifier
              else join target (afterPrefix pfx specifier))
        else none) =
      ((aliases.filter fun a => specifier.startsWith a.1).flatMap fun a =>
        a.2.map fun target =>
          if target.isEmpty then afterPrefix a.1 specifier
          else join target (afterPrefix a.1 specifier)).findSome? look
  | [] => rfl
  | (pfx, targets) :: rest => by
      have keeps : ((pfx, targets) :: rest).filter (fun a => specifier.startsWith a.1) =
          if specifier.startsWith pfx then (pfx, targets) :: rest.filter fun a => specifier.startsWith a.1
          else rest.filter fun a => specifier.startsWith a.1 :=
        List.filter_cons
      rw [List.findSome?_cons, keeps, findSome?_aliases look specifier rest]
      dsimp only
      by_cases starts : specifier.startsWith pfx
      · rw [if_pos starts, if_pos starts, List.flatMap_cons, List.findSome?_append,
          List.findSome?_map]
        simp only [Function.comp_def]
        cases (targets.findSome? fun target => look (if target.isEmpty then
          afterPrefix pfx specifier else join target (afterPrefix pfx specifier))) <;> rfl
      · rw [if_neg starts, if_neg starts]

variable (paths : List String) (aliases : List (String × List String))

/-- **Resolution reads off three orders.** A specifier resolves to the first of its bases that
has a registered form, through the first registered form of that base. -/
theorem resolve?_eq_findSome? (importer specifier : String) :
    (PathSet.ofPaths paths aliases).resolve? importer specifier =
      (specifierBases (PathSet.ofPaths paths aliases).aliases importer specifier).findSome?
        fun base => (candidateForms base).findSome? (lastRegistered paths) := by
  unfold PathSet.resolve? specifierBases
  by_cases relative : isRelative specifier
  · rw [if_pos relative, if_pos relative, lookup?_ofPaths, List.findSome?_singleton]
  · rw [if_neg relative, if_neg relative]
    have looks : (fun base => (candidateForms (cleanPath base)).findSome? (lastRegistered paths)) =
        (PathSet.ofPaths paths aliases).lookup? :=
      funext fun base => (lookup?_ofPaths aliases base).symm
    -- clean the bases after choosing them, then look each one up as the path set does
    have cleanedLast : (fun a : String × List String => a.2.map fun target =>
          cleanPath (if target.isEmpty then afterPrefix a.1 specifier
            else join target (afterPrefix a.1 specifier))) =
        fun a => (a.2.map fun target => if target.isEmpty then afterPrefix a.1 specifier
            else join target (afterPrefix a.1 specifier)).map cleanPath :=
      funext fun a => by rw [List.map_map]; rfl
    rw [cleanedLast, ← List.map_flatMap, List.findSome?_map, Function.comp_def, looks,
      ← findSome?_aliases]
    rfl

theorem resolve?_mem {importer specifier r : String}
    (found : (PathSet.ofPaths paths aliases).resolve? importer specifier = some r) :
    r ∈ paths := by
  rw [resolve?_eq_findSome?] at found
  obtain ⟨base, _, inForms⟩ := List.exists_of_findSome?_eq_some found
  obtain ⟨form, _, registered⟩ := List.exists_of_findSome?_eq_some inForms
  exact lastRegistered_mem registered

/-- **Import resolution.** Over any registered paths and alias table, for any importer and
specifier: the answer is nothing or a registered path; it is the last registration of the first
registered form of the first base that has one; the aliases are tried longest prefix first, ties
in the order of the table; and so a path that cleans unlike every other registered path is
resolved by every relative specifier that names its cleaned form from the importer's folder. -/
theorem resolve_ofPaths (importer specifier : String) :
    (∀ r, (PathSet.ofPaths paths aliases).resolve? importer specifier = some r → r ∈ paths) ∧
    (PathSet.ofPaths paths aliases).resolve? importer specifier =
      (specifierBases (PathSet.ofPaths paths aliases).aliases importer specifier).findSome?
        (fun base => (candidateForms base).findSome? (lastRegistered paths)) ∧
    (PathSet.ofPaths paths aliases).aliases.Perm aliases ∧
    (PathSet.ofPaths paths aliases).aliases.Pairwise (fun a b => b.1.length ≤ a.1.length) ∧
    (∀ n, (PathSet.ofPaths paths aliases).aliases.filter (·.1.length == n) =
      aliases.filter (·.1.length == n)) ∧
    (∀ r ∈ paths, (∀ q ∈ paths, cleanPath q = cleanPath r → q = r) → isRelative specifier →
      cleanPath (join (dirname (cleanPath importer)) specifier) = cleanPath r →
      (PathSet.ofPaths paths aliases).resolve? importer specifier = some r) := by
  refine ⟨fun r found => resolve?_mem paths aliases found, resolve?_eq_findSome? paths aliases _ _,
    List.mergeSort_perm _ _, pairwise_longestFirst aliases, filter_longestFirst aliases, ?_⟩
  intro r registered unique relative spells
  -- the one base is `r`'s cleaned form, and its first candidate is that form itself
  rw [resolve?_eq_findSome?, specifierBases, if_pos relative, spells, List.findSome?_singleton,
    candidateForms, List.findSome?_cons, lastRegistered_of_unique registered unique]

/-- A sibling file, the only path registered, is resolved by `./` and its name. -/
theorem resolve_sibling :
    let sibling := join (dirname (cleanPath "lib/a.ts")) "./b.ts"
    (PathSet.ofPaths [sibling] []).resolve? "lib/a.ts" "./b.ts" = some sibling :=
  (resolve_ofPaths [_] [] "lib/a.ts" "./b.ts").2.2.2.2.2 _ (List.mem_singleton_self _)
    (fun _ registered _ => List.eq_of_mem_singleton registered) (by decide +kernel) rfl

end ProjectIndex.Graph
