import Mathlib
import ProjectIndex.Classify.Path
import ProjectIndex.Proofs.Folders
import ProjectIndex.Proofs.LongestFirst

/-!
Contract: what a configuration decides for a path, read off the configuration's own tables.

The classifier keeps its tables in a prepared form: the glob map sorted longest glob first, the
folder and segment tables with lowered keys (later keys replacing earlier ones), the migration
patterns trimmed of slashes, and the migration test as a search for `/m/` in the folder written
between slashes. `decidePath` states the same decision without that preparation:

* an SQL file is a table when its folder lies under one of the migration patterns
  (`SegmentedPath.LiesUnder`, where an empty pattern takes the top folder and rooted folders);
* any other file takes the first tier that decides: its file name, the outermost segment with a
  role, the innermost folder with a role and the longest matching glob (ties to the glob written
  first) in the configured order, the `pages` folder, then the name conventions when they are on.

A folder or segment role is that of the last table entry whose key names it; an entry with an
empty role does not decide. The glob tier takes the role of the glob it chooses, empty or not.

Owns: `lastValue`, `decidePath`, `classifyPath_ofConfig`.
-/

namespace ProjectIndex.Classify

open ProjectIndex.Data
open ProjectIndex.Path
open ProjectIndex.Config

/-- The value of the last entry of a table whose key passes a test. -/
def lastValue (table : List (String × Value)) (keyMatches : String → Bool) : Option Value :=
  (table.reverse.find? fun e => keyMatches e.1).map Prod.snd

/-- The classification a configuration decides for a path from its tables as written. -/
def decidePath (config : IndexConfig) (path : String) : Option Classification :=
  let q := normalizePath path
  let p := SegmentedPath.ofString q
  if PathClassifier.isSql q then
    (config.migrationPatterns.find? fun m => decide (p.parent.LiesUnder (trimSlashes m))).map
      fun m => sure (.str "table") ("under migrations directory '" ++ trimSlashes m ++ "'") .migration
  else
    let byName := (deciding (lookup config.fileNameRoles p.name)).map fun role =>
      sure role ("convention filename '" ++ p.name ++ "'") .filename
    let bySegment := p.parent.parts.findSome? fun d =>
      (deciding (lastValue config.pathSegmentRoles fun k =>
        Text.lower (trimSlashes k) == Text.lower d)).map fun role =>
          sure role ("path contains '" ++ d ++ "/'") .pathSegment
    let byFolder := p.parent.parts.reverse.findSome? fun d =>
      (deciding (lastValue config.folderRoles fun k => Text.lower k == Text.lower d)).map fun role =>
        sure role ("inside '" ++ d ++ "' folder") .folder
    let matching := config.fileTypeMapping.filter fun e => Glob.accepts e.1 q
    let byGlob := (matching.find? fun e => matching.all fun other => other.1.length ≤ e.1.length).map
      fun e => sure e.2 ("matches glob '" ++ e.1 ++ "'") .glob
    byName <|> bySegment <|>
      (if config.globsBeforeFolders then byGlob <|> byFolder else byFolder <|> byGlob) <|>
      PathClassifier.pagesTier q <|>
      (if config.useNameConventions then PathClassifier.nameConventionTier q else none)

/-! ### Tables with replaced keys -/

section Tables

variable {table : List (String × Value)} {key k : String} {v : Value}

/-- Replacing the entries under one key by a new entry under it moves no entry to another key. -/
theorem key_replaced (k key : String) (v : Value) :
    ((·.1 == key) ∘ fun e : String × Value => if e.1 == k then (k, v) else e) = (·.1 == key) := by
  funext e
  by_cases named : e.1 = k <;> simp [named]

theorem lookup_putEntry : lookup (putEntry table k v) key = if k = key then some v else lookup table key := by
  unfold putEntry lookup
  split
  · rename_i present
    rw [List.find?_map, key_replaced]
    cases found : table.find? (·.1 == key) with
    | none =>
        -- nothing stands under `key`, and something stands under `k`
        have differs : k ≠ key := by
          rintro rfl
          obtain ⟨e, listed, named⟩ := List.any_eq_true.mp present
          exact absurd named (by simpa using List.find?_eq_none.mp found e listed)
        simp [differs]
    | some e =>
        have named : e.1 = key := by simpa using List.find?_some found
        by_cases same : k = key
        · simp [named, same]
        · have other : e.1 ≠ k := by
            rw [named]
            exact Ne.symm same
          simp [other, same]
  · rename_i absent
    rw [List.find?_append]
    by_cases same : k = key
    · subst same
      have missing : table.find? (·.1 == k) = none :=
        List.find?_eq_none.mpr fun e listed named => absent (List.any_eq_true.mpr ⟨e, listed, named⟩)
      simp [missing]
    · rw [if_neg same]
      cases table.find? (·.1 == key) with
      | some e => rfl
      | none => simp [same]

/-- Laying entries over a table: a key's value is that of its last new entry, or its old one. -/
theorem lookup_overlay (top : List (String × Value)) :
    ∀ base : List (String × Value), lookup (overlay base top) key =
      ((top.reverse.find? (·.1 == key)).map Prod.snd).or (lookup base key) := by
  induction top with
  | nil => intro base; rfl
  | cons entry rest ih =>
      intro base
      rw [overlay, List.foldl_cons, ← overlay, ih, lookup_putEntry, List.reverse_cons,
        List.find?_append]
      by_cases same : entry.1 = key
      · cases rest.reverse.find? (·.1 == key) <;> simp [same]
      · cases rest.reverse.find? (·.1 == key) <;> simp [same]

/-- A table with renamed keys finds under a key the last entry whose renamed key it is. -/
theorem lookup_overlay_rename (rename : String → String) :
    lookup (overlay [] (table.map fun e => (rename e.1, e.2))) key =
      lastValue table fun k => rename k == key := by
  rw [lookup_overlay, ← List.map_reverse, List.find?_map, Option.map_map]
  simp only [Function.comp_def, lastValue]
  cases table.reverse.find? (fun e => rename e.1 == key) <;> rfl

end Tables

/-! ### Searching a text -/

theorem occursIn_iff (part : List Char) : ∀ text : List Char, occursIn part text = true ↔ part <:+: text
  | [] => by simp [occursIn, List.infix_nil]
  | c :: rest => by
      rw [occursIn, Bool.or_eq_true, List.isPrefixOf_iff_prefix, occursIn_iff part rest,
        List.infix_cons_iff]

/-! ### Trimmed patterns -/

theorem head?_trimSlashes (s : String) : (trimSlashes s).toList.head? ≠ some '/' := by
  unfold trimSlashes
  rw [String.toList_ofList]
  set kept := s.toList.dropWhile (· == '/')
  have keptHead : kept.head? ≠ some '/' := by
    intro startsSlash
    have stopped := List.head?_dropWhile_not (· == '/') s.toList
    rw [show s.toList.dropWhile (· == '/') = kept from rfl, startsSlash] at stopped
    simp at stopped
  -- trimming the end keeps a prefix of what trimming the start left
  have leads : (kept.reverse.dropWhile (· == '/')).reverse <+: kept := by
    rw [← List.reverse_suffix, List.reverse_reverse]
    exact List.dropWhile_suffix _
  intro startsSlash
  obtain ⟨t, starts⟩ := List.head?_eq_some_iff.mp startsSlash
  rw [starts] at leads
  obtain ⟨u, whole⟩ := leads
  rw [← whole] at keptHead
  simp at keptHead

/-! ### The tiers from the configuration -/

section Tiers

variable (config : IndexConfig) (q : String)

theorem migrationTier_ofConfig :
    (PathClassifier.ofConfig config).migrationTier q =
      (config.migrationPatterns.find? fun m =>
        decide ((SegmentedPath.ofString q).parent.LiesUnder (trimSlashes m))).map fun m =>
          sure (.str "table") ("under migrations directory '" ++ trimSlashes m ++ "'") .migration := by
  have wf := (SegmentedPath.wellFormed_ofString q).parent
  unfold PathClassifier.migrationTier PathClassifier.ofConfig
  simp only [List.find?_map, Option.map_map, Function.comp_def]
  -- for a trimmed pattern, the search for `/m/` in the folder between slashes is the folder test
  refine congrArg _ (List.find?_congr fun m _ => ?_)
  rw [Bool.eq_iff_iff, occursIn_iff, decide_eq_true_iff]
  exact infix_directoryText_iff wf (head?_trimSlashes m)

theorem fileNameTier_ofConfig :
    (PathClassifier.ofConfig config).fileNameTier q =
      (deciding (lookup config.fileNameRoles (SegmentedPath.ofString q).name)).map fun role =>
        sure role ("convention filename '" ++ (SegmentedPath.ofString q).name ++ "'") .filename :=
  rfl

theorem segmentTier_ofConfig :
    (PathClassifier.ofConfig config).segmentTier q =
      (SegmentedPath.ofString q).parent.parts.findSome? fun d =>
        (deciding (lastValue config.pathSegmentRoles fun k =>
          Text.lower (trimSlashes k) == Text.lower d)).map fun role =>
            sure role ("path contains '" ++ d ++ "/'") .pathSegment := by
  unfold PathClassifier.segmentTier PathClassifier.ofConfig
  refine congrArg (List.findSome? · _) (funext fun d => ?_)
  rw [← lookup_overlay_rename fun k => Text.lower (trimSlashes k)]

theorem folderTier_ofConfig :
    (PathClassifier.ofConfig config).folderTier q =
      (SegmentedPath.ofString q).parent.parts.reverse.findSome? fun d =>
        (deciding (lastValue config.folderRoles fun k => Text.lower k == Text.lower d)).map
          fun role => sure role ("inside '" ++ d ++ "' folder") .folder := by
  unfold PathClassifier.folderTier PathClassifier.ofConfig
  refine congrArg (List.findSome? · _) (funext fun d => ?_)
  rw [← lookup_overlay_rename Text.lower]

theorem globTier_ofConfig :
    (PathClassifier.ofConfig config).globTier q =
      let matching := config.fileTypeMapping.filter fun e => Glob.accepts e.1 q
      (matching.find? fun e => matching.all fun other => other.1.length ≤ e.1.length).map
        fun e => sure e.2 ("matches glob '" ++ e.1 ++ "'") .glob := by
  unfold PathClassifier.globTier PathClassifier.ofConfig
  simp only
  rw [find?_longestFirst]

end Tiers

theorem findSome?_tiers {α β : Type} (x : α) (tier : α → Option β) (rest : List (α → Option β)) :
    (tier :: rest).findSome? (fun t => t x) = (tier x).or (rest.findSome? fun t => t x) := by
  rw [List.findSome?_cons]
  cases tier x <;> rfl

/-- **The classifier decides as its configuration reads.** For every configuration and path, the
classifier's decision is the one read off the configuration's tables as written: for an SQL file,
the first migration pattern its folder lies under; for any other, the first deciding tier among
its file name, its outermost segment with a role, its innermost folder with a role and the longest
glob it matches (ties to the glob written first), in the configured order, then the `pages` folder
and the name conventions. -/
theorem classifyPath_ofConfig (config : IndexConfig) (path : String) :
    (PathClassifier.ofConfig config).classifyPath path = decidePath config path := by
  have keeps : (PathClassifier.ofConfig config).config = config := rfl
  unfold PathClassifier.classifyPath decidePath
  dsimp only
  split
  · rw [migrationTier_ofConfig]
  · -- both sides try the same tiers in the same order; only the bracketing differs
    rw [keeps]
    cases config.globsBeforeFolders <;> cases config.useNameConventions <;>
      simp only [↓reduceIte, Bool.false_eq_true, List.cons_append, List.nil_append,
        List.append_nil, List.findSome?_singleton, findSome?_tiers, fileNameTier_ofConfig,
        segmentTier_ofConfig, folderTier_ofConfig, globTier_ofConfig, Option.orElse_eq_orElse,
        Option.orElse_eq_or, Option.or_none, Option.or_assoc]

end ProjectIndex.Classify
