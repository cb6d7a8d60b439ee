import ProjectIndex.Config.Check
import ProjectIndex.Proofs.Detection

/-!
Contract: under a configuration that passes its check, every classification is one of the seven
roles.

The check turns down any entry of the four role tables whose value names no role
(`RoleTable`). The classifier reads those tables through lower-cased overlays, a sort and lookups,
none of which brings in a value of its own, so a path tier answers either with a value from a
checked table or with a role it names itself; the heuristic tier answers with the detected role.

Owns: `RoleTable`, `PathClassifier.RolesChecked`, `classify_role`.
-/

namespace ProjectIndex

open ProjectIndex.Data
open ProjectIndex.Config
open ProjectIndex.Classify

/-- Every value of the table names a role. -/
def RoleTable (table : List (String × Value)) : Prop :=
  ∀ entry ∈ table, ∃ r, RoleTag.ofValue entry.2 = .role r

namespace RoleTable

variable {table base top : List (String × Value)}

/-- A table the check finds nothing wrong with names only roles. -/
theorem of_tableProblems {name : String} (clean : IndexConfig.tableProblems name table = []) :
    RoleTable table := by
  intro entry member
  have noProblem := List.filterMap_eq_nil_iff.mp clean entry member
  obtain ⟨key, value⟩ := entry
  dsimp only at noProblem ⊢
  revert noProblem
  cases RoleTag.ofValue value with
  | role r => exact fun _ => ⟨r, rfl⟩
  | other v => exact fun noProblem => nomatch noProblem

theorem map (g : String × Value → String × Value)
    (keepsValue : ∀ entry, (g entry).2 = entry.2) (checked : RoleTable table) :
    RoleTable (table.map g) := by
  intro entry member
  obtain ⟨original, inTable, rfl⟩ := List.mem_map.mp member
  rw [keepsValue]
  exact checked original inTable

theorem mergeSort (le : String × Value → String × Value → Bool) (checked : RoleTable table) :
    RoleTable (table.mergeSort le) :=
  fun entry member => checked entry (List.mem_mergeSort.mp member)

theorem putEntry {key : String} {value : Value} (checked : RoleTable table)
    (named : ∃ r, RoleTag.ofValue value = .role r) : RoleTable (putEntry table key value) := by
  intro entry member
  unfold Config.putEntry at member
  split at member
  · obtain ⟨original, inTable, rfl⟩ := List.mem_map.mp member
    split
    · exact named
    · exact checked original inTable
  · rcases List.mem_append.mp member with inTable | isNew
    · exact checked entry inTable
    · rw [List.mem_singleton] at isNew
      subst isNew
      exact named

/-- Laying one table over another brings in no value of its own. -/
theorem overlay (checkedBase : RoleTable base) (checkedTop : RoleTable top) :
    RoleTable (overlay base top) := by
  induction top generalizing base with
  | nil => exact checkedBase
  | cons entry rest inductionHypothesis =>
      unfold Config.overlay
      rw [List.foldl_cons]
      exact inductionHypothesis (checkedBase.putEntry (checkedTop entry List.mem_cons_self))
        fun e member => checkedTop e (List.mem_cons_of_mem _ member)

theorem lookup {key : String} {v : Value} (checked : RoleTable table)
    (found : Classify.lookup table key = some v) : ∃ r, RoleTag.ofValue v = .role r := by
  obtain ⟨entry, foundEntry, rfl⟩ := Option.map_eq_some_iff.mp found
  exact checked entry (List.mem_of_find?_eq_some foundEntry)

theorem deciding {key : String} {v : Value} (checked : RoleTable table)
    (found : Classify.deciding (Classify.lookup table key) = some v) :
    ∃ r, RoleTag.ofValue v = .role r := by
  obtain ⟨w, looked, kept⟩ := Option.bind_eq_some_iff.mp found
  split at kept
  · cases kept
    exact checked.lookup looked
  · cases kept

end RoleTable

namespace Classify

/-- The role tables a classifier reads name only roles. -/
structure PathClassifier.RolesChecked (c : PathClassifier) : Prop where
  fileNames : RoleTable c.config.fileNameRoles
  segments : RoleTable c.segmentRoles
  folders : RoleTable c.folderRoles
  globs : RoleTable c.globs

/-- The classifier of a configuration that passes its check reads only roles. -/
theorem PathClassifier.rolesChecked_ofConfig {config : IndexConfig}
    (valid : config.problems = []) : (PathClassifier.ofConfig config).RolesChecked := by
  simp only [IndexConfig.problems, List.append_eq_nil_iff] at valid
  obtain ⟨⟨⟨⟨⟨⟨⟨⟨_, _⟩, _⟩, _⟩, globs⟩, folders⟩, fileNames⟩, segments⟩, _⟩ := valid
  exact ⟨RoleTable.of_tableProblems fileNames,
    RoleTable.overlay (fun _ member => nomatch member)
      (RoleTable.map _ (fun _ => rfl) (RoleTable.of_tableProblems segments)),
    RoleTable.overlay (fun _ member => nomatch member)
      (RoleTable.map _ (fun _ => rfl) (RoleTable.of_tableProblems folders)),
    RoleTable.mergeSort _ (RoleTable.of_tableProblems globs)⟩

namespace PathClassifier

variable {c : PathClassifier} {path : String} {cl : Classification}

theorem classifyPath_role (checked : c.RolesChecked) (classified : c.classifyPath path = some cl) :
    ∃ r, cl.role = .role r := by
  obtain ⟨tier, member, decided⟩ := classifyPath_from_tier classified
  simp only [List.mem_cons, List.not_mem_nil, or_false] at member
  rcases member with rfl | rfl | rfl | rfl | rfl | rfl | rfl
  · -- migrations are tables
    obtain ⟨_, _, rfl⟩ := Option.map_eq_some_iff.mp decided
    exact ⟨.table, rfl⟩
  · obtain ⟨v, found, rfl⟩ := Option.map_eq_some_iff.mp decided
    exact checked.fileNames.deciding found
  · obtain ⟨_, _, chosen⟩ := List.exists_of_findSome?_eq_some decided
    obtain ⟨v, found, rfl⟩ := Option.map_eq_some_iff.mp chosen
    exact checked.segments.deciding found
  · obtain ⟨_, _, chosen⟩ := List.exists_of_findSome?_eq_some decided
    obtain ⟨v, found, rfl⟩ := Option.map_eq_some_iff.mp chosen
    exact checked.folders.deciding found
  · obtain ⟨⟨pattern, v⟩, found, rfl⟩ := Option.map_eq_some_iff.mp decided
    exact checked.globs _ (List.mem_of_find?_eq_some found)
  · -- a script under `pages` is a route
    unfold pagesTier at decided
    dsimp only at decided
    split at decided
    · cases decided
      exact ⟨.route, rfl⟩
    · cases decided
  · obtain ⟨⟨r, _⟩, _, rfl⟩ := Option.map_eq_some_iff.mp decided
    exact ⟨r, rfl⟩

/-- **A checked classifier classifies into the seven roles.** -/
theorem classify_role {u : SourceUnit} (checked : c.RolesChecked)
    (classified : c.classify u = some cl) : ∃ r, cl.role = .role r := by
  unfold classify at classified
  split at classified
  · rename_i byPath
    cases classified
    exact classifyPath_role checked byPath
  · split at classified
    · cases classified
    · obtain ⟨x, _, accepts⟩ := Option.bind_eq_some_iff.mp classified
      rw [accepted_eq accepts]
      exact ⟨x.role, rfl⟩

end PathClassifier

end Classify

end ProjectIndex
