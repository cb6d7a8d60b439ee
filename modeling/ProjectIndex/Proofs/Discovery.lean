import Mathlib
import ProjectIndex.Index.Folder
import ProjectIndex.Proofs.ComponentProps

/-!
Contract: discovery finds every selected file that lies under no skipped folder, each once, and
returns the paths sorted.

The walk prunes a skipped folder at the level where it meets it and never looks below. What it
meets from a folder `dir` is every file below `dir` with no skipped folder between them
(`Folder.walkFrom_perm`): the files directly inside `dir`, then the files below each entered
subfolder, which is the rest grouped by the next folder on their path (`Folder.reached_perm`).
The grouping loses nothing because each entered name is listed once and the next folder of every
such file is listed: a folder value is a tree (`Folder.enclosed`). From the root this is every
file with no skipped folder on its path, and the final sort makes the answer independent of the
order in which the folder lists its entries (`discover_sorted_selected_files`).

Owns: `reachedFrom`, `nextFolder`, `flatMap_filter_key_perm`, `Folder.reached_perm`,
`Folder.walkFrom_perm`, `discover_sorted_selected_files`.
-/

namespace ProjectIndex

/-! ### Grouping by a key -/

section Grouping

variable {α β : Type} [DecidableEq β]

/-- Grouping items by a key, over keys listed once, rearranges the items whose key is listed. -/
theorem flatMap_filter_key_perm (items : List α) (key : α → Option β) :
    ∀ {keys : List β}, keys.Nodup →
      (keys.flatMap fun k => items.filter (key · == some k)).Perm
        (items.filter fun a => (key a).any keys.contains)
  | [], _ => by
    rw [List.flatMap_nil, List.filter_eq_nil_iff.mpr fun a _ => by cases key a <;> simp]
  | k :: ks, nodup => by
    obtain ⟨fresh, rest⟩ := List.nodup_cons.mp nodup
    have listed := List.filter_append_perm (key · == some k)
      (items.filter fun a => (key a).any (k :: ks).contains)
    -- the items keyed `k` come first; the others are those keyed in `ks`
    have first : (items.filter fun a => (key a).any (k :: ks).contains).filter (key · == some k) =
        items.filter (key · == some k) := by
      rw [List.filter_filter]
      refine List.filter_congr fun a _ => ?_
      cases key a with
      | none => rfl
      | some j => by_cases same : j = k <;> simp [same]
    have others : (items.filter fun a => (key a).any (k :: ks).contains).filter
        (fun a => !(key a == some k)) = items.filter fun a => (key a).any ks.contains := by
      rw [List.filter_filter]
      refine List.filter_congr fun a _ => ?_
      cases key a with
      | none => rfl
      | some j => by_cases same : j = k <;> simp [same, fresh]
    rw [first, others] at listed
    rw [List.flatMap_cons]
    exact ((flatMap_filter_key_perm items key rest).append_left _).trans listed

end Grouping

/-! ### Files below a folder -/

/-- The walk from `dir` meets a file: the file lies below `dir`, and none of the folders between
them is skipped. -/
def reachedFrom (dir segs : List String) : Bool :=
  dir.isPrefixOf segs.dropLast && (segs.dropLast.drop dir.length).all (!skippedFolders.contains ·)

/-- The folder right below `dir` on a file's path. -/
def nextFolder (dir segs : List String) : Option String := (segs.dropLast.drop dir.length).head?

theorem reachedFrom_iff {dir segs : List String} :
    reachedFrom dir segs = true ↔
      ∃ rest, segs.dropLast = dir ++ rest ∧ ∀ name ∈ rest, name ∉ skippedFolders := by
  constructor
  · intro reached
    obtain ⟨above, clear⟩ := Bool.and_eq_true_iff.mp reached
    obtain ⟨rest, split⟩ := List.isPrefixOf_iff_prefix.mp above
    refine ⟨rest, split.symm, fun name listed => ?_⟩
    rw [← split, List.drop_left] at clear
    simpa using List.all_eq_true.mp clear name listed
  · rintro ⟨rest, split, clear⟩
    rw [reachedFrom, split, List.drop_left, Bool.and_eq_true]
    exact ⟨List.isPrefixOf_iff_prefix.mpr (List.prefix_append dir rest),
      List.all_eq_true.mpr fun name listed => by simpa using clear name listed⟩

theorem nextFolder_of_eq {dir segs rest : List String} (split : segs.dropLast = dir ++ rest) :
    nextFolder dir segs = rest.head? := by
  rw [nextFolder, split, List.drop_left]

@[simp] theorem reachedFrom_nil (segs : List String) :
    reachedFrom [] segs = segs.dropLast.all (!skippedFolders.contains ·) := by
  simp [reachedFrom]

theorem reachedFrom_of_dropLast_eq {dir segs : List String} (inside : segs.dropLast = dir) :
    reachedFrom dir segs = true :=
  reachedFrom_iff.mpr ⟨[], by rw [inside, List.append_nil], by simp⟩

/-- Below an entered subfolder, the walk meets the files whose next folder it is. -/
theorem reachedFrom_append {dir segs : List String} {name : String}
    (kept : name ∉ skippedFolders) :
    reachedFrom (dir ++ [name]) segs = (reachedFrom dir segs && nextFolder dir segs == some name) := by
  rw [Bool.eq_iff_iff, Bool.and_eq_true, beq_iff_eq, reachedFrom_iff, reachedFrom_iff]
  constructor
  · rintro ⟨rest, split, clear⟩
    rw [List.append_assoc] at split
    refine ⟨⟨name :: rest, split, ?_⟩, by rw [nextFolder_of_eq split]; rfl⟩
    intro n listed
    rcases List.mem_cons.mp listed with rfl | deeper
    · exact kept
    · exact clear n deeper
  · rintro ⟨⟨rest, split, clear⟩, next⟩
    rw [nextFolder_of_eq split] at next
    obtain ⟨deeper, rfl⟩ := List.head?_eq_some_iff.mp next
    exact ⟨deeper, by rw [split, List.append_assoc]; rfl,
      fun n listed => clear n (List.mem_cons_of_mem _ listed)⟩

theorem mem_properPrefixes_of_dropLast {segs above rest : List String} (named : above ≠ [])
    (split : segs.dropLast = above ++ rest) : above ∈ properPrefixes segs := by
  have prefixed : above <+: segs :=
    (List.prefix_append above rest).trans (split ▸ List.dropLast_prefix segs)
  have shorter : above.length < segs.length := by
    have sizes := congrArg List.length split
    rw [List.length_dropLast, List.length_append] at sizes
    have : 0 < above.length := List.length_pos_iff.mpr named
    omega
  refine List.mem_filterMap.mpr ⟨above.length, List.mem_range.mpr shorter, ?_⟩
  have counted : (above.length == 0) = false := by simpa using named
  rw [counted, if_neg Bool.false_ne_true, ← List.prefix_iff_eq_take.mp prefixed]

theorem Folder.mem_subfolders {f : Folder} {dir : List String} {name : String} :
    name ∈ f.subfolders dir ↔ dir ++ [name] ∈ f.folders :=
  ⟨f.mem_folders_of_mem_subfolders, fun listed =>
    List.mem_eraseDups.mpr (List.mem_filterMap.mpr ⟨dir ++ [name], listed, by simp⟩)⟩

theorem Folder.not_skipped_of_mem_entered {f : Folder} {dir : List String} {name : String}
    (entered : name ∈ f.entered dir) : name ∉ skippedFolders := by
  have kept := (List.mem_filter.mp (List.mem_mergeSort.mp entered)).2
  simpa using kept

/-- A file met from `dir` but not directly inside it has its next folder among those entered:
that folder is above the file, so the folder value lists it. -/
theorem Folder.nextFolder_mem_entered (f : Folder) {dir : List String}
    {e : List String × List UInt8} (listed : e ∈ f.files) (reached : reachedFrom dir e.1 = true)
    (deeper : e.1.dropLast ≠ dir) :
    ∃ name, nextFolder dir e.1 = some name ∧ name ∈ f.entered dir := by
  obtain ⟨rest, split, clear⟩ := reachedFrom_iff.mp reached
  have nonempty : rest ≠ [] := fun empty => by
    rw [empty, List.append_nil] at split
    exact deeper split
  obtain ⟨name, rest', rfl⟩ := List.exists_cons_of_ne_nil nonempty
  refine ⟨name, by rw [nextFolder_of_eq split]; rfl, ?_⟩
  have above : dir ++ [name] ∈ properPrefixes e.1 :=
    mem_properPrefixes_of_dropLast (by simp) (by rw [split, List.append_assoc]; rfl)
  have inside : name ∈ f.subfolders dir := Folder.mem_subfolders.mpr (f.enclosed e listed _ above)
  exact List.mem_mergeSort.mpr (List.mem_filter.mpr
    ⟨inside, by simpa using clear name List.mem_cons_self⟩)

/-! ### The walk -/

theorem Folder.nodup_entered (f : Folder) (dir : List String) : (f.entered dir).Nodup :=
  ((List.mergeSort_perm _ _).nodup_iff).mpr ((Script.nodup_eraseDups _).filter _)

/-- **One level of the walk.** The files below `dir` with no skipped folder between are those
directly inside, then, by entered subfolder, those below it. -/
theorem Folder.reached_perm (f : Folder) (dir : List String) :
    (f.files.filter (reachedFrom dir ·.1)).Perm
      (f.files.filter (·.1.dropLast == dir) ++
        (f.entered dir).flatMap fun name => f.files.filter (reachedFrom (dir ++ [name]) ·.1)) := by
  have partition :=
    List.filter_append_perm (·.1.dropLast == dir) (f.files.filter (reachedFrom dir ·.1))
  -- the files directly inside `dir` are all met from it
  have inside : (f.files.filter (reachedFrom dir ·.1)).filter (·.1.dropLast == dir) =
      f.files.filter (·.1.dropLast == dir) := by
    rw [List.filter_filter]
    refine List.filter_congr fun e _ => ?_
    by_cases direct : e.1.dropLast = dir
    · simp [direct, reachedFrom_of_dropLast_eq direct]
    · simp [direct]
  -- the others are those whose next folder the walk enters
  have below : (f.files.filter (reachedFrom dir ·.1)).filter (fun e => !(e.1.dropLast == dir)) =
      (f.files.filter (reachedFrom dir ·.1)).filter
        fun e => (nextFolder dir e.1).any (f.entered dir).contains := by
    refine List.filter_congr fun e member => ?_
    obtain ⟨listed, met⟩ := List.mem_filter.mp member
    by_cases direct : e.1.dropLast = dir
    · have split : e.1.dropLast = dir ++ [] := by rw [direct, List.append_nil]
      simp [direct, nextFolder_of_eq split]
    · obtain ⟨name, next, entered⟩ := f.nextFolder_mem_entered listed met direct
      simp [direct, next, entered]
  have grouped := flatMap_filter_key_perm (f.files.filter (reachedFrom dir ·.1))
    (fun e => nextFolder dir e.1) (f.nodup_entered dir)
  have byFolder : ((f.entered dir).flatMap fun name =>
      (f.files.filter (reachedFrom dir ·.1)).filter (nextFolder dir ·.1 == some name)) =
      (f.entered dir).flatMap fun name => f.files.filter (reachedFrom (dir ++ [name]) ·.1) := by
    refine List.flatMap_congr fun name entered => ?_
    rw [List.filter_filter]
    refine List.filter_congr fun e _ => ?_
    rw [reachedFrom_append (Folder.not_skipped_of_mem_entered entered), Bool.and_comm]
  rw [inside, below] at partition
  rw [← byFolder]
  exact partition.symm.trans (grouped.symm.append_left _)

/-- **The walk from a folder.** It meets, each once, the files below the folder with no skipped
folder between them. -/
theorem Folder.walkFrom_perm (f : Folder) (dir : List String) :
    (f.walkFrom dir).Perm ((f.files.filter (reachedFrom dir ·.1)).map (·.1)) := by
  induction dir using Folder.walkFrom.induct f with
  | case1 dir ih =>
    rw [Folder.walkFrom]
    -- each entered subfolder's walk, by induction
    have below : ((f.entered dir).attach.flatMap fun name => f.walkFrom (dir ++ [name.1])).Perm
        ((f.entered dir).flatMap fun name =>
          (f.files.filter (reachedFrom (dir ++ [name]) ·.1)).map (·.1)) := by
      have each := List.Perm.flatMap_left (f.entered dir).attach fun name _ => ih name
      simpa using each
    refine (below.append_left _).trans ?_
    rw [← List.map_flatMap, ← List.map_append]
    exact ((f.reached_perm dir).map _).symm

/-! ### Discovery -/

/-- **Discovery lists the selected files outside the skipped folders, sorted.** The paths found
are in code-point order, and they are, each once, the project-relative paths of the files that
lie under no skipped folder and that the globs select. -/
theorem discover_sorted_selected_files (f : Folder) (includeGlobs excludeGlobs : List String) :
    (f.discover includeGlobs excludeGlobs).Pairwise (· ≤ ·) ∧
      (f.discover includeGlobs excludeGlobs).Perm
        (((f.files.filter fun e => e.1.dropLast.all (!skippedFolders.contains ·)).map
          fun e => "/".intercalate e.1).filter (selects includeGlobs excludeGlobs)) := by
  simp only [Folder.discover]
  constructor
  · have transitive : ∀ a b c : String,
        decide (a ≤ b) = true → decide (b ≤ c) = true → decide (a ≤ c) = true :=
      fun a b c ab bc => decide_eq_true (le_trans (of_decide_eq_true ab) (of_decide_eq_true bc))
    have total : ∀ a b : String, (decide (a ≤ b) || decide (b ≤ a)) = true := fun a b => by
      rcases le_total a b with ordered | ordered <;> simp [ordered]
    exact (List.pairwise_mergeSort transitive total _).imp of_decide_eq_true
  · refine (List.mergeSort_perm _ _).trans (((Folder.walkFrom_perm f []).filterMap _).trans ?_)
    apply List.Perm.of_eq
    rw [List.filterMap_map, List.filter_map, ← List.filterMap_eq_map', List.filterMap_filter,
      List.filterMap_filter, List.filterMap_filter]
    refine congrArg (List.filterMap · f.files) (funext fun e => ?_)
    by_cases chosen : selects includeGlobs excludeGlobs ("/".intercalate e.1) <;> simp [chosen]

end ProjectIndex
