import Mathlib
import ProjectIndex.Index.Project

/-!
Contract: linking keeps the import graph sound, and what it does to one file's imports depends
only on the indexed paths.

`linkImports` threads a graph through the analyses and, inside each, through its imports. One
step (`linkEdge`) adds at most one edge, at both of its ends, between two different paths that
both have an entry. Read through `graphEntry`, the graph stays sound (`GraphSound`): every listed
path has an entry, no list repeats a path or holds its own, and `t` is among the calls of `k`
exactly when `k` is among the callers of `t`.

The imports of a linked file are its own imports, each resolved against the indexed paths alone
(`resolvedEdge`), whatever the other files import (`linkImports_fst`).

Owns: `GraphSound`, `withEdge`, `resolvedEdge`, `linkedAnalysis`, `linkImports_sound`,
`linkImports_fst`.
-/

namespace ProjectIndex

open ProjectIndex.Graph

/-! ### Reading and updating entries -/

section Entries

variable {g : List (String × GraphEntry)} {key k : String}

@[simp] theorem graphEntry_nil (k : String) : graphEntry [] k = {} := rfl

theorem graphEntry_cons (e : GraphEntry) (rest : List (String × GraphEntry)) :
    graphEntry ((key, e) :: rest) k = if key = k then e else graphEntry rest k := by
  unfold graphEntry
  by_cases same : key = k
  · simp [same]
  · simp [same]

/-- A path without an entry has no edges. -/
theorem graphEntry_of_not_mem (absent : k ∉ g.map (·.1)) : graphEntry g k = {} := by
  induction g with
  | nil => rfl
  | cons head rest inductionHypothesis =>
      obtain ⟨key, e⟩ := head
      simp only [List.map_cons, List.mem_cons, not_or] at absent
      rw [graphEntry_cons, if_neg (Ne.symm absent.1)]
      exact inductionHypothesis absent.2

theorem mem_keys_of_mem_calls {t : String} (listed : t ∈ (graphEntry g k).calls) :
    k ∈ g.map (·.1) := by
  by_cases present : k ∈ g.map (·.1)
  · exact present
  · rw [graphEntry_of_not_mem present] at listed
    cases listed

theorem any_key_iff : g.any (·.1 == k) = true ↔ k ∈ g.map (·.1) := by
  simp

@[simp] theorem updateEntry_keys (f : GraphEntry → GraphEntry) :
    (updateEntry g key f).map (·.1) = g.map (·.1) := by
  unfold updateEntry
  rw [List.map_map]
  congr 1
  funext entry
  simp only [Function.comp_apply]
  split <;> rfl

theorem graphEntry_updateEntry (f : GraphEntry → GraphEntry) :
    graphEntry (updateEntry g key f) k =
      if k = key ∧ key ∈ g.map (·.1) then f (graphEntry g key) else graphEntry g k := by
  induction g with
  | nil => simp [updateEntry]
  | cons head rest inductionHypothesis =>
      obtain ⟨k', e⟩ := head
      have unfolded : updateEntry ((k', e) :: rest) key f =
          (if k' = key then (k', f e) else (k', e)) :: updateEntry rest key f := by
        simp [updateEntry]
      rw [unfolded]
      by_cases atKey : k' = key
      · subst atKey
        by_cases isKey : k = k'
        · subst isKey
          simp [graphEntry_cons]
        · simp [graphEntry_cons, inductionHypothesis, isKey, Ne.symm isKey]
      · have keyBelow : key ∈ ((k', e) :: rest).map (·.1) ↔ key ∈ rest.map (·.1) := by
          simp [Ne.symm atKey]
        rw [if_neg atKey]
        simp only [keyBelow]
        by_cases isEntry : k' = k
        · subst isEntry
          simp [graphEntry_cons, atKey]
        · simp only [graphEntry_cons, isEntry, atKey, if_false, inductionHypothesis]

end Entries

@[simp] theorem mem_appendAbsent {xs : List String} {x y : String} :
    x ∈ appendAbsent xs y ↔ x ∈ xs ∨ x = y := by
  unfold appendAbsent
  split
  · rename_i present
    have member : y ∈ xs := List.contains_iff_mem.mp present
    constructor
    · exact Or.inl
    · rintro (listed | rfl)
      · exact listed
      · exact member
  · simp

theorem nodup_appendAbsent {xs : List String} {y : String} (nodup : xs.Nodup) :
    (appendAbsent xs y).Nodup := by
  unfold appendAbsent
  split
  · exact nodup
  · rename_i absent
    have notMember : y ∉ xs := fun member => absent (List.contains_iff_mem.mpr member)
    simpa [List.nodup_append, nodup] using fun a (inXs : a ∈ xs) (same : a = y) =>
      notMember (same ▸ inXs)

/-! ### Sound graphs -/

/-- The two edge lists of a graph agree and stay among its paths. -/
structure GraphSound (g : List (String × GraphEntry)) : Prop where
  calls_known : ∀ k t, t ∈ (graphEntry g k).calls → t ∈ g.map (·.1)
  calls_nodup : ∀ k, (graphEntry g k).calls.Nodup
  calledBy_nodup : ∀ k, (graphEntry g k).calledBy.Nodup
  not_mem_calls_self : ∀ k, k ∉ (graphEntry g k).calls
  mem_calls_iff : ∀ k t, t ∈ (graphEntry g k).calls ↔ k ∈ (graphEntry g t).calledBy

namespace GraphSound

variable {g : List (String × GraphEntry)}

theorem calledBy_known (sound : GraphSound g) (k t : String)
    (listed : k ∈ (graphEntry g t).calledBy) : k ∈ g.map (·.1) :=
  mem_keys_of_mem_calls ((sound.mem_calls_iff k t).mpr listed)

theorem not_mem_calledBy_self (sound : GraphSound g) (k : String) :
    k ∉ (graphEntry g k).calledBy :=
  fun listed => sound.not_mem_calls_self k ((sound.mem_calls_iff k k).mpr listed)

/-- A graph whose entries are all empty is sound. -/
theorem blank {α : Type} (items : List α) (key : α → String) :
    GraphSound (items.map fun x => (key x, ({} : GraphEntry))) := by
  have empty : ∀ k, graphEntry (items.map fun x => (key x, ({} : GraphEntry))) k = {} := by
    intro k
    induction items with
    | nil => rfl
    | cons x rest inductionHypothesis =>
        rw [List.map_cons, graphEntry_cons]
        split
        · rfl
        · exact inductionHypothesis
  refine ⟨fun k t listed => ?_, fun k => ?_, fun k => ?_, fun k => ?_, fun k t => ?_⟩
  · rw [empty] at listed
    cases listed
  · rw [empty]
    exact List.nodup_nil
  · rw [empty]
    exact List.nodup_nil
  · rw [empty]
    exact List.not_mem_nil
  · rw [empty, empty]
    simp

end GraphSound

/-! ### Adding one edge -/

/-- The graph with an edge from `importer` to `target` added at both of its ends, as `linkEdge`
adds it. -/
def withEdge (g : List (String × GraphEntry)) (importer target : String) :
    List (String × GraphEntry) :=
  updateEntry (updateEntry g importer fun e => { e with calls := appendAbsent e.calls target })
    target fun e => { e with calledBy := appendAbsent e.calledBy importer }

section WithEdge

variable {g : List (String × GraphEntry)} {importer target k : String}

@[simp] theorem withEdge_keys : (withEdge g importer target).map (·.1) = g.map (·.1) := by
  simp [withEdge]

variable (importerKnown : importer ∈ g.map (·.1)) (targetKnown : target ∈ g.map (·.1))
  (distinct : target ≠ importer)

include importerKnown distinct in
theorem calls_withEdge :
    (graphEntry (withEdge g importer target) k).calls =
      if k = importer then appendAbsent (graphEntry g importer).calls target
      else (graphEntry g k).calls := by
  rw [withEdge, graphEntry_updateEntry, graphEntry_updateEntry, graphEntry_updateEntry,
    updateEntry_keys]
  by_cases atTarget : k = target
  · subst atTarget
    simp [apply_ite GraphEntry.calls, distinct]
  · by_cases atImporter : k = importer
    · subst atImporter
      simp [atTarget, importerKnown]
    · simp [atTarget, atImporter]

include targetKnown distinct in
theorem calledBy_withEdge :
    (graphEntry (withEdge g importer target) k).calledBy =
      if k = target then appendAbsent (graphEntry g target).calledBy importer
      else (graphEntry g k).calledBy := by
  rw [withEdge, graphEntry_updateEntry, graphEntry_updateEntry, graphEntry_updateEntry,
    updateEntry_keys]
  by_cases atTarget : k = target
  · subst atTarget
    simp [distinct, targetKnown]
  · by_cases atImporter : k = importer
    · subst atImporter
      simp [apply_ite GraphEntry.calledBy, atTarget]
    · simp [atTarget, atImporter]

include importerKnown targetKnown distinct in
/-- **Adding an edge keeps a graph sound.** The edge joins two different paths that both have
an entry, and is added at both ends. -/
theorem GraphSound.withEdge (sound : GraphSound g) : GraphSound (withEdge g importer target) := by
  have calls := fun k => calls_withEdge (k := k) importerKnown distinct
  have calledBy := fun k => calledBy_withEdge (k := k) targetKnown distinct
  refine ⟨fun k t listed => ?_, fun k => ?_, fun k => ?_, fun k => ?_, fun k t => ?_⟩
  · rw [withEdge_keys]
    rw [calls] at listed
    split at listed
    · rcases mem_appendAbsent.mp listed with old | rfl
      · exact sound.calls_known _ t old
      · exact targetKnown
    · exact sound.calls_known k t listed
  · rw [calls]
    split
    · exact nodup_appendAbsent (sound.calls_nodup importer)
    · exact sound.calls_nodup k
  · rw [calledBy]
    split
    · exact nodup_appendAbsent (sound.calledBy_nodup target)
    · exact sound.calledBy_nodup k
  · rw [calls]
    split
    · rename_i atImporter
      subst atImporter
      rw [mem_appendAbsent, not_or]
      exact ⟨sound.not_mem_calls_self k, Ne.symm distinct⟩
    · exact sound.not_mem_calls_self k
  · -- the new edge is the one pair both sides gain
    rw [calls, calledBy]
    by_cases atImporter : k = importer <;> by_cases atTarget : t = target <;>
      simp [atImporter, atTarget, sound.mem_calls_iff]

end WithEdge

/-! ### Linking one import -/

/-- An import as linking leaves it: resolved to the indexed path it points at, if it points at
one. -/
def resolvedEdge (set : PathSet) (keys : List String) (importer : String) (edge : ImportEdge) :
    ImportEdge :=
  match set.resolve? importer edge.source with
  | some target => if target ∈ keys then { edge with resolvedPath := some target } else edge
  | none => edge

section LinkEdge

variable {set : PathSet} {keys : List String} {importer : String} {edge : ImportEdge}

/-- A path linking resolves to is an indexed one. -/
theorem resolvedEdge_resolvedPath {q : String}
    (resolved : (resolvedEdge set keys importer edge).resolvedPath = some q) :
    q ∈ keys ∨ edge.resolvedPath = some q := by
  unfold resolvedEdge at resolved
  split at resolved
  · split at resolved
    · rename_i target _ known
      cases resolved
      exact Or.inl known
    · exact Or.inr resolved
  · exact Or.inr resolved

/-- Linking changes nothing in an import but its resolved path. -/
@[simp] theorem resolvedEdge_unresolved :
    { resolvedEdge set keys importer edge with resolvedPath := none } =
      { edge with resolvedPath := none } := by
  unfold resolvedEdge
  split
  · split <;> rfl
  · rfl

variable {acc : List ImportEdge × List (String × GraphEntry)}

theorem linkEdge_keys : (linkEdge set importer acc edge).2.map (·.1) = acc.2.map (·.1) := by
  unfold linkEdge
  split
  · split
    · split
      · rfl
      · exact withEdge_keys
    · rfl
  · rfl

theorem linkEdge_fst :
    (linkEdge set importer acc edge).1 =
      acc.1 ++ [resolvedEdge set (acc.2.map (·.1)) importer edge] := by
  unfold linkEdge resolvedEdge
  cases set.resolve? importer edge.source with
  | none => rfl
  | some target =>
      dsimp only
      by_cases known : target ∈ acc.2.map (·.1)
      · rw [if_pos (any_key_iff.mpr known), if_pos known]
        split <;> rfl
      · rw [if_neg (fun present => known (any_key_iff.mp present)), if_neg known]

theorem linkEdge_sound (sound : GraphSound acc.2) (importerKnown : importer ∈ acc.2.map (·.1)) :
    GraphSound (linkEdge set importer acc edge).2 := by
  unfold linkEdge
  split
  · split
    · rename_i target _ present
      split
      · exact sound
      · rename_i distinct
        exact sound.withEdge importerKnown (any_key_iff.mp present) (by simpa using distinct)
    · exact sound
  · exact sound

theorem foldl_linkEdge_keys :
    ∀ (edges : List ImportEdge) (acc : List ImportEdge × List (String × GraphEntry)),
      (edges.foldl (linkEdge set importer) acc).2.map (·.1) = acc.2.map (·.1)
  | [], _ => rfl
  | edge :: rest, acc => by
      rw [List.foldl_cons, foldl_linkEdge_keys rest, linkEdge_keys]

theorem foldl_linkEdge_fst :
    ∀ (edges : List ImportEdge) (acc : List ImportEdge × List (String × GraphEntry)),
      (edges.foldl (linkEdge set importer) acc).1 =
        acc.1 ++ edges.map (resolvedEdge set (acc.2.map (·.1)) importer)
  | [], acc => by simp
  | edge :: rest, acc => by
      rw [List.foldl_cons, foldl_linkEdge_fst rest, linkEdge_fst, linkEdge_keys, List.map_cons,
        List.append_assoc, List.singleton_append]

theorem foldl_linkEdge_sound :
    ∀ (edges : List ImportEdge) (acc : List ImportEdge × List (String × GraphEntry)),
      GraphSound acc.2 → importer ∈ acc.2.map (·.1) →
        GraphSound (edges.foldl (linkEdge set importer) acc).2
  | [], _, sound, _ => sound
  | edge :: rest, acc, sound, importerKnown => by
      rw [List.foldl_cons]
      refine foldl_linkEdge_sound rest _ (linkEdge_sound sound importerKnown) ?_
      rw [linkEdge_keys]
      exact importerKnown

end LinkEdge

/-! ### Linking the analyses -/

/-- An analysis with its imports resolved against the indexed paths. -/
def linkedAnalysis (set : PathSet) (keys : List String) (a : FileAnalysis) : FileAnalysis :=
  { a with imports := a.imports.map (resolvedEdge set keys a.path) }

section LinkAnalyses

variable {set : PathSet}

theorem foldl_linkAnalysis_keys :
    ∀ (analyses : List FileAnalysis) (acc : List FileAnalysis × List (String × GraphEntry)),
      (analyses.foldl (linkAnalysis set) acc).2.map (·.1) = acc.2.map (·.1)
  | [], _ => rfl
  | a :: rest, acc => by
      rw [List.foldl_cons, foldl_linkAnalysis_keys rest]
      exact foldl_linkEdge_keys a.imports ([], acc.2)

theorem foldl_linkAnalysis_fst :
    ∀ (analyses : List FileAnalysis) (acc : List FileAnalysis × List (String × GraphEntry)),
      (analyses.foldl (linkAnalysis set) acc).1 =
        acc.1 ++ analyses.map (linkedAnalysis set (acc.2.map (·.1)))
  | [], acc => by simp
  | a :: rest, acc => by
      have keys : (linkAnalysis set acc a).2.map (·.1) = acc.2.map (·.1) :=
        foldl_linkEdge_keys a.imports ([], acc.2)
      have linked :
          (linkAnalysis set acc a).1 = acc.1 ++ [linkedAnalysis set (acc.2.map (·.1)) a] := by
        show acc.1 ++
          [{ a with imports := (a.imports.foldl (linkEdge set a.path) ([], acc.2)).1 }] = _
        rw [foldl_linkEdge_fst, List.nil_append]
        rfl
      rw [List.foldl_cons, foldl_linkAnalysis_fst rest, keys, linked, List.map_cons,
        List.append_assoc, List.singleton_append]

theorem foldl_linkAnalysis_sound :
    ∀ (analyses : List FileAnalysis) (acc : List FileAnalysis × List (String × GraphEntry)),
      GraphSound acc.2 → (∀ a ∈ analyses, a.path ∈ acc.2.map (·.1)) →
        GraphSound (analyses.foldl (linkAnalysis set) acc).2
  | [], _, sound, _ => sound
  | a :: rest, acc, sound, known => by
      rw [List.foldl_cons]
      have keys : (linkAnalysis set acc a).2.map (·.1) = acc.2.map (·.1) :=
        foldl_linkEdge_keys a.imports ([], acc.2)
      refine foldl_linkAnalysis_sound rest _ ?_ ?_
      · exact foldl_linkEdge_sound a.imports ([], acc.2) sound (known a List.mem_cons_self)
      · intro b member
        rw [keys]
        exact known b (List.mem_cons_of_mem a member)

variable (set : PathSet) (analyses : List FileAnalysis)

/-- The graph has an entry for each analysis, and for nothing else. -/
theorem linkImports_keys : (linkImports set analyses).2.map (·.1) = analyses.map (·.path) := by
  rw [linkImports, foldl_linkAnalysis_keys, List.map_map]
  rfl

/-- **Linking resolves each file's imports on their own.** The linked analyses are the analyses in
their order, each with its imports resolved against the indexed paths. -/
theorem linkImports_fst :
    (linkImports set analyses).1 = analyses.map (linkedAnalysis set (analyses.map (·.path))) := by
  rw [linkImports, foldl_linkAnalysis_fst, List.nil_append, List.map_map]
  rfl

/-- **The import graph is sound.** -/
theorem linkImports_sound : GraphSound (linkImports set analyses).2 := by
  refine foldl_linkAnalysis_sound analyses _ (GraphSound.blank analyses (·.path))
    fun a member => ?_
  rw [List.map_map]
  exact List.mem_map_of_mem member

end LinkAnalyses

end ProjectIndex
