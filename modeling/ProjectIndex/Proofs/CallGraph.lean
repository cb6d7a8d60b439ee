import Mathlib
import ProjectIndex.Proofs.Outcomes
import ProjectIndex.Proofs.Resolution

/-!
Contract: the import graph holds exactly the edges the imports name.

Linking the analyses of distinct files, over a path set registered with exactly their paths,
gives each file one entry. The calls of a file are its link targets, repeats dropped: in import
order, each import that resolves to a path other than the file itself. The callers of a file are
the files whose calls hold it, in the order of the analyses. Every import that resolves records
its target, self-imports included, and every other import is left as it was
(`linkImports_edges`).

The proof follows the two loops of `linkImports`. Through one file's imports, the file's calls
grow by its link targets and each target's callers gain the file once (`foldl_linkEdge_calls`,
`foldl_linkEdge_calledBy`). Through the files, a file's calls are set by its own turn and left
alone by every other, and the callers of a path are extended in turn, never repeated, since no
file comes twice (`foldl_linkAnalysis_calls`, `foldl_linkAnalysis_calledBy`).

Owns: `linkTarget`, `linkTargets`, `linkImports_edges`.
-/

namespace ProjectIndex

open ProjectIndex.Graph

/-- The indexed path an import links its importer to: the path it resolves to, when that path is
indexed and is not the importer. -/
def linkTarget (set : PathSet) (keys : List String) (importer : String) (edge : ImportEdge) :
    Option String :=
  (set.resolve? importer edge.source).filter fun t => keys.contains t && t != importer

/-- The paths an importer's imports link it to, in import order, repeats kept. -/
def linkTargets (set : PathSet) (keys : List String) (importer : String)
    (imports : List ImportEdge) : List String :=
  imports.filterMap (linkTarget set keys importer)

theorem appendAbsent_appendAbsent (xs : List String) (x : String) :
    appendAbsent (appendAbsent xs x) x = appendAbsent xs x := by
  have present : (appendAbsent xs x).contains x = true :=
    List.contains_iff_mem.mpr (mem_appendAbsent.mpr (Or.inr rfl))
  rw [appendAbsent, if_pos present]

theorem appendAbsent_of_not_mem {xs : List String} {x : String} (absent : x ∉ xs) :
    appendAbsent xs x = xs ++ [x] := by
  rw [appendAbsent, if_neg (fun present => absent (List.contains_iff_mem.mp present))]

/-! ### One import -/

section OneImport

variable {set : PathSet} {importer : String}

/-- One import adds the edge to its link target, if it has one, and changes nothing else. -/
theorem linkEdge_snd (acc : List ImportEdge × List (String × GraphEntry)) (edge : ImportEdge) :
    (linkEdge set importer acc edge).2 =
      ((linkTarget set (acc.2.map (·.1)) importer edge).map (withEdge acc.2 importer)).getD
        acc.2 := by
  unfold linkEdge linkTarget
  cases set.resolve? importer edge.source with
  | none => rfl
  | some target =>
      dsimp only
      by_cases known : acc.2.any (·.1 == target)
      · have listed : target ∈ acc.2.map (·.1) := any_key_iff.mp known
        rw [if_pos known]
        by_cases self : target = importer
        · simp [self, Option.filter_some]
        · have other : (target == importer) = false := beq_false_of_ne self
          simp [other, listed, self, Option.filter_some, withEdge]
      · have unlisted : target ∉ acc.2.map (·.1) := fun listed => known (any_key_iff.mpr listed)
        rw [if_neg known]
        simp [unlisted, Option.filter_some]

theorem linkTarget_known {keys : List String} {edge : ImportEdge} {t : String}
    (linked : linkTarget set keys importer edge = some t) : t ∈ keys ∧ t ≠ importer := by
  obtain ⟨_, passes⟩ := Option.filter_eq_some_iff.mp linked
  simp only [Bool.and_eq_true, List.contains_iff_mem, bne_iff_ne, ne_eq] at passes
  exact passes

theorem linkTargets_cons (keys : List String) (edge : ImportEdge) (rest : List ImportEdge) :
    linkTargets set keys importer (edge :: rest) =
      (linkTarget set keys importer edge).toList ++ linkTargets set keys importer rest := by
  unfold linkTargets
  rw [List.filterMap_cons]
  cases linkTarget set keys importer edge <;> rfl

variable (set importer)

/-- Through one file's imports its calls grow by its link targets, repeats dropped, and no other
path's calls change. -/
theorem foldl_linkEdge_calls (k : String) :
    ∀ (edges : List ImportEdge) (acc : List ImportEdge × List (String × GraphEntry)),
      importer ∈ acc.2.map (·.1) →
      (graphEntry (edges.foldl (linkEdge set importer) acc).2 k).calls =
        if k = importer then
          (linkTargets set (acc.2.map (·.1)) importer edges).foldl appendAbsent
            (graphEntry acc.2 importer).calls
        else (graphEntry acc.2 k).calls
  | [], acc, _ => by
      by_cases atImporter : k = importer
      · subst atImporter
        simp [linkTargets]
      · simp [atImporter]
  | edge :: rest, acc, importerKnown => by
      have sameKeys : (linkEdge set importer acc edge).2.map (·.1) = acc.2.map (·.1) :=
        linkEdge_keys
      rw [List.foldl_cons, foldl_linkEdge_calls k rest _ (sameKeys ▸ importerKnown), sameKeys,
        linkTargets_cons]
      cases linked : linkTarget set (acc.2.map (·.1)) importer edge with
      | none =>
          rw [linkEdge_snd, linked]
          rfl
      | some t =>
          obtain ⟨_, distinct⟩ := linkTarget_known linked
          rw [linkEdge_snd, linked]
          simp only [Option.map_some, Option.getD_some, Option.toList_some, List.singleton_append,
            List.foldl_cons]
          rw [calls_withEdge importerKnown distinct, calls_withEdge importerKnown distinct,
            if_pos rfl]
          by_cases atImporter : k = importer
          · rw [if_pos atImporter, if_pos atImporter]
          · rw [if_neg atImporter, if_neg atImporter, if_neg atImporter]

/-- Through one file's imports, each of its link targets gains the file as a caller, once. -/
theorem foldl_linkEdge_calledBy (k : String) :
    ∀ (edges : List ImportEdge) (acc : List ImportEdge × List (String × GraphEntry)),
      (graphEntry (edges.foldl (linkEdge set importer) acc).2 k).calledBy =
        if k ∈ linkTargets set (acc.2.map (·.1)) importer edges then
          appendAbsent (graphEntry acc.2 k).calledBy importer
        else (graphEntry acc.2 k).calledBy
  | [], acc => by simp [linkTargets]
  | edge :: rest, acc => by
      have sameKeys : (linkEdge set importer acc edge).2.map (·.1) = acc.2.map (·.1) :=
        linkEdge_keys
      rw [List.foldl_cons, foldl_linkEdge_calledBy k rest, sameKeys, linkTargets_cons]
      cases linked : linkTarget set (acc.2.map (·.1)) importer edge with
      | none =>
          rw [linkEdge_snd, linked]
          rfl
      | some t =>
          obtain ⟨known, distinct⟩ := linkTarget_known linked
          rw [linkEdge_snd, linked]
          simp only [Option.map_some, Option.getD_some, Option.toList_some, List.singleton_append,
            List.mem_cons]
          rw [calledBy_withEdge known distinct]
          -- the first edge to `t` adds the importer; a later one finds it there
          by_cases atTarget : k = t
          · subst atTarget
            by_cases again : k ∈ linkTargets set (acc.2.map (·.1)) importer rest
            · simp [again, appendAbsent_appendAbsent]
            · simp [again]
          · simp [atTarget]

end OneImport

/-! ### The files in turn -/

section Files

variable (set : PathSet)

theorem linkAnalysis_snd (acc : List FileAnalysis × List (String × GraphEntry))
    (a : FileAnalysis) :
    (linkAnalysis set acc a).2 = (a.imports.foldl (linkEdge set a.path) ([], acc.2)).2 := rfl

theorem linkAnalysis_keys (acc : List FileAnalysis × List (String × GraphEntry))
    (a : FileAnalysis) : (linkAnalysis set acc a).2.map (·.1) = acc.2.map (·.1) :=
  foldl_linkEdge_keys a.imports ([], acc.2)

theorem foldl_linkAnalysis_calls_other (k : String) :
    ∀ (analyses : List FileAnalysis) (acc : List FileAnalysis × List (String × GraphEntry)),
      (∀ a ∈ analyses, a.path ∈ acc.2.map (·.1)) → k ∉ analyses.map (·.path) →
      (graphEntry (analyses.foldl (linkAnalysis set) acc).2 k).calls = (graphEntry acc.2 k).calls
  | [], _, _, _ => rfl
  | a :: rest, acc, known, absent => by
      have notHere : k ≠ a.path := fun same => absent (same ▸ List.mem_cons_self)
      rw [List.foldl_cons, foldl_linkAnalysis_calls_other k rest _
          (fun b member => linkAnalysis_keys set acc a ▸ known b (List.mem_cons_of_mem a member))
          (fun member => absent (List.mem_cons_of_mem _ member)),
        linkAnalysis_snd, foldl_linkEdge_calls set a.path k a.imports _ (known a List.mem_cons_self),
        if_neg notHere]

/-- A file's calls are its link targets laid over what it had, repeats dropped. -/
theorem foldl_linkAnalysis_calls :
    ∀ (analyses : List FileAnalysis) (acc : List FileAnalysis × List (String × GraphEntry)),
      (∀ a ∈ analyses, a.path ∈ acc.2.map (·.1)) → (analyses.map (·.path)).Nodup →
      ∀ a ∈ analyses,
        (graphEntry (analyses.foldl (linkAnalysis set) acc).2 a.path).calls =
          (linkTargets set (acc.2.map (·.1)) a.path a.imports).foldl appendAbsent
            (graphEntry acc.2 a.path).calls
  | [], _, _, _, _, member => nomatch member
  | b :: rest, acc, known, distinct, a, member => by
      have restKnown : ∀ c ∈ rest, c.path ∈ (linkAnalysis set acc b).2.map (·.1) :=
        fun c inRest => linkAnalysis_keys set acc b ▸ known c (List.mem_cons_of_mem b inRest)
      obtain ⟨bFresh, restDistinct⟩ := List.nodup_cons.mp distinct
      have bKnown := known b List.mem_cons_self
      rw [List.foldl_cons]
      rcases List.mem_cons.mp member with same | inRest
      · -- `a`'s own turn sets its calls; the files after it leave them alone
        subst same
        rw [foldl_linkAnalysis_calls_other set a.path rest _ restKnown bFresh, linkAnalysis_snd,
          foldl_linkEdge_calls set a.path a.path a.imports _ bKnown, if_pos rfl]
      · have apart : a.path ≠ b.path := fun same =>
          bFresh (List.mem_map.mpr ⟨a, inRest, same⟩)
        rw [foldl_linkAnalysis_calls rest _ restKnown restDistinct a inRest,
          linkAnalysis_keys, linkAnalysis_snd,
          foldl_linkEdge_calls set b.path a.path b.imports _ bKnown, if_neg apart]

/-- The callers of a path are extended file by file, in turn, by the files that link to it. -/
theorem foldl_linkAnalysis_calledBy (k : String) :
    ∀ (analyses : List FileAnalysis) (acc : List FileAnalysis × List (String × GraphEntry)),
      (analyses.map (·.path)).Nodup → (∀ a ∈ analyses, a.path ∉ (graphEntry acc.2 k).calledBy) →
      (graphEntry (analyses.foldl (linkAnalysis set) acc).2 k).calledBy =
        (graphEntry acc.2 k).calledBy ++
          (analyses.filter fun a =>
            (linkTargets set (acc.2.map (·.1)) a.path a.imports).contains k).map (·.path)
  | [], _, _, _ => by simp
  | b :: rest, acc, distinct, fresh => by
      obtain ⟨bFresh, restDistinct⟩ := List.nodup_cons.mp distinct
      -- after `b`'s turn, `b` is the one new caller of `k`, if `b` links to it
      have afterB : (graphEntry (linkAnalysis set acc b).2 k).calledBy =
          (graphEntry acc.2 k).calledBy ++
            (if (linkTargets set (acc.2.map (·.1)) b.path b.imports).contains k then [b.path]
              else []) := by
        rw [linkAnalysis_snd, foldl_linkEdge_calledBy]
        by_cases links : k ∈ linkTargets set (acc.2.map (·.1)) b.path b.imports
        · rw [if_pos links, if_pos (List.contains_iff_mem.mpr links),
            appendAbsent_of_not_mem (fresh b List.mem_cons_self)]
        · rw [if_neg links, if_neg (fun contained => links (List.contains_iff_mem.mp contained)),
            List.append_nil]
      have restFresh : ∀ c ∈ rest, c.path ∉ (graphEntry (linkAnalysis set acc b).2 k).calledBy := by
        intro c inRest listed
        rw [afterB, List.mem_append] at listed
        rcases listed with before | isB
        · exact fresh c (List.mem_cons_of_mem b inRest) before
        · split at isB
          · exact bFresh (List.mem_map.mpr ⟨c, inRest, List.mem_singleton.mp isB⟩)
          · exact List.not_mem_nil isB
      rw [List.foldl_cons, foldl_linkAnalysis_calledBy k rest _ restDistinct restFresh, afterB,
        linkAnalysis_keys, List.filter_cons]
      split <;> simp

end Files

/-! ### The graph of the analyses -/

theorem graphEntry_blank {α : Type} (items : List α) (key : α → String) (k : String) :
    graphEntry (items.map fun x => (key x, ({} : GraphEntry))) k = {} := by
  induction items with
  | nil => rfl
  | cons x rest inductionHypothesis =>
      rw [List.map_cons, graphEntry_cons]
      split
      · rfl
      · exact inductionHypothesis

section Graph

variable (analyses : List FileAnalysis) (paths : List String) (aliases : List (String × List String))

/-- Over a path set registered with exactly the analysed paths, an import's link target is the
path it resolves to, unless that is the importer. -/
theorem linkTarget_registered (registered : ∀ p, p ∈ paths ↔ p ∈ analyses.map (·.path))
    (importer : String) (edge : ImportEdge) :
    linkTarget (PathSet.ofPaths paths aliases) (analyses.map (·.path)) importer edge =
      ((PathSet.ofPaths paths aliases).resolve? importer edge.source).filter (· != importer) := by
  unfold linkTarget
  cases resolved : (PathSet.ofPaths paths aliases).resolve? importer edge.source with
  | none => rfl
  | some t =>
      have known := (registered t).mp (resolve?_mem paths aliases resolved)
      simp only [List.mem_map] at known
      by_cases self : t = importer <;> simp [Option.filter_some, known, self]

/-- **The import graph.** For analyses of distinct paths, linked over a path set registered with
exactly those paths and any alias table: the graph has one entry per path; the calls of a file are
the paths its imports resolve to, other than itself, in import order without repeats; the callers
of a path are the other files whose calls hold it, in the order of the analyses; and each import
records the path it resolves to, self-imports included, while the others are left unchanged. -/
theorem linkImports_edges (distinct : (analyses.map (·.path)).Nodup)
    (registered : ∀ p, p ∈ paths ↔ p ∈ analyses.map (·.path)) :
    (linkImports (PathSet.ofPaths paths aliases) analyses).2.map (·.1) =
        analyses.map (·.path) ∧
      (∀ a ∈ analyses,
        (graphEntry (linkImports (PathSet.ofPaths paths aliases) analyses).2 a.path).calls =
          firstOccurrences (a.imports.filterMap fun e =>
            ((PathSet.ofPaths paths aliases).resolve? a.path e.source).filter (· != a.path))) ∧
      (∀ t, (graphEntry (linkImports (PathSet.ofPaths paths aliases) analyses).2 t).calledBy =
        (analyses.filter fun a => a.path != t &&
          (graphEntry (linkImports (PathSet.ofPaths paths aliases) analyses).2
            a.path).calls.contains t).map (·.path)) ∧
      (linkImports (PathSet.ofPaths paths aliases) analyses).1 =
        analyses.map fun a => { a with imports := a.imports.map fun e =>
          match (PathSet.ofPaths paths aliases).resolve? a.path e.source with
          | some t => { e with resolvedPath := some t }
          | none => e } := by
  set set := PathSet.ofPaths paths aliases
  set blank : List FileAnalysis × List (String × GraphEntry) :=
    ([], analyses.map fun a => (a.path, {}))
  have blankKeys : blank.2.map (·.1) = analyses.map (·.path) := by simp [blank]
  have empty : ∀ k, graphEntry blank.2 k = {} := graphEntry_blank analyses (·.path)
  have targets : ∀ a ∈ analyses, linkTargets set (analyses.map (·.path)) a.path a.imports =
      a.imports.filterMap fun e => (set.resolve? a.path e.source).filter (· != a.path) :=
    fun a _ => List.filterMap_congr fun e _ => linkTarget_registered analyses paths aliases
      registered a.path e
  have known : ∀ a ∈ analyses, a.path ∈ blank.2.map (·.1) := fun a member =>
    blankKeys ▸ List.mem_map_of_mem member
  -- the calls of each file
  have calls : ∀ a ∈ analyses, (graphEntry (linkImports set analyses).2 a.path).calls =
      firstOccurrences (a.imports.filterMap fun e =>
        (set.resolve? a.path e.source).filter (· != a.path)) := by
    intro a member
    rw [linkImports, foldl_linkAnalysis_calls set analyses blank known distinct a member,
      blankKeys, empty, targets a member]
    rfl
  refine ⟨linkImports_keys set analyses, calls, fun t => ?_, ?_⟩
  · -- the callers of each path
    rw [linkImports, foldl_linkAnalysis_calledBy set t analyses blank distinct
      (fun a _ listed => by rw [empty] at listed; exact List.not_mem_nil listed), empty,
      blankKeys]
    simp only [List.nil_append]
    congr 1
    refine List.filter_congr fun a member => ?_
    rw [← linkImports, calls a member, targets a member]
    by_cases self : a.path = t
    · subst self
      simp
    · simp [self]
  · -- each import records what it resolves to
    rw [linkImports_fst]
    refine List.map_congr_left fun a _ => ?_
    simp only [linkedAnalysis]
    congr 1
    refine List.map_congr_left fun e _ => ?_
    unfold resolvedEdge
    cases resolved : set.resolve? a.path e.source with
    | none => rfl
    | some t =>
        exact if_pos ((registered t).mp (resolve?_mem paths aliases resolved))

/-- Two files, one importing the other: their paths are distinct, and the graph has an entry for
each. -/
theorem linkImports_edges_pair :
    let analyses : List FileAnalysis :=
      [{ path := "lib/a.ts", classification := default, name := "a",
         imports := [{ source := "./b" }] },
       { path := "lib/b.ts", classification := default, name := "b" }]
    (analyses.map (·.path)).Nodup ∧
      (linkImports (PathSet.ofPaths (analyses.map (·.path)) []) analyses).2.map (·.1) =
        analyses.map (·.path) :=
  ⟨by decide, (linkImports_edges _ _ [] (by decide) fun _ => Iff.rfl).1⟩

end Graph

end ProjectIndex
