import Mathlib
import ProjectIndex.Index.Naming

/-!
Routes served by files under `app` and `pages`.

`routePath?` picks its root by priority, not by position: the first `app` segment of the path when
it has one, and only otherwise the first `pages` segment. Below an `app` root the route is the
folder path; below a `pages` root it is the path with the file's stem in place of its name, an
`index` stem collapsed. Route groups `(name)` and slots `@name` are left out of both.

Because `app` is looked for everywhere before `pages`, a pages-router file inside a folder named
`app` is read as an app route and served at `/` (`route_of_pages_file_in_app_folder`).

Main statement: `route_path_roots`, stated over a decomposition of the path's parts at the root
segment, which is what "the outermost segment named `app`" means.
-/

namespace ProjectIndex

open ProjectIndex.Path

/-- The route made of the kept segments: each one after a slash, and `/` alone for none. -/
def routeText (segments : List String) : String :=
  "/" ++ "/".intercalate (segments.filter keptInRoute)

/-- The route segments below a `pages` root: the file's stem takes the place of its name and is
dropped when it is `index`; with nothing below the root the route is the index. -/
def pageSegments (below : List String) : List String :=
  match below.getLast? with
  | none => []
  | some file =>
    let stem := (SegmentedPath.ofString file).stem
    below.dropLast ++ (if stem == "index" then [] else [stem])

/-! ### The first occurrence of a root segment -/

section Occurrence

variable {root : String} {parts before after : List String}

theorem findIdx?_beq_eq_none : parts.findIdx? (· == root) = none ↔ root ∉ parts := by
  simp only [List.findIdx?_eq_none_iff, beq_eq_false_iff_ne]
  constructor
  · exact fun never member => never root member rfl
  · rintro absent segment member rfl
    exact absent member

theorem findIdx?_beq_append_cons (outermost : root ∉ before) :
    (before ++ root :: after).findIdx? (· == root) = some before.length := by
  have notBefore : before.findIdx? (· == root) = none := findIdx?_beq_eq_none.mpr outermost
  rw [List.findIdx?_append, notBefore, List.findIdx?_cons]
  simp

/-- What follows the first occurrence of a segment is what follows it in any decomposition of the
parts at an occurrence with none before it. -/
theorem below_first_occurrence (outermost : root ∉ before) :
    ((before ++ root :: after).findIdx? (· == root)).map
        (fun i => (before ++ root :: after).drop (i + 1)) = some after := by
  rw [findIdx?_beq_append_cons outermost, Option.map_some]
  simp [List.drop_append]

theorem findIdx?_beq_of_mem (member : root ∈ parts) : ∃ i, parts.findIdx? (· == root) = some i :=
  Option.ne_none_iff_exists'.mp (mt findIdx?_beq_eq_none.mp (not_not.mpr member))

theorem below_absent (absent : root ∉ parts) :
    (parts.findIdx? (· == root)).map (fun i => parts.drop (i + 1)) = none := by
  rw [findIdx?_beq_eq_none.mpr absent, Option.map_none]

end Occurrence

/-! ### The three ways a path is read -/

section Roots

variable {path : String} {before after : List String}

theorem routePath?_eq_none_iff :
    routePath? path = none ↔
      "app" ∉ (SegmentedPath.ofString path).parts ∧ "pages" ∉ (SegmentedPath.ofString path).parts := by
  constructor
  · intro unrouted
    by_cases app : "app" ∈ (SegmentedPath.ofString path).parts
    · obtain ⟨i, found⟩ := findIdx?_beq_of_mem app
      simp [routePath?, found] at unrouted
    · refine ⟨app, fun pages => ?_⟩
      obtain ⟨i, found⟩ := findIdx?_beq_of_mem pages
      simp [routePath?, found, below_absent app] at unrouted
  · rintro ⟨noApp, noPages⟩
    simp only [routePath?, below_absent noApp, below_absent noPages]

/-- Below the first `app` segment the route is the folder path. -/
theorem routePath?_of_app (split : (SegmentedPath.ofString path).parts = before ++ "app" :: after)
    (outermost : "app" ∉ before) :
    routePath? path = some (routeText after.dropLast) := by
  simp only [routePath?, split, below_first_occurrence outermost]
  rfl

/-- Without an `app` segment, below the first `pages` segment the route is the path with the
file's stem. -/
theorem routePath?_of_pages (split : (SegmentedPath.ofString path).parts = before ++ "pages" :: after)
    (outermost : "pages" ∉ before) (noApp : "app" ∉ (SegmentedPath.ofString path).parts) :
    routePath? path = some (routeText (pageSegments after)) := by
  have appAbsent := below_absent noApp
  rw [split] at appAbsent noApp
  simp only [routePath?, split, appAbsent, below_first_occurrence outermost]
  unfold routeText pageSegments
  cases last : after.getLast? with
  | none =>
    -- nothing below the root: the route is the index
    rw [List.getLast?_eq_none_iff.mp last]
    rfl
  | some file => rfl

/-- **Routes of `app` and `pages` files.** A path serves no route exactly when none of its parts
is `app` or `pages`. Below its first `app` part the route is the folder path; only a path without
an `app` part is read below its first `pages` part, with the file's stem, `index` collapsed; groups
and slots are left out of both. -/
theorem route_path_roots (path : String) :
    (routePath? path = none ↔
      "app" ∉ (SegmentedPath.ofString path).parts ∧ "pages" ∉ (SegmentedPath.ofString path).parts) ∧
    (∀ before after, (SegmentedPath.ofString path).parts = before ++ "app" :: after →
      "app" ∉ before → routePath? path = some (routeText after.dropLast)) ∧
    (∀ before after, (SegmentedPath.ofString path).parts = before ++ "pages" :: after →
      "pages" ∉ before → "app" ∉ (SegmentedPath.ofString path).parts →
      routePath? path = some (routeText (pageSegments after))) :=
  ⟨routePath?_eq_none_iff, fun _ _ split outermost => routePath?_of_app split outermost,
    fun _ _ split outermost noApp => routePath?_of_pages split outermost noApp⟩

/-- A pages-router file in a folder named `app` is read below the inner `app` folder, so it is
served at `/` and not at `/app/about`. -/
theorem route_of_pages_file_in_app_folder : routePath? "pages/app/about.tsx" = some "/" := by
  decide

end Roots

end ProjectIndex
