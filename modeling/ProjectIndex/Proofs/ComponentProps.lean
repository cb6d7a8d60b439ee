import Mathlib
import ProjectIndex.Module.Props

/-!
The props of a component, laid out.

`Document.props` first finds where the props come from (`propsSource`): the type resolved for
them, and the items the component's first parameter destructures, each with its key as written and
its default. It then lays them out (`layout`): the members of the flattened type (`typeMembers`),
each name at its first occurrence, then the destructured keys that no member has, typed
`unknown`. Every prop's default is that of the last destructuring of its name, and a prop is
required exactly when no member marks it optional and it has no default (`props_layout`).

Both tables keep the first occurrence of each key, which is the library's `List.eraseDups` of the
keys (`keys_foldl_eq_eraseDups`): the members by a fold that skips a known name, the destructured
items by a fold that overwrites a known key in place.

A destructured key is matched as written. The quoted key of `{ "a": x = 1 }` is the text `"a"`,
quotes included, so it neither meets a member `a` nor lends it its default.
-/

namespace ProjectIndex.Script

open ProjectIndex

/-! ### Keys kept at their first occurrence -/

section Keys

theorem eraseDups_append_singleton (xs : List String) (k : String) :
    (xs ++ [k]).eraseDups = if k ∈ xs then xs.eraseDups else xs.eraseDups ++ [k] := by
  rw [List.eraseDups_append]
  by_cases member : k ∈ xs <;> simp [member, List.removeAll, List.eraseDups_cons]

theorem nodup_eraseDups (xs : List String) : xs.eraseDups.Nodup := by
  induction xs using List.reverseRecOn with
  | nil => exact List.nodup_nil
  | append_singleton xs k ih =>
    rw [eraseDups_append_singleton]
    split
    · exact ih
    · rename_i fresh
      exact List.nodup_append.mpr ⟨ih, List.nodup_singleton k,
        fun a seen b added => by
          rw [List.mem_singleton] at added
          subst added
          rintro rfl
          exact fresh (List.mem_eraseDups.mp seen)⟩

variable {α : Type} (key : α → String)

/-- A fold that adds each item's key when it is new, and leaves the keys alone otherwise, keeps
every key at its first occurrence. -/
theorem keys_foldl_eq_eraseDups (step : List α → α → List α)
    (keys_step : ∀ acc e, (step acc e).map key =
      if key e ∈ acc.map key then acc.map key else acc.map key ++ [key e])
    (items : List α) :
    (items.foldl step []).map key = (items.map key).eraseDups := by
  induction items using List.reverseRecOn with
  | nil => rfl
  | append_singleton items e ih =>
    rw [List.foldl_append, List.foldl_cons, List.foldl_nil, keys_step, ih, List.map_append,
      List.map_singleton, eraseDups_append_singleton]
    simp only [List.mem_eraseDups]

/-- The search by a key that no item has finds nothing. -/
theorem find?_key_eq_none {xs : List α} {k : String} (absent : k ∉ xs.map key) :
    xs.find? (fun y => key y == k) = none := by
  rw [List.find?_eq_none]
  intro y member keyed
  exact absent (List.mem_map.mpr ⟨y, member, by simpa using keyed⟩)

/-- In a list whose keys are distinct, the search by a member's key finds that member. -/
theorem find?_key_of_mem {xs : List α} {x : α} (member : x ∈ xs) (distinct : (xs.map key).Nodup) :
    xs.find? (fun y => key y == key x) = some x := by
  induction xs with
  | nil => cases member
  | cons y ys ih =>
    rw [List.map_cons, List.nodup_cons] at distinct
    rcases List.mem_cons.mp member with rfl | later
    · simp
    · have differ : key y ≠ key x := fun same => distinct.1 (same ▸ List.mem_map_of_mem later)
      rw [List.find?_cons_of_neg (by simpa using differ)]
      exact ih later distinct.2

end Keys

/-! ### The destructuring table -/

section Table

/-- What one item of an object pattern destructures: its key as written, and its default. -/
def destructuredItem (d : Document) (item : Node) : Option (String × Option String) :=
  if item.kind == "shorthand_property_identifier_pattern" then some (d.text item, none)
  else if item.kind == "object_assignment_pattern" then
    some (d.text? (item.child? "left"), (item.child? "right").map d.text)
  else if item.kind == "pair_pattern" then
    some (d.text? (item.child? "key"),
      match item.child? "value" with
      | some v => if v.kind == "assignment_pattern" then (v.child? "right").map d.text else none
      | none => none)
  else none

/-- The table of destructured items: a key seen again takes its new default in place. -/
def tableOf (items : List (String × Option String)) : List (String × Option String) :=
  items.foldl (fun table e => putOrdered table e.1 e.2) []

theorem tableOf_append_singleton (items : List (String × Option String)) (e : String × Option String) :
    tableOf (items ++ [e]) = putOrdered (tableOf items) e.1 e.2 := by
  rw [tableOf, tableOf, List.foldl_append]
  rfl

theorem destructuredNames_eq (d : Document) (pattern : Node) :
    destructuredNames d pattern = tableOf (pattern.namedChildren.filterMap (destructuredItem d)) := by
  unfold destructuredNames tableOf
  rw [List.foldl_filterMap]
  congr 1
  funext names item
  unfold destructuredItem
  split_ifs <;> rfl

theorem keys_putOrdered (table : List (String × Option String)) (k : String) (v : Option String) :
    (putOrdered table k v).map (·.1) =
      if k ∈ table.map (·.1) then table.map (·.1) else table.map (·.1) ++ [k] := by
  unfold putOrdered
  by_cases present : k ∈ table.map (·.1)
  · have known : table.any (·.1 == k) = true := by simpa using present
    rw [if_pos known, if_pos present, List.map_map]
    apply List.map_congr_left
    rintro ⟨a, b⟩ -
    by_cases same : a = k <;> simp [same]
  · have unknown : table.any (·.1 == k) = false := by
      rw [Bool.eq_false_iff]
      intro known
      obtain ⟨e, member, keyed⟩ := List.any_eq_true.mp known
      exact present (List.mem_map.mpr ⟨e, member, by simpa using keyed⟩)
    rw [if_neg (by simp [unknown]), if_neg present, List.map_append]
    rfl

theorem find?_putOrdered (table : List (String × Option String)) (k : String) (v : Option String)
    (name : String) :
    ((putOrdered table k v).find? (·.1 == name)).bind (·.2) =
      if k = name then v else (table.find? (·.1 == name)).bind (·.2) := by
  unfold putOrdered
  by_cases known : table.any (·.1 == k) = true
  · rw [if_pos known, List.find?_map]
    -- overwriting in place keeps every key, so the search meets the same entry
    have sameKeys : ((fun e : String × Option String => e.1 == name) ∘
        fun e => match e with | (a, old) => if a == k then (a, v) else (a, old)) = (·.1 == name) := by
      funext e
      obtain ⟨a, b⟩ := e
      by_cases keyed : a = k <;> simp [keyed]
    rw [sameKeys]
    by_cases same : k = name
    · subst same
      obtain ⟨e, found⟩ := Option.isSome_iff_exists.mp
        (List.find?_isSome.mpr (List.any_eq_true.mp known))
      have keyed : e.1 = k := by simpa using List.find?_some found
      obtain ⟨a, b⟩ := e
      simp only at keyed
      subst keyed
      simp [found]
    · cases found : table.find? (·.1 == name) with
      | none => simp [same]
      | some e =>
        have keyed : e.1 = name := by simpa using List.find?_some found
        obtain ⟨a, b⟩ := e
        simp only at keyed
        subst keyed
        simp [Ne.symm same, same]
  · rw [if_neg known, List.find?_append]
    by_cases same : k = name
    · subst same
      have missing : table.find? (·.1 == k) = none := by
        rw [List.find?_eq_none]
        intro e member keyed
        exact known (List.any_eq_true.mpr ⟨e, member, keyed⟩)
      simp [missing]
    · simp [same]

theorem keys_tableOf (items : List (String × Option String)) :
    (tableOf items).map (·.1) = (items.map (·.1)).eraseDups :=
  keys_foldl_eq_eraseDups (·.1) _ (fun table e => keys_putOrdered table e.1 e.2) items

/-- The table gives each key the default of its last item. -/
theorem find?_tableOf (items : List (String × Option String)) (name : String) :
    ((tableOf items).find? (·.1 == name)).bind (·.2) =
      (items.reverse.find? (·.1 == name)).bind (·.2) := by
  induction items using List.reverseRecOn with
  | nil => rfl
  | append_singleton items e ih =>
    rw [tableOf_append_singleton, find?_putOrdered, ih, List.reverse_append, List.reverse_singleton,
      List.singleton_append, List.find?_cons]
    by_cases same : e.1 = name
    · simp [same]
    · have differ : (e.1 == name) = false := by simpa using same
      simp [same, differ]

end Table

/-! ### The members of the type -/

section Members

/-- The members of a type, each name at its first occurrence. -/
def firstByName (members : List (String × String × Bool)) : List (String × String × Bool) :=
  members.foldl (fun acc m => if acc.any (·.1 == m.1) then acc else acc ++ [m]) []

theorem keys_firstByName (members : List (String × String × Bool)) :
    (firstByName members).map (·.1) = (members.map (·.1)).eraseDups := by
  apply keys_foldl_eq_eraseDups
  intro acc m
  by_cases known : m.1 ∈ acc.map (·.1)
  · rw [if_pos (by simpa using known), if_pos known]
  · rw [if_neg (by simpa using known), if_neg known, List.map_append]
    rfl

/-- A member kept is the first member of its name. -/
theorem find?_of_mem_firstByName {members : List (String × String × Bool)} {m : String × String × Bool}
    (kept : m ∈ firstByName members) : members.find? (·.1 == m.1) = some m := by
  induction members using List.reverseRecOn with
  | nil => cases kept
  | append_singleton members e ih =>
    unfold firstByName at kept
    rw [List.foldl_append, List.foldl_cons, List.foldl_nil, ← firstByName] at kept
    rw [List.find?_append]
    split at kept
    · rw [ih kept]
      rfl
    · rename_i fresh
      rcases List.mem_append.mp kept with earlier | added
      · rw [ih earlier]
        rfl
      · rw [List.mem_singleton] at added
        subst added
        -- the new member's name is no earlier member's
        have unseen : m.1 ∉ members.map (·.1) := by
          rw [← List.mem_eraseDups, ← keys_firstByName]
          simpa using fresh
        have missing : members.find? (·.1 == m.1) = none := find?_key_eq_none (fun e : String × String × Bool => e.1) unseen
        simp [missing]

variable {d : Document} {locals : Locals} {typeNode : Option Node}
  {table : List (String × Option String)}

theorem membersToProps_names :
    (membersToProps d locals typeNode table).map (·.name) =
      ((typeMembers d locals 5 typeNode).map (·.1)).eraseDups := by
  rw [← keys_firstByName]
  unfold membersToProps firstByName
  rw [List.map_map]
  apply List.map_congr_left
  rintro ⟨name, typeText, optional⟩ -
  rfl

/-- A prop of the type is its member's first occurrence, with the table's default for its name. -/
theorem mem_membersToProps {p : PropDecl} (member : p ∈ membersToProps d locals typeNode table) :
    ∃ type optional,
      (typeMembers d locals 5 typeNode).find? (·.1 == p.name) = some (p.name, type, optional) ∧
      p.type = type ∧ p.defaultValue = (table.find? (·.1 == p.name)).bind (·.2) ∧
      p.required = (!optional && p.defaultValue.isNone) := by
  unfold membersToProps at member
  obtain ⟨⟨name, typeText, optional⟩, kept, rfl⟩ := List.mem_map.mp member
  exact ⟨typeText, optional, find?_of_mem_firstByName kept, rfl, rfl, rfl⟩

end Members

/-! ### Where the props come from -/

/-- Where a component's props come from: the type resolved for them, and the items its first
parameter destructures. `none` when it has none to read: no component, a function without
parameters, or a plain parameter other than `props` without a type. -/
def propsSource (d : Document) (exports : List ExportDecl) :
    Option (Option Node × List (String × Option String)) :=
  match componentTarget d exports d.locals with
  | none => none
  | some (func, declaredType) =>
    if classDeclarationKinds.contains func.kind || classValueKinds.contains func.kind then
      some (classPropsType func, [])
    else
      match firstParameter func with
      | none => none
      | some param =>
        let typeNode := (parameterParts param).2.orElse (fun _ => propsTypeFromWrapper declaredType)
        match (parameterParts param).1 with
        | none => none
        | some pattern =>
          if pattern.kind == "object_pattern" then
            some (typeNode, pattern.namedChildren.filterMap (destructuredItem d))
          else if pattern.kind == "identifier" && d.text pattern != "props" && typeNode.isNone then
            none
          else some (typeNode, [])

/-- The props laid out from a type and a destructuring table: the type's props, then the keys of
the table that are not among them, typed `unknown`. -/
def layout (d : Document) (typeNode : Option Node) (table : List (String × Option String)) :
    List PropDecl :=
  let props := membersToProps d d.locals typeNode table
  props ++ (table.filter (fun e => !props.any (·.name == e.1))).map fun e =>
    { name := e.1, type := "unknown", required := e.2.isNone, defaultValue := e.2 }

theorem props_eq (d : Document) (exports : List ExportDecl) :
    d.props exports = match propsSource d exports with
      | none => []
      | some (typeNode, items) => layout d typeNode (tableOf items) := by
  unfold Document.props propsSource
  simp only
  rcases componentTarget d exports d.locals with _ | ⟨func, declaredType⟩
  · rfl
  · simp only
    split
    · simp [layout, tableOf]
    · rcases firstParameter func with _ | param
      · rfl
      · simp only
        rcases parameterParts param with ⟨_ | pattern, ownType⟩
        · rfl
        · cases destructuring : pattern.kind == "object_pattern"
          · simp only [destructuring, bne, Bool.not_false, Bool.true_and, Bool.false_eq_true,
              ↓reduceIte, layout, tableOf]
            split_ifs <;> simp
          · have object : pattern.kind = "object_pattern" := by simpa using destructuring
            simp [object, layout, destructuredNames_eq]

/-! ### The layout -/

section Layout

variable {d : Document} {typeNode : Option Node} {table items : List (String × Option String)}

/-- A name is among the type's props exactly when some member of the type has it. -/
theorem any_name_membersToProps (k : String) :
    (membersToProps d d.locals typeNode table).any (·.name == k) =
      decide (k ∈ (typeMembers d d.locals 5 typeNode).map (·.1)) := by
  rw [Bool.eq_iff_iff, List.any_eq_true, decide_eq_true_iff, ← List.mem_eraseDups,
    ← @membersToProps_names d d.locals typeNode table, List.mem_map]
  simp

theorem layout_names :
    (layout d typeNode (tableOf items)).map (·.name) =
      ((typeMembers d d.locals 5 typeNode).map (·.1)).eraseDups ++
        ((items.map (·.1)).eraseDups.filter (· ∉ (typeMembers d d.locals 5 typeNode).map (·.1))) := by
  unfold layout
  rw [List.map_append, membersToProps_names, List.map_map, ← keys_tableOf, List.filter_map]
  congr 1
  -- an extra keeps its key as its name, and is kept when no member has that key
  have untyped : (fun e : String × Option String =>
      !(membersToProps d d.locals typeNode (tableOf items)).any (·.name == e.1)) =
      (fun k => decide (k ∉ (typeMembers d d.locals 5 typeNode).map (·.1))) ∘ (·.1) := by
    funext e
    simp [any_name_membersToProps]
  rw [untyped]
  rfl

theorem layout_names_nodup : ((layout d typeNode (tableOf items)).map (·.name)).Nodup := by
  rw [layout_names]
  refine List.nodup_append.mpr ⟨nodup_eraseDups _, (nodup_eraseDups _).filter _, ?_⟩
  intro a member b extra same
  subst same
  have untyped : a ∉ (typeMembers d d.locals 5 typeNode).map (·.1) := by
    simpa using (List.mem_filter.mp extra).2
  exact untyped (List.mem_eraseDups.mp member)

/-- Every prop laid out has the default of the last destructuring of its name, and is typed by
the first member of its name, or `unknown` when the type has none. -/
theorem mem_layout {p : PropDecl} (member : p ∈ layout d typeNode (tableOf items)) :
    p.defaultValue = (items.reverse.find? (·.1 == p.name)).bind (·.2) ∧
    match (typeMembers d d.locals 5 typeNode).find? (·.1 == p.name) with
    | some (_, type, optional) => p.type = type ∧ p.required = (!optional && p.defaultValue.isNone)
    | none => p.type = "unknown" ∧ p.required = p.defaultValue.isNone := by
  unfold layout at member
  rcases List.mem_append.mp member with typed | extra
  · obtain ⟨type, optional, found, typeText, dflt, required⟩ := mem_membersToProps typed
    rw [found]
    exact ⟨dflt.trans (find?_tableOf items p.name), typeText, required⟩
  · obtain ⟨e, kept, rfl⟩ := List.mem_map.mp extra
    obtain ⟨inTable, untyped⟩ := List.mem_filter.mp kept
    have noMember : (typeMembers d d.locals 5 typeNode).find? (·.1 == e.1) = none := by
      rw [any_name_membersToProps] at untyped
      have absent : e.1 ∉ (typeMembers d d.locals 5 typeNode).map (·.1) := by simpa using untyped
      exact find?_key_eq_none (fun m : String × String × Bool => m.1) absent
    -- the table's keys are distinct, so the search by the extra's key finds the extra itself
    have found : (tableOf items).find? (·.1 == e.1) = some e :=
      find?_key_of_mem (·.1) inTable (by rw [keys_tableOf]; exact nodup_eraseDups _)
    refine ⟨?_, ?_⟩
    · rw [← find?_tableOf, found]
      rfl
    · simp [noMember]

end Layout

/-- **The props of a component.** Their names are distinct. With nothing to read there are none;
otherwise the members of the resolved type come first, each name at its first occurrence, then the
destructured keys no member has. Every prop has the default of the last destructuring of its
name; a member's prop has the member's type and is required when the member is not optional and
there is no default, and any other prop is typed `unknown` and required when it has no default. -/
theorem props_layout (d : Document) (exports : List ExportDecl) :
    ((d.props exports).map (·.name)).Nodup ∧
    (propsSource d exports = none → d.props exports = []) ∧
    ∀ typeNode items, propsSource d exports = some (typeNode, items) →
      (d.props exports).map (·.name) =
          ((typeMembers d d.locals 5 typeNode).map (·.1)).eraseDups ++
            ((items.map (·.1)).eraseDups.filter
              (· ∉ (typeMembers d d.locals 5 typeNode).map (·.1))) ∧
      ∀ p ∈ d.props exports,
        p.defaultValue = (items.reverse.find? (·.1 == p.name)).bind (·.2) ∧
        match (typeMembers d d.locals 5 typeNode).find? (·.1 == p.name) with
        | some (_, type, optional) =>
          p.type = type ∧ p.required = (!optional && p.defaultValue.isNone)
        | none => p.type = "unknown" ∧ p.required = p.defaultValue.isNone := by
  rw [props_eq]
  cases source : propsSource d exports with
  | none => exact ⟨List.nodup_nil, fun _ => rfl, fun _ _ found => by cases found⟩
  | some found =>
    obtain ⟨typeNode, items⟩ := found
    refine ⟨layout_names_nodup, fun absent => (by cases absent), ?_⟩
    rintro typeNode' items' same
    cases same
    exact ⟨layout_names, fun p member => mem_layout member⟩

end ProjectIndex.Script
