import ProjectIndex.Proofs.TableBodies
import ProjectIndex.Proofs.Outcomes
import ProjectIndex.Proofs.CallGraph

/-!
Contract: the tables a migration lists, and what their columns can hold.

Reading a migration makes two passes over its comment-free text. The first takes the table
definitions (`CREATE TABLE name (body)`) in text order and puts each one into the list: in place
of an earlier table of the same name, or at the end. The second takes the `ALTER TABLE name ADD
clause;` statements in text order; a clause of at least two words is a column, which goes to the
end of the table of that name, or to a new table at the end of the list. A clause of fewer words
is dropped, and its statement names no table.

So the list holds each name once: first the defined names, by their first definition, then the
names only additions mention, by their first addition (`describedTables`). A table's columns are
those of its last definition followed by its added columns in text order
(`parseSql_describes_tables`).

The columns of a definition are its body's items that do not start with a table-constraint word
and have at least two words, one column each and in order; the table constraints only set key
flags on them (`readBody_declared`). Every column the reader makes has consistent keys: a primary
key is not nullable, and a column is a foreign key exactly when it names a referenced table and
column (`Column.KeysAgree`, `parseSql_columns_keysAgree`). An added clause is not checked for a
table-constraint word, so `ADD CONSTRAINT …` adds a column named `CONSTRAINT`.

The pattern side needs one more fact about the matcher: a capture that every way of matching goes
through is recorded in the match (`Pattern.records`).

Owns: `Pattern.records`, `Column.KeysAgree`, `Column.declared`, `startsConstraint`, `Definition`,
`definitions`, `additions`, `tablesOf`, `lastColumns`, `addColumn`, `addedColumns`,
`describedTables`, `parseSql_describes_tables`, `parseSql_columns_keysAgree`.
-/

namespace ProjectIndex.Text.Pattern

/-! ### Captures every match records -/

/-- Every way the pattern matches goes through capture `i`. -/
def records (i : Nat) : Pattern → Bool
  | .capture j p => j == i || records i p
  | .seq p q => records i p || records i q
  | .alt p q => records i p && records i q
  | _ => false

section Records

variable {α : Type} {s : Array Char} {i : Nat}

/-- Every answer of a match is an answer of its continuation, with the captures grown and holding
capture `i` when every way of matching records it. -/
theorem matchWith_records {p : Pattern} {pos : Nat} {caps : Captures}
    {k : Nat → Captures → Option α} {r : α} (answer : matchWith s p pos caps k = some r) :
    ∃ stop caps', caps ⊆ caps' ∧ (records i p = true → ∃ e ∈ caps', e.1 = i) ∧
      k stop caps' = some r := by
  induction p generalizing pos caps k with
  | keyword w =>
    simp only [matchWith] at answer
    split at answer
    · exact ⟨_, caps, List.Subset.refl _, by simp [records], answer⟩
    · cases answer
  | char c =>
    simp only [matchWith] at answer
    split at answer
    · exact ⟨_, caps, List.Subset.refl _, by simp [records], answer⟩
    · cases answer
  | run cls least greedy =>
    simp only [matchWith] at answer
    split at answer
    · cases answer
    · obtain ⟨n, _, found⟩ := List.exists_of_findSome?_eq_some answer
      exact ⟨pos + n, caps, List.Subset.refl _, by simp [records], found⟩
  | boundary =>
    simp only [matchWith] at answer
    split at answer
    · exact ⟨pos, caps, List.Subset.refl _, by simp [records], answer⟩
    · cases answer
  | optional p ih =>
    simp only [matchWith] at answer
    split at answer
    · case h_1 first inner =>
      cases answer
      obtain ⟨stop, caps', grown, -, found⟩ := ih inner
      exact ⟨stop, caps', grown, by simp [records], found⟩
    · exact ⟨pos, caps, List.Subset.refl _, by simp [records], answer⟩
  | alt p q ihp ihq =>
    simp only [matchWith] at answer
    split at answer
    · case h_1 first inner =>
      cases answer
      obtain ⟨stop, caps', grown, recorded, found⟩ := ihp inner
      refine ⟨stop, caps', grown, fun both => recorded ?_, found⟩
      simp only [records, Bool.and_eq_true] at both
      exact both.1
    · obtain ⟨stop, caps', grown, recorded, found⟩ := ihq answer
      refine ⟨stop, caps', grown, fun both => recorded ?_, found⟩
      simp only [records, Bool.and_eq_true] at both
      exact both.2
  | seq p q ihp ihq =>
    obtain ⟨mid, caps₁, grown₁, recorded₁, rest⟩ := ihp answer
    obtain ⟨stop, caps₂, grown₂, recorded₂, found⟩ := ihq rest
    refine ⟨stop, caps₂, List.Subset.trans grown₁ grown₂, fun either => ?_, found⟩
    simp only [records, Bool.or_eq_true] at either
    rcases either with inP | inQ
    · obtain ⟨e, member, index⟩ := recorded₁ inP
      exact ⟨e, grown₂ member, index⟩
    · exact recorded₂ inQ
  | capture j p ih =>
    obtain ⟨stop, caps', grown, recorded, found⟩ := ih answer
    refine ⟨stop, (j, pos, stop) :: caps', List.subset_cons_of_subset _ grown,
      fun either => ?_, found⟩
    simp only [records, Bool.or_eq_true, beq_iff_eq] at either
    rcases either with rfl | inP
    · exact ⟨_, List.mem_cons_self, rfl⟩
    · obtain ⟨e, member, index⟩ := recorded inP
      exact ⟨e, List.mem_cons_of_mem _ member, index⟩

/-- A capture that every way of matching records has a text in every match found. -/
theorem group?_isSome_of_search {p : Pattern} {m : Match} (found : p.search s = some m)
    (always : records i p = true) : (m.group? s i).isSome := by
  obtain ⟨stop, caps, -, recorded, answer⟩ :=
    matchWith_records (i := i) (searchFrom_some found).2
  have captured : m.captures = caps := by rw [← Option.some.inj answer]
  obtain ⟨e, member, index⟩ := recorded always
  simp only [Match.group?, Option.isSome_map, List.find?_isSome, beq_iff_eq, captured]
  exact ⟨e, member, index⟩

end Records

end ProjectIndex.Text.Pattern

namespace ProjectIndex.Sql

open ProjectIndex.Text
open ProjectIndex.Text.Pattern

/-! ### Columns -/

/-- The key flags of a column agree: a primary key is not nullable, and a column is a foreign key
exactly when it names a referenced table, and exactly when it names a referenced column. -/
structure Column.KeysAgree (c : Column) : Prop where
  primary_not_nullable : c.isPrimaryKey = true → c.nullable = false
  foreign_table : c.isForeignKey = true ↔ c.referencesTable.isSome
  foreign_column : c.isForeignKey = true ↔ c.referencesColumn.isSome

/-- The name and type a column is declared with; table constraints leave both alone. -/
def Column.declared (c : Column) : String × String :=
  (c.name, c.type)

/-- A referenced table always has a name in a `REFERENCES` match. -/
theorem references_records : records 1 references = true := rfl

/-- A definition is read as a column exactly when it has at least two words. -/
theorem readColumn_isSome_iff (definition : String) :
    (readColumn definition).isSome ↔ 2 ≤ (splitBlanks definition).length := by
  unfold readColumn
  rcases splitBlanks definition with _ | ⟨first, _ | ⟨second, more⟩⟩ <;> simp

/-- A column read from its definition has consistent keys. -/
theorem readColumn_keysAgree {definition : String} {c : Column}
    (read : readColumn definition = some c) : c.KeysAgree := by
  unfold readColumn at read
  split at read
  · cases read
  · cases read
  · simp only [Option.some.injEq] at read
    subst read
    refine ⟨fun primary => by simp_all, ?_, by simp⟩
    cases found : references.search definition.toList.toArray with
    | none => simp
    | some m =>
      have named := group?_isSome_of_search found references_records
      simpa [Option.isSome_map] using named

/-! ### Table constraints -/

section Constraints

variable {f : Column → Column}

theorem mem_updateLast {columns : List Column} {name : String} {c : Column}
    (member : c ∈ updateLast columns name f) : c ∈ columns ∨ ∃ c' ∈ columns, c = f c' := by
  unfold updateLast at member
  split at member
  · obtain ⟨⟨c', k⟩, listed, rfl⟩ := List.mem_map.mp member
    have original : c' ∈ columns := List.fst_mem_of_mem_zipIdx listed
    dsimp only
    split_ifs
    · exact Or.inr ⟨c', original, rfl⟩
    · exact Or.inl original
  · exact Or.inl member

/-- Updating the last column of a name changes nothing that the update keeps. -/
theorem map_updateLast {β : Type} (g : Column → β) (keeps : ∀ c, g (f c) = g c)
    (columns : List Column) (name : String) :
    (updateLast columns name f).map g = columns.map g := by
  unfold updateLast
  split
  · rw [List.map_map]
    conv => rhs; rw [← List.zipIdx_map_fst 0 columns, List.map_map]
    refine List.map_congr_left fun ck _ => ?_
    simp only [Function.comp_apply]
    split <;> simp [keeps]
  · rfl

/-- Updates that keep a property of columns keep it over any run of updates. -/
theorem foldl_updateLast_forall {P : Column → Prop} (keeps : ∀ c, P c → P (f c))
    (names : List String) (columns : List Column) (all : ∀ c ∈ columns, P c) :
    ∀ c ∈ names.foldl (fun cols name => updateLast cols name f) columns, P c := by
  induction names generalizing columns with
  | nil => exact all
  | cons name rest ih =>
    refine ih _ fun c member => ?_
    rcases mem_updateLast member with kept | ⟨c', original, rfl⟩
    · exact all c kept
    · exact keeps c' (all c' original)

theorem map_foldl_updateLast {β : Type} (names : List String) (columns : List Column)
    (g : Column → β) (keeps : ∀ c, g (f c) = g c) :
    (names.foldl (fun cols name => updateLast cols name f) columns).map g = columns.map g := by
  induction names generalizing columns with
  | nil => rfl
  | cons name rest ih => rw [List.foldl_cons, ih, map_updateLast g keeps]

/-- The primary-key part of a table constraint: its `PRIMARY KEY (names)` list, when it has one,
marks the last column of each name as a primary key that is not nullable. -/
def primaryKeys (columns : List Column) (definition : String) : List Column :=
  let chars := definition.toList.toArray
  match (keyList "PRIMARY").search chars with
  | some m =>
    (nameList ((m.group? chars 1).getD "")).foldl (fun cols name =>
      updateLast cols name fun c => { c with isPrimaryKey := true, nullable := false }) columns
  | none => columns

/-- The foreign-key part of a table constraint: when it says `FOREIGN` and has both a
`FOREIGN KEY (names)` list and a `REFERENCES` clause, the last column of each name becomes a
foreign key to the referenced table and column. -/
def foreignKeys (columns : List Column) (definition : String) : List Column :=
  let chars := definition.toList.toArray
  if holds (upper definition) "FOREIGN" then
    match (keyList "FOREIGN").search chars, references.search chars with
    | some fk, some ref =>
      let table := ((ref.group? chars 1).map unquoteName).getD ""
      let column := ((ref.group? chars 2).map unquoteName).getD "id"
      (nameList ((fk.group? chars 1).getD "")).foldl (fun cols name =>
        updateLast cols name fun c =>
          { c with
            isForeignKey := true
            referencesTable := some table
            referencesColumn := some column }) columns
    | _, _ => columns
  else columns

theorem applyConstraint_eq (columns : List Column) (definition : String) :
    applyConstraint columns definition = foreignKeys (primaryKeys columns definition) definition :=
  rfl

theorem primaryKeys_keysAgree {columns : List Column} (definition : String)
    (agree : ∀ c ∈ columns, c.KeysAgree) : ∀ c ∈ primaryKeys columns definition, c.KeysAgree := by
  unfold primaryKeys
  dsimp only
  split
  · exact foldl_updateLast_forall
      (fun c keys => ⟨fun _ => rfl, keys.foreign_table, keys.foreign_column⟩) _ _ agree
  · exact agree

theorem foreignKeys_keysAgree {columns : List Column} (definition : String)
    (agree : ∀ c ∈ columns, c.KeysAgree) : ∀ c ∈ foreignKeys columns definition, c.KeysAgree := by
  unfold foreignKeys
  dsimp only
  split
  · split
    · exact foldl_updateLast_forall
        (fun c keys => ⟨keys.primary_not_nullable, by simp, by simp⟩) _ _ agree
    · exact agree
  · exact agree

/-- A table constraint keeps the columns' keys consistent. -/
theorem applyConstraint_keysAgree {columns : List Column} (definition : String)
    (agree : ∀ c ∈ columns, c.KeysAgree) : ∀ c ∈ applyConstraint columns definition, c.KeysAgree :=
  applyConstraint_eq columns definition ▸
    foreignKeys_keysAgree definition (primaryKeys_keysAgree definition agree)

theorem primaryKeys_declared (columns : List Column) (definition : String) :
    (primaryKeys columns definition).map Column.declared = columns.map Column.declared := by
  unfold primaryKeys
  dsimp only
  split
  · exact map_foldl_updateLast _ _ _ fun _ => rfl
  · rfl

theorem foreignKeys_declared (columns : List Column) (definition : String) :
    (foreignKeys columns definition).map Column.declared = columns.map Column.declared := by
  unfold foreignKeys
  dsimp only
  split
  · split
    · exact map_foldl_updateLast _ _ _ fun _ => rfl
    · rfl
  · rfl

/-- A table constraint keeps the names and types of the columns. -/
theorem applyConstraint_declared (columns : List Column) (definition : String) :
    (applyConstraint columns definition).map Column.declared = columns.map Column.declared := by
  rw [applyConstraint_eq, foreignKeys_declared, primaryKeys_declared]

end Constraints

/-! ### Table bodies -/

/-- A body item starts with a table-constraint word, upper-cased. -/
def startsConstraint (item : String) : Bool :=
  match splitBlanks item with
  | first :: _ => tableConstraintWords.contains (upper first)
  | [] => false

theorem readBody_eq (body : List Char) :
    readBody body = ((splitItems body).filter startsConstraint).foldl applyConstraint
      (((splitItems body).filter (!startsConstraint ·)).filterMap readColumn) := rfl

theorem foldl_applyConstraint_declared (constraints : List String) (columns : List Column) :
    (constraints.foldl applyConstraint columns).map Column.declared =
      columns.map Column.declared := by
  induction constraints generalizing columns with
  | nil => rfl
  | cons constraint rest ih => rw [List.foldl_cons, ih, applyConstraint_declared]

theorem foldl_applyConstraint_keysAgree (constraints : List String) {columns : List Column}
    (agree : ∀ c ∈ columns, c.KeysAgree) :
    ∀ c ∈ constraints.foldl applyConstraint columns, c.KeysAgree := by
  induction constraints generalizing columns with
  | nil => exact agree
  | cons constraint rest ih => exact ih (applyConstraint_keysAgree constraint agree)

/-- The columns of a body are its items that start with no table-constraint word and have at
least two words, one column each and in order; the constraints change only their keys. -/
theorem readBody_declared (body : List Char) :
    (readBody body).map Column.declared =
      (((splitItems body).filter (!startsConstraint ·)).filterMap readColumn).map
        Column.declared := by
  rw [readBody_eq, foldl_applyConstraint_declared]

theorem readBody_keysAgree (body : List Char) : ∀ c ∈ readBody body, c.KeysAgree := by
  rw [readBody_eq]
  refine foldl_applyConstraint_keysAgree _ fun c member => ?_
  obtain ⟨item, -, read⟩ := List.mem_filterMap.mp member
  exact readColumn_keysAgree read

/-- Every column of a body is declared by an item of the body that starts with no
table-constraint word. -/
theorem mem_readBody {body : List Char} {c : Column} (member : c ∈ readBody body) :
    ∃ item ∈ splitItems body, startsConstraint item = false ∧
      ∃ c₀, readColumn item = some c₀ ∧ c₀.declared = c.declared := by
  have listed : c.declared ∈ (readBody body).map Column.declared := List.mem_map_of_mem member
  rw [readBody_declared] at listed
  obtain ⟨c₀, read, same⟩ := List.mem_map.mp listed
  obtain ⟨item, kept, fromItem⟩ := List.mem_filterMap.mp read
  obtain ⟨inBody, plain⟩ := List.mem_filter.mp kept
  exact ⟨item, inBody, by simpa using plain, c₀, fromItem, same⟩

/-! ### Definitions and added columns -/

/-- A table definition of a migration: the name its head gives and the body inside its
parentheses. -/
structure Definition where
  name : String
  body : List Char

/-- The table a definition describes. -/
def Definition.table (d : Definition) : Table :=
  ⟨d.name, readBody d.body⟩

/-- The table definitions of a comment-free text, in text order: each table head whose
parenthesis closes, with its name and body. -/
def definitions (cs : Array Char) : List Definition :=
  (createHead.findAll cs).filterMap fun m =>
    (balancedBody cs (m.stop - 1)).map fun body => ⟨unquoteName ((m.group? cs 1).getD ""), body⟩

/-- The columns that the `ALTER TABLE … ADD` statements of a comment-free text add, in text
order, each with the name of its table; a clause of fewer than two words adds none. -/
def additions (cs : Array Char) : List (String × Column) :=
  (alterAdd.findAll cs).filterMap fun m =>
    (readColumn (trimBlanks ((m.group? cs 2).getD ""))).map fun c =>
      (unquoteName ((m.group? cs 1).getD ""), c)

/-- Tables under the given names, in order, each with the columns that `columns` gives its
name. -/
def tablesOf (names : List String) (columns : String → List Column) : List Table :=
  names.map fun n => ⟨n, columns n⟩

/-- The columns of the last table of a name, and none when no table has it. -/
def lastColumns (tables : List Table) (name : String) : List Column :=
  ((tables.reverse.find? (·.name == name)).map (·.columns)).getD []

/-- The columns added to the table of a name, in order. -/
def addedColumns (adds : List (String × Column)) (name : String) : List Column :=
  (adds.filter (·.1 == name)).map (·.2)

/-- One added column: at the end of the table of its name, or in a new table at the end. -/
def addColumn (tables : List Table) (added : String × Column) : List Table :=
  match tables.find? (·.name == added.1) with
  | some t => putTable tables { t with columns := t.columns ++ [added.2] }
  | none => tables ++ [⟨added.1, [added.2]⟩]

/-- The tables that definitions and added columns describe. The defined names come first, by
their first definition, then the names that only added columns mention, by their first addition.
A table has the columns of its last definition, then its added columns in order. -/
def describedTables (defs : List Definition) (adds : List (String × Column)) : List Table :=
  let defined := defs.map (·.name)
  tablesOf (firstOccurrences defined ++ firstOccurrences ((adds.map (·.1)).filter (· ∉ defined)))
    fun n => lastColumns (defs.map (·.table)) n ++ addedColumns adds n

/-! ### The two passes -/

section Passes

theorem tablesOf_update_of_not_mem {names : List String} {n : String} (absent : n ∉ names)
    (columns : String → List Column) (cs : List Column) :
    tablesOf names (Function.update columns n cs) = tablesOf names columns :=
  List.map_congr_left fun m member => by
    rw [Function.update_of_ne (ne_of_mem_of_not_mem member absent)]

theorem tablesOf_append_singleton (names : List String) (columns : String → List Column)
    (n : String) : tablesOf (names ++ [n]) columns = tablesOf names columns ++ [⟨n, columns n⟩] :=
  List.map_append

theorem find?_tablesOf (names : List String) (columns : String → List Column) (n : String) :
    (tablesOf names columns).find? (·.name == n) =
      if n ∈ names then some ⟨n, columns n⟩ else none := by
  have named : ((fun t : Table => t.name == n) ∘ fun m => (⟨m, columns m⟩ : Table)) = (· == n) :=
    rfl
  rw [tablesOf, List.find?_map, named]
  split
  · case isTrue present =>
    have listed : (names.find? (· == n)).isSome :=
      List.find?_isSome.mpr ⟨n, present, beq_self_eq_true n⟩
    obtain ⟨m, found⟩ := Option.isSome_iff_exists.mp listed
    have same : m = n := by simpa using List.find?_some found
    rw [found, same, Option.map_some]
  · case isFalse absent =>
    rw [List.find?_eq_none.mpr fun m member (same : (m == n) = true) =>
      absent (beq_iff_eq.mp same ▸ member), Option.map_none]

/-- Putting a table in updates its name's columns, and lists the name at the end when it is
new. -/
theorem putTable_tablesOf (names : List String) (columns : String → List Column) (t : Table) :
    putTable (tablesOf names columns) t =
      tablesOf (appendAbsent names t.name) (Function.update columns t.name t.columns) := by
  by_cases present : t.name ∈ names
  · have named : (tablesOf names columns).any (·.name == t.name) = true := by
      simpa [tablesOf] using present
    rw [putTable, if_pos named, appendAbsent, if_pos (List.contains_iff_mem.mpr present),
      tablesOf, tablesOf, List.map_map]
    refine List.map_congr_left fun n _ => ?_
    by_cases same : n = t.name
    · subst same
      simp
    · simp [same]
  · have unnamed : (tablesOf names columns).any (·.name == t.name) = false := by
      simpa [tablesOf] using fun n member (same : n = t.name) => present (same ▸ member)
    rw [putTable, if_neg (by simp [unnamed]), appendAbsent_of_not_mem present,
      tablesOf_append_singleton, tablesOf_update_of_not_mem present, Function.update_self]

theorem lastColumns_append_singleton (tables : List Table) (t : Table) :
    lastColumns (tables ++ [t]) = Function.update (lastColumns tables) t.name t.columns := by
  funext n
  by_cases same : n = t.name
  · subst same
    simp [lastColumns]
  · have other : (t.name == n) = false := by simpa using Ne.symm same
    simp [lastColumns, other, same]

theorem lastColumns_of_not_mem {tables : List Table} {n : String}
    (absent : n ∉ tables.map (·.name)) : lastColumns tables n = [] := by
  rw [lastColumns, List.find?_eq_none.mpr fun t member (same : (t.name == n) = true) =>
    absent (List.mem_map.mpr ⟨t, List.mem_reverse.mp member, beq_iff_eq.mp same⟩)]
  rfl

theorem firstOccurrences_append_singleton (xs : List String) (x : String) :
    firstOccurrences (xs ++ [x]) = appendAbsent (firstOccurrences xs) x := by
  rw [firstOccurrences, List.foldl_append]
  rfl

/-- Putting tables in one after another lists each name once, by its first table, with the
columns of its last. -/
theorem foldl_putTable (tables : List Table) :
    tables.foldl putTable [] =
      tablesOf (firstOccurrences (tables.map (·.name))) (lastColumns tables) := by
  induction tables using List.reverseRecOn with
  | nil => rfl
  | append_singleton tables t ih =>
    rw [List.foldl_append, ih, List.foldl_cons, List.foldl_nil, putTable_tablesOf, List.map_append,
      List.map_singleton, firstOccurrences_append_singleton, lastColumns_append_singleton]

/-- Adding a column appends it to its table's columns, and lists the name at the end when it is
new; a name not listed has no columns yet. -/
theorem addColumn_tablesOf (names : List String) (columns : String → List Column) (n : String)
    (c : Column) (unlisted : n ∉ names → columns n = []) :
    addColumn (tablesOf names columns) (n, c) =
      tablesOf (appendAbsent names n) (Function.update columns n (columns n ++ [c])) := by
  by_cases present : n ∈ names
  · simp only [addColumn, find?_tablesOf, if_pos present]
    exact putTable_tablesOf names columns ⟨n, columns n ++ [c]⟩
  · simp only [addColumn, find?_tablesOf, if_neg present]
    rw [appendAbsent_of_not_mem present, unlisted present, tablesOf_append_singleton,
      tablesOf_update_of_not_mem present, Function.update_self, List.nil_append]

theorem addedColumns_append_singleton (adds : List (String × Column)) (n : String) (c : Column) :
    addedColumns (adds ++ [(n, c)]) =
      Function.update (addedColumns adds) n (addedColumns adds n ++ [c]) := by
  funext m
  by_cases same : m = n
  · subst same
    simp [addedColumns]
  · have other : (n == m) = false := by simpa using Ne.symm same
    simp [addedColumns, other, same]

/-- Adding columns one after another appends each to its table, listing new names at the end
by their first addition. -/
theorem foldl_addColumn (adds : List (String × Column)) (names : List String)
    (columns : String → List Column) (unlisted : ∀ n, n ∉ names → columns n = []) :
    adds.foldl addColumn (tablesOf names columns) =
      tablesOf ((adds.map (·.1)).foldl appendAbsent names)
        fun n => columns n ++ addedColumns adds n := by
  induction adds using List.reverseRecOn with
  | nil => simp [addedColumns]
  | append_singleton adds added ih =>
    obtain ⟨n, c⟩ := added
    -- a name that is not listed yet has neither defined nor added columns
    have fresh : n ∉ (adds.map (·.1)).foldl appendAbsent names →
        columns n ++ addedColumns adds n = [] := by
      intro absent
      rw [foldl_appendAbsent_mem, not_or] at absent
      have none : addedColumns adds n = [] := by
        simp only [addedColumns, List.map_eq_nil_iff, List.filter_eq_nil_iff, beq_iff_eq]
        exact fun a listed same => absent.2 (List.mem_map.mpr ⟨a, listed, same⟩)
      rw [unlisted n absent.1, none, List.nil_append]
    rw [List.foldl_append, ih, List.foldl_cons, List.foldl_nil, addColumn_tablesOf _ _ _ _ fresh,
      List.map_append, List.map_singleton, List.foldl_append, List.foldl_cons, List.foldl_nil,
      addedColumns_append_singleton]
    congr 1
    funext m
    by_cases same : m = n
    · subst same
      simp
    · simp [same]

/-- Appending names without repeats to a list appends the new ones, by their first
occurrence. -/
theorem foldl_appendAbsent_eq (acc xs : List String) :
    xs.foldl appendAbsent acc = acc ++ firstOccurrences (xs.filter (· ∉ acc)) := by
  induction xs using List.reverseRecOn with
  | nil => exact (List.append_nil acc).symm
  | append_singleton xs x ih =>
    rw [List.foldl_append, List.foldl_cons, List.foldl_nil, ih, List.filter_append]
    by_cases old : x ∈ acc
    · have kept : x ∈ acc ++ firstOccurrences (xs.filter (· ∉ acc)) := List.mem_append_left _ old
      rw [appendAbsent, if_pos (List.contains_iff_mem.mpr kept)]
      simp [old]
    · rw [List.filter_singleton, decide_eq_true old, cond_true,
        firstOccurrences_append_singleton]
      by_cases seen : x ∈ firstOccurrences (xs.filter (· ∉ acc))
      · have kept : x ∈ acc ++ firstOccurrences (xs.filter (· ∉ acc)) :=
          List.mem_append_right _ seen
        rw [appendAbsent, if_pos (List.contains_iff_mem.mpr kept), appendAbsent,
          if_pos (List.contains_iff_mem.mpr seen)]
      · have fresh : x ∉ acc ++ firstOccurrences (xs.filter (· ∉ acc)) := by
          rw [List.mem_append, not_or]
          exact ⟨old, seen⟩
        rw [appendAbsent_of_not_mem fresh, appendAbsent_of_not_mem seen, List.append_assoc]

/-- A fold that puts in what each element gives, and fails at an element that gives nothing,
has put in everything once it succeeds. -/
theorem foldlM_eq_ok {ε α β γ : Type} {f : β → α → Except ε β} (g : α → Option γ)
    (h : β → γ → β) (puts : ∀ b a x, g a = some x → f b a = .ok (h b x))
    (fails : ∀ b a, g a = none → ∃ e, f b a = .error e) :
    ∀ (l : List α) (init r : β), l.foldlM f init = .ok r → r = (l.filterMap g).foldl h init
  | [], init, r, ok => by simpa [pure, Except.pure] using ok.symm
  | a :: l, init, r, ok => by
    rw [List.foldlM_cons] at ok
    cases given : g a with
    | none =>
      obtain ⟨e, failed⟩ := fails init a given
      rw [failed] at ok
      cases ok
    | some x =>
      rw [puts init a x given] at ok
      rw [List.filterMap_cons_some given, List.foldl_cons]
      exact foldlM_eq_ok g h puts fails l _ r ok

theorem bind_pure_eq_ok {ε β γ : Type} {x : Except ε β} {g : β → γ} {r : γ} :
    (x >>= fun v => pure (g v)) = .ok r ↔ ∃ v, x = .ok v ∧ g v = r := by
  cases x <;> simp [bind, Except.bind, pure, Except.pure]

/-- A successful reading lists exactly the tables that the text's definitions and added columns
describe. -/
theorem readTables_eq_ok {text : String} {tables : List Table} (ok : readTables text = .ok tables) :
    tables = describedTables (definitions (stripComments text).toArray)
      (additions (stripComments text).toArray) := by
  unfold readTables at ok
  dsimp only at ok
  obtain ⟨created, creating, rfl⟩ := bind_pure_eq_ok.mp ok
  -- the first pass puts in the tables of the definitions, the second adds the columns
  have defined : created = ((definitions (stripComments text).toArray).map (·.table)).foldl
      putTable [] := by
    rw [List.foldl_map, definitions]
    refine foldlM_eq_ok _ (fun tables (d : Definition) => putTable tables d.table) ?_ ?_ _ _ _
      creating
    · intro tables m d found
      obtain ⟨body, closed, rfl⟩ := Option.map_eq_some_iff.mp found
      simp only [closed]
      rfl
    · intro tables m missing
      rw [Option.map_eq_none_iff] at missing
      simp only [missing]
      exact ⟨_, rfl⟩
  refine Eq.trans (b := (additions (stripComments text).toArray).foldl addColumn created) ?_ ?_
  · rw [additions, List.foldl_filterMap]
    refine List.foldl_ext _ _ _ fun tables m _ => ?_
    cases readColumn (trimBlanks ((m.group? (stripComments text).toArray 2).getD "")) <;> rfl
  rw [defined, foldl_putTable, foldl_addColumn _ _ _ fun n absent =>
      lastColumns_of_not_mem fun listed => absent (mem_firstOccurrences.mpr listed),
    foldl_appendAbsent_eq, describedTables, List.map_map]
  congr 3
  refine List.filter_congr fun n _ => ?_
  simp only [mem_firstOccurrences]
  rfl

end Passes

/-! ### What a migration lists -/

section Listing

variable {defs : List Definition} {adds : List (String × Column)}

/-- The described tables have distinct names. -/
theorem nodup_describedTables_names (defs : List Definition) (adds : List (String × Column)) :
    ((describedTables defs adds).map (·.name)).Nodup := by
  rw [describedTables, tablesOf, List.map_map]
  simp only [Function.comp_def, List.map_id']
  refine List.nodup_append.mpr ⟨nodup_firstOccurrences _, nodup_firstOccurrences _, ?_⟩
  intro n defined n' added same
  subst same
  rw [mem_firstOccurrences] at defined
  rw [mem_firstOccurrences, List.mem_filter] at added
  exact of_decide_eq_true added.2 defined

theorem mem_lastColumns {tables : List Table} {n : String} {c : Column}
    (member : c ∈ lastColumns tables n) : ∃ t ∈ tables, t.name = n ∧ c ∈ t.columns := by
  unfold lastColumns at member
  cases found : tables.reverse.find? (·.name == n) with
  | none => simp [found] at member
  | some t =>
    rw [found, Option.map_some, Option.getD_some] at member
    exact ⟨t, List.mem_reverse.mp (List.mem_of_find?_eq_some found),
      by simpa using List.find?_some found, member⟩

@[simp] theorem mem_addedColumns {n : String} {c : Column} :
    c ∈ addedColumns adds n ↔ (n, c) ∈ adds := by
  simp only [addedColumns, List.mem_map, List.mem_filter, beq_iff_eq]
  constructor
  · rintro ⟨⟨n', c'⟩, ⟨listed, rfl⟩, rfl⟩
    exact listed
  · intro listed
    exact ⟨(n, c), ⟨listed, rfl⟩, rfl⟩

/-- A column of a described table is a column of the last definition of its name, or one added
to it. -/
theorem mem_describedTables_columns {t : Table} {c : Column}
    (table : t ∈ describedTables defs adds) (column : c ∈ t.columns) :
    (∃ d ∈ defs, d.name = t.name ∧ c ∈ readBody d.body) ∨ (t.name, c) ∈ adds := by
  obtain ⟨n, -, rfl⟩ := List.mem_map.mp table
  rcases List.mem_append.mp column with defined | added
  · obtain ⟨u, listed, named, inside⟩ := mem_lastColumns defined
    obtain ⟨d, member, rfl⟩ := List.mem_map.mp listed
    exact Or.inl ⟨d, member, named, inside⟩
  · exact Or.inr (mem_addedColumns.mp added)

theorem additions_keysAgree {cs : Array Char} {n : String} {c : Column}
    (added : (n, c) ∈ additions cs) : c.KeysAgree := by
  obtain ⟨m, -, read⟩ := List.mem_filterMap.mp added
  obtain ⟨c', column, same⟩ := Option.map_eq_some_iff.mp read
  cases same
  exact readColumn_keysAgree column

theorem readTables_of_parseSql {text path : String} {tables : List Table}
    (ok : parseSql text path = .ok tables) : readTables text = .ok tables := by
  unfold parseSql at ok
  split at ok
  · case h_1 read found => cases ok; exact found
  · cases ok

/-- A reading reported as a list of tables, read back. -/
theorem parseSql_eq_ok_of_toOption {text path : String} {tables : List Table}
    (read : (parseSql text path).toOption = some tables) : parseSql text path = .ok tables := by
  cases found : parseSql text path with
  | error e => simp [found, Except.toOption] at read
  | ok tables' => simp_all [Except.toOption]

/-- A reading that succeeds gives a list of tables, which has every property that the tables of
a successful reading have. -/
theorem exists_parseSql_eq_ok {text path : String} {P : List Table → Prop}
    (read : (parseSql text path).isOk = true)
    (holds : ∀ tables, parseSql text path = .ok tables → P tables) :
    ∃ tables, parseSql text path = .ok tables ∧ P tables := by
  cases found : parseSql text path with
  | error e => simp [found, Except.isOk, Except.toBool] at read
  | ok tables => exact ⟨tables, rfl, holds tables found⟩

end Listing

/-- **The tables of a migration.** A successful reading lists each table name once. The names
defined by `CREATE TABLE` come first, by their first definition, followed by the names that only
`ALTER TABLE … ADD` statements adding a column mention, by the first such statement. Each table
has the columns of the last definition of its name (`readBody`: one column for each item of the
body that starts with no table-constraint word and has at least two words, with the body's key
constraints applied), followed by one column for each of its added columns, in text order. -/
theorem parseSql_describes_tables {text path : String} {tables : List Table}
    (ok : parseSql text path = .ok tables) :
    tables = describedTables (definitions (stripComments text).toArray)
        (additions (stripComments text).toArray) ∧ (tables.map (·.name)).Nodup := by
  have described := readTables_eq_ok (readTables_of_parseSql ok)
  refine ⟨described, ?_⟩
  rw [described]
  exact nodup_describedTables_names _ _

theorem parseSql_describes_tables_redefined :
    ∃ tables, parseSql "ALTER TABLE a ADD w int;\nCREATE TABLE a (x int);\nCREATE TABLE b (y int);\nALTER TABLE c ADD z int;\nALTER TABLE d ADD q;\nCREATE TABLE a (v text);" "m.sql" = .ok tables ∧
      tables = describedTables (definitions (stripComments "ALTER TABLE a ADD w int;\nCREATE TABLE a (x int);\nCREATE TABLE b (y int);\nALTER TABLE c ADD z int;\nALTER TABLE d ADD q;\nCREATE TABLE a (v text);").toArray)
          (additions (stripComments "ALTER TABLE a ADD w int;\nCREATE TABLE a (x int);\nCREATE TABLE b (y int);\nALTER TABLE c ADD z int;\nALTER TABLE d ADD q;\nCREATE TABLE a (v text);").toArray) ∧
        (tables.map (·.name)).Nodup :=
  exists_parseSql_eq_ok (by decide +kernel) fun _ read => parseSql_describes_tables read

/-- An `ALTER TABLE … ADD` statement whose clause is one word names no table, although it is the
only statement that mentions `t`. -/
theorem alterAdd_one_word_names_no_table :
    parseSql "ALTER TABLE t ADD x;" "m.sql" = .ok [] :=
  parseSql_eq_ok_of_toOption (by decide +kernel)

/-- **Columns of a migration.** Every column of a table that a migration lists has consistent
keys: a primary key is not nullable, and a foreign key names both the table and the column it
references. It comes from an item of a definition of its table that starts with no
table-constraint word, or from an `ALTER TABLE … ADD` clause, which is taken as a column whatever
its first word. -/
theorem parseSql_columns_keysAgree {text path : String} {tables : List Table}
    (ok : parseSql text path = .ok tables) :
    ∀ t ∈ tables, ∀ c ∈ t.columns, c.KeysAgree ∧
      ((∃ d ∈ definitions (stripComments text).toArray, d.name = t.name ∧
          ∃ item ∈ splitItems d.body, startsConstraint item = false ∧
            ∃ c₀, readColumn item = some c₀ ∧ c₀.declared = c.declared) ∨
        (t.name, c) ∈ additions (stripComments text).toArray) := by
  intro t table c column
  rw [(parseSql_describes_tables ok).1] at table
  rcases mem_describedTables_columns table column with ⟨d, defined, named, inside⟩ | added
  · exact ⟨readBody_keysAgree d.body c inside, Or.inl ⟨d, defined, named, mem_readBody inside⟩⟩
  · exact ⟨additions_keysAgree added, Or.inr added⟩

theorem parseSql_columns_keysAgree_constraints :
    ∃ tables, parseSql "CREATE TABLE t (id int PRIMARY KEY, a int, FOREIGN KEY (a) REFERENCES u);\nALTER TABLE t ADD CONSTRAINT fk FOREIGN KEY (a) REFERENCES u(id);" "m.sql" = .ok tables ∧
      ∀ t ∈ tables, ∀ c ∈ t.columns, c.KeysAgree ∧
        ((∃ d ∈ definitions (stripComments "CREATE TABLE t (id int PRIMARY KEY, a int, FOREIGN KEY (a) REFERENCES u);\nALTER TABLE t ADD CONSTRAINT fk FOREIGN KEY (a) REFERENCES u(id);").toArray,
            d.name = t.name ∧ ∃ item ∈ splitItems d.body, startsConstraint item = false ∧
              ∃ c₀, readColumn item = some c₀ ∧ c₀.declared = c.declared) ∨
          (t.name, c) ∈ additions (stripComments "CREATE TABLE t (id int PRIMARY KEY, a int, FOREIGN KEY (a) REFERENCES u);\nALTER TABLE t ADD CONSTRAINT fk FOREIGN KEY (a) REFERENCES u(id);").toArray) :=
  exists_parseSql_eq_ok (by decide +kernel) fun _ read => parseSql_columns_keysAgree read

end ProjectIndex.Sql
