import Mathlib
import ProjectIndex.Config.File

/-!
Contract: which table documents building a configuration refuses, and how.

Reading a document records a problem for every value of the wrong kind and stops with a `Fault`
at a value it cannot use at all. Each reading step gets one Hoare triple, all of one shape: from
the problems `s₀` recorded so far, the step stops exactly when its value is unusable, and
otherwise leaves the record empty exactly when `s₀` was empty and its value has the right kind.
`mvcgen` chains these triples through the whole reading, and `run_of_triple` turns the triple
of the whole reading back into a fact about its run.

Owns:
- the value kinds the reader checks (`Value.isTable`, `Value.isStrings`, `Value.isText`, …);
- the checks of a document, `Mistyped` and `Unusable`, made on the values reading takes;
- the triples of the reading steps and of `readConfig`;
- what `IndexConfig.ofValue` and `loadConfigFile` give for each kind of document.

Does not own: the configuration's other fields, or the texts of the problems.
-/

open Std.Do

set_option mvcgen.warning false

namespace ProjectIndex.Data.Value

/-- A table, of any entries. -/
def isTable : Value → Bool
  | .table _ => true
  | _ => false

/-- A list whose items are all strings. -/
def isStrings : Value → Bool
  | .list items => items.all fun | .str _ => true | _ => false
  | _ => false

/-- A string or a list of strings, as a synonym or an alias may be. -/
def isText : Value → Bool
  | .str _ => true
  | v => v.isStrings

/-- An integer (a boolean is not one). -/
def isInt : Value → Bool
  | .int _ => true
  | _ => false

/-- A number, as a threshold must be. -/
def isNumber : Value → Bool
  | .int _ | .float _ => true
  | _ => false

/-- A value with no text: a date and time whose offset from UTC is a day or more. -/
def hidesText : Value → Bool
  | .moment m => m.offsetFault?.isSome
  | _ => false

/-- The text of a value as a header shows it: a date and time by its own text, anything else as
it is displayed. -/
def shownText : Value → String
  | .moment m => m.text
  | v => v.display

/-- An integer whose nearest double is infinite. -/
def overflows : Value → Bool
  | .int n => n.natAbs ≥ Nat.pow 2 1024 - Nat.pow 2 970
  | _ => false

@[simp]
theorem isTable_table (entries : List (String × Value)) : (Value.table entries).isTable = true :=
  rfl

theorem isTable_eq_false {v : Value} (other : ∀ entries, v = .table entries → False) :
    v.isTable = false := by
  cases v <;> simp_all [isTable]

theorem entries_of_isTable_eq_false {v : Value} (other : v.isTable = false) : v.entries = [] := by
  cases v <;> simp_all [isTable, entries]

theorem isStrings_eq_false {v : Value} (other : ∀ items, v = .list items → False) :
    v.isStrings = false := by
  cases v <;> simp_all [isStrings]

/-- The strings of a list, as `stringsOf` takes them, exist exactly when every item is one. -/
theorem isStrings_list (items : List Value) :
    (Value.list items).isStrings =
      (items.mapM (m := Option) fun item =>
        match item with | .str s => some s | _ => none).isSome := by
  induction items with
  | nil => rfl
  | cons item rest ih =>
    cases item <;> simp_all [isStrings, List.mapM_cons, Option.isSome_bind, Option.any_true]

end ProjectIndex.Data.Value

namespace ProjectIndex.Config

open ProjectIndex.Data

/-! ## The checks of a document -/

/-- The value a table document gives under the first of `keys` it holds. -/
def given (entries : List (String × Value)) (keys : List String) : Option Value :=
  keys.findSome? (Value.table entries).get?

/-- The value reading takes for `keys`: the document's, or `default` when it has none. -/
def takenValue (entries : List (String × Value)) (keys : List String) (default : Value) : Value :=
  (given entries keys).getD default

theorem pick_table (entries : List (String × Value)) (keys : List String) :
    pick (.table entries) keys = pure (given entries keys) :=
  rfl

/-- Whether a name is a threshold's does not depend on the thresholds set so far. -/
theorem Thresholds.isSome_get? (t : Thresholds) (name : String) :
    (t.get? name).isSome = Thresholds.names.contains name := by
  unfold Thresholds.get?
  split <;> simp_all [Thresholds.names]

theorem Thresholds.known_of_get? {t : Thresholds} {name : String} {x : Float}
    (found : t.get? name = some x) : Thresholds.names.contains name = true := by
  rw [← t.isSome_get?, found]
  rfl

theorem Thresholds.unknown_of_get? {t : Thresholds} {name : String}
    (unknown : t.get? name = none) : Thresholds.names.contains name = false := by
  rw [← t.isSome_get?, unknown]
  rfl

/-- A threshold table that sets a known threshold to an integer too large for a double. -/
def thresholdsOverflow (v : Value) : Bool :=
  v.entries.any fun e => Thresholds.names.contains e.1 && e.2.overflows

/-- A threshold table that is no table, or sets a known threshold to no number. -/
def thresholdsMistyped (v : Value) : Bool :=
  !v.isTable || v.entries.any fun e => Thresholds.names.contains e.1 && !e.2.isNumber

theorem thresholdsOverflow_push (read : List (String × Value)) (e : String × Value) :
    thresholdsOverflow (.table (read ++ [e])) =
      (thresholdsOverflow (.table read) || (Thresholds.names.contains e.1 && e.2.overflows)) := by
  simp [thresholdsOverflow, Value.entries]

theorem thresholdsMistyped_push (read : List (String × Value)) (e : String × Value) :
    thresholdsMistyped (.table (read ++ [e])) =
      (thresholdsMistyped (.table read) || (Thresholds.names.contains e.1 && !e.2.isNumber)) := by
  simp [thresholdsMistyped, Value.entries]

/-- A text holds an environment reference whose name cannot be encoded, so resolving it stops. -/
def unresolvable (s : String) : Bool :=
  (((envPieces s.toList).filterMap EnvPiece.name?).findSome? envNameFault?).isSome

/-- An output table whose settings cannot be used: a file or api section that is neither empty
nor a table, api headers that are neither, a header with no text or whose text cannot be
resolved, a method with no text, or an endpoint that is neither resolvable text nor empty. -/
def outputUnusable (out : List (String × Value)) : Bool :=
  let part := fun (key : String) => orEmpty (((Value.table out).get? key).getD .null)
  let field := fun (key : String) (default : Value) => ((part "api").get? key).getD default
  !(part "api").isTable ||
    (match orEmpty (field "headers" .null) with
      | .table headers => headers.any fun h => h.2.hidesText || unresolvable h.2.shownText
      | _ => true) ||
    !(part "file").isTable ||
    (match field "endpoint" (.str "") with
      | .str s => unresolvable s
      | v => v.truthy) ||
    (field "method" (.str "POST")).hidesText

/-- The report path an output table gives: the file section's, whatever its kind. -/
def filePath (out : List (String × Value)) : Value :=
  ((orEmpty (((Value.table out).get? "file").getD .null)).get? "path").getD
    (.str "project-metadata.json")

/-- A table document holds a value of the wrong kind, as reading judges it, in reading order.
Each check is made on the value reading takes, the default included. Maps read through
`orEmpty` take a false, zero or empty value of any kind for an empty table; a null folder map
stands for the default folders; unknown thresholds are not looked at. -/
def Mistyped (es : List (String × Value)) : Bool :=
  let aliasDefault : Value := .table (defaultPathAliases.map fun (k, v) => (k, stringsValue v))
  !(orEmpty (takenValue es ["file_type_mapping", "fileTypeMapping"] (.table []))).isTable ||
  !(orEmpty (takenValue es ["keyword_synonyms", "koreanKeywords"] (.table []))).isTable ||
  !(orEmpty (takenValue es ["path_aliases", "pathAliases"] aliasDefault)).isTable ||
  !(takenValue es ["workers"] (.int ({} : IndexConfig).workers)).isInt ||
  !(takenValue es ["include"] (stringsValue defaultInclude)).isStrings ||
  !(takenValue es ["exclude"] (stringsValue defaultExclude)).isStrings ||
  (match given es ["folder_roles", "folderRoles"] with
    | none | some .null => false
    | some v => !v.isTable) ||
  !(takenValue es ["file_name_roles", "fileNameRoles"] (.table defaultFileNameRoles)).isTable ||
  !(takenValue es ["path_segment_roles", "pathSegmentRoles"]
    (.table defaultPathSegmentRoles)).isTable ||
  !(takenValue es ["migration_patterns", "migrationPatterns"]
    (stringsValue defaultMigrationPatterns)).isStrings ||
  !((orEmpty (takenValue es ["keyword_synonyms", "koreanKeywords"] (.table []))).entries.all
    fun e => e.2.isText) ||
  !((orEmpty (takenValue es ["path_aliases", "pathAliases"] aliasDefault)).entries.all
    fun e => e.2.isText) ||
  thresholdsMistyped (orEmpty (takenValue es ["thresholds"] (.table []))) ||
  !(orEmpty (takenValue es ["output"] (.table []))).isTable

/-- A table document holds a value reading cannot use at all: a project id with no text, a
known threshold too large for a double, or output settings that cannot be used, an environment
reference that cannot be encoded among them. -/
def Unusable (es : List (String × Value)) : Bool :=
  (takenValue es ["project_id", "projectId"] (.str ({} : IndexConfig).projectId)).hidesText ||
  thresholdsOverflow (orEmpty (takenValue es ["thresholds"] (.table []))) ||
  outputUnusable (orEmpty (takenValue es ["output"] (.table []))).entries

example : Mistyped [("file_type_mapping", .list []), ("thresholds", .int 0)] = false := by
  decide

example : Mistyped [("file_type_mapping", .list [.str "app"])] = true := by
  decide

/-! ## The reading steps -/

section Steps

variable (s₀ : List String)

@[spec]
theorem fault_spec {α : Type} (kind message : String)
    (Q : PostCond α (.arg (List String) (.except Fault .pure))) :
    ⦃fun _ => Q.2.1 ⟨kind, message⟩⦄ (fault kind message : Reader α) ⦃Q⦄ := by
  simp only [Triple, fault]
  intro s
  simp [WP.monadLift_StateT]

@[spec]
theorem tableOf_spec (key : String) (v : Value) :
    ⦃fun s => ⌜s = s₀⌝⦄ tableOf key v
    ⦃⇓ entries s => ⌜entries = v.entries ∧ (s = [] ↔ s₀ = [] ∧ v.isTable)⌝⦄ := by
  mvcgen [tableOf, problem]
  case vc1.h_1 => simp_all [Value.entries]
  case vc2.h_2 w notTable _ _ _ _ =>
    have other := Value.isTable_eq_false notTable
    simp_all +zetaDelta [Value.entries_of_isTable_eq_false other]

@[spec]
theorem stringsOf_spec (key : String) (v : Value) :
    ⦃fun s => ⌜s = s₀⌝⦄ stringsOf key v ⦃⇓ _ s => ⌜s = [] ↔ s₀ = [] ∧ v.isStrings⌝⦄ := by
  mvcgen [stringsOf, problem]
  case vc1.h_1 items _ =>
    -- The match on the strings taken sits behind a join point, which mvcgen does not enter.
    intro s same
    split
    · mvcgen
      rename_i found
      have strings : (Value.list items).isStrings = true := by
        rw [Value.isStrings_list, Option.isSome_iff_exists]
        exact ⟨_, found⟩
      simp [same, strings]
    · mvcgen
      rename_i missing _
      have strings : (Value.list items).isStrings = false := by
        rw [Value.isStrings_list, Option.isSome_eq_false_iff, Option.isNone_iff_eq_none]
        exact missing
      simp +zetaDelta [same, strings]
  case vc2.h_2 w notList _ _ _ _ =>
    simp +zetaDelta [Value.isStrings_eq_false notList]

@[spec]
theorem stringOrStrings_spec (key : String) (v : Value) :
    ⦃fun s => ⌜s = s₀⌝⦄ stringOrStrings key v ⦃⇓ _ s => ⌜s = [] ↔ s₀ = [] ∧ v.isText⌝⦄ := by
  mvcgen [stringOrStrings]
  case vc1.h_1 => simp_all [Value.isText]
  case vc2.h_2.post.success w notText _ _ _ _ _ =>
    have text : w.isText = w.isStrings := by cases w <;> simp_all [Value.isText]
    simp_all

/-- Reading a list item by item: it stops at the first item whose step stops, and otherwise
records nothing new exactly when every item passes. -/
theorem mapM_spec {β γ : Type} (f : β → Reader γ) (stops passes : β → Bool)
    (step : ∀ x s₀, ⦃fun s => ⌜s = s₀⌝⦄ f x
      ⦃post⟨fun _ s => ⌜stops x = false ∧ (s = [] ↔ s₀ = [] ∧ passes x)⌝,
        fun _ => ⌜stops x = true⌝⟩⦄)
    (xs : List β) :
    ⦃fun s => ⌜s = s₀⌝⦄ xs.mapM f
    ⦃post⟨fun _ s => ⌜xs.any stops = false ∧ (s = [] ↔ s₀ = [] ∧ xs.all passes)⌝,
      fun _ => ⌜xs.any stops = true⌝⟩⦄ := by
  induction xs generalizing s₀ with
  | nil =>
    simp only [List.mapM_nil]
    mvcgen
    simp_all
  | cons x rest ih =>
    simp only [List.mapM_cons]
    mvcgen [step, ih]
    all_goals intros; (try cases_type* And); subst_vars; simp [*, and_assoc]

@[spec]
theorem mapM_stringOrStrings_spec (pre : String) (name : String × Value → String)
    (entries : List (String × Value)) :
    ⦃fun s => ⌜s = s₀⌝⦄
    entries.mapM (fun (x : String × Value) => do
      let y ← stringOrStrings (pre ++ x.1) x.2
      pure (name x, y))
    ⦃⇓ _ s => ⌜s = [] ↔ s₀ = [] ∧ entries.all fun e => e.2.isText⌝⦄ := by
  have each (x : String × Value) (s₀ : List String) :
      ⦃fun s => ⌜s = s₀⌝⦄ (do let y ← stringOrStrings (pre ++ x.1) x.2; pure (name x, y))
      ⦃post⟨fun _ s => ⌜false = false ∧ (s = [] ↔ s₀ = [] ∧ x.2.isText)⌝,
        fun _ => ⌜false = true⌝⟩⦄ := by
    mvcgen
    simp_all
  have whole := mapM_spec s₀ _ (fun _ => false) (fun e => e.2.isText) each entries
  mvcgen [whole]
  all_goals simp

@[spec]
theorem shown_spec (v : Value) :
    ⦃fun s => ⌜s = s₀⌝⦄ shown v
    ⦃post⟨fun r s => ⌜v.hidesText = false ∧ r = v.shownText ∧ s = s₀⌝,
      fun _ => ⌜v.hidesText = true⌝⟩⦄ := by
  mvcgen [shown]
  case vc3.h_2 w other _ _ _ => cases w <;> simp_all [Value.hidesText, Value.shownText]
  all_goals simp_all [Value.hidesText, Value.shownText]

@[spec]
theorem resolved_spec (env : Environment) (text : String) :
    ⦃fun s => ⌜s = s₀⌝⦄ resolved env text
    ⦃post⟨fun _ s => ⌜unresolvable text = false ∧ s = s₀⌝,
      fun _ => ⌜unresolvable text = true⌝⟩⦄ := by
  -- resolving stops exactly when the search for a name with no bytes finds one
  unfold resolved resolveEnv
  cases found : ((envPieces text.toList).filterMap EnvPiece.name?).findSome? envNameFault? with
  | none =>
    mvcgen
    rename_i unchanged
    simp [unresolvable, found, unchanged]
  | some message => mvcgen; simp [unresolvable, found]

@[spec]
theorem thresholdsOf_spec (v : Value) :
    ⦃fun s => ⌜s = s₀⌝⦄ thresholdsOf v
    ⦃post⟨fun _ s => ⌜thresholdsOverflow v = false ∧
        (s = [] ↔ s₀ = [] ∧ thresholdsMistyped v = false)⌝,
      fun _ => ⌜thresholdsOverflow v = true⌝⟩⦄ := by
  -- The loop over a table's entries keeps: no known threshold read so far overflows, and the
  -- record is empty exactly when it was and every known threshold read so far is a number.
  -- The bound is a power of two too large to evaluate, so mvcgen must not try to close goals.
  mvcgen -trivial [thresholdsOf, problem] invariants
  · post⟨fun read s => ⌜thresholdsOverflow (.table <| List.Cursor.prefix read.1) = false ∧
        (s = [] ↔ s₀ = [] ∧ thresholdsMistyped (.table <| List.Cursor.prefix read.1) = false)⌝,
      fun _ => ⌜thresholdsOverflow v = true⌝⟩
  case vc1.h_1.pre => simp_all [thresholdsOverflow, thresholdsMistyped, Value.entries]
  case vc2.h_1.post.success => simp_all
  case vc3.h_1.post.except => simp_all
  case vc4.h_1 _ _ _ _ _ cur _ _ _ _ _ unknown _ _ =>
    have known := Thresholds.unknown_of_get? unknown
    simp_all [thresholdsOverflow_push, thresholdsMistyped_push]
  case vc5.h_2.isTrue _ _ _ _ _ cur _ _ _ _ _ value found big _ _ =>
    have known := Thresholds.known_of_get? found
    have overflow : cur.2.overflows = true := by
      simp only [value, Value.overflows, decide_eq_true_eq]
      exact big
    clear big
    simp_all [thresholdsOverflow, Value.entries]
  case vc6.h_2.isFalse _ _ _ _ _ cur _ _ _ _ _ value found small _ _ =>
    have known := Thresholds.known_of_get? found
    have fits : cur.2.overflows = false := by
      simp only [value, Value.overflows, decide_eq_false_iff_not]
      exact small
    have number : cur.2.isNumber = true := by
      rw [value]; rfl
    clear small
    simp_all [thresholdsOverflow_push, thresholdsMistyped_push]
  case vc7.h_3 _ _ _ _ _ cur _ _ _ _ _ value found _ _ =>
    have known := Thresholds.known_of_get? found
    simp_all [thresholdsOverflow_push, thresholdsMistyped_push, Value.overflows, Value.isNumber]
  case vc8.h_4 _ _ _ _ _ cur _ _ _ _ w notInt notFloat _ found _ _ _ =>
    have known := Thresholds.known_of_get? found
    have mistyped : cur.2.isNumber = false := by
      cases w <;> simp_all [Value.isNumber]
    have fits : cur.2.overflows = false := by
      cases w <;> simp_all [Value.overflows]
    simp_all +zetaDelta [thresholdsOverflow_push, thresholdsMistyped_push]
  case vc9.h_2 w notTable _ _ _ _ =>
    have other := Value.isTable_eq_false notTable
    simp_all +zetaDelta [thresholdsOverflow, thresholdsMistyped,
      Value.entries_of_isTable_eq_false other]

@[spec]
theorem sectionGet_spec (part : Value) (key : String) (default : Value) :
    ⦃fun s => ⌜s = s₀⌝⦄ sectionGet part key default
    ⦃post⟨fun r s => ⌜part.isTable ∧ r = (part.get? key).getD default ∧ s = s₀⌝,
      fun _ => ⌜part.isTable = false⌝⟩⦄ := by
  mvcgen [sectionGet]
  case vc2.h_2 w notTable _ _ _ => simp_all [Value.isTable_eq_false notTable]

@[spec]
theorem mapM_shown_spec (env : Environment) (headers : List (String × Value)) :
    ⦃fun s => ⌜s = s₀⌝⦄
    headers.mapM (fun (x : String × Value) => do
      let y ← shown x.2
      let z ← resolved env y
      pure (x.1, z))
    ⦃post⟨fun _ s => ⌜headers.any (fun h => h.2.hidesText || unresolvable h.2.shownText) = false ∧
        (s = [] ↔ s₀ = [])⌝,
      fun _ => ⌜headers.any (fun h => h.2.hidesText || unresolvable h.2.shownText) = true⌝⟩⦄ := by
  have each (x : String × Value) (s₀ : List String) :
      ⦃fun s => ⌜s = s₀⌝⦄ (do let y ← shown x.2; let z ← resolved env y; pure (x.1, z))
      ⦃post⟨fun _ s => ⌜(x.2.hidesText || unresolvable x.2.shownText) = false ∧
          (s = [] ↔ s₀ = [] ∧ true)⌝,
        fun _ => ⌜(x.2.hidesText || unresolvable x.2.shownText) = true⌝⟩⦄ := by
    mvcgen
    all_goals simp_all
  have whole := mapM_spec s₀ _ (fun h => h.2.hidesText || unresolvable h.2.shownText)
    (fun _ => true) each headers
  mvcgen [whole]
  all_goals intros; simp [*]

theorem orEmpty_eq_ite (v : Value) : (if v.truthy then v else .table []) = orEmpty v :=
  rfl

theorem get?_table (entries : List (String × Value)) (key : String) :
    (Value.table entries).get? key = (entries.find? (·.1 == key)).map Prod.snd :=
  rfl

@[spec]
theorem outputOf_spec (env : Environment) (out : List (String × Value)) :
    ⦃fun s => ⌜s = s₀⌝⦄ outputOf env out
    ⦃post⟨fun r s => ⌜outputUnusable out = false ∧ (s = [] ↔ s₀ = []) ∧ r.1.path = filePath out⌝,
      fun _ => ⌜outputUnusable out = true⌝⟩⦄ := by
  mvcgen [outputOf]
  -- The sections are local definitions of the reading: unfold them everywhere, in the form
  -- orEmpty gives them, before comparing with outputUnusable.
  all_goals
    intros; (try cases_type* And); subst_vars
    simp +zetaDelta only [orEmpty_eq_ite, eq_comm (a := Value.str _)] at *
    simp [*, outputUnusable, filePath, get?_table]

end Steps

/-! ## Reading and building a whole document -/

theorem readConfig_spec (env : Environment) (es : List (String × Value)) :
    ⦃fun s => ⌜s = []⌝⦄ readConfig env (.table es)
    ⦃post⟨fun config s => ⌜Unusable es = false ∧ (s = [] ↔ Mistyped es = false) ∧
        config.fileOutput.path = filePath (orEmpty (takenValue es ["output"] (.table []))).entries⌝,
      fun _ => ⌜Unusable es = true⌝⟩⦄ := by
  simp only [readConfig, pick_table]
  mvcgen [problem]
  -- One condition for each branch of the workers and folder matches and each step that stops;
  -- each closes by chaining the steps' facts about the record.
  all_goals
    intros; (try cases_type* And); subst_vars
    simp +zetaDelta [*, Mistyped, Unusable, takenValue, and_assoc, Value.isInt]

/-- What a triple from one initial record says about the run from it. -/
theorem run_of_triple {α : Type} {x : Reader α} {s₀ : List String} {Q : α → List String → Prop}
    {E : Fault → Prop}
    (spec : ⦃fun s => ⌜s = s₀⌝⦄ x ⦃post⟨fun a s => ⌜Q a s⌝, fun f => ⌜E f⌝⟩⦄) :
    match x.run s₀ with
    | .ok (a, s) => Q a s
    | .error f => E f := by
  have holds := spec s₀ rfl
  simp only [WP.wp, PredTrans.apply_pushArg] at holds
  refine Except.of_wp_eq (P := fun r => match r with | .ok (a, s) => Q a s | .error f => E f)
    rfl ?_
  intro _
  exact holds

/-- Building from a table document stops with a fault exactly when the document is unusable;
otherwise it refuses with problems exactly when a value has the wrong kind. A configuration it
builds keeps the report path the document gives, whatever its kind. -/
theorem ofValue_table_outcome (env : Environment) (es : List (String × Value)) :
    ((∃ f, IndexConfig.ofValue env (.table es) = .error (.fault f)) ↔ Unusable es = true) ∧
    ((∃ ps, IndexConfig.ofValue env (.table es) = .error (.problems ps)) ↔
      Unusable es = false ∧ Mistyped es = true) ∧
    (∀ c, IndexConfig.ofValue env (.table es) = .ok c →
      c.fileOutput.path = filePath (orEmpty (takenValue es ["output"] (.table []))).entries) := by
  have outcome := run_of_triple (readConfig_spec env es)
  unfold IndexConfig.ofValue
  split
  · rename_i f stopped
    rw [stopped] at outcome
    simp [outcome]
  · rename_i c finished
    rw [finished] at outcome
    obtain ⟨usable, clean, path⟩ := outcome
    simp_all
  · rename_i c problems recorded refused
    rw [refused] at outcome
    obtain ⟨usable, clean, _⟩ := outcome
    have mistyped : Mistyped es = true := by
      cases typed : Mistyped es
      · exact absurd (clean.mpr typed) recorded
      · rfl
    simp [usable, mistyped]

/-- Loading a configuration file fails only by refusing it, by a fault of building from a table
document one of the readers gave and that is unusable, or by bytes that are not UTF-8, provided
the TOML reader fails only with its own decode error. -/
theorem loadConfigFile_failures (loads : String → Except Toml.LoadsFailure Value)
    (decodeOnly : ∀ text kind message, loads text ≠ .error (.raised kind message))
    (env : Environment) (filename : String) (content : Option FileContent) (e : LoadFailure)
    (failed : loadConfigFile loads env filename content = .error e) :
    (∃ refusal, e = .refused refusal) ∨
    (∃ f text es, e = .fault f ∧
      (readJson text = .ok (.table es) ∨ loads text = .ok (.table es)) ∧
      IndexConfig.ofValue env (.table es) = .error (.fault f) ∧ Unusable es = true) ∨
    (∃ bytes message, content = some (.bytes bytes) ∧ e = .crash "UnicodeDecodeError" message) := by
  unfold loadConfigFile at failed
  cases content with
  | none => cases failed
  | some body =>
    -- Each stage of loading goes on or stops with the failure it names: split every stage and
    -- read the failure off each stop.
    cases body <;>
      simp only [bind, Except.bind, pure, Except.pure, throw, throwThe, MonadExceptOf.throw]
        at failed <;>
      repeat' split at failed
    all_goals cases failed
    -- Hypotheses are matched only up to reducible unfolding: otherwise each failed match
    -- unfolds the JSON reader.
    all_goals
      first
      | exact .inl ⟨_, rfl⟩
      | exact .inr (.inl ⟨_, _, _, rfl, .inl (by with_reducible assumption),
          (by with_reducible assumption),
          (ofValue_table_outcome env _).1.mp ⟨_, by with_reducible assumption⟩⟩)
      | exact .inr (.inl ⟨_, _, _, rfl, .inr (by with_reducible assumption),
          (by with_reducible assumption),
          (ofValue_table_outcome env _).1.mp ⟨_, by with_reducible assumption⟩⟩)
      | exact .inr (.inr ⟨_, _, rfl, rfl⟩)
      | exact absurd (by with_reducible assumption) (decodeOnly _ _ _)

/-- How building and loading a configuration refuse: faults for exactly the unusable table
documents, problems for exactly the usable ones with a value of the wrong kind, the report path
kept as given, and, for a TOML reader that fails only with its decode error, no other failure of
loading than a refusal, such a fault or undecodable bytes. -/
theorem configuration_refusals (env : Environment) (loads : String → Except Toml.LoadsFailure Value)
    (decodeOnly : ∀ text kind message, loads text ≠ .error (.raised kind message)) :
    (∀ es : List (String × Value),
      ((∃ f, IndexConfig.ofValue env (.table es) = .error (.fault f)) ↔ Unusable es = true) ∧
      ((∃ ps, IndexConfig.ofValue env (.table es) = .error (.problems ps)) ↔
        Unusable es = false ∧ Mistyped es = true) ∧
      (∀ c, IndexConfig.ofValue env (.table es) = .ok c →
        c.fileOutput.path = filePath (orEmpty (takenValue es ["output"] (.table []))).entries)) ∧
    (∀ (filename : String) (content : Option FileContent) (e : LoadFailure),
      loadConfigFile loads env filename content = .error e →
      (∃ refusal, e = .refused refusal) ∨
      (∃ f text es, e = .fault f ∧
        (readJson text = .ok (.table es) ∨ loads text = .ok (.table es)) ∧
        IndexConfig.ofValue env (.table es) = .error (.fault f) ∧ Unusable es = true) ∨
      (∃ bytes message, content = some (.bytes bytes) ∧ e = .crash "UnicodeDecodeError" message)) :=
  ⟨ofValue_table_outcome env, loadConfigFile_failures loads decodeOnly env⟩

/-- A TOML reader that reads the one document `[output]` with `file = "x"` as `toml.loads` does, and
refuses every other text with its decode error. -/
def outputFileText : String → Except Toml.LoadsFailure Value := fun text =>
  if text = "[output]\nfile = \"x\"" then .ok (.table [("output", .table [("file", .str "x")])])
  else .error (.decode "not a TOML document")

/-- An output section whose file part is a string stops building with a fault, not a problem,
and a file holding it fails to load only in the ways the theorem lists. -/
theorem configuration_refusals_file_text :
    (∀ text kind message, outputFileText text ≠ .error (.raised kind message)) ∧
      Unusable [("output", .table [("file", .str "x")])] = true ∧
      (∃ f, IndexConfig.ofValue [] (.table [("output", .table [("file", .str "x")])]) =
        .error (.fault f)) ∧
      ∀ e, loadConfigFile outputFileText [] "metadatafy.toml"
          (some (.text "[output]\nfile = \"x\"")) = .error e →
        (∃ refusal, e = .refused refusal) ∨
        (∃ f text es, e = .fault f ∧
          (readJson text = .ok (.table es) ∨ outputFileText text = .ok (.table es)) ∧
          IndexConfig.ofValue [] (.table es) = .error (.fault f) ∧ Unusable es = true) ∨
        (∃ bytes message, some (FileContent.text "[output]\nfile = \"x\"") = some (.bytes bytes) ∧
          e = .crash "UnicodeDecodeError" message) :=
  have decodeOnly : ∀ text kind message, outputFileText text ≠ .error (.raised kind message) :=
    fun text kind message => by unfold outputFileText; split <;> simp
  have refusals := configuration_refusals [] outputFileText decodeOnly
  ⟨decodeOnly, by decide, ((refusals.1 _).1).mpr (by decide),
    refusals.2 "metadatafy.toml" (some (.text "[output]\nfile = \"x\""))⟩

end ProjectIndex.Config
