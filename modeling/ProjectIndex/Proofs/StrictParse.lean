import Mathlib
import ProjectIndex.Script.Document

/-!
Contract: the stack walk is the pre-order of the tree, the search for a repaired node stops at the
first one that walk meets, and a strict parse is refused exactly when the tree holds a repair,
with that first repair's kind and line.

A node has an error exactly when it or a descendant is an error wrapper or a missing token
(`Node.hasError` is computed so). The search keeps a stack like the walk, but skips the subtree
of a node without an error; such a subtree holds no repair, so skipping it loses nothing the walk
would have found first (`firstProblemFrom_eq_find`). The strict parse refuses a tree with an
error; its search then always finds a node, so the refusal always names a line
(`strict_parse_reports_first_repair`). None of this reads how the tree was built, so it holds of
the strict parse with any tree parser (`parseScriptWith`), this library's among them.

Owns: `walkFrom_eq_preorderAll`, `hasError_eq_any`, `firstProblemFrom_eq_find`,
`strict_parse_reports_first_repair`.
-/

namespace ProjectIndex

/-- A problem with a line past zero shows that line in its message. -/
theorem SourceError.message_of_line (path what : String) (row : Nat)
    {problem : SourceProblem} (shows : problem.text = (what, some (row + 1))) :
    (SourceError.mk path problem).message =
      path ++ ": " ++ what ++ " (line " ++ toString (row + 1) ++ ")" := by
  unfold SourceError.message
  rw [shows]
  rfl

namespace Script

namespace Node

/-! ### The walk is the pre-order -/

theorem preorder_eq (n : Node) : n.preorder = n :: preorderAll n.children := by
  cases n
  rfl

@[simp] theorem preorderAll_nil : preorderAll [] = [] := rfl

theorem preorderAll_cons (c : Node) (cs : List Node) :
    preorderAll (c :: cs) = c.preorder ++ preorderAll cs := rfl

theorem preorderAll_append (xs ys : List Node) :
    preorderAll (xs ++ ys) = preorderAll xs ++ preorderAll ys := by
  induction xs with
  | nil => rfl
  | cons x xs ih => rw [List.cons_append, preorderAll_cons, preorderAll_cons, ih, List.append_assoc]

/-- **The stack walk is the pre-order of its stack.** Taking the top and pushing its children,
first child on top, visits the top's subtree before the rest of the stack. -/
theorem walkFrom_eq_preorderAll (stack : List Node) : walkFrom stack = preorderAll stack := by
  induction stack using walkFrom.induct with
  | case1 => simp [walkFrom]
  | case2 n rest ih =>
    rw [walkFrom, ih, preorderAll_append, preorderAll_cons, preorder_eq, List.cons_append]

theorem walk_eq_preorderAll (n : Node) : n.walk = preorderAll [n] :=
  walkFrom_eq_preorderAll [n]

/-! ### Errors are repairs below -/

mutual
/-- A node has an error exactly when its pre-order meets an error wrapper or a missing token. -/
theorem hasError_eq_any : (n : Node) → n.hasError = n.preorder.any (·.isProblem)
  | ⟨_, _, _, _, _, _, cs⟩ => by
    simp only [hasError, preorder, List.any_cons, isProblem, anyHasError_eq_any cs]

theorem anyHasError_eq_any : (cs : List Node) → anyHasError cs = (preorderAll cs).any (·.isProblem)
  | [] => rfl
  | c :: cs => by
    rw [anyHasError, preorderAll_cons, List.any_append, hasError_eq_any c, anyHasError_eq_any cs]
end

/-- A subtree without an error holds no repair, so a search over it finds nothing. -/
theorem find?_preorder_of_hasError_eq_false {n : Node} (clean : n.hasError = false) :
    n.preorder.find? (·.isProblem) = none := by
  rw [hasError_eq_any, List.any_eq_false] at clean
  exact List.find?_eq_none.mpr clean

/-! ### The search for the first repair -/

/-- **The search finds the walk's first repair.** It differs from the walk only in skipping
subtrees without an error, which hold none. -/
theorem firstProblemFrom_eq_find (stack : List Node) :
    firstProblemFrom stack = (preorderAll stack).find? (·.isProblem) := by
  induction stack using firstProblemFrom.induct with
  | case1 => simp [firstProblemFrom]
  | case2 n rest repaired =>
    rw [firstProblemFrom, if_pos repaired, preorderAll_cons, preorder_eq, List.cons_append,
      List.find?_cons_of_pos repaired]
  | case3 n rest sound erroneous ih =>
    -- the node is no repair but one lies below it: its children go on the stack
    rw [firstProblemFrom, if_neg sound, if_pos erroneous, ih, preorderAll_append,
      preorderAll_cons, preorder_eq, List.cons_append, List.find?_cons_of_neg sound]
  | case4 n rest sound clean ih =>
    -- nothing below the node is repaired, so skipping its subtree loses nothing
    have skipped := find?_preorder_of_hasError_eq_false (Bool.eq_false_iff.mpr clean)
    rw [firstProblemFrom, if_neg sound, if_neg clean, ih, preorderAll_cons, List.find?_append,
      skipped, Option.none_or]

theorem firstProblem?_eq_find_walk (n : Node) : n.firstProblem? = n.walk.find? (·.isProblem) := by
  rw [firstProblem?, walk_eq_preorderAll, firstProblemFrom_eq_find]

/-- The search finds a repair exactly when the node has an error. -/
theorem firstProblem?_isSome_iff (n : Node) : n.firstProblem?.isSome = n.hasError := by
  rw [firstProblem?_eq_find_walk, walk_eq_preorderAll, preorderAll_cons, preorderAll_nil,
    List.append_nil, hasError_eq_any, List.isSome_find?]

/-- What the search finds is a repair, an error wrapper or a missing token. -/
theorem mark_of_firstProblem? {n p : Node} (found : n.firstProblem? = some p) :
    p.mark = .error ∨ p.mark = .missing := by
  rw [firstProblem?_eq_find_walk] at found
  have repaired : p.isProblem = true := List.find?_some found
  cases marked : p.mark with
  | plain => simp [isProblem, marked] at repaired
  | error => exact Or.inl rfl
  | missing => exact Or.inr rfl

end Node

/-! ### The strict parse -/

/-- The problem a strict parse reports for a repaired node. -/
theorem parseScriptWith_strict {tree : TreeParser} {text path : String} {g : Grammar}
    (supported : grammarOf? (extensionOf path) = some g) (encodable : Text.utf8Fault? text = none) :
    parseScriptWith tree text path true =
      match (tree text g).1.firstProblem? with
      | some p =>
        let line := rowOf (tree text g).2 p.start + 1
        .error ⟨path, if p.mark = .missing then .missingToken line else .syntaxError line⟩
      | none => .ok ⟨(tree text g).1, (tree text g).2, path⟩ := by
  unfold parseScriptWith
  simp only [supported, encodable, Bool.true_and]
  generalize tree text g = parsed
  obtain ⟨root, chars⟩ := parsed
  have found := Node.firstProblem?_isSome_iff root
  cases searched : root.firstProblem? with
  | none =>
    rw [searched, Option.isSome_none] at found
    simp [← found]
  | some p =>
    rw [searched, Option.isSome_some] at found
    simp [← found]

/-- **A strict parse reports the first repair of the walk.** The search for a repaired node
returns the first error wrapper or missing token of the walk, and nothing only when there is
none. Whatever tree parser reads the script, a strict parse of a script with a grammar, in a text
that can be encoded, is refused exactly when the tree has an error; the refusal is a parse error
that names that first repair's line, one past its row, and calls it a missing token exactly when it
is one. No refusal goes without a line. -/
theorem strict_parse_reports_first_repair (tree : TreeParser) (text path : String) {g : Grammar}
    (supported : grammarOf? (extensionOf path) = some g) (encodable : Text.utf8Fault? text = none) :
    (∀ n : Node, n.firstProblem? = n.walk.find? (·.isProblem)) ∧
      ((∃ e, parseScriptWith tree text path true = .error e) ↔ (tree text g).1.hasError = true) ∧
      ∀ e, parseScriptWith tree text path true = .error e →
        ∃ p, (tree text g).1.walk.find? (·.isProblem) = some p ∧
          let line := rowOf (tree text g).2 p.start + 1
          let what := if p.mark = .missing then "missing token" else "syntax error"
          e.kind = "ParseError" ∧ e.problem.text = (what, some line) ∧
            e.message = path ++ ": " ++ what ++ " (line " ++ toString line ++ ")" := by
  have parsed := @parseScriptWith_strict tree text path g supported encodable
  generalize tree text g = result at parsed ⊢
  obtain ⟨root, chars⟩ := result
  have found := Node.firstProblem?_isSome_iff root
  refine ⟨Node.firstProblem?_eq_find_walk, ?_, ?_⟩
  · rw [← found]
    cases searched : root.firstProblem? with
    | none => simp [parsed, searched]
    | some p => simp [parsed, searched]
  · intro e refused
    cases searched : root.firstProblem? with
    | none => simp [parsed, searched] at refused
    | some p =>
      simp only [parsed, searched, Except.error.injEq] at refused
      subst refused
      refine ⟨p, (Node.firstProblem?_eq_find_walk root).symm.trans searched, ?_⟩
      dsimp only
      -- the line is one past a row, so it is never zero and the message always shows it
      generalize rowOf chars p.start = row
      by_cases missing : p.mark = .missing
      · simp only [missing, if_true]
        exact ⟨rfl, rfl, SourceError.message_of_line path _ row rfl⟩
      · simp only [missing, if_false]
        exact ⟨rfl, rfl, SourceError.message_of_line path _ row rfl⟩

theorem strict_parse_reports_first_repair_unclosed :
    grammarOf? (extensionOf "a.ts") = some .typescript ∧ Text.utf8Fault? "let x = (;" = none ∧
      ((∀ n : Node, n.firstProblem? = n.walk.find? (·.isProblem)) ∧
        ((∃ e, parseScript "let x = (;" "a.ts" true = .error e) ↔
          (parseTree "let x = (;" .typescript).1.hasError = true) ∧
        ∀ e, parseScript "let x = (;" "a.ts" true = .error e →
          ∃ p, (parseTree "let x = (;" .typescript).1.walk.find? (·.isProblem) = some p ∧
            let line := rowOf (parseTree "let x = (;" .typescript).2 p.start + 1
            let what := if p.mark = .missing then "missing token" else "syntax error"
            e.kind = "ParseError" ∧ e.problem.text = (what, some line) ∧
              e.message = "a.ts" ++ ": " ++ what ++ " (line " ++ toString line ++ ")") :=
  ⟨by decide, by decide,
    @strict_parse_reports_first_repair parseTree "let x = (;" "a.ts" .typescript (by decide)
      (by decide)⟩

end Script

end ProjectIndex
