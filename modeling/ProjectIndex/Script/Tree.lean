/-!
Concrete syntax trees of scripts.

A node carries the name of its syntactic kind, whether it is named (a construct) or anonymous (a
keyword or punctuation token, whose kind is its own text), the field its parent gives it, the
range of source characters it covers, a mark, and its children in source order. The mark tells
ordinary nodes from the two kinds of repair the parser makes: an error node wraps text that fits
nowhere, and a missing node is an empty token the parser supplied to complete a construct.

Every query the extractors make is a function here: the named children, the first child in a
field, whether a token is among the children, the walk, and the first repaired node. The walk
keeps the nodes still to visit on a stack, and visits the nodes in pre-order (`Node.preorder`,
the same order by recursion on the tree).

Owns: `Mark`, `Node`, `Node.preorder`, `Node.walk`, `Node.hasError`, `Node.firstProblem?`, `Node.child?`,
`Node.namedChildren`, `Node.hasToken`, `Node.text`, `rowOf`.
-/

namespace ProjectIndex.Script

/-- How a node came about: parsed, an error wrapper, or a supplied missing token. -/
inductive Mark where
  | plain
  | error
  | missing
deriving DecidableEq, Repr, Inhabited

/-- A node of a concrete syntax tree. -/
structure Node where
  /-- The kind: a construct name such as `call_expression`, or a token's own text. -/
  kind : String
  /-- Whether the node is a construct rather than a bare token. -/
  named : Bool := true
  /-- The field under which the parent holds this node. -/
  field : Option String := none
  /-- The first source character the node covers. -/
  start : Nat
  /-- One past the last source character the node covers. -/
  stop : Nat
  /-- Whether the node was parsed, wraps an error, or stands for a missing token. -/
  mark : Mark := .plain
  /-- The children, in source order. -/
  children : List Node := []
deriving Inhabited

namespace Node

/-- Whether the node itself is an error wrapper or a missing token. -/
def isProblem (n : Node) : Bool := n.mark != .plain

mutual
/-- Every node of the subtree, each parent before its children, children left to right. -/
def preorder : Node → List Node
  | n@⟨_, _, _, _, _, _, cs⟩ => n :: preorderAll cs
/-- The pre-order walks of a list of trees, one after the other. -/
def preorderAll : List Node → List Node
  | [] => []
  | c :: cs => c.preorder ++ preorderAll cs
end

mutual
/-- Whether the node or one of its descendants is an error wrapper or a missing token. -/
def hasError : Node → Bool
  | ⟨_, _, _, _, _, m, cs⟩ => m != .plain || anyHasError cs
/-- Whether one of the trees has an error. -/
def anyHasError : List Node → Bool
  | [] => false
  | c :: cs => c.hasError || anyHasError cs
end

/-- A child is smaller than its parent. -/
theorem sizeOf_lt_of_mem_children {n c : Node} (h : c ∈ n.children) : sizeOf c < sizeOf n := by
  cases n with
  | mk k nm f s e m cs =>
    have h' : c ∈ cs := h
    have := List.sizeOf_lt_of_mem h'
    simp only [Node.mk.sizeOf_spec]
    omega

/-- The sizes of a stack of trees, added up. The walks below measure their stack by this sum:
each step makes it smaller. -/
noncomputable def stackWeight (cs : List Node) : Nat := cs.foldr (fun c total => sizeOf c + total) 0

theorem stackWeight_cons (c : Node) (cs : List Node) :
    stackWeight (c :: cs) = sizeOf c + stackWeight cs := rfl

theorem stackWeight_append (xs ys : List Node) :
    stackWeight (xs ++ ys) = stackWeight xs + stackWeight ys := by
  induction xs with
  | nil => exact (Nat.zero_add _).symm
  | cons x xs ih =>
    rw [List.cons_append, stackWeight_cons, stackWeight_cons, ih]
    omega

/-- A stack of trees weighs less than the size of the list. -/
theorem stackWeight_lt_sizeOf (cs : List Node) : stackWeight cs < sizeOf cs := by
  induction cs with
  | nil => exact Nat.zero_lt_one
  | cons c cs ih =>
    rw [stackWeight_cons, List.cons.sizeOf_spec]
    omega

/-- A node's children weigh less than the node. -/
theorem stackWeight_children_lt (n : Node) : stackWeight n.children < sizeOf n := by
  cases n with
  | mk k nm f s e m cs =>
    have h := stackWeight_lt_sizeOf cs
    simp only [Node.mk.sizeOf_spec]
    show stackWeight cs < _
    omega

/-- The walk from a stack of trees whose top is its head: take the top, then put its children
on the stack with the first child on top. -/
def walkFrom : List Node → List Node
  | [] => []
  | n :: rest => n :: walkFrom (n.children ++ rest)
termination_by stack => stackWeight stack
decreasing_by
  have h := stackWeight_children_lt n
  rw [stackWeight_append, stackWeight_cons]
  omega

/-- Every node of the subtree, by a walk that keeps the nodes still to visit on a stack. -/
def walk (n : Node) : List Node := walkFrom [n]

/-- The search for a repaired node from a stack of trees whose top is its head: a repaired top
is the answer; otherwise its children go on the stack when it has an error below it. -/
def firstProblemFrom : List Node → Option Node
  | [] => none
  | n :: rest =>
    if n.isProblem then some n
    else if n.hasError then firstProblemFrom (n.children ++ rest)
    else firstProblemFrom rest
termination_by stack => stackWeight stack
decreasing_by
  · have h := stackWeight_children_lt n
    rw [stackWeight_append, stackWeight_cons]
    omega
  · have h := stackWeight_children_lt n
    rw [stackWeight_cons]
    omega

/-- The first error wrapper or missing token of the walk, looking only into subtrees that have
one. -/
def firstProblem? (n : Node) : Option Node := firstProblemFrom [n]

/-- The children that are constructs, in order. -/
def namedChildren (n : Node) : List Node := n.children.filter (·.named)

/-- The first child held under a field. -/
def child? (n : Node) (name : String) : Option Node :=
  n.children.find? (·.field == some name)

/-- Whether one of the direct children has the given kind; used for tokens such as `async`. -/
def hasToken (n : Node) (token : String) : Bool := n.children.any (·.kind == token)

/-- The same node held under a field. -/
def withField (n : Node) (name : String) : Node := { n with field := some name }

/-- The same node under another kind. -/
def rename (n : Node) (kind : String) : Node := { n with kind := kind }

/-- The source text a node covers. -/
def text (src : Array Char) (n : Node) : String :=
  String.ofList (src.extract n.start n.stop).toList

end Node

/-- The zero-based line of a source position: the line breaks before it. -/
def rowOf (src : Array Char) (pos : Nat) : Nat :=
  ((src.extract 0 pos).toList.filter (· == '\n')).length

end ProjectIndex.Script
