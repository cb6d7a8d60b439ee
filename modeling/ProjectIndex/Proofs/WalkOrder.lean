import Mathlib
import ProjectIndex.Proofs.StrictParse

/-!
Contract: the stack walk of a syntax tree visits every node of the tree once, in pre-order with
the children left to right.

A node of a tree is named by its address, the child indices on the way down from the root
(`Node.at?`). Pre-order with children left to right is the lexicographic order of addresses: a
node comes before its descendants, whose addresses extend its own, and the subtree of an earlier
child comes before that of a later one. The walk lists, position by position, the nodes at the
addresses of the tree in strictly increasing order (`walk_visits_addresses_in_order`); every
address of the tree is among them, so every node is visited, and none twice.

The addresses are listed by recursion on the tree (`Node.addresses`), alongside `Node.preorder`:
the root's, then each child's under the child's index. Three facts about that list carry the
theorem: the nodes at its addresses are the pre-order (`addresses_map_at?`), it increases
strictly (`pairwise_addresses`), and it holds every address at which there is a node
(`mem_addresses_of_isSome`).

Owns: `Node.at?`, `Node.addresses`, `walk_visits_addresses_in_order`.
-/

namespace ProjectIndex.Script

namespace Node

/-- The node at an address: the node itself at `[]`, and at `i :: rest` the node at `rest` in
its child numbered `i` from zero. -/
def at? (n : Node) : List Nat → Option Node
  | [] => some n
  | i :: rest => n.children[i]?.bind (·.at? rest)

/-- The node at an address among trees numbered from zero: the first index picks the tree. -/
def atIn? (ts : List Node) : List Nat → Option Node
  | [] => none
  | i :: rest => ts[i]?.bind (·.at? rest)

mutual
/-- The addresses of the nodes of a tree, in pre-order. -/
def addresses : Node → List (List Nat)
  | ⟨_, _, _, _, _, _, cs⟩ => [] :: addressesFrom 0 cs
/-- The addresses of the nodes of trees numbered from `i` on. -/
def addressesFrom (i : Nat) : List Node → List (List Nat)
  | [] => []
  | c :: cs => c.addresses.map (i :: ·) ++ addressesFrom (i + 1) cs
end

theorem addresses_eq (n : Node) : n.addresses = [] :: addressesFrom 0 n.children := by
  cases n
  rfl

/-- Every address among trees numbered from `i` starts with an index from `i` on. -/
theorem head_of_mem_addressesFrom {i : Nat} {cs : List Node} {a : List Nat}
    (listed : a ∈ addressesFrom i cs) : ∃ j rest, a = j :: rest ∧ i ≤ j := by
  induction cs generalizing i with
  | nil => cases listed
  | cons c cs ih =>
    rw [addressesFrom, List.mem_append, List.mem_map] at listed
    rcases listed with ⟨rest, _, rfl⟩ | later
    · exact ⟨i, rest, rfl, Nat.le_refl i⟩
    · obtain ⟨j, rest, rfl, after⟩ := ih later
      exact ⟨j, rest, rfl, Nat.le_of_succ_le after⟩

/-! ### The nodes at the addresses are the pre-order -/

/-- Below the root every address is a child's, so it reads the children. -/
theorem map_at?_addressesFrom (n : Node) :
    (addressesFrom 0 n.children).map n.at? = (addressesFrom 0 n.children).map (atIn? n.children) :=
  List.map_congr_left fun _ listed => by
    obtain ⟨j, rest, rfl, _⟩ := head_of_mem_addressesFrom listed
    rfl

mutual
theorem addresses_map_at? : (n : Node) → n.addresses.map n.at? = n.preorder.map some
  | ⟨_, _, _, _, _, _, cs⟩ => by
    have children := addressesFrom_map_atIn? cs []
    rw [List.nil_append, List.length_nil] at children
    rw [addresses_eq, preorder_eq, List.map_cons, List.map_cons, map_at?_addressesFrom]
    exact congrArg (some _ :: ·) children
theorem addressesFrom_map_atIn? : (cs pre : List Node) →
    (addressesFrom pre.length cs).map (atIn? (pre ++ cs)) = (preorderAll cs).map some
  | [], _ => rfl
  | c :: cs, pre => by
    have first : (c.addresses.map (pre.length :: ·)).map (atIn? (pre ++ c :: cs)) =
        c.preorder.map some := by
      rw [List.map_map, ← addresses_map_at? c]
      exact List.map_congr_left fun a _ => by simp [atIn?]
    have rest := addressesFrom_map_atIn? cs (pre ++ [c])
    rw [List.length_append, List.length_singleton, List.append_assoc, List.singleton_append] at rest
    rw [addressesFrom, preorderAll_cons, List.map_append, List.map_append, first, rest]
end

/-! ### The addresses increase -/

mutual
theorem pairwise_addresses : (n : Node) → n.addresses.Pairwise (· < ·)
  | ⟨_, _, _, _, _, _, cs⟩ => by
    show ([] :: addressesFrom 0 cs).Pairwise (· < ·)
    -- the root's address is the empty one, which comes before every other
    refine List.pairwise_cons.mpr ⟨fun a listed => ?_, pairwise_addressesFrom 0 cs⟩
    obtain ⟨j, rest, rfl, _⟩ := head_of_mem_addressesFrom listed
    exact List.Lex.nil
theorem pairwise_addressesFrom : (i : Nat) → (cs : List Node) → (addressesFrom i cs).Pairwise (· < ·)
  | _, [] => List.Pairwise.nil
  | i, c :: cs => by
    rw [addressesFrom, List.pairwise_append, List.pairwise_map]
    refine ⟨(pairwise_addresses c).imp List.Lex.cons, pairwise_addressesFrom (i + 1) cs, ?_⟩
    -- a child's subtree comes before every later child's
    intro a first b later
    obtain ⟨rest, _, rfl⟩ := List.mem_map.mp first
    obtain ⟨j, rest', rfl, after⟩ := head_of_mem_addressesFrom later
    exact List.Lex.rel after
end

/-! ### Every node has its address listed -/

theorem mem_addressesFrom {i j : Nat} {cs : List Node} {c : Node} (picked : cs[j]? = some c)
    {rest : List Nat} (listed : rest ∈ c.addresses) : (i + j) :: rest ∈ addressesFrom i cs := by
  induction cs generalizing i j with
  | nil => cases picked
  | cons c' cs ih =>
    rw [addressesFrom, List.mem_append]
    cases j with
    | zero =>
      cases picked
      exact Or.inl (List.mem_map.mpr ⟨rest, listed, rfl⟩)
    | succ j =>
      have later := ih (i := i + 1) picked
      rw [Nat.add_assoc, Nat.add_comm 1 j] at later
      exact Or.inr later

theorem mem_addresses_of_isSome (n : Node) (a : List Nat) (found : (n.at? a).isSome) :
    a ∈ n.addresses := by
  induction a generalizing n with
  | nil =>
    rw [addresses_eq]
    exact List.mem_cons_self
  | cons i rest ih =>
    rw [addresses_eq]
    cases picked : n.children[i]? with
    | none => simp [at?, picked] at found
    | some c =>
      have deeper : (c.at? rest).isSome := by simpa [at?, picked] using found
      have listed := mem_addressesFrom (i := 0) picked (ih c deeper)
      rw [Nat.zero_add] at listed
      exact List.mem_cons_of_mem _ listed

end Node

/-- **The walk visits every node once, in pre-order.** The stack walk is the recursive pre-order
traversal, and it lists the nodes at the addresses of the tree, in strictly increasing
lexicographic order of address: each parent before its children, children left to right, and
every node of the tree at exactly one position. -/
theorem walk_visits_addresses_in_order (n : Node) :
    n.walk = n.preorder ∧
      ∃ addrs : List (List Nat), addrs.Pairwise (· < ·) ∧
        (∀ a, a ∈ addrs ↔ (n.at? a).isSome) ∧ n.walk.map some = addrs.map n.at? := by
  have walked : n.walk = n.preorder := by
    rw [Node.walk_eq_preorderAll, Node.preorderAll_cons, Node.preorderAll_nil, List.append_nil]
  refine ⟨walked, n.addresses, n.pairwise_addresses,
    fun a => ⟨fun listed => ?_, n.mem_addresses_of_isSome a⟩, ?_⟩
  · -- a listed address reads a node of the pre-order
    have read : n.at? a ∈ n.preorder.map some := by
      rw [← Node.addresses_map_at?]
      exact List.mem_map_of_mem listed
    obtain ⟨m, _, found⟩ := List.mem_map.mp read
    rw [← found]
    rfl
  · rw [walked, Node.addresses_map_at?]

end ProjectIndex.Script
