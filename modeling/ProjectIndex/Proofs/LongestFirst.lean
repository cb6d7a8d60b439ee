import Mathlib

/-!
Tables read longest key first.

Two tables are consulted longest key first: the import aliases, by prefix, and the glob map, by
pattern. Both are sorted by a stable merge sort on the length of the key, largest first. This
module says what that order is. No key of the sorted table is shorter than a key after it, and
the entries whose keys have one length keep the table's order among themselves
(`filter_longestFirst`); with the sorted table a permutation of the table, that fixes it. So the
first sorted entry that passes a test is the first passing entry of the table whose key is at
least as long as the key of every passing entry (`find?_longestFirst`).

Owns: `pairwise_longestFirst`, `filter_longestFirst`, `find?_longestFirst`.
-/

namespace ProjectIndex

section LongestFirst

variable {β : Type} (table : List (String × β))

/-- No key of the sorted table is shorter than a key after it. -/
theorem pairwise_longestFirst :
    (table.mergeSort fun a b => a.1.length ≥ b.1.length).Pairwise
      fun a b => b.1.length ≤ a.1.length := by
  have sorted : (table.mergeSort fun a b => decide (a.1.length ≥ b.1.length)).Pairwise
      fun a b => decide (a.1.length ≥ b.1.length) = true :=
    List.pairwise_mergeSort
      (fun a b c longerAB longerBC => by simp only [decide_eq_true_eq] at *; omega)
      (fun a b => by simp only [Bool.or_eq_true, decide_eq_true_eq]; omega) table
  simpa using sorted

/-- Among keys of one length the sorted table keeps the order of the table. -/
theorem filter_longestFirst (n : Nat) :
    (table.mergeSort fun a b => a.1.length ≥ b.1.length).filter (·.1.length == n) =
      table.filter (·.1.length == n) := by
  set sorted := table.mergeSort fun a b => a.1.length ≥ b.1.length
  set ofLength := table.filter (·.1.length == n)
  -- equal lengths are ordered both ways, so the merge sort keeps them as a sublist
  have tied : ofLength.Pairwise fun a b => decide (a.1.length ≥ b.1.length) = true := by
    refine List.Pairwise.imp_of_mem ?_ (List.pairwise_of_forall (R := fun _ _ => True) ?_)
    · intro a b inA inB _
      have lengthA := beq_iff_eq.mp (List.mem_filter.mp inA).2
      have lengthB := beq_iff_eq.mp (List.mem_filter.mp inB).2
      simp only [decide_eq_true_eq]
      omega
    · exact fun _ _ => trivial
  have kept : ofLength.Sublist sorted :=
    List.sublist_mergeSort
      (fun a b c longerAB longerBC => by simp only [decide_eq_true_eq] at *; omega)
      (fun a b => by simp only [Bool.or_eq_true, decide_eq_true_eq]; omega)
      tied (List.filter_sublist)
  have keptAmongEqual : ofLength.Sublist (sorted.filter (·.1.length == n)) := by
    have filtered := kept.filter (·.1.length == n)
    rwa [show ofLength.filter (·.1.length == n) = ofLength from
      List.filter_filter.trans (List.filter_congr fun x _ => by simp)] at filtered
  have sameCount : ofLength.length = (sorted.filter (·.1.length == n)).length :=
    (((List.mergeSort_perm table _).filter _).length_eq).symm
  exact (keptAmongEqual.eq_of_length sameCount).symm

/-- The first sorted entry that passes a test is the first passing entry of the table whose key is
at least as long as the key of every passing entry. -/
theorem find?_longestFirst (passes : String × β → Bool) :
    (table.mergeSort fun a b => a.1.length ≥ b.1.length).find? passes =
      (table.filter passes).find? fun e =>
        (table.filter passes).all fun other => other.1.length ≤ e.1.length := by
  set sorted := table.mergeSort fun a b => a.1.length ≥ b.1.length
  have perm : sorted.Perm table := List.mergeSort_perm _ _
  cases found : sorted.find? passes with
  | none =>
      have nonePass : table.filter passes = [] :=
        List.filter_eq_nil_iff.mpr fun e member =>
          List.find?_eq_none.mp found e (perm.mem_iff.mpr member)
      rw [nonePass]
      rfl
  | some e =>
      obtain ⟨passesE, before, after, split, failBefore⟩ := List.find?_eq_some_iff_append.mp found
      -- a passing entry sits at `e` or after it, so no passing key is longer than `e`'s
      have longest : ∀ other ∈ table.filter passes, other.1.length ≤ e.1.length := by
        intro other member
        obtain ⟨inTable, passesOther⟩ := List.mem_filter.mp member
        have inSorted : other ∈ before ++ e :: after := split ▸ perm.mem_iff.mpr inTable
        rcases List.mem_append.mp inSorted with early | late
        · exact absurd passesOther (by simpa using failBefore other early)
        · rcases List.mem_cons.mp late with same | later
          · rw [same]
          · have ordered := pairwise_longestFirst table
            rw [show table.mergeSort (fun a b => a.1.length ≥ b.1.length) = sorted from rfl,
              split] at ordered
            exact List.rel_of_pairwise_cons (List.pairwise_append.mp ordered).2.1 later
      -- so the passing entries at least as long as all others are those of `e`'s length
      have atLeastAll : ∀ other ∈ table.filter passes,
          ((table.filter passes).all fun x => x.1.length ≤ other.1.length) =
            (passes other && other.1.length == e.1.length) := by
        intro other member
        have passesOther := (List.mem_filter.mp member).2
        have bounded := longest other member
        have eLongest : e.1.length ≤ other.1.length ↔
            ((table.filter passes).all fun x => x.1.length ≤ other.1.length) = true := by
          constructor
          · intro longer
            simp only [List.all_eq_true, decide_eq_true_eq]
            exact fun x inFilter => (longest x inFilter).trans longer
          · intro all
            have eMember : e ∈ table.filter passes :=
              List.mem_filter.mpr ⟨perm.mem_iff.mp (split ▸ by simp), passesE⟩
            simpa using List.all_eq_true.mp all e eMember
        rw [passesOther, Bool.true_and]
        apply Bool.eq_iff_iff.mpr
        rw [← eLongest, beq_iff_eq]
        omega
      -- `e` is also the first sorted entry that passes and has its length
      have firstOfLength : sorted.find? (fun x => passes x && x.1.length == e.1.length) = some e := by
        refine List.find?_eq_some_iff_append.mpr ⟨by simp [passesE], before, after, split, ?_⟩
        intro x early
        simp [by simpa using failBefore x early]
      rw [List.find?_congr atLeastAll, List.find?_filter, ← firstOfLength]
      -- stability moves the first entry of that length from the sorted table to the table
      have stable := congrArg (List.find? passes) (filter_longestFirst table e.1.length)
      rw [List.find?_filter, List.find?_filter] at stable
      calc sorted.find? (fun x => passes x && x.1.length == e.1.length)
          = sorted.find? (fun a => decide ((a.1.length == e.1.length) = true ∧ passes a = true)) :=
            List.find?_congr fun x _ => Bool.eq_iff_iff.mpr (by simp [and_comm])
        _ = table.find? (fun a => decide ((a.1.length == e.1.length) = true ∧ passes a = true)) :=
            stable
        _ = table.find? (fun a => decide (passes a = true ∧
              (passes a && a.1.length == e.1.length) = true)) :=
            List.find?_congr fun x _ => Bool.eq_iff_iff.mpr (by simp [and_comm])

end LongestFirst

end ProjectIndex
