/-!
Spans of characters: the facts about `takeWhile` and `dropWhile` that the readers of this library
use to show that each of their steps consumes input.

Owns: `length_dropWhile_le`.
-/

namespace ProjectIndex.Text

/-- Dropping a prefix never lengthens a list. -/
theorem length_dropWhile_le (p : α → Bool) (xs : List α) :
    (xs.dropWhile p).length ≤ xs.length := by
  induction xs with
  | nil => simp
  | cons x rest ih =>
    simp only [List.dropWhile]
    split
    · -- the head is dropped and the rest shortens no further
      exact Nat.le_succ_of_le ih
    · exact Nat.le_refl _

end ProjectIndex.Text
