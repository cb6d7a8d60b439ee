/-!
Character classes given as tables of closed code point ranges.

A table lists disjoint ranges in increasing order; a character belongs to the class when its
code point lies in one of them. The tables of the Unicode character database used by this library
(word characters, decimal digits, upper case letters) are values of this type.

Owns: `RangeTable` and its membership test.
-/

namespace ProjectIndex.Text

/-- Closed ranges `(lo, hi)` of code points, disjoint and in increasing order. -/
abbrev RangeTable := Array (Nat × Nat)

/-- The code point `n` lies in one of the table's ranges. -/
def RangeTable.containsNat (table : RangeTable) (n : Nat) : Bool :=
  table.any fun range => range.1 ≤ n && n ≤ range.2

/-- The character `c` lies in one of the table's ranges. -/
def RangeTable.contains (table : RangeTable) (c : Char) : Bool :=
  table.containsNat c.toNat

end ProjectIndex.Text
