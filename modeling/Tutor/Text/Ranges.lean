namespace Tutor.Text

/-!
# Ranges of code points

Character classes are written as lists of closed ranges of code points.

* `inRanges` asks whether a code point lies in one of them.
-/

/-- Some range of the table holds the code point. -/
def inRanges (table : List (Nat × Nat)) (c : Nat) : Bool :=
  table.any fun r => r.1 ≤ c && c ≤ r.2

end Tutor.Text
