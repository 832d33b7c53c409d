namespace IdFactory.Text

/-!
# Tables of code point ranges

A class of characters is given as a table of closed ranges of code points,
sorted and disjoint. Membership is found by halving the search window, so a
lookup takes a number of steps logarithmic in the size of the table.
-/

/-- Find whether `code` lies in one of the ranges `table[lo]`, …, `table[hi - 1]`,
which are sorted and disjoint, by halving the search window. -/
def inRanges (table : Array (Nat × Nat)) (code : Nat) (lo hi : Nat) : Bool :=
  if _h : lo < hi then
    let mid := (lo + hi) / 2
    match table[mid]? with
    | none => false
    | some (first, last) =>
      if code < first then inRanges table code lo mid
      else if last < code then inRanges table code (mid + 1) hi
      else true
  else false
termination_by hi - lo

end IdFactory.Text
