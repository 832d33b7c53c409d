namespace IdFactory.Text

/-!
# Similarity of words

The Jaro similarity of two words, in `[0, 1]`. A character of the first word
matches an equal, not yet matched character of the second at most
`max(|a|, |b|) / 2 - 1` places away, the nearest-first leftmost one. With
`m` matches and `t` half the number of positions where the matched
characters, read in order in both words, differ, the similarity is
`(m/|a| + m/|b| + (m - t)/m) / 3`, and `0` without matches; two empty words
are equal. The value is computed in doubles, in that order of operations.

A near miss is suggested when its similarity to the typed word is above
0.7; among several the most similar, and of equally similar ones the last.
-/

/-- Mark the matches of the first word in the second, scanning the first word in order. -/
def matchFlags (a b : Array Char) : Array Bool × Array Bool × Nat :=
  let range := max a.size b.size / 2 - 1
  (List.range a.size).foldl (fun (acc : Array Bool × Array Bool × Nat) i =>
    let (af, bf, m) := acc
    let lo := i - range
    let hi := min b.size (i + range + 1)
    match (List.range' lo (hi - lo)).find? (fun j => a[i]? == b[j]? && bf[j]? == some false) with
    | some j => (af.set! i true, bf.set! j true, m + 1)
    | none => (af, bf, m)) (Array.replicate a.size false, Array.replicate b.size false, 0)

/-- The characters of a word whose flag is set, in order. -/
def flagged (w : Array Char) (flags : Array Bool) : List Char :=
  (w.toList.zip flags.toList).filterMap fun (c, f) => if f then some c else none

/-- The Jaro similarity of two words. -/
def jaro (x y : String) : Float :=
  let a := x.toList.toArray
  let b := y.toList.toArray
  if a.size = 0 && b.size = 0 then 1.0
  else if a.size = 0 || b.size = 0 then 0.0
  else
    let (af, bf, m) := matchFlags a b
    let t := (((flagged a af).zip (flagged b bf)).filter fun (p, q) => p != q).length / 2
    if m = 0 then 0.0
    else
      let mf := m.toUInt64.toFloat
      (mf / a.size.toUInt64.toFloat + mf / b.size.toUInt64.toFloat +
        (m - t).toUInt64.toFloat / mf) / 3.0

/-- The candidate most similar to a word, if any is similar enough. -/
def closestMatch (word : String) (candidates : List String) : Option String :=
  let scored := candidates.filterMap fun c =>
    let s := jaro word c
    if 0.7 < s then some (s, c) else none
  (scored.foldl (fun (best : Option (Float × String)) (s, c) =>
    match best with
    | some (bs, _) => if bs ≤ s then some (s, c) else best
    | none => some (s, c)) none).map Prod.snd

end IdFactory.Text
