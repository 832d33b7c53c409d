import IdFactory.Factory.History
import IdFactory.Server.Paths
import IdFactory.Text.Utf8

namespace IdFactory.Server

open Text

/-!
# Histories kept in a file

A history file holds one identifier per line. Lines are the pieces between
newline bytes, a final piece without a newline included. Each is trimmed of
ASCII blanks (space, tab, line feed, form feed, carriage return) at both
ends, and blank lines are ignored by both the count and the rows. A line
that is not UTF-8 still counts, and reads as a failure naming the file and
the decoding problem. A file that cannot be read fails both queries, naming
the file and why the system refused it.

The two queries are separate passes over the lines: the count adds one for
each line that is not blank, and the rows keep each such line, decoded.
-/

/-- Whether a byte is an ASCII blank: space, tab, line feed, form feed or carriage return. -/
def isAsciiBlank (b : UInt8) : Bool :=
  b == 0x20 || b == 0x09 || b == 0x0A || b == 0x0C || b == 0x0D

/-- A byte string without its leading and trailing ASCII blanks. -/
def trimBlanks (bytes : List UInt8) : List UInt8 :=
  ((bytes.dropWhile isAsciiBlank).reverse.dropWhile isAsciiBlank).reverse

/-- The pieces of a byte string between newlines, the line being built kept reversed. -/
def splitLinesFrom (current : List UInt8) : List UInt8 → List (List UInt8)
  | [] => if current.isEmpty then [] else [current.reverse]
  | b :: rest =>
    if b == 0x0A then current.reverse :: splitLinesFrom [] rest
    else splitLinesFrom (b :: current) rest

/-- The lines of a byte string: the pieces between newlines, a final non-empty piece included. -/
def splitLines (bytes : List UInt8) : List (List UInt8) :=
  splitLinesFrom [] bytes

/-- The non-blank lines of a file, trimmed. -/
def entries (bytes : List UInt8) : List (List UInt8) :=
  ((splitLines bytes).map trimBlanks).filter (!·.isEmpty)

/-- The row of a non-blank line of the file at `path`: the line read as UTF-8, or the reason it
is not, naming the file. -/
def readEntry (path : String) (entry : List UInt8) : Except FactoryError String :=
  (decodeUtf8 entry).mapError fun e => .warmupQuery (path ++ ": " ++ e.message)

/-- The count pass: one for each line that is not blank. -/
def countEntries (bytes : List UInt8) : Nat :=
  (splitLines bytes).foldl (fun count line => if (trimBlanks line).isEmpty then count else count + 1) 0

/-- The row pass: each line that is not blank, trimmed and read, in order. -/
def streamEntries (path : String) (bytes : List UInt8) : List (Except FactoryError String) :=
  (splitLines bytes).filterMap fun line =>
    let entry := trimBlanks line
    if entry.isEmpty then none else some (readEntry path entry)

/-! ## Lines and entries

The lines are the newline-separated pieces of the file: none holds a newline, and each closed by
one gives back the file, closed by a newline if it was not. The two passes agree with the
non-blank lines, trimmed: the count is their number and the rows are them, read, in order.
-/

/-- A byte string closed by a newline: as it is when it is empty or already ends in one. -/
def closeLine (bytes : List UInt8) : List UInt8 :=
  if bytes = [] ∨ bytes.getLast? = some 0x0A then bytes else bytes ++ [0x0A]

theorem closeLine_append (front : List UInt8) {back : List UInt8} (nonempty : back ≠ []) :
    closeLine (front ++ back) = front ++ closeLine back := by
  have last : (front ++ back).getLast? = back.getLast? := by
    rw [List.getLast?_append]
    cases lastIs : back.getLast? with
    | none => exact absurd (List.getLast?_eq_none_iff.mp lastIs) nonempty
    | some b => rfl
  unfold closeLine
  rw [last]
  by_cases closed : back.getLast? = some 0x0A <;> simp [closed, nonempty]

theorem newline_not_mem_of_mem_splitLinesFrom
    {current : List UInt8}
    (noBreak : 0x0A ∉ current)
    {bytes line : List UInt8}
    (member : line ∈ splitLinesFrom current bytes) :
    0x0A ∉ line := by
  induction bytes generalizing current with
  | nil =>
      unfold splitLinesFrom at member
      split at member
      · simp at member
      · rw [List.mem_singleton.mp member, List.mem_reverse]
        exact noBreak
  | cons b rest inductionHypothesis =>
      unfold splitLinesFrom at member
      split at member
      · rcases List.mem_cons.mp member with first | later
        · rw [first, List.mem_reverse]
          exact noBreak
        · exact inductionHypothesis (by simp) later
      · rename_i notBreak
        -- the byte joins the line being built, which therefore still has no newline
        exact inductionHypothesis
          (List.not_mem_cons_of_ne_of_not_mem (fun same => notBreak (by simp [← same])) noBreak)
          member

theorem flatMap_splitLinesFrom
    {current : List UInt8}
    (noBreak : 0x0A ∉ current)
    (bytes : List UInt8) :
    (splitLinesFrom current bytes).flatMap (· ++ [0x0A]) = closeLine (current.reverse ++ bytes) := by
  induction bytes generalizing current with
  | nil =>
      unfold splitLinesFrom
      split
      · rename_i empty
        simp [List.isEmpty_iff.mp empty, closeLine]
      · rename_i nonempty
        -- the final piece is closed by the newline it lacks
        have notEmpty : current ≠ [] := fun same => nonempty (by simp [same])
        have lastIs : current.reverse.getLast? = current.head? := by
          rw [List.getLast?_reverse]
        have notNewline : current.head? ≠ some 0x0A := by
          intro headIs
          exact noBreak (List.mem_of_mem_head? headIs)
        simp [closeLine, notEmpty, lastIs, notNewline]
  | cons b rest inductionHypothesis =>
      unfold splitLinesFrom
      split
      · rename_i isBreak
        have brk : b = 0x0A := by simpa using isBreak
        subst brk
        rw [List.flatMap_cons, inductionHypothesis (by simp)]
        cases rest with
        | nil =>
            simp [closeLine]
        | cons next more =>
            have split : current.reverse ++ 0x0A :: next :: more =
                (current.reverse ++ [0x0A]) ++ (next :: more) := by simp
            rw [split, closeLine_append (current.reverse ++ [0x0A]) (List.cons_ne_nil next more)]
            simp
      · rename_i notBreak
        have keep : 0x0A ∉ b :: current :=
          List.not_mem_cons_of_ne_of_not_mem (fun same => notBreak (by simp [← same])) noBreak
        rw [inductionHypothesis keep]
        simp

/-- No line holds a newline. -/
theorem newline_not_mem_of_mem_splitLines {bytes line : List UInt8}
    (member : line ∈ splitLines bytes) : 0x0A ∉ line :=
  newline_not_mem_of_mem_splitLinesFrom (List.not_mem_nil) member

/-- The lines, each closed by a newline, give back the bytes closed by a newline. -/
theorem flatMap_splitLines (bytes : List UInt8) :
    (splitLines bytes).flatMap (· ++ [0x0A]) = closeLine bytes := by
  simpa [splitLines] using flatMap_splitLinesFrom List.not_mem_nil bytes

/-- The count pass counts the entries. -/
theorem countEntries_eq_length_entries (bytes : List UInt8) :
    countEntries bytes = (entries bytes).length := by
  -- the count pass is a fold: generalize its accumulator over any list of lines
  have counted : ∀ (lines : List (List UInt8)) (start : Nat),
      lines.foldl (fun count line => if (trimBlanks line).isEmpty then count else count + 1) start
        = start + ((lines.map trimBlanks).filter (!·.isEmpty)).length := by
    intro lines
    induction lines with
    | nil => simp
    | cons line rest inductionHypothesis =>
        intro start
        simp only [List.foldl_cons, List.map_cons, List.filter_cons]
        by_cases blank : (trimBlanks line).isEmpty
        · rw [if_pos blank, inductionHypothesis]
          simp [blank]
        · rw [if_neg blank, inductionHypothesis]
          simp [blank]
          omega
  simpa [countEntries, entries] using counted (splitLines bytes) 0

/-- The row pass reads the entries, in order. -/
theorem streamEntries_eq_map_entries (path : String) (bytes : List UInt8) :
    streamEntries path bytes = (entries bytes).map (readEntry path) := by
  unfold streamEntries entries
  induction splitLines bytes with
  | nil => rfl
  | cons line rest inductionHypothesis =>
      simp only [List.filterMap_cons, List.map_cons, List.filter_cons]
      by_cases blank : (trimBlanks line).isEmpty
      · simp only [blank, if_true, Bool.not_true, Bool.false_eq_true, if_false]
        exact inductionHypothesis
      · simp only [blank, Bool.false_eq_true, if_false, Bool.not_false, if_true, List.map_cons]
        rw [inductionHypothesis]

/-- A history kept in the file at `path`, whose contents are read as `contents`: the bytes, or
why the system refused to read them. -/
def fileHistory (path : String) (contents : Except PathError (List UInt8)) : History :=
  match contents with
  | .error e =>
    let e := FactoryError.warmupQuery (path ++ ": " ++ e.message)
    ⟨.error e, .error e⟩
  | .ok bytes => ⟨.ok (countEntries bytes), .ok (streamEntries path bytes)⟩

end IdFactory.Server
