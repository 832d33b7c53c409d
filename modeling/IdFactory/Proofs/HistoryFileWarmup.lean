import IdFactory.Server.FileHistory
import IdFactory.Factory.Warmup

namespace IdFactory.Server

open Text

/-!
# Warming up from a history file

The two queries of a history file are separate passes over its lines. They agree: the count is
the number of lines that are not blank, and the rows are those lines, trimmed and read in file
order, each as its text or as a failure naming the file. A warm-up from a file that reads
therefore never degrades, accounts for every row as loaded or skipped, and leaves every
readable line in the filter.
-/

/-- The row pass yields one row for each line the count pass counts. -/
theorem length_streamEntries (path : String) (bytes : List UInt8) :
    (streamEntries path bytes).length = countEntries bytes := by
  rw [streamEntries_eq_map_entries, List.length_map, countEntries_eq_length_entries]

/-- An entry that reads as UTF-8 is a row of the history. -/
theorem ok_mem_streamEntries {path : String} {bytes entry : List UInt8} {text : String}
    (member : entry ∈ entries bytes) (decoded : decodeUtf8 entry = .ok text) :
    .ok text ∈ streamEntries path bytes := by
  rw [streamEntries_eq_map_entries, List.mem_map]
  refine ⟨entry, member, ?_⟩
  rw [readEntry, decoded]
  rfl

/-- A history file that reads: its lines are the newline-separated pieces of its bytes; the count
is the number of those that are not blank, and the rows are those, trimmed, in file order, each
its text if it is UTF-8 and a warm-up failure naming the file otherwise. A warm-up from it reports
every counted row as loaded or skipped, does not degrade, and leaves every readable row in the
filter. -/
theorem fileHistory_count_matches_rows {σ : Type} (path : String) (bytes : List UInt8)
    (f : Factory σ) :
    let history := fileHistory path (.ok bytes)
    (∀ line ∈ splitLines bytes, 0x0A ∉ line) ∧
      (splitLines bytes).flatMap (· ++ [0x0A]) = closeLine bytes ∧
      history.count = .ok (entries bytes).length ∧
      history.rows = .ok ((entries bytes).map fun entry =>
        match decodeUtf8 entry with
        | .ok text => .ok text
        | .error problem => .error (.warmupQuery (path ++ ": " ++ problem.message))) ∧
      (f.prepare history).1.expected =
        (f.prepare history).1.loaded + (f.prepare history).1.skipped ∧
      (f.prepare history).1.degraded = false ∧
      ∀ entry ∈ entries bytes, ∀ text, decodeUtf8 entry = .ok text →
        (f.prepare history).2.filter.contains text.toUTF8.toList = true := by
  intro history
  have counted : history.count = .ok (streamEntries path bytes).length := by
    rw [length_streamEntries]
    rfl
  have read : history.rows = .ok (streamEntries path bytes) := rfl
  obtain ⟨expected, notDegraded, tallied⟩ :=
    Factory.prepare_report_of_count_eq_length f counted read
  refine ⟨fun _ member => newline_not_mem_of_mem_splitLines member, flatMap_splitLines bytes,
    ?_, ?_, by rw [expected, tallied], notDegraded, ?_⟩
  · show Except.ok (countEntries bytes) = _
    rw [countEntries_eq_length_entries]
  · rw [read, streamEntries_eq_map_entries]
    congr 2
    funext entry
    unfold readEntry
    cases decodeUtf8 entry <;> rfl
  · intro entry member text decoded
    obtain ⟨filter, warmed, _, loaded⟩ := Factory.prepare_spec f history
    -- a readable entry makes the count positive, so the rows are read
    have positive : (streamEntries path bytes).length ≠ 0 := by
      rw [streamEntries_eq_map_entries, List.length_map]
      exact Nat.pos_iff_ne_zero.mp (List.length_pos_of_mem member)
    rw [warmed]
    exact loaded _ _ counted positive read text (ok_mem_streamEntries member decoded)

end IdFactory.Server
