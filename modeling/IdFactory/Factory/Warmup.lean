import IdFactory.Factory.Basic
import IdFactory.Factory.History

namespace IdFactory

/-!
# Warming the filter from a history

Before a factory issues identifiers it adds the history of those issued
before to its filter, so that none is issued twice. The count comes first:
if it fails the warm-up is degraded and loads nothing, and a count of zero
ends the warm-up at once without reading rows. Then the rows are read: if
reading fails as a whole the warm-up is degraded; otherwise every
identifier is added (repeats too) and every unreadable row is skipped. The
report keeps the count the history gave, whatever the number of rows.
-/

namespace Factory

variable {σ : Type}

/-- Add one row of a history to the filter, counting it as loaded or skipped. -/
def warmRow (acc : WarmupReport × Factory σ) (row : Except FactoryError String) :
    WarmupReport × Factory σ :=
  let (report, f) := acc
  match row with
  | .ok id => ({ report with loaded := report.loaded + 1 },
               { f with filter := f.filter.insert id.toUTF8.toList })
  | .error _ => ({ report with skipped := report.skipped + 1 }, f)

/-- Warm the filter from a history. -/
def prepare (f : Factory σ) (h : History) : WarmupReport × Factory σ :=
  match h.count with
  | .error _ => ({ degraded := true }, f)
  | .ok 0 => ({}, f)
  | .ok expected =>
    match h.rows with
    | .error _ => ({ expected := expected, degraded := true }, f)
    | .ok rows => rows.foldl warmRow ({ expected := expected }, f)

/-- Warming up from rows adds each readable row to the filter and changes nothing else. -/
theorem foldl_warmRow (rows : List (Except FactoryError String)) (report : WarmupReport)
    (f : Factory σ) :
    ∃ filter, (rows.foldl warmRow (report, f)).2 = { f with filter := filter } ∧
      (∀ key, f.filter.contains key = true → filter.contains key = true) ∧
      ∀ text, .ok text ∈ rows → filter.contains text.toUTF8.toList = true := by
  induction rows generalizing report f with
  | nil =>
      exact ⟨f.filter, rfl, fun _ kept => kept, by simp⟩
  | cons row rest inductionHypothesis =>
      cases row with
      | error problem =>
          obtain ⟨filter, warmed, kept, loaded⟩ :=
            inductionHypothesis { report with skipped := report.skipped + 1 } f
          refine ⟨filter, warmed, kept, ?_⟩
          intro text member
          exact loaded text (by simpa using member)
      | ok line =>
          obtain ⟨filter, warmed, kept, loaded⟩ :=
            inductionHypothesis { report with loaded := report.loaded + 1 }
              { f with filter := f.filter.insert line.toUTF8.toList }
          have keptBefore : ∀ key, f.filter.contains key = true → filter.contains key = true :=
            fun key present => kept key (Filter.Bloom.contains_insert_of_contains _ _ _ present)
          refine ⟨filter, warmed, keptBefore, ?_⟩
          intro text member
          rcases List.mem_cons.mp member with same | later
          · cases same
            exact kept _ (Filter.Bloom.contains_insert_self _ _)
          · exact loaded text later

/-- A warm-up changes only the filter and keeps every key it held; one that reads its rows adds
every readable row. -/
theorem prepare_spec (f : Factory σ) (h : History) :
    ∃ filter, (f.prepare h).2 = { f with filter := filter } ∧
      (∀ key, f.filter.contains key = true → filter.contains key = true) ∧
      ∀ expected rows, h.count = .ok expected → expected ≠ 0 → h.rows = .ok rows →
        ∀ text, .ok text ∈ rows → filter.contains text.toUTF8.toList = true := by
  unfold prepare
  split
  · rename_i problem failed
    exact ⟨f.filter, rfl, fun _ kept => kept, fun _ _ counted => by simp [failed] at counted⟩
  · rename_i empty
    refine ⟨f.filter, rfl, fun _ kept => kept, ?_⟩
    intro expected _ counted nonzero
    simp only [empty, Except.ok.injEq] at counted
    exact absurd counted.symm nonzero
  · rename_i expected nonzero counted
    split
    · rename_i problem failed
      exact ⟨f.filter, rfl, fun _ kept => kept, fun _ _ _ _ read => by simp [failed] at read⟩
    · rename_i rows read
      obtain ⟨filter, warmed, kept, loaded⟩ := foldl_warmRow rows { expected := expected } f
      refine ⟨filter, warmed, kept, ?_⟩
      intro _ rows' _ _ read' text member
      simp only [read, Except.ok.injEq] at read'
      exact loaded text (read' ▸ member)

/-- Warming up from rows counts each as loaded or skipped, keeping the expected count and the
degraded flag. -/
theorem foldl_warmRow_report (rows : List (Except FactoryError String)) (report : WarmupReport)
    (f : Factory σ) :
    (rows.foldl warmRow (report, f)).1.expected = report.expected ∧
      (rows.foldl warmRow (report, f)).1.degraded = report.degraded ∧
      (rows.foldl warmRow (report, f)).1.loaded + (rows.foldl warmRow (report, f)).1.skipped =
        report.loaded + report.skipped + rows.length := by
  induction rows generalizing report f with
  | nil => simp
  | cons row rest inductionHypothesis =>
      cases row with
      | error problem =>
          obtain ⟨expected, degraded, tallied⟩ :=
            inductionHypothesis { report with skipped := report.skipped + 1 } f
          refine ⟨expected, degraded, ?_⟩
          simp only [List.foldl_cons, warmRow, List.length_cons] at tallied ⊢
          omega
      | ok line =>
          obtain ⟨expected, degraded, tallied⟩ :=
            inductionHypothesis { report with loaded := report.loaded + 1 }
              { f with filter := f.filter.insert line.toUTF8.toList }
          refine ⟨expected, degraded, ?_⟩
          simp only [List.foldl_cons, warmRow, List.length_cons] at tallied ⊢
          omega

/-- A history whose count is the number of its rows warms up without degrading, and every row
is loaded or skipped. -/
theorem prepare_report_of_count_eq_length (f : Factory σ) {h : History}
    {rows : List (Except FactoryError String)} (counted : h.count = .ok rows.length)
    (read : h.rows = .ok rows) :
    (f.prepare h).1.expected = rows.length ∧ (f.prepare h).1.degraded = false ∧
      (f.prepare h).1.loaded + (f.prepare h).1.skipped = rows.length := by
  unfold prepare
  rw [counted]
  split
  · rename_i problem failed
    cases failed
  · rename_i empty
    simp only [Except.ok.injEq] at empty
    simp [empty]
  · rename_i expected nonzero sameCount
    simp only [Except.ok.injEq] at sameCount
    rw [read]
    obtain ⟨kept, notDegraded, tallied⟩ := foldl_warmRow_report rows { expected := expected } f
    refine ⟨by rw [kept, sameCount], notDegraded, ?_⟩
    rw [tallied]
    simp

end Factory

end IdFactory
