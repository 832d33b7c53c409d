import IdFactory.Factory.Warmup
import IdFactory.Random.Scripted
import IdFactory.Filter.Murmur

namespace IdFactory

open IdFactory.Filter

/-!
# What a warm-up does with each answer of a history

A warm-up asks the history for its count first. A failed count, or a count
of zero, ends it at once: the rows are never read, so the outcome is the
same whatever they would have been. A failed read of the rows ends it too.
In these cases the factory is left as it was, and the report is degraded
exactly when a query failed. Otherwise every readable row is added to the
filter, in the order of the rows, and the report counts the readable rows
as loaded and the unreadable ones as skipped.
-/

namespace Factory

variable {σ : Type}

/-- Warming up from rows adds the readable rows to the filter in order, counts them as loaded
and counts the others as skipped, and changes nothing else. -/
theorem foldl_warmRow_eq
    (rows : List (Except FactoryError String))
    (report : WarmupReport)
    (f : Factory σ) :
    rows.foldl warmRow (report, f) =
      ({ report with loaded := report.loaded + rows.countP Except.isOk,
                     skipped := report.skipped + rows.countP fun row => !row.isOk },
       { f with filter :=
                  f.filter.insertAll ((rows.filterMap Except.toOption).map fun text => text.toUTF8.toList) }) := by
  induction rows generalizing report f with
  | nil =>
      simp [Bloom.insertAll]
  | cons row rest inductionHypothesis =>
      cases row with
      | error problem =>
          simp only [List.foldl_cons, warmRow, inductionHypothesis, List.countP_cons,
            List.filterMap_cons]
          simp [Except.toOption, Except.isOk, Except.toBool]
          omega
      | ok text =>
          simp only [List.foldl_cons, warmRow, inductionHypothesis, List.countP_cons,
            List.filterMap_cons]
          simp [Except.toOption, Except.isOk, Except.toBool, Bloom.insertAll]
          omega

/--
A warm-up whose count fails reports only that it is degraded, and one
whose count is zero reports nothing, both without reading the rows; one
whose rows cannot be read reports the count and that it is degraded. In
these cases the factory is unchanged. Otherwise the report gives the count,
the readable rows as loaded and the unreadable ones as skipped, and the
filter is the one before with every readable row added in order, so that it
reports each of them.
-/
theorem prepare_reports_history
    (f : Factory σ) :
    (∀ problem rows, f.prepare ⟨.error problem, rows⟩ =
        ({ expected := 0, loaded := 0, skipped := 0, degraded := true }, f)) ∧
      (∀ rows, f.prepare ⟨.ok 0, rows⟩ = ({}, f)) ∧
      (∀ expected problem, expected ≠ 0 →
        f.prepare ⟨.ok expected, .error problem⟩ =
          ({ expected := expected, loaded := 0, skipped := 0, degraded := true }, f)) ∧
      ∀ expected rows, expected ≠ 0 →
        let warmed :=
          f.filter.insertAll ((rows.filterMap Except.toOption).map fun text => text.toUTF8.toList)
        f.prepare ⟨.ok expected, .ok rows⟩ =
            ({ expected := expected, loaded := rows.countP Except.isOk,
               skipped := rows.countP (fun row => !row.isOk), degraded := false },
             { f with filter := warmed }) ∧
          ∀ text, .ok text ∈ rows → warmed.contains text.toUTF8.toList = true := by
  refine ⟨fun problem rows => rfl, fun rows => rfl, ?_, ?_⟩
  · intro expected problem nonzero
    simp [prepare]
  · intro expected rows nonzero warmed
    constructor
    · simp only [prepare, foldl_warmRow_eq]
      simp [warmed]
    · -- every readable row is among the keys added
      intro text member
      apply Bloom.contains_insertAll_of_mem
      exact List.mem_map.mpr ⟨text, List.mem_filterMap.mpr ⟨.ok text, member, rfl⟩, rfl⟩

/-- A history that counts two rows, one of them unreadable, warms the program's default factory
with one identifier loaded and one row skipped. -/
theorem prepare_reports_history_unreadableRow :
    let f := Factory.build keyHash ({} : FactoryConfig) Random.ScriptedSource.standard
    let rows : List (Except FactoryError String) := [.ok "abcdefg", .error (.warmupQuery "bad row")]
    2 ≠ 0 ∧
      (f.prepare ⟨.ok 2, .ok rows⟩).1 = { expected := 2, loaded := 1, skipped := 1, degraded := false } := by
  intro f rows
  have warmed := ((prepare_reports_history f).2.2.2 2 rows (by decide)).1
  refine ⟨by decide, ?_⟩
  rw [warmed]
  rfl

end Factory

end IdFactory
