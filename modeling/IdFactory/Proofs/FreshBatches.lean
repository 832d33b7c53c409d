import Mathlib.Data.List.Flatten
import Mathlib.Data.List.Perm.Basic
import Mathlib.Data.List.Perm.Subperm
import IdFactory.Factory.Concurrent
import IdFactory.Factory.Warmup
import IdFactory.Random.Scripted
import IdFactory.Filter.Murmur
import IdFactory.Proofs.DrawnShape
import IdFactory.Proofs.BatchConservation
import IdFactory.Proofs.FillStream

namespace IdFactory.Concurrent

open IdFactory.Random IdFactory.Filter List

/-!
# Every batch handed out is fresh

Over every run of a factory at work, started from the factory a configuration
builds and a warm-up prepares, whatever the interleaving of its steps:

* no identifier is handed out twice;
* each identifier handed out was accepted at a moment when the filter, the
  warmed one with every key given to it since, did not report it, so no
  identifier the warm-up loaded is ever handed out;
* every batch handed out has the batch size, and each of its identifiers has
  the configured length over the configured alphabet and is in the filter.

The argument is one invariant of every state of a run (`Sound`). The filter
is the warmed filter with the journal's keys added in order, and the filter
as it stood before each acceptance did not report the identifier accepted,
so no identifier is accepted twice. The identifiers handed out, in full
buckets and held by fills under way are, as a multiset, among those accepted
(`held <+~ acceptedIds journal`): a fill publishes what it accepted whole or
drops it, and `allocate` moves a bucket's batch out whole.
-/

/-! ## The journal -/

/-- The identifiers a journal records as accepted, in order. -/
def acceptedIds (journal : List FilterEvent) : List Identifier :=
  journal.filterMap FilterEvent.accepted?

@[simp]
theorem acceptedIds_append (earlier later : List FilterEvent) :
    acceptedIds (earlier ++ later) = acceptedIds earlier ++ acceptedIds later :=
  List.filterMap_append

@[simp]
theorem acceptedIds_added (key : List UInt8) : acceptedIds [.added key] = [] :=
  rfl

@[simp]
theorem acceptedIds_accepted (id : Identifier) : acceptedIds [.accepted id] = [id] :=
  rfl

theorem mem_acceptedIds {journal : List FilterEvent} {id : Identifier} :
    id ∈ acceptedIds journal ↔ .accepted id ∈ journal := by
  constructor
  · intro member
    obtain ⟨event, present, named⟩ := List.mem_filterMap.mp member
    cases event with
    | added key =>
        cases named
    | accepted other =>
        simp only [FilterEvent.accepted?, Option.some.injEq] at named
        exact named ▸ present
  · intro present
    exact List.mem_filterMap.mpr ⟨_, present, rfl⟩

/-- An identifier spelled from `config.idLength` symbols of the configured alphabet. -/
def Shaped (config : FactoryConfig) (id : Identifier) : Prop :=
  ∃ symbols, id = Identifier.ofSymbols symbols ∧ symbols.length = config.idLength ∧
    ∀ symbol ∈ symbols, symbol ∈ config.alphabet.symbols.toList

/-- The bytes of a shaped identifier are its symbols, since an alphabet's symbols are ASCII. -/
theorem Shaped.bytes
    {config : FactoryConfig}
    {id : Identifier}
    (shaped : Shaped config id) :
    id.bytes.length = config.idLength ∧
      ∀ byte ∈ id.bytes, byte ∈ config.alphabet.symbols.toList := by
  obtain ⟨symbols, rfl, length, fromAlphabet⟩ := shaped
  rw [Identifier.bytes_ofSymbols fun symbol member =>
    config.alphabet.ascii symbol (fromAlphabet symbol member)]
  exact ⟨length, fromAlphabet⟩

/--
What a filter and its journal keep along a run from the filter `origin`: the
filter is `origin` with the journal's keys added in order; the filter as it
stood before each acceptance did not report the identifier accepted; and
every identifier accepted was drawn from the configured alphabet.
-/
structure Recorded
    (origin : Bloom)
    (config : FactoryConfig)
    (filter : Bloom)
    (journal : List FilterEvent) : Prop where
  filter_eq : filter = origin.insertAll (journal.map FilterEvent.key)
  fresh : ∀ k id, journal[k]? = some (.accepted id) →
    (origin.insertAll ((journal.take k).map FilterEvent.key)).contains id.bytes = false
  nodup : (acceptedIds journal).Nodup
  shaped : ∀ id ∈ acceptedIds journal, Shaped config id

namespace Recorded

variable {origin filter : Bloom} {config : FactoryConfig} {journal : List FilterEvent}

theorem start (origin : Bloom) (config : FactoryConfig) : Recorded origin config origin [] where
  filter_eq := rfl
  fresh := by simp
  nodup := List.nodup_nil
  shaped := by simp [acceptedIds]

theorem contains_of_mem
    (recorded : Recorded origin config filter journal)
    {event : FilterEvent}
    (member : event ∈ journal) :
    filter.contains event.key = true := by
  rw [recorded.filter_eq]
  exact Bloom.contains_insertAll_of_mem origin (List.mem_map_of_mem member)

theorem contains_of_accepted
    (recorded : Recorded origin config filter journal)
    {id : Identifier}
    (accepted : id ∈ acceptedIds journal) :
    filter.contains id.bytes = true := by
  simpa only [FilterEvent.key] using recorded.contains_of_mem (mem_acceptedIds.mp accepted)

/-- Giving the filter one more key keeps the record, when an identifier it accepts is one the
filter did not report and one drawn from the alphabet. -/
theorem append
    (recorded : Recorded origin config filter journal)
    (event : FilterEvent)
    (accepted : ∀ id, event = .accepted id →
      filter.contains id.bytes = false ∧ Shaped config id) :
    Recorded origin config (filter.insert event.key) (journal ++ [event]) where
  filter_eq := by
    rw [recorded.filter_eq, List.map_append, Bloom.insertAll_append]
    simp only [List.map_cons, List.map_nil, Bloom.insertAll, List.foldl_cons, List.foldl_nil]
  fresh := by
    intro k id at_k
    rcases Nat.lt_or_ge k journal.length with before | after
    · -- an earlier acceptance: the prefix before it is unchanged
      rw [List.getElem?_append_left before] at at_k
      rw [List.take_append_of_le_length (Nat.le_of_lt before)]
      exact recorded.fresh k id at_k
    · -- the new event: the filter before it is the filter of the whole journal
      rw [List.getElem?_append_right after] at at_k
      have atEnd : k - journal.length = 0 := by
        by_contra past
        have beyond : [event].length ≤ k - journal.length := by
          simp only [List.length_singleton]
          omega
        simp [List.getElem?_eq_none beyond] at at_k
      rw [atEnd] at at_k
      simp only [List.getElem?_cons_zero, Option.some.injEq] at at_k
      have wholeJournal : (journal ++ [event]).take k = journal := by
        rw [List.take_append_of_le_length (by omega), List.take_of_length_le (by omega)]
      rw [wholeJournal, ← recorded.filter_eq]
      exact (accepted id at_k).1
  nodup := by
    rw [acceptedIds_append]
    refine List.nodup_append.mpr ⟨recorded.nodup, ?_, ?_⟩
    · cases event with
      | added key => exact List.nodup_nil
      | accepted id => simp [acceptedIds, FilterEvent.accepted?]
    · -- an identifier accepted before is reported, so it is not accepted again
      intro old oldMember new newMember same
      cases event with
      | added key =>
          simp [acceptedIds, FilterEvent.accepted?] at newMember
      | accepted id =>
          simp only [acceptedIds, List.filterMap_cons, FilterEvent.accepted?, List.filterMap_nil,
            List.mem_singleton] at newMember
          subst newMember same
          have reported := recorded.contains_of_accepted oldMember
          rw [(accepted old rfl).1] at reported
          cases reported
  shaped := by
    intro id member
    rw [acceptedIds_append, List.mem_append] at member
    rcases member with old | new
    · exact recorded.shaped id old
    · cases event with
      | added key =>
          simp [acceptedIds, FilterEvent.accepted?] at new
      | accepted other =>
          simp only [acceptedIds, List.filterMap_cons, FilterEvent.accepted?, List.filterMap_nil,
            List.mem_singleton] at new
          subst new
          exact (accepted id rfl).2

end Recorded

/-! ## What the fills hold -/

/-- The identifiers the fills under way have accepted. -/
def heldByFills (fills : List Fill) : List Identifier :=
  fills.flatMap fun fill => fill.progress.ids

theorem heldByFills_perm_eraseIdx
    {fills : List Fill}
    {i : Nat}
    {fill : Fill}
    (at_i : fills[i]? = some fill) :
    (heldByFills fills).Perm (fill.progress.ids ++ heldByFills (fills.eraseIdx i)) := by
  obtain ⟨inBounds, fillIs⟩ := List.getElem?_eq_some_iff.mp at_i
  have split := (List.getElem_cons_eraseIdx_perm inBounds).symm.flatMap_right
    fun fill : Fill => fill.progress.ids
  rw [fillIs, List.flatMap_cons] at split
  exact split

theorem heldByFills_set
    {fills : List Fill}
    {i : Nat}
    {fill : Fill}
    (at_i : fills[i]? = some fill)
    (new : Fill) :
    (heldByFills (fills.set i new)).Perm (new.progress.ids ++ heldByFills (fills.eraseIdx i)) := by
  obtain ⟨inBounds, -⟩ := List.getElem?_eq_some_iff.mp at_i
  have split := (List.set_perm_cons_eraseIdx inBounds new).flatMap_right
    fun fill : Fill => fill.progress.ids
  rw [List.flatMap_cons] at split
  exact split

theorem heldByFills_set_of_ids
    {fills : List Fill}
    {i : Nat}
    {fill : Fill}
    (at_i : fills[i]? = some fill)
    (new : Fill)
    (same : new.progress.ids = fill.progress.ids) :
    (heldByFills (fills.set i new)).Perm (heldByFills fills) := by
  have replaced := heldByFills_set at_i new
  rw [same] at replaced
  exact replaced.trans (heldByFills_perm_eraseIdx at_i).symm

theorem heldByFills_eraseIdx_sublist (fills : List Fill) (i : Nat) :
    (heldByFills (fills.eraseIdx i)).Sublist (heldByFills fills) :=
  (List.eraseIdx_sublist fills i).flatMap _

/-! ## The invariant -/

variable {σ : Type}

/-- Every identifier a state holds: handed out, in a full bucket, or accepted by a fill under
way. -/
def State.held (s : State σ) : List Identifier :=
  s.issued.flatten ++ s.factory.pool.batches.flatten ++ heldByFills s.fills

/--
What holds of every state of a run of a factory for `config` from the filter
`origin`: the configuration stays, every batch in the pool or handed out has
the batch size, the filter keeps its record, every identifier held was
accepted and no acceptance accounts for two, and every candidate drawn is
spelled over the alphabet.
-/
structure Sound (origin : Bloom) (config : FactoryConfig) (s : State σ) : Prop where
  config_eq : s.factory.config = config
  capacity_eq : s.factory.pool.capacity = config.bucketCapacity
  poolSized : Pool.Sized s.factory.pool
  issuedSized : ∀ batch ∈ s.issued, batch.length = config.bucketCapacity
  recorded : Recorded origin config s.factory.filter s.journal
  heldAccepted : s.held.Subperm (acceptedIds s.journal)
  candidatesShaped : ∀ fill ∈ s.fills, ∀ id, fill.candidate = some (.ok id) → Shaped config id

namespace Sound

variable {origin : Bloom} {config : FactoryConfig} {s : State σ}

theorem start
    {f : Factory σ}
    (configured : f.config = config)
    (capacity : f.pool.capacity = config.bucketCapacity)
    (empty : f.pool.batches = []) :
    Sound f.filter config (State.start f) where
  config_eq := configured
  capacity_eq := capacity
  poolSized := by simp [Pool.Sized, State.start, empty]
  issuedSized := by simp [State.start]
  recorded := Recorded.start f.filter config
  heldAccepted := by simp [State.held, State.start, empty, heldByFills, acceptedIds]
  candidatesShaped := by simp [State.start]

/--
A step that keeps the configuration, the pool's batches, the batches handed
out, the filter and its journal, and holds in its fills no more than before,
keeps a state sound when every candidate it leaves is shaped.
-/
theorem of_frame
    (sound : Sound origin config s)
    {s' : State σ}
    (configKept : s'.factory.config = s.factory.config)
    (capacityKept : s'.factory.pool.capacity = s.factory.pool.capacity)
    (batchesKept : s'.factory.pool.batches = s.factory.pool.batches)
    (issuedKept : s'.issued = s.issued)
    (filterKept : s'.factory.filter = s.factory.filter)
    (journalKept : s'.journal = s.journal)
    (fillsHold : (heldByFills s'.fills).Subperm (heldByFills s.fills))
    (candidates : ∀ fill ∈ s'.fills, ∀ id, fill.candidate = some (.ok id) →
      Shaped config id) :
    Sound origin config s' where
  config_eq := configKept.trans sound.config_eq
  capacity_eq := capacityKept.trans sound.capacity_eq
  poolSized := by
    intro batch member
    rw [batchesKept] at member
    rw [capacityKept]
    exact sound.poolSized batch member
  issuedSized := issuedKept ▸ sound.issuedSized
  recorded := filterKept ▸ journalKept ▸ sound.recorded
  heldAccepted := by
    have fewer : s'.held.Subperm s.held := by
      rw [State.held, State.held, issuedKept, batchesKept]
      exact (List.subperm_append_left _).mpr fillsHold
    rw [journalKept]
    exact fewer.trans sound.heldAccepted
  candidatesShaped := candidates

/-- No identifier is held twice: not in two batches handed out, two full buckets or two fills, nor
in two of these places. -/
theorem nodup_held (sound : Sound origin config s) : s.held.Nodup := by
  obtain ⟨accepted, perm, sub⟩ := sound.heldAccepted
  exact perm.nodup_iff.mp (sound.recorded.nodup.sublist sub)

/-- Replacing a fill keeps every candidate shaped when the new fill's candidate is. -/
theorem candidatesShaped_set
    (sound : Sound origin config s)
    (i : Nat)
    {new : Fill}
    (shaped : ∀ id, new.candidate = some (.ok id) → Shaped config id) :
    ∀ fill ∈ s.fills.set i new, ∀ id, fill.candidate = some (.ok id) →
      Shaped config id := by
  intro fill member id candidate
  rcases List.mem_or_eq_of_mem_set member with old | replaced
  · exact sound.candidatesShaped fill old id candidate
  · exact shaped id (replaced ▸ candidate)

theorem candidatesShaped_eraseIdx
    (sound : Sound origin config s)
    (i : Nat) :
    ∀ fill ∈ s.fills.eraseIdx i, ∀ id, fill.candidate = some (.ok id) → Shaped config id :=
  fun fill member => sound.candidatesShaped fill (List.mem_of_mem_eraseIdx member)

end Sound

/-! ## Step equations -/

namespace State

variable [RandomSource σ] {s : State σ} {i : Nat}

/-- A fill with no candidate and room for more draws one from the shared source. -/
theorem step_draw_of_drawn
    {fill : Fill}
    {d : Draw}
    {source : σ}
    (at_i : s.fills[i]? = some fill)
    (enabled : fill.candidate.isNone ∧ fill.progress.accepted < s.factory.config.fillPlan.capacity)
    (drawn : s.factory.config.fillPlan.alphabet.draw s.factory.config.fillPlan.length
      s.factory.source = (d, source)) :
    s.step (.draw i) =
      { s with factory := { s.factory with source := source },
               fills := s.fills.set i { fill with candidate := some d.outcome } } := by
  simp [State.step, at_i, enabled, drawn]

variable {bucket : Nat} {progress : FillProgress} {d : Except DrawFailure Identifier} {filter : Bloom}

/-- An offer after which the fill goes on: the filter is the one the candidate left, the fill
holds its new progress and no candidate, and the journal records whether the filter took it. -/
theorem step_offer_of_next
    {next : FillProgress}
    (at_i : s.fills[i]? = some ⟨bucket, progress, some d⟩)
    (goesOn : s.factory.config.fillPlan.absorb progress d s.factory.filter = (.next next, filter)) :
    s.step (.offer i) =
      { s with factory := { s.factory with filter := filter },
               fills := s.fills.set i ⟨bucket, next, none⟩,
               journal := s.journal ++ acceptance s.factory.filter d } := by
  simp [State.step, at_i, goesOn]

/-- An offer that ends the fill: its bucket is settled with the outcome and the fill leaves. -/
theorem step_offer_of_stop
    {outcome : FillOutcome}
    (at_i : s.fills[i]? = some ⟨bucket, progress, some d⟩)
    (stops : s.factory.config.fillPlan.absorb progress d s.factory.filter = (.stop outcome, filter)) :
    s.step (.offer i) =
      { s with factory := ({ s.factory with filter := filter } : Factory σ).settle bucket outcome,
               fills := s.fills.eraseIdx i,
               journal := s.journal ++ acceptance s.factory.filter d } := by
  simp [State.step, at_i, stops]

end State

/-! ## One step -/

namespace Sound

variable [RandomSource σ] {origin : Bloom} {config : FactoryConfig} {s : State σ}

theorem add
    (sound : Sound origin config s)
    (key : List UInt8) :
    Sound origin config (s.step (.add key)) where
  config_eq := sound.config_eq
  capacity_eq := sound.capacity_eq
  poolSized := sound.poolSized
  issuedSized := sound.issuedSized
  recorded := sound.recorded.append (.added key) fun _ added => by cases added
  heldAccepted := by
    simpa [State.step, State.held] using sound.heldAccepted
  candidatesShaped := sound.candidatesShaped

theorem claim
    (sound : Sound origin config s)
    (idx : Nat)
    (handedOver : Bool) :
    Sound origin config (s.step (.claim idx handedOver)) := by
  have batchesKept := Pool.batches_markBusy s.factory.pool idx
  have capacityKept := Pool.capacity_markBusy s.factory.pool idx
  rcases marked : s.factory.pool.markBusy idx with ⟨moved, pool⟩
  rw [marked] at batchesKept capacityKept
  cases moved with
  | false =>
      simpa [State.step, marked] using sound
  | true =>
      cases handedOver with
      | true =>
          -- a new fill starts, holding nothing and with nothing drawn
          have stepped : s.step (.claim idx true) =
              { s with factory := { s.factory with pool := pool },
                       fills := s.fills ++ [{ bucket := idx }] } := by
            simp [State.step, marked]
          have started : heldByFills (s.fills ++ [{ bucket := idx }]) = heldByFills s.fills := by
            simp [heldByFills]
          rw [stepped]
          refine sound.of_frame rfl capacityKept batchesKept rfl rfl rfl (by rw [started]) ?_
          intro fill member id candidate
          rcases List.mem_append.mp member with old | new
          · exact sound.candidatesShaped fill old id candidate
          · simp only [List.mem_singleton] at new
            simp [new] at candidate
      | false =>
          -- the hand-over failed: the bucket stays busy and no fill starts
          have stepped : s.step (.claim idx false) =
              { s with
                factory := { s.factory with
                  pool := pool
                  counters := { s.factory.counters with
                    fillsAborted := s.factory.counters.fillsAborted + 1 } } } := by
            simp [State.step, marked]
          rw [stepped]
          exact sound.of_frame rfl capacityKept batchesKept rfl rfl rfl (List.Subperm.refl _)
            sound.candidatesShaped

theorem draw
    (sound : Sound origin config s)
    (i : Nat) :
    Sound origin config (s.step (.draw i)) := by
  cases at_i : s.fills[i]? with
  | none =>
      simpa [State.step, at_i] using sound
  | some fill =>
      by_cases enabled :
          fill.candidate.isNone ∧ fill.progress.accepted < s.factory.config.fillPlan.capacity
      · rcases drawn : s.factory.config.fillPlan.alphabet.draw s.factory.config.fillPlan.length
            s.factory.source with ⟨d, source⟩
        rw [State.step_draw_of_drawn at_i enabled drawn]
        have sameHeld := heldByFills_set_of_ids at_i { fill with candidate := some d.outcome } rfl
        refine sound.of_frame rfl rfl rfl rfl rfl rfl sameHeld.subperm
          (sound.candidatesShaped_set i ?_)
        -- the fresh candidate is a draw over the configured alphabet
        intro id candidate
        simp only [Option.some.injEq] at candidate
        have shape := Alphabet.draw_shape (by rw [drawn]; exact candidate)
        simpa [Shaped, FactoryConfig.fillPlan, sound.config_eq] using shape
      · have stepped : s.step (.draw i) = s := by
          simp only [State.step, at_i, enabled, if_false]
        rw [stepped]
        exact sound

theorem acceptance_of_absent
    {filter : Bloom}
    {id : Identifier}
    (absent : filter.contains id.bytes = false) :
    State.acceptance filter (.ok id) = [.accepted id] := by
  simp [State.acceptance, Bloom.insertIfAbsent_fst, absent]

theorem acceptance_of_present
    {filter : Bloom}
    {d : Except DrawFailure Identifier}
    (present : ∀ id, d = .ok id → filter.contains id.bytes = true) :
    State.acceptance filter d = [] := by
  cases d with
  | error failure => rfl
  | ok id => simp [State.acceptance, Bloom.insertIfAbsent_fst, present id rfl]

/-- An offer the filter accepts: the filter takes the identifier's key, the journal records the
acceptance, and the fill holds one identifier more. -/
theorem offer_accepted
    (sound : Sound origin config s)
    {i bucket : Nat}
    {progress : FillProgress}
    {id : Identifier}
    (at_i : s.fills[i]? = some ⟨bucket, progress, some (.ok id)⟩)
    (absent : s.factory.filter.contains id.bytes = false)
    (absorbed : s.factory.config.fillPlan.absorb progress (.ok id) s.factory.filter =
      (.next { progress with ids := id :: progress.ids, accepted := progress.accepted + 1,
                             streak := 0 }, s.factory.filter.insert id.bytes)) :
    Sound origin config (s.step (.offer i)) := by
  let grownProgress : FillProgress :=
    { progress with ids := id :: progress.ids, accepted := progress.accepted + 1, streak := 0 }
  let grown : Fill := ⟨bucket, grownProgress, none⟩
  rw [State.step_offer_of_next at_i absorbed, acceptance_of_absent absent]
  have shaped := sound.candidatesShaped _ (List.mem_of_getElem? at_i) id rfl
  have moreHeld : (heldByFills (s.fills.set i grown)).Perm (id :: heldByFills s.fills) :=
    (heldByFills_set at_i grown).trans ((heldByFills_perm_eraseIdx at_i).symm.cons id)
  have heldNow : (s.issued.flatten ++ s.factory.pool.batches.flatten ++
      heldByFills (s.fills.set i grown)).Perm (s.held ++ [id]) :=
    calc _ ~ s.issued.flatten ++ s.factory.pool.batches.flatten ++ id :: heldByFills s.fills :=
          moreHeld.append_left _
      _ ~ id :: s.held := perm_middle
      _ ~ s.held ++ [id] := (perm_append_singleton id s.held).symm
  exact {
    config_eq := sound.config_eq
    capacity_eq := sound.capacity_eq
    poolSized := sound.poolSized
    issuedSized := sound.issuedSized
    recorded := sound.recorded.append (.accepted id) fun _ same => by
      cases same
      exact ⟨absent, shaped⟩
    heldAccepted := by
      rw [acceptedIds_append, acceptedIds_accepted]
      exact heldNow.subperm.trans (sound.heldAccepted.append (Subperm.refl [id]))
    candidatesShaped := sound.candidatesShaped_set i fun _ candidate => by cases candidate }

theorem offer
    (sound : Sound origin config s)
    (i : Nat) :
    Sound origin config (s.step (.offer i)) := by
  rcases at_i : s.fills[i]? with _ | ⟨bucket, progress, _ | d⟩
  · have stepped : s.step (.offer i) = s := by
      simp [State.step, at_i]
    rw [stepped]
    exact sound
  · have stepped : s.step (.offer i) = s := by
      simp [State.step, at_i]
    rw [stepped]
    exact sound
  · rcases FillPlan.absorb_cases s.factory.config.fillPlan progress d s.factory.filter with
      ⟨id, rfl, absent, absorbed⟩ |
        ⟨present, filterKept, ⟨next, went, sameIds⟩ | ⟨outcome, stopped, aborted⟩⟩
    · exact sound.offer_accepted at_i absent absorbed
    · -- a rejected or failed draw: the fill goes on holding what it held
      have absorbed : s.factory.config.fillPlan.absorb progress d s.factory.filter =
          (.next next, s.factory.filter) := Prod.ext went filterKept
      rw [State.step_offer_of_next at_i absorbed, acceptance_of_present present]
      have sameHeld := heldByFills_set_of_ids at_i ⟨bucket, next, none⟩ sameIds
      exact sound.of_frame rfl rfl rfl rfl rfl (List.append_nil _) sameHeld.subperm
        (sound.candidatesShaped_set i fun _ candidate => by cases candidate)
    · -- the fill gives up or crashes: it ends, dropping what it held, and its bucket stays busy
      have absorbed : s.factory.config.fillPlan.absorb progress d s.factory.filter =
          (.stop outcome, s.factory.filter) := Prod.ext stopped filterKept
      let kept : Factory σ := { s.factory with filter := s.factory.filter }
      rw [State.step_offer_of_stop at_i absorbed, acceptance_of_present present]
      have poolKept := Factory.pool_settle_of_aborted kept bucket aborted
      exact sound.of_frame (by simp) (by rw [poolKept]) (by rw [poolKept]) rfl
        (by simp) (List.append_nil _) (heldByFills_eraseIdx_sublist s.fills i).subperm
        (sound.candidatesShaped_eraseIdx i)

theorem publish
    (sound : Sound origin config s)
    (i : Nat) :
    Sound origin config (s.step (.publish i)) := by
  cases at_i : s.fills[i]? with
  | none =>
      have stepped : s.step (.publish i) = s := by
        simp [State.step, at_i]
      rw [stepped]
      exact sound
  | some fill =>
      by_cases enabled :
          fill.candidate.isNone ∧ s.factory.config.fillPlan.capacity ≤ fill.progress.accepted
      · let batch := fill.progress.ids.reverse
        have stepped : s.step (.publish i) =
            { s with factory := s.factory.settle fill.bucket
                       (.filled batch fill.progress.rejected fill.progress.failedDraws),
                     fills := s.fills.eraseIdx i } := by
          simp only [State.step, at_i, batch]
          exact if_pos enabled
        rw [stepped]
        have spec := Pool.markFull_spec s.factory.pool fill.bucket batch
        have capacityKept := Pool.capacity_markFull s.factory.pool fill.bucket batch
        have rest := heldByFills_perm_eraseIdx at_i
        cases delivered : (s.factory.pool.markFull fill.bucket batch).1 with
        | false =>
            -- the bucket refused the batch: the fill's identifiers are dropped
            simp only [delivered, Bool.false_eq_true, if_false] at spec
            exact sound.of_frame (by simp) (by simp [Factory.pool_settle_filled, spec])
              (by simp [Factory.pool_settle_filled, spec]) rfl (by simp) rfl
              (heldByFills_eraseIdx_sublist s.fills i).subperm (sound.candidatesShaped_eraseIdx i)
        | true =>
            -- the bucket takes the batch: the fill's identifiers move to the pool
            simp only [delivered, if_true] at spec
            obtain ⟨batchesNow, sized⟩ := spec
            have heldNow : (s.issued.flatten ++
                (s.factory.pool.markFull fill.bucket batch).2.batches.flatten ++
                  heldByFills (s.fills.eraseIdx i)).Perm s.held :=
              calc _ ~ s.issued.flatten ++ (batch ++ s.factory.pool.batches.flatten) ++
                    heldByFills (s.fills.eraseIdx i) :=
                  (batchesNow.flatten.append_left _).append_right _
                _ ~ s.issued.flatten ++ (fill.progress.ids ++ s.factory.pool.batches.flatten) ++
                    heldByFills (s.fills.eraseIdx i) :=
                  (((reverse_perm _).append_right _).append_left _).append_right _
                _ ~ s.issued.flatten ++ s.factory.pool.batches.flatten ++
                    (fill.progress.ids ++ heldByFills (s.fills.eraseIdx i)) := by
                  simp only [List.append_assoc]
                  exact (perm_append_comm_assoc _ _ _).append_left _
                _ ~ s.held := rest.symm.append_left _
            exact {
              config_eq := by simpa using sound.config_eq
              capacity_eq := by
                rw [Factory.pool_settle_filled, capacityKept]
                exact sound.capacity_eq
              poolSized := by
                intro ids member
                rw [Factory.pool_settle_filled, capacityKept]
                rcases List.mem_cons.mp (batchesNow.subset member) with isNew | isOld
                · rw [isNew]
                  exact sized
                · exact sound.poolSized ids isOld
              issuedSized := sound.issuedSized
              recorded := by simpa using sound.recorded
              heldAccepted := by
                rw [State.held, Factory.pool_settle_filled]
                exact heldNow.subperm.trans sound.heldAccepted
              candidatesShaped := sound.candidatesShaped_eraseIdx i }
      · have stepped : s.step (.publish i) = s := by
          simp only [State.step, at_i, enabled, if_false]
        rw [stepped]
        exact sound

theorem allocate
    (sound : Sound origin config s) :
    Sound origin config (s.step .allocate) := by
  have popped := Pool.pop_spec s.factory.pool
  have capacityKept := Pool.capacity_pop s.factory.pool
  rcases allocated : s.factory.allocate with ⟨answer, f⟩
  have poolIs : f.pool = s.factory.pool.pop.2 := by
    rw [← Factory.pool_allocate, allocated]
  have configIs : f.config = s.factory.config := by
    rw [← Factory.config_allocate s.factory, allocated]
  have filterIs : f.filter = s.factory.filter := by
    rw [← Factory.filter_allocate s.factory, allocated]
  cases answer with
  | ok ids =>
      -- a batch moves out of the pool whole, onto the batches handed out
      have took : s.factory.pool.pop.1 = some ids :=
        (Factory.allocate_fst_eq_ok s.factory ids).mp (by rw [allocated])
      rw [took] at popped
      have stepped : s.step .allocate = { s with factory := f, issued := s.issued ++ [ids] } := by
        simp [State.step, allocated]
      rw [stepped]
      have wasFull : ∀ batch ∈ f.pool.batches, batch ∈ s.factory.pool.batches := by
        intro batch member
        rw [poolIs] at member
        rw [← popped]
        exact List.mem_append_right _ member
      have idsSized : ids.length = config.bucketCapacity := by
        rw [← sound.capacity_eq]
        exact sound.poolSized ids (by rw [← popped]; exact List.mem_cons_self)
      exact {
        config_eq := configIs.trans sound.config_eq
        capacity_eq := by
          rw [poolIs, capacityKept]
          exact sound.capacity_eq
        poolSized := by
          intro batch member
          rw [poolIs, capacityKept]
          exact sound.poolSized batch (wasFull batch member)
        issuedSized := by
          intro batch member
          rcases List.mem_append.mp member with old | new
          · exact sound.issuedSized batch old
          · rw [List.mem_singleton.mp new]
            exact idsSized
        recorded := filterIs ▸ sound.recorded
        heldAccepted := by
          have heldSame :
              (State.held { s with factory := f, issued := s.issued ++ [ids] }) = s.held := by
            simp [State.held, poolIs, ← popped]
          rw [heldSame]
          exact sound.heldAccepted
        candidatesShaped := sound.candidatesShaped }
  | error problem =>
      -- no bucket was full, and the pool is as it was
      have none : s.factory.pool.pop.1 = none := by
        cases took : s.factory.pool.pop.1 with
        | none => rfl
        | some ids =>
            have handedOut := (Factory.allocate_fst_eq_ok s.factory ids).mpr took
            rw [allocated] at handedOut
            cases handedOut
      rw [none] at popped
      have stepped : s.step .allocate = { s with factory := f } := by
        simp [State.step, allocated]
      rw [stepped]
      refine sound.of_frame configIs (by rw [poolIs, capacityKept]) ?_ rfl filterIs rfl
        (List.Subperm.refl _) sound.candidatesShaped
      rw [poolIs, ← popped]
      rfl

theorem step
    (sound : Sound origin config s)
    (event : Event) :
    Sound origin config (s.step event) := by
  cases event with
  | add key => exact sound.add key
  | claim idx handedOver => exact sound.claim idx handedOver
  | draw i => exact sound.draw i
  | offer i => exact sound.offer i
  | publish i => exact sound.publish i
  | allocate => exact sound.allocate

theorem run
    (sound : Sound origin config s)
    (events : List Event) :
    Sound origin config (s.run events) := by
  induction events generalizing s with
  | nil =>
      exact sound
  | cons event rest inductionHypothesis =>
      exact inductionHypothesis (sound.step event)

end Sound

/-! ## Runs of a factory -/

variable [RandomSource σ]

/--
Over every run of a factory at work, from the factory any configuration
builds over any hash (as `Factory.create` does when the configuration passes
its checks), warmed from any history, and under any interleaving of filter
additions, claims, draws, offers, publications, aborted fills and
allocations: no identifier is handed out twice; the filter is the warmed
filter with the journal's keys added in order, and every identifier handed
out was accepted at a point of the journal where that filter, as it stood
then, did not report it, so none that the warm-up loaded is handed out; and
every batch handed out has the batch size, each identifier in it having the
configured length over the configured alphabet and being in the filter.
-/
theorem run_issues_fresh_batches
    (hash : List UInt8 → Lanes)
    (config : FactoryConfig)
    (source : σ)
    (history : History)
    (events : List Event) :
    let warmed := ((Factory.build hash config source).prepare history).2
    let s := (State.start warmed).run events
    s.issued.flatten.Nodup ∧
      s.factory.filter = warmed.filter.insertAll (s.journal.map FilterEvent.key) ∧
      (∀ id ∈ s.issued.flatten, ∃ k, s.journal[k]? = some (.accepted id) ∧
        (warmed.filter.insertAll ((s.journal.take k).map FilterEvent.key)).contains id.bytes =
          false) ∧
      (∀ expected rows, history.count = .ok expected → expected ≠ 0 → history.rows = .ok rows →
        ∀ id ∈ s.issued.flatten, .ok id.text ∉ rows) ∧
      ∀ batch ∈ s.issued, batch.length = config.bucketCapacity ∧
        ∀ id ∈ batch, id.bytes.length = config.idLength ∧
          (∀ byte ∈ id.bytes, byte ∈ config.alphabet.symbols.toList) ∧
          s.factory.filter.contains id.bytes = true := by
  intro warmed s
  obtain ⟨filter, warmedIs, -, loaded⟩ := (Factory.build hash config source).prepare_spec history
  have sound : Sound warmed.filter config s := by
    refine (Sound.start ?_ ?_ ?_).run events
    · simp [warmed, warmedIs, Factory.build]
    · simp [warmed, warmedIs, Factory.build, Pool.new]
    · simp [warmed, warmedIs, Factory.build]
  have recorded := sound.recorded
  have handedOut : ∀ id ∈ s.issued.flatten, id ∈ acceptedIds s.journal := fun id member =>
    sound.heldAccepted.subset (List.mem_append_left _ (List.mem_append_left _ member))
  have acceptedFresh : ∀ id ∈ s.issued.flatten, ∃ k, s.journal[k]? = some (.accepted id) ∧
      (warmed.filter.insertAll ((s.journal.take k).map FilterEvent.key)).contains id.bytes =
        false := by
    intro id member
    obtain ⟨k, at_k⟩ := List.mem_iff_getElem?.mp (mem_acceptedIds.mp (handedOut id member))
    exact ⟨k, at_k, recorded.fresh k id at_k⟩
  refine ⟨?_, recorded.filter_eq, acceptedFresh, ?_, ?_⟩
  · -- the batches handed out are the first part of what the state holds
    have issuedFirst : s.issued.flatten.Sublist s.held :=
      (List.sublist_append_left _ _).trans (List.sublist_append_left _ _)
    exact sound.nodup_held.sublist issuedFirst
  · -- a loaded row is in the warmed filter, so it is reported whenever it is offered
    intro expected rows counted nonzero read id member loadedRow
    obtain ⟨k, -, fresh⟩ := acceptedFresh id member
    have warmedFilter : warmed.filter = filter := by
      simp [warmed, warmedIs]
    have warmedHolds : warmed.filter.contains id.bytes = true := by
      rw [warmedFilter, Identifier.bytes]
      exact loaded expected rows counted nonzero read id.text loadedRow
    rw [Bloom.contains_insertAll_of_contains _ _ warmedHolds] at fresh
    cases fresh
  · intro batch member
    refine ⟨sound.issuedSized batch member, ?_⟩
    intro id inBatch
    have accepted := handedOut id (List.mem_flatten.mpr ⟨batch, member, inBatch⟩)
    obtain ⟨length, symbols⟩ := (recorded.shaped id accepted).bytes
    exact ⟨length, symbols, recorded.contains_of_accepted accepted⟩

/-- Batches of one identifier, the default alphabet and length, no history and the program's hash
and source: a fill claims bucket 0, draws `JbrVTCu` from the first ten random bytes, has it
accepted by the empty filter and publishes it, and the allocation hands out that batch. -/
theorem run_issues_fresh_batches_standard :
    let config : FactoryConfig := { bucketCapacity := 1 }
    let history := History.ofList []
    let warmed := ((Factory.build keyHash config ScriptedSource.standard).prepare history).2
    let s := (State.start warmed).run
      [.claim 0 true, .draw 0, .offer 0, .add [104, 105], .claim 1 false, .publish 0, .allocate]
    s.issued.map (List.map Identifier.text) = [["JbrVTCu"]] ∧
      s.issued.flatten.Nodup ∧
      s.factory.filter = warmed.filter.insertAll (s.journal.map FilterEvent.key) ∧
      (∀ id ∈ s.issued.flatten, ∃ k, s.journal[k]? = some (.accepted id) ∧
        (warmed.filter.insertAll ((s.journal.take k).map FilterEvent.key)).contains id.bytes =
          false) ∧
      (∀ expected rows, history.count = .ok expected → expected ≠ 0 → history.rows = .ok rows →
        ∀ id ∈ s.issued.flatten, .ok id.text ∉ rows) ∧
      ∀ batch ∈ s.issued, batch.length = config.bucketCapacity ∧
        ∀ id ∈ batch, id.bytes.length = config.idLength ∧
          (∀ byte ∈ id.bytes, byte ∈ config.alphabet.symbols.toList) ∧
          s.factory.filter.contains id.bytes = true := by
  intro config history warmed s
  refine ⟨?_, run_issues_fresh_batches keyHash config ScriptedSource.standard history
    [.claim 0 true, .draw 0, .offer 0, .add [104, 105], .claim 1 false, .publish 0, .allocate]⟩
  -- every byte of the first request indexes one of the 64 symbols, so one request spells the draw
  have answered : ∀ k (h : k < [[(175 : UInt8), 205, 29, 123, 57, 168, 32, 226, 244, 101]].length),
      RandomSource.answer (bufferSize 7) k ScriptedSource.standard =
        .ok [[(175 : UInt8), 205, 29, 123, 57, 168, 32, 226, 244, 101]][k] := by
    intro k inBuffers
    obtain rfl : k = 0 := Nat.lt_one_iff.mp inBuffers
    rfl
  have drawn := Alphabet.draw?_of_enough Alphabet.standard 7 _ _ answered (by decide +kernel)
    (by decide +kernel)
  have spelled : ([[(175 : UInt8), 205, 29, 123, 57, 168, 32, 226, 244, 101]].flatMap
      Alphabet.standard.symbolsOf).take 7 = [74, 98, 114, 86, 84, 67, 117] := by
    decide +kernel
  rw [spelled] at drawn
  let id := Identifier.ofSymbols [74, 98, 114, 86, 84, 67, 117]
  have drawnStandard : Alphabet.standard.draw 7 ScriptedSource.standard =
      (⟨.ok id, 1⟩, RandomSource.after 10 1 ScriptedSource.standard) := by
    rw [Alphabet.draw, drawn]
    rfl
  -- the claim starts a fill of bucket 0
  let claimed := (State.start warmed).step (.claim 0 true)
  have claimedIs : claimed =
      { factory := { warmed with pool := (warmed.pool.markBusy 0).2 }, fills := [{ bucket := 0 }] } := by
    simp only [claimed, State.step, warmed, Factory.prepare, State.start]
    rfl
  have idle : claimed.fills[0]? = some { bucket := 0 } := by
    rw [claimedIs]
    rfl
  have drawnClaimed : claimed.factory.config.fillPlan.alphabet.draw
      claimed.factory.config.fillPlan.length claimed.factory.source =
        (⟨.ok id, 1⟩, RandomSource.after 10 1 ScriptedSource.standard) := by
    rw [claimedIs]
    exact drawnStandard
  have drawStep := State.step_draw_of_drawn idle (by rw [claimedIs]; decide) drawnClaimed
  -- the filter is the empty one built, whatever its size, so it takes the candidate
  have candidate : (claimed.step (.draw 0)).fills[0]? = some ⟨0, {}, some (.ok id)⟩ := by
    rw [drawStep, claimedIs]
    rfl
  have absent : (claimed.step (.draw 0)).factory.filter.contains id.bytes = false := by
    rw [drawStep, claimedIs]
    exact Bloom.contains_withParams _ _ _
  have accepted : (claimed.step (.draw 0)).factory.config.fillPlan.absorb {} (.ok id)
      (claimed.step (.draw 0)).factory.filter =
        (.next { ids := [id], accepted := 1 },
          (claimed.step (.draw 0)).factory.filter.insert id.bytes) := by
    simp [FillPlan.absorb, Bloom.insertIfAbsent, absent]
  simp only [s, State.run, List.foldl_cons, List.foldl_nil]
  rw [State.step_offer_of_next candidate accepted, drawStep, claimedIs]
  -- the rest of the run reads no filter: it publishes the batch and hands it out
  decide +kernel

end IdFactory.Concurrent
