import IdFactory.Symbol.Alphabet
import IdFactory.Filter.Sizing
import IdFactory.Decimal.Layout
import IdFactory.Error

namespace IdFactory

open IdFactory.Filter

/-!
# Factory configuration

A factory is configured by the length and alphabet of its identifiers, the
shape of its pool, the sizing of its membership filter, the refill period,
the number of fill workers and how many consecutive rejections a fill may
meet before it gives up (`none`: no limit).

`FactoryConfig.check` accepts a configuration exactly when, in this order,
no count is zero, the error rate lies strictly between 0 and 1, the filter
fits in memory, the period is positive, the rejection limit (if any) is
positive, and the identifiers outnumber both the pooled identifiers and the
filter's capacity. The first failing condition is the answer.
-/

/-- The settings of an identifier factory. -/
structure FactoryConfig where
  idLength : Nat := 7
  bucketCount : Nat := 16
  bucketCapacity : Nat := 1000
  filterCapacity : Nat := 10000000
  filterErrorRate : Float := 0.001
  /-- The refill period in milliseconds. -/
  refillIntervalMs : Nat := 1000
  fillWorkers : Nat := 1
  maxConsecutiveRejections : Option Nat := some 10000
  alphabet : Alphabet := Alphabet.standard

/-- The largest filter, in bits, that a factory accepts: an eighth of the address space. -/
def maxFilterBits : Nat := Nat.pow 2 61 - 1

/-- Why a configuration is refused. -/
inductive ConfigProblem where
  | zeroCount (field : String)
  | rateOutOfRange (rate : Float)
  | filterTooLarge (capacity : Nat) (rate : Float)
  | zeroInterval
  | zeroRejectionLimit
  | keyspaceTooSmall (symbols length keyspace required : Nat)

/-- The message of a configuration problem; rates are written positionally. -/
def ConfigProblem.message : ConfigProblem → String
  | .zeroCount field => field ++ " must be greater than 0"
  | .rateOutOfRange rate =>
    "filter_error_rate must be in (0, 1), got " ++ Decimal.Layout.plain.render rate
  | .filterTooLarge capacity rate =>
    "a filter for " ++ toString capacity ++ " identifiers at rate " ++
      Decimal.Layout.plain.render rate ++ " does not fit in memory"
  | .zeroInterval => "refill_interval must be non-zero"
  | .zeroRejectionLimit => "max_consecutive_rejections must be greater than 0"
  | .keyspaceTooSmall symbols length keyspace required =>
    toString symbols ++ " symbols of length " ++ toString length ++ " give only " ++
      toString keyspace ++ " identifiers, need more than " ++ toString required

/-- The configuration failure as a factory error. -/
def ConfigProblem.toError (p : ConfigProblem) : FactoryError :=
  .invalidConfig p.message

namespace FactoryConfig

/-- The counts that must be positive, in the order they are checked. -/
def counts (c : FactoryConfig) : List (String × Nat) :=
  [("id_length", c.idLength), ("bucket_count", c.bucketCount),
   ("bucket_capacity", c.bucketCapacity), ("filter_capacity", c.filterCapacity),
   ("fill_workers", c.fillWorkers)]

/-- The identifiers the pool holds when every bucket is full, saturating at `2^128 - 1`. -/
def pooled (c : FactoryConfig) : Nat :=
  min (c.bucketCount * c.bucketCapacity) Alphabet.countCap

/-- The number of identifiers the keyspace must exceed. -/
def required (c : FactoryConfig) : Nat :=
  max c.pooled c.filterCapacity

/-- The parameters of the factory's filter. -/
def filterParams (c : FactoryConfig) : FilterParams :=
  FilterParams.optimal c.filterCapacity c.filterErrorRate

/-- The checks of the settings, made before the keyspace's: the first condition they fail, in
order, or none. -/
def checkSettings (c : FactoryConfig) : Except ConfigProblem Unit :=
  match c.counts.find? (fun (_, v) => v == 0) with
  | some (field, _) => .error (.zeroCount field)
  | none =>
    if !(0.0 < c.filterErrorRate && c.filterErrorRate < 1.0) then
      .error (.rateOutOfRange c.filterErrorRate)
    else if maxFilterBits < c.filterParams.sizeBits then
      .error (.filterTooLarge c.filterCapacity c.filterErrorRate)
    else if c.refillIntervalMs = 0 then .error .zeroInterval
    else if c.maxConsecutiveRejections = some 0 then .error .zeroRejectionLimit
    else .ok ()

/-- The last check: the identifiers of the configured length, counted with saturation, outnumber
the identifiers the factory must tell apart. -/
def checkKeyspace (c : FactoryConfig) : Except ConfigProblem Unit :=
  let keyspace := c.alphabet.keyspace c.idLength
  if keyspace ≤ c.required then
    .error (.keyspaceTooSmall c.alphabet.size c.idLength keyspace c.required)
  else .ok ()

/-- Check a configuration: the first condition it fails, in order, or none. -/
def check (c : FactoryConfig) : Except ConfigProblem Unit := do
  c.checkSettings
  c.checkKeyspace

/-- Check a configuration, reporting a failure as a factory error. -/
def validate (c : FactoryConfig) : Except FactoryError Unit :=
  c.check.mapError ConfigProblem.toError

end FactoryConfig

end IdFactory
