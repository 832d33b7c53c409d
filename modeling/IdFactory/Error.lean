namespace IdFactory

/-!
# Factory errors

The failures the factory reports. Only pool exhaustion reaches a caller
of `allocate`; the others are absorbed by the fill loop, logged during
warm-up, or raised when a configuration is checked. Each has one message.
-/

/-- A failure of the identifier factory. -/
inductive FactoryError where
  /-- The history of issued identifiers could not be read. -/
  | warmupQuery (reason : String)
  /-- The random source failed. -/
  | generation (reason : String)
  /-- No bucket is ready. -/
  | poolExhausted
  /-- A fill met too many identifiers already issued in a row. -/
  | keyspaceExhausted (bucket : Nat) (attempts : Nat)
  /-- A configuration was refused. -/
  | invalidConfig (reason : String)
  /-- A fill worker could not be reached. -/
  | channel (context : String)
  /-- A remote bucket source failed. -/
  | transport (reason : String)
  deriving Repr, DecidableEq

/-- The message of a factory error. -/
def FactoryError.message : FactoryError → String
  | .warmupQuery reason => "warm-up query failed: " ++ reason
  | .generation reason => "identifier generation failed: " ++ reason
  | .poolExhausted => "identifier pool exhausted"
  | .keyspaceExhausted bucket attempts =>
    "bucket " ++ toString bucket ++ ": keyspace exhausted after " ++ toString attempts ++
      " consecutive rejections"
  | .invalidConfig reason => "invalid configuration: " ++ reason
  | .channel context => "channel error: " ++ context
  | .transport reason => "remote source failed: " ++ reason

/-- The name of an error's kind: its constructor's name, capitalised, with channel failures
named as channel errors. -/
def FactoryError.kindName : FactoryError → String
  | .warmupQuery _ => "WarmupQuery"
  | .generation _ => "Generation"
  | .poolExhausted => "PoolExhausted"
  | .keyspaceExhausted _ _ => "KeyspaceExhausted"
  | .invalidConfig _ => "InvalidConfig"
  | .channel _ => "ChannelError"
  | .transport _ => "Transport"

end IdFactory
