import IdFactory.Server.Cli.Parse
import IdFactory.Factory.Config
import IdFactory.Text.Blank

namespace IdFactory.Server

open Cli

/-!
# Server configuration

The options read from the command line and the environment, and the
configuration of the server built from them: where it listens, whether on
a Unix socket, which history file warms its filter, and the factory's
settings. The options are checked in this order: a positive refill period,
a positive number of fill workers if one is given, a listening address
that is not blank, the alphabet if one is given, and then the factory
settings as a whole. A rejection limit of zero means no limit, and without
a number of fill workers the machine's number of processors is used.
-/

/-- The options of the server. -/
structure CliArgs where
  idLength : Nat
  alphabet : Option String
  bucketCount : Nat
  bucketCapacity : Nat
  filterCapacity : Nat
  filterErrorRate : Float
  refillIntervalMs : Nat
  fillWorkers : Option Nat
  maxRejections : Nat
  historyFile : Option String
  serverAddr : String
  uds : Bool

namespace CliArgs

/-- The options from the values read, with the defaults for those not given. -/
def ofValues (vs : List (String × CliValue)) : CliArgs :=
  let natural := fun (k : String) => match vs.lookup k with
    | some (.natural n) => some n
    | _ => none
  let text := fun (k : String) => match vs.lookup k with
    | some (.text s) => some s
    | _ => none
  { idLength := (natural "id-length").getD 7
    alphabet := text "alphabet"
    bucketCount := (natural "bucket-count").getD 16
    bucketCapacity := (natural "bucket-capacity").getD 1000
    filterCapacity := (natural "filter-capacity").getD 10000000
    filterErrorRate := match vs.lookup "filter-error-rate" with
      | some (.real x) => x
      | _ => 0.001
    refillIntervalMs := (natural "refill-interval-ms").getD 1000
    fillWorkers := natural "fill-workers"
    maxRejections := (natural "max-rejections").getD 10000
    historyFile := text "history-file"
    serverAddr := (text "server-addr").getD "127.0.0.1:50051"
    uds := match vs.lookup "uds" with
      | some (.switch b) => b
      | _ => false }

/-- Read the options from a command line and an environment. -/
def read (args : List String) (env : Environment) : Except CliError CliArgs :=
  (readCommandLine args env).map ofValues

end CliArgs

/-- The configuration of a server. -/
structure ServerConfig where
  serverAddr : String
  uds : Bool
  historyFile : Option String
  factory : FactoryConfig

/-- Check the options and build the configuration; `cpus` is the machine's number of
processors. The failure is the message the server stops with. -/
def ServerConfig.ofArgs (cpus : Nat) (a : CliArgs) : Except String ServerConfig := do
  if a.refillIntervalMs = 0 then throw "--refill-interval-ms must be greater than 0"
  if a.fillWorkers = some 0 then throw "--fill-workers must be greater than 0"
  if (Text.trimWhiteSpace a.serverAddr).isEmpty then throw "--server-addr must not be empty"
  let alphabet ← match a.alphabet with
    | some s => (Alphabet.ofString? s).mapError fun p => (FactoryError.invalidConfig p.message).message
    | none => pure Alphabet.standard
  let factory : FactoryConfig := {
    idLength := a.idLength, bucketCount := a.bucketCount, bucketCapacity := a.bucketCapacity,
    filterCapacity := a.filterCapacity, filterErrorRate := a.filterErrorRate,
    refillIntervalMs := a.refillIntervalMs, fillWorkers := a.fillWorkers.getD cpus,
    maxConsecutiveRejections := if a.maxRejections = 0 then none else some a.maxRejections,
    alphabet := alphabet }
  match factory.validate with
  | .error e => throw e.message
  | .ok () => pure ⟨a.serverAddr, a.uds, a.historyFile, factory⟩

end IdFactory.Server
