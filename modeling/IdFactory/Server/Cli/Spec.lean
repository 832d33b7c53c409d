import IdFactory.Decimal.Read

namespace IdFactory.Server.Cli

/-!
# The server's options

The server reads its options from the command line, each falling back to
an environment variable. An option is named by a long name and possibly a
one-letter short name; it takes one value, or none (a switch, or one of the
two options that print help or the version). A value is read according to
its kind: an unsigned 64-bit integer, a double, any text, a non-empty path,
or for a switch set from the environment exactly `true` or `false`.
-/

/-- How an option reads its value, or what an option without value does. -/
inductive ValueKind where
  | natural
  | real
  | text
  | path
  | switch
  | help
  | version
  deriving Repr, DecidableEq

/-- One option of a command. -/
structure OptionSpec where
  long : String
  short : Option Char := none
  /-- The placeholder of the value in help and messages, for an option taking one. -/
  valueName : Option String := none
  env : Option String := none
  help : String
  /-- The default as shown in help, if any. -/
  default : Option String := none
  kind : ValueKind
  deriving Repr

/-- A value read for an option. -/
inductive CliValue where
  | natural (n : Nat)
  | real (x : Float)
  | text (s : String)
  | switch (b : Bool)
  deriving Repr

/-- Whether an option takes a value. -/
def OptionSpec.takesValue (o : OptionSpec) : Bool :=
  o.valueName.isSome

/-- An option as messages name it: `--name <VALUE>` or `--name`. -/
def OptionSpec.display (o : OptionSpec) : String :=
  "--" ++ o.long ++ match o.valueName with
    | some v => " <" ++ v ++ ">"
    | none => ""

/-- Whether an option is one of the settings, which together form the command's one group of
arguments; the help and version options stand outside it. -/
def OptionSpec.isSetting (o : OptionSpec) : Bool :=
  match o.kind with
  | .help | .version => false
  | _ => true

/-- A value option of the server. -/
def valueOption (long valueName env help : String) (default : Option String) (kind : ValueKind) :
    OptionSpec :=
  { long := long, valueName := some valueName, env := some env, help := help, default := default,
    kind := kind }

/-- The server's options, in the order of its help. -/
def serverOptions : List OptionSpec :=
  [ valueOption "id-length" "ID_LENGTH" "ID_LENGTH" "Symbols per identifier" (some "7") .natural,
    valueOption "alphabet" "ALPHABET" "ALPHABET"
      "Symbols identifiers are drawn from. Defaults to `_-0-9a-zA-Z`" none .text,
    valueOption "bucket-count" "BUCKET_COUNT" "BUCKET_COUNT" "Number of buckets kept in the pool"
      (some "16") .natural,
    valueOption "bucket-capacity" "BUCKET_CAPACITY" "BUCKET_CAPACITY"
      "Identifiers per bucket, and per `Allocate` response" (some "1000") .natural,
    valueOption "filter-capacity" "FILTER_CAPACITY" "FILTER_CAPACITY"
      "Expected maximum number of identifiers ever issued" (some "10000000") .natural,
    valueOption "filter-error-rate" "FILTER_ERROR_RATE" "FILTER_ERROR_RATE"
      "Target false-positive rate of the membership filter" (some "0.001") .real,
    valueOption "refill-interval-ms" "REFILL_INTERVAL_MS" "REFILL_INTERVAL_MS"
      "Milliseconds between refill passes" (some "1000") .natural,
    valueOption "fill-workers" "FILL_WORKERS" "FILL_WORKERS"
      "Concurrent fill workers. Defaults to the number of CPUs" none .natural,
    valueOption "max-rejections" "MAX_REJECTIONS" "MAX_REJECTIONS"
      "Rejected candidates in a row before a fill gives up. 0 never gives up" (some "10000") .natural,
    valueOption "history-file" "HISTORY_FILE" "HISTORY_FILE"
      "Newline-delimited file of previously issued identifiers" none .path,
    valueOption "server-addr" "SERVER_ADDR" "SERVER_ADDR"
      "Address to listen on, or a socket path with `--uds`" (some "127.0.0.1:50051") .text,
    { long := "uds", env := some "UDS", help := "Listen on a Unix domain socket at `server_addr`",
      kind := .switch },
    { long := "help", short := some 'h', help := "Print help", kind := .help },
    { long := "version", short := some 'V', help := "Print version", kind := .version } ]

/-- The group of all settings as a usage line shows it: their forms between angle brackets,
parted by bars, in the order of the options. -/
def settingsGroup : String :=
  "<" ++ "|".intercalate ((serverOptions.filter OptionSpec.isSetting).map OptionSpec.display) ++ ">"

/-- The option of a long name. -/
def findLong (name : String) : Option OptionSpec :=
  serverOptions.find? (·.long == name)

/-- The option of a short name. -/
def findShort (c : Char) : Option OptionSpec :=
  serverOptions.find? (·.short == some c)

/-- The name the server is invoked by. -/
def programName : String := "burrow-tonic-server"

/-- The version line of the server. -/
def versionText : String := programName ++ " 0.1.0\n"

/-- The one-line description of the server. -/
def aboutText : String := "A gRPC service handing out batches of fresh short identifiers"

/-- The longer description of the server, shown by the long help. -/
def longAboutText : String :=
  "Runtime configuration for the `burrow-tonic-server` binary.\n\nSizes the identifier factory " ++
  "(length, pool shape, filter) and picks where the server listens. The factory-facing values " ++
  "are checked again by [`FactoryConfig::validate`] when converting into a [`ServerConfig`]."

end IdFactory.Server.Cli
