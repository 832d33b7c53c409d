import IdFactory.Server.Cli.Error
import IdFactory.Text.Similarity

namespace IdFactory.Server.Cli

open Decimal Text

/-!
# Reading a command line

The arguments are read left to right. `--name` or `--name=value` names an
option by its long name; `-abc` names options by their short names, one
per letter; after `--`, and wherever no option is waiting for a value,
a plain argument is unexpected, since the server takes none. An option
that takes a value and is given none with `=` waits for the next argument,
unless that argument is itself an option or missing: the value is then
missing.

An option is taken, and its value read, when the next option is met or the
arguments end; an error of the waiting option is then the answer, except
where the next argument is unexpected, whose error wins. Every option may
be given once. Options not given fall back to their environment variable,
read in the order of the options, once the whole command line has been
read without error.
-/

/-- The state of reading a command line. -/
structure Reading where
  /-- The options given, in the order first met, with their values. -/
  given : List (String × CliValue) := []
  /-- The options met so far, in order, for usage lines. -/
  started : List OptionSpec := []
  /-- An option waiting for its value, with the value once it has come. -/
  pending : Option (OptionSpec × Option String) := none
  /-- Whether `--` was met. -/
  trailing : Bool := false

/-- The values a switch accepts. -/
def switchValues : List String := ["true", "false"]

/-- Read a value for an option. -/
def OptionSpec.readValue (o : OptionSpec) (raw : String) : Except CliError CliValue :=
  match o.kind with
  | .natural =>
    (readUnsigned maxWord raw).map CliValue.natural |>.mapError
      fun e => .valueValidation o.display raw e.message
  | .real =>
    (readFloat raw).map CliValue.real |>.mapError fun e => .valueValidation o.display raw e.message
  | .text => .ok (.text raw)
  | .path => if raw.isEmpty then .error (.invalidValue o.display "" [] none) else .ok (.text raw)
  | .switch =>
    if raw == "true" then .ok (.switch true)
    else if raw == "false" then .ok (.switch false)
    else .error (.invalidValue o.display raw switchValues (closestMatch raw switchValues))
  | .help | .version => .ok (.switch true)

namespace Reading

/-- Note an option as met, once. -/
def start (r : Reading) (o : OptionSpec) : Reading :=
  if r.started.any (·.long == o.long) then r else { r with started := r.started ++ [o] }

/-- Whether an option was given. -/
def isGiven (r : Reading) (o : OptionSpec) : Bool :=
  r.given.any (·.1 == o.long)

/-- The usage entries of the options met. -/
def used (r : Reading) : List UsageEntry :=
  r.started.map .option

/-- The usage entries when a value comes attached to an option that takes none. Once a setting
has been taken, the group of all settings is in use: it closes the line, and its members are not
listed one by one. -/
def attachedUsed (r : Reading) (o : OptionSpec) : List UsageEntry :=
  let named := r.started ++ [o]
  if r.started.any OptionSpec.isSetting then
    (named.filter (!·.isSetting)).map .option ++ [.settings]
  else named.map .option

/-- Take an option from the command line with its value, if it has one; `longForm` tells how it
was named. The state is returned also on failure, with what was done before it. -/
def take (r : Reading) (o : OptionSpec) (value : Option String) (longForm : Bool) :
    Reading × Option CliError :=
  if o.takesValue && value.isNone then (r, some (.invalidValue o.display "" [] none))
  else match o.kind with
    | .help => (r, some (.displayHelp longForm))
    | .version => (r, some .displayVersion)
    | _ =>
      if r.isGiven o then (r, some (.argumentConflict o.display))
      else
        let r := r.start o
        match o.readValue (value.getD "true") with
        | .ok v => ({ r with given := r.given ++ [(o.long, v)] }, none)
        | .error e => (r, some e)

/-- Take the waiting option, if any. -/
def resolve (r : Reading) : Reading × Option CliError :=
  match r.pending with
  | none => (r, none)
  | some (o, value) => take { r with pending := none } o value true

/-- Take the waiting option, then this one. -/
def react (r : Reading) (o : OptionSpec) (value : Option String) (longForm : Bool) :
    Except CliError Reading :=
  match r.resolve with
  | (r, some e) => let _ := r; .error e
  | (r, none) =>
    match r.take o value longForm with
    | (r, none) => .ok r
    | (_, some e) => .error e

/-- Read the letters of a short argument. -/
def shortFlags (r : Reading) : List Char → Except CliError Reading
  | [] => .ok r
  | c :: rest =>
    match findShort c with
    | some o => do shortFlags (← r.react o none false) rest
    | none => .error (.unknownArgument ("-" ++ String.singleton c) none [])

/-- The long name and attached value of an argument `--name` or `--name=value`. -/
def splitLong (body : String) : String × Option String :=
  match body.splitOn "=" with
  | name :: rest => (name, if rest.isEmpty then none else some ("=".intercalate rest))
  | [] => (body, none)

/-- Read one argument. -/
def step (r : Reading) (arg : String) : Except CliError Reading :=
  if r.trailing then .error (.unknownArgument arg none [])
  else if arg == "--" then .ok { r with trailing := true }
  else if arg.startsWith "--" then
    let (name, value) := splitLong (arg.drop 2).toString
    match findLong name with
    | none =>
      let (r, _) := r.resolve
      let suggestion := closestMatch name (serverOptions.map (·.long))
      let r := match suggestion.bind findLong with
        | some o => r.start o
        | none => r
      .error (.unknownArgument ("--" ++ name) (suggestion.map ("--" ++ ·)) r.used)
    | some o =>
      if o.takesValue then
        match value with
        | some v => r.react o (some v) true
        | none =>
          match r.resolve with
          | (r, none) => .ok { r with pending := some (o, none) }
          | (_, some e) => .error e
      else match value with
        | some v => .error (.tooManyValues v o.display (r.attachedUsed o))
        | none => r.react o none true
  else if arg.startsWith "-" && arg != "-" then
    r.shortFlags (arg.drop 1).toString.toList
  else match r.pending with
    | some (o, none) => .ok { r with pending := some (o, some arg) }
    | _ => .error (.unknownArgument arg none [])

/-- Fill in the options not given from the environment, in the order of the options. -/
def fromEnvironment (r : Reading) (env : Environment) : Except CliError Reading :=
  serverOptions.foldlM (fun r o =>
    if r.isGiven o then .ok r
    else match o.env.bind (fun name => List.lookup name env) with
      | none => .ok r
      | some raw => do
        let v ← o.readValue raw
        pure { r with given := r.given ++ [(o.long, v)] }) r

end Reading

/-- Read a command line under an environment: the options given, with their values. -/
def readCommandLine (args : List String) (env : Environment) :
    Except CliError (List (String × CliValue)) := do
  let r ← args.foldlM Reading.step {}
  let r ← match r.resolve with
    | (r, none) => pure r
    | (_, some e) => throw e
  let r ← r.fromEnvironment env
  pure r.given

end IdFactory.Server.Cli
