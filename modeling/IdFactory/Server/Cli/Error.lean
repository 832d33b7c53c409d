import IdFactory.Server.Cli.Help

namespace IdFactory.Server.Cli

open Text

/-!
# Command-line failures

Why reading the command line stopped: an argument that names no option, a
value its option cannot read, a value that is missing or not one of the
allowed ones, an option given twice, a value given to an option that takes
none, or a request for help or the version. Each is written as one
message; the help and version requests write their text and succeed, the
others fail with status 2 and end by pointing at `--help`. Messages that
show a usage line name the options given so far; a value attached to an
option that takes none shows, once a setting has been taken, the group of
all settings in their place.

A message is styled text. Rendered as a string it shows without its
controls; a program writing it to a stream shows it so too, unless the
environment forces colours: `CLICOLOR_FORCE` set to anything but the empty
text, and `NO_COLOR` unset or empty.
-/

/-- An entry of a usage line: an option, or the group of all settings. -/
inductive UsageEntry where
  | option (o : OptionSpec)
  | settings
  deriving Repr

/-- An entry as a usage line shows it. -/
def UsageEntry.render : UsageEntry → String
  | .option o => o.usageForm
  | .settings => settingsGroup

/-- Why reading a command line stopped. -/
inductive CliError where
  | unknownArgument (arg : String) (suggestion : Option String) (used : List UsageEntry)
  | valueValidation (option value reason : String)
  /-- A missing (empty) or disallowed value; `allowed` lists the allowed ones, if any. -/
  | invalidValue (option value : String) (allowed : List String) (suggestion : Option String)
  | argumentConflict (option : String)
  | tooManyValues (value option : String) (used : List UsageEntry)
  | displayHelp (long : Bool)
  | displayVersion
  deriving Repr

/-- The name of a failure's kind. -/
def CliError.kindName : CliError → String
  | .unknownArgument .. => "UnknownArgument"
  | .valueValidation .. => "ValueValidation"
  | .invalidValue .. => "InvalidValue"
  | .argumentConflict .. => "ArgumentConflict"
  | .tooManyValues .. => "TooManyValues"
  | .displayHelp _ => "DisplayHelp"
  | .displayVersion => "DisplayVersion"

/-- The exit status a failure ends the program with. -/
def CliError.exitCode : CliError → Nat
  | .displayHelp _ | .displayVersion => 0
  | _ => 2

/-- The usage line naming the given entries, or the general one. -/
def usageLine (used : List UsageEntry) : String :=
  if used.isEmpty then generalUsage
  else usagePrefix ++ " " ++ " ".intercalate (used.map UsageEntry.render)

/-- The closing pointer at the help. -/
def tryHelp : String := "\n\nFor more information, try '" ++ literalStyle.paint "--help" ++ "'.\n"

/-- The label that opens an error message. -/
def errorLabel : String := errorStyle.paint "error:" ++ " "

/-- A tip naming a similar argument or value. -/
def tip (what : String) (suggestion : Option String) : String :=
  match suggestion with
  | some s =>
    "\n\n  " ++ validStyle.paint "tip:" ++ " a similar " ++ what ++ " exists: '" ++ validStyle.paint s ++ "'"
  | none => ""

/-- The styled message of a failure, under the environment the help shows. -/
def CliError.styled (env : Environment) : CliError → String
  | .unknownArgument arg suggestion used =>
    errorLabel ++ "unexpected argument '" ++ invalidStyle.paint arg ++ "' found" ++
      tip "argument" suggestion ++ "\n\n" ++ usageLine used ++ tryHelp
  | .valueValidation option value reason =>
    errorLabel ++ "invalid value '" ++ invalidStyle.paint value ++ "' for '" ++
      literalStyle.paint option ++ "': " ++ reason ++ tryHelp
  | .invalidValue option value allowed suggestion =>
    errorLabel ++
      (if value.isEmpty then
        "a value is required for '" ++ literalStyle.paint option ++ "' but none was supplied"
       else
        "invalid value '" ++ invalidStyle.paint value ++ "' for '" ++ literalStyle.paint option ++ "'") ++
      (if allowed.isEmpty then ""
       else "\n  [possible values: " ++ ", ".intercalate (allowed.map validStyle.paint) ++ "]") ++
      tip "value" suggestion ++ tryHelp
  | .argumentConflict option =>
    errorLabel ++ "the argument '" ++ invalidStyle.paint option ++ "' cannot be used multiple times\n\n" ++
      generalUsage ++ tryHelp
  | .tooManyValues value option used =>
    errorLabel ++ "unexpected value '" ++ invalidStyle.paint value ++ "' for '" ++
      literalStyle.paint option ++ "' found; no more were expected\n\n" ++ usageLine used ++ tryHelp
  | .displayHelp long => helpText long env
  | .displayVersion => versionText

/-- The message of a failure as a string shows it, without its controls. -/
def CliError.render (env : Environment) (e : CliError) : String :=
  plainText (e.styled env)

/-- Whether a program writing to a stream shows colours under an environment. -/
def colorsForced (env : Environment) : Bool :=
  !((List.lookup "CLICOLOR_FORCE" env).getD "").isEmpty && ((List.lookup "NO_COLOR" env).getD "").isEmpty

/-- The message of a failure as the program writes it to its output. -/
def CliError.written (env : Environment) (e : CliError) : String :=
  if colorsForced env then e.styled env else plainStream (e.styled env)

end IdFactory.Server.Cli
