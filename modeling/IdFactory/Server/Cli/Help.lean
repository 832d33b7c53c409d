import IdFactory.Server.Cli.Spec
import IdFactory.Text.Styled

namespace IdFactory.Server.Cli

open Text

/-!
# Help texts

Two help texts list the options. Each option is a heading line (`-h, ` for
a short name or four blanks, then the long form) followed by its
description indented by ten blanks. The short help puts the environment
variable, with its current value, and the default after the description on
the same line; the long help opens with a longer description and puts them
on lines of their own after a blank one, with a blank line between options.
A newline in a value starts a line indented as the description is.
The two help options point at each other.

The texts are styled: headings bold and underlined, option names and the
program's name bold. The error label is bold red, the offending argument or
value yellow, and suggested or allowed values green; placeholders and the
notes stay plain.
-/

/-- The environment the server reads, as pairs of name and value. -/
abbrev Environment := List (String × String)

/-- The style of the error label. -/
def errorStyle : Style := { bold := true, foreground := some 1 }

/-- The style of headings, `Usage:` and `Options:`. -/
def headerStyle : Style := { bold := true, underline := true }

/-- The style of text to be typed as it stands: option names and the program's name. -/
def literalStyle : Style := { bold := true }

/-- The style of suggested and allowed values. -/
def validStyle : Style := { foreground := some 2 }

/-- The style of the argument or value at fault. -/
def invalidStyle : Style := { foreground := some 3 }

/-- An option as usage lines and headings show it: its long name, bold, and its plain
placeholder. -/
def OptionSpec.usageForm (o : OptionSpec) : String :=
  literalStyle.paint ("--" ++ o.long) ++ match o.valueName with
    | some v => " <" ++ v ++ ">"
    | none => ""

/-- The blanks before an option's description. -/
def helpIndent : String := "          "

/-- The heading line of an option. -/
def OptionSpec.heading (o : OptionSpec) : String :=
  (match o.short with
    | some c => "  " ++ literalStyle.paint ("-" ++ String.singleton c) ++ ", "
    | none => "      ") ++ o.usageForm

/-- The bracketed notes after an option's description: its variable and default. -/
def OptionSpec.notes (o : OptionSpec) (env : Environment) : List String :=
  (match o.env with
    | some name => ["[env: " ++ name ++ "=" ++ ((List.lookup name env).getD "") ++ "]"]
    | none => []) ++
  (match o.default with
    | some d => ["[default: " ++ d ++ "]"]
    | none => [])

/-- The description of an option in one of the two help texts. -/
def OptionSpec.description (o : OptionSpec) (long : Bool) : String :=
  match o.kind with
  | .help => if long then "Print help (see a summary with '-h')" else "Print help (see more with '--help')"
  | _ => o.help

/-- A description set below its heading: every line indented, also an empty one and those that
a newline in a value of the environment starts. -/
def indented (text : String) : String :=
  helpIndent ++ text.replace "\n" ("\n" ++ helpIndent)

/-- The entry of an option in the short help. -/
def OptionSpec.shortEntry (o : OptionSpec) (env : Environment) : String :=
  o.heading ++ "\n" ++ indented (" ".intercalate (o.description false :: o.notes env)) ++ "\n"

/-- The entry of an option in the long help: the notes stand one a line, after a blank line. -/
def OptionSpec.longEntry (o : OptionSpec) (env : Environment) : String :=
  let notes := o.notes env
  o.heading ++ "\n" ++
    indented (o.description true ++ if notes.isEmpty then "" else "\n\n" ++ "\n".intercalate notes) ++
    "\n"

/-- The start of every usage line: the heading and the program's name. -/
def usagePrefix : String :=
  headerStyle.paint "Usage:" ++ " " ++ literalStyle.paint programName

/-- The usage line when no option is singled out. -/
def generalUsage : String := usagePrefix ++ " [OPTIONS]"

/-- The styled help text, short or long, under an environment. -/
def helpText (long : Bool) (env : Environment) : String :=
  let entries := serverOptions.map fun o => if long then o.longEntry env else o.shortEntry env
  (if long then longAboutText else aboutText) ++ "\n\n" ++ generalUsage ++ "\n\n" ++
    headerStyle.paint "Options:" ++ "\n" ++
    (if long then "\n".intercalate entries else String.join entries)

end IdFactory.Server.Cli
