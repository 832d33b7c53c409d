import IdFactory.Text.Alphanumeric
import IdFactory.Text.Blank
import IdFactory.Text.Utf8

namespace IdFactory.Server

open Text

/-!
# Environment files

An environment file sets variables, one `KEY=value` per line, before the
server reads its options; a variable already set keeps its value, and the
first of two settings wins. Blank lines and lines starting with `#` are
skipped, a key may be preceded by `export`, and a key is a letter or `_`
followed by letters, digits, `_` and `.`.

A value may be quoted: within single quotes everything is literal; within
double quotes `\` escapes `\ ' " $` and space and writes `\n` as a line
break. A quoted value may span several lines. Outside single quotes `$NAME`
and `${NAME}` are replaced by the variable's value (set before, or from an
earlier line), a name being alphabetic and numeric characters of any
script. White space at the end of a line is dropped before it is read, also
after an escaping `\`. An unquoted blank ends the value, after which only
blanks and a `#` comment may follow.

Reading stops at the first line that cannot be read, or is not UTF-8; the
lines before it have taken effect.
-/

/-- Where reading a physical line left the current logical line. -/
inductive LineState where
  | complete
  | escape
  | strongOpen
  | strongOpenEscape
  | weakOpen
  | weakOpenEscape
  | whiteSpace
  deriving Repr, DecidableEq

/-- Run the line states over a physical line: the state at its end, or the position of a
comment that ends it. -/
def scanLine (state : LineState) (pos : Nat) : List Char → LineState ⊕ Nat
  | [] => .inl state
  | c :: rest =>
    match state with
    | .whiteSpace =>
      if c = '#' then .inr pos
      else scanLine (match c with
        | '\\' => .escape | '"' => .weakOpen | '\'' => .strongOpen | _ => .complete) (pos + 1) rest
    | .escape => scanLine .complete (pos + 1) rest
    | .complete =>
      scanLine (if isWhiteSpace c && c != '\n' && c != '\r' then .whiteSpace
        else match c with
          | '\\' => .escape | '"' => .weakOpen | '\'' => .strongOpen | _ => .complete) (pos + 1) rest
    | .weakOpen =>
      scanLine (match c with | '\\' => .weakOpenEscape | '"' => .complete | _ => .weakOpen) (pos + 1) rest
    | .weakOpenEscape => scanLine .weakOpen (pos + 1) rest
    | .strongOpen =>
      scanLine (match c with | '\\' => .strongOpenEscape | '\'' => .complete | _ => .strongOpen) (pos + 1) rest
    | .strongOpenEscape => scanLine .strongOpen (pos + 1) rest

/-- The pieces of a byte string that end at a line break, each with its break, and a last
piece without one. -/
def breakLines (bytes : List UInt8) : List (List UInt8) :=
  let rec go (current : List UInt8) : List UInt8 → List (List UInt8)
    | [] => if current.isEmpty then [] else [current.reverse]
    | b :: rest => if b = 0x0A then (b :: current).reverse :: go [] rest else go (b :: current) rest
  go [] bytes

/-- The physical lines of a file, each with its line break, read as UTF-8; `none` for a line
that is not UTF-8. -/
def physicalLines (bytes : List UInt8) : List (Option (List Char)) :=
  (breakLines bytes).map fun line =>
    match decodeUtf8 line with
    | .ok text => some text.toList
    | .error _ => none

/-- A line without its final line break and carriage return. -/
def dropLineBreak (line : List Char) : List Char :=
  let l := if line.getLast? = some '\n' then line.dropLast else line
  if l.getLast? = some '\r' then l.dropLast else l

/-- Join physical lines into logical ones, a quoted value spanning lines; `none` marks a line
that is not UTF-8, or a quote left open at the end, where reading stops. -/
def logicalLines (lines : List (Option (List Char))) : List (Option (List Char)) :=
  let rec go (buf : List Char) (state : LineState) : List (Option (List Char)) → List (Option (List Char))
    | [] => if state = .complete then [] else [none]
    | none :: _ => [none]
    | some line :: rest =>
      let all := buf ++ line
      if (all.dropWhile isWhiteSpace).head? = some '#' then some [] :: go [] .complete rest
      else match scanLine state 0 line with
        | .inr pos => some (buf ++ line.take pos) :: go [] .complete rest
        | .inl .complete => some (dropLineBreak all) :: go [] .complete rest
        | .inl state => go all state rest
  go [] .complete lines

/-- Whether a character may start a key. -/
def isKeyStart (c : Char) : Bool :=
  (c.toNat < 128 && c.isAlpha) || c = '_'

/-- Whether a character may continue a key. -/
def isKeyChar (c : Char) : Bool :=
  (c.toNat < 128 && c.isAlphanum) || c = '_' || c = '.'

/-- Split a key off a line. -/
def takeKey (line : List Char) : Option (String × List Char) :=
  match line with
  | c :: _ => if isKeyStart c then some (String.ofList (line.takeWhile isKeyChar), line.dropWhile isKeyChar) else none
  | [] => none

/-- The variables known while reading: the environment, then the values read so far, the
latest first. -/
structure Substitutions where
  env : List (String × String)
  earlier : List (String × String)

/-- The value a substitution of a name yields. -/
def Substitutions.value (s : Substitutions) (name : String) : String :=
  match List.lookup name s.env with
  | some v => v
  | none => (List.lookup name s.earlier).getD ""

/-- How a substitution is being read. -/
inductive SubstitutionMode where
  | none
  | plain
  | braced
  deriving Repr, DecidableEq

/-- The state of reading a value. -/
structure ValueScan where
  strong : Bool := false
  weak : Bool := false
  escaped : Bool := false
  expectingEnd : Bool := false
  mode : SubstitutionMode := .none
  name : List Char := []
  out : List Char := []

/-- Whether a character may stand in a substituted name: any alphabetic or numeric one. -/
def isNameChar (c : Char) : Bool :=
  isAlphanumeric c

/-- Read a value, character by character; `none` when it cannot be read. -/
def scanValue (subst : Substitutions) (st : ValueScan) : List Char → Option ValueScan
  | [] => some st
  | c :: rest =>
    let flush := fun (st : ValueScan) =>
      { st with out := st.out ++ (subst.value (String.ofList st.name)).toList, name := [] }
    if st.expectingEnd then
      if c = ' ' || c = '\t' then scanValue subst st rest
      else if c = '#' then some st
      else none
    else if st.escaped then
      if c = '\\' || c = '\'' || c = '"' || c = '$' || c = ' ' then
        scanValue subst { st with out := st.out ++ [c], escaped := false } rest
      else if c = 'n' then scanValue subst { st with out := st.out ++ ['\n'], escaped := false } rest
      else none
    else if st.strong then
      if c = '\'' then scanValue subst { st with strong := false } rest
      else scanValue subst { st with out := st.out ++ [c] } rest
    else if st.mode != .none then
      if isNameChar c then scanValue subst { st with name := st.name ++ [c] } rest
      else if st.mode = .plain then
        if c = '{' && st.name.isEmpty then scanValue subst { st with mode := .braced } rest
        else
          let st := flush st
          if c = '$' then scanValue subst { st with mode := .plain } rest
          else scanValue subst { st with mode := .none, out := st.out ++ [c] } rest
      else if c = '}' then scanValue subst { flush st with mode := .none } rest
      else scanValue subst { st with name := st.name ++ [c] } rest
    else if c = '$' then scanValue subst { st with mode := .plain } rest
    else if st.weak then
      if c = '"' then scanValue subst { st with weak := false } rest
      else if c = '\\' then scanValue subst { st with escaped := true } rest
      else scanValue subst { st with out := st.out ++ [c] } rest
    else if c = '\'' then scanValue subst { st with strong := true } rest
    else if c = '"' then scanValue subst { st with weak := true } rest
    else if c = '\\' then scanValue subst { st with escaped := true } rest
    else if c = ' ' || c = '\t' then scanValue subst { st with expectingEnd := true } rest
    else scanValue subst { st with out := st.out ++ [c] } rest

/-- Read a value to its end. -/
def readValue (subst : Substitutions) (chars : List Char) : Option String := do
  let st ← scanValue subst {} chars
  if st.mode = .braced || st.strong || st.weak then none
  else
    let out := st.out ++ (if st.mode = .none then [] else (subst.value (String.ofList st.name)).toList)
    some (String.ofList out)

/-- What a logical line holds: nothing, a setting, or something unreadable. -/
inductive EnvLine where
  | skip
  | setting (key value : String)
  | unreadable
  deriving Repr, DecidableEq

/-- Read one logical line, without the white space at its ends. -/
def readLine (subst : Substitutions) (line : List Char) : EnvLine :=
  let line := (line.reverse.dropWhile isWhiteSpace).reverse.dropWhile isWhiteSpace
  if line.isEmpty || line.head? = some '#' then .skip
  else match takeKey line with
    | none => .unreadable
    | some (key, rest) =>
      let rest := rest.dropWhile isWhiteSpace
      let afterEq : Option (String × List Char) :=
        match rest with
        | '=' :: r => some (key, r)
        | _ =>
          if key = "export" then
            (takeKey rest).bind fun (k, r) =>
              match r.dropWhile isWhiteSpace with
              | '=' :: r => some (k, r)
              | _ => none
          else none
      match afterEq with
      | none => .unreadable
      | some (key, r) =>
        let r := r.dropWhile isWhiteSpace
        if r.isEmpty || r.head? = some '#' then .setting key ""
        else match readValue subst r with
          | some v => .setting key v
          | none => .unreadable

/-- Apply an environment file to an environment: each setting read in order is added unless
its variable is set, until a line cannot be read. A leading byte-order mark is ignored. -/
def applyEnvFile (env : List (String × String)) (bytes : List UInt8) : List (String × String) :=
  let bytes := match bytes with
    | 0xEF :: 0xBB :: 0xBF :: rest => rest
    | bs => bs
  let step := fun (acc : List (String × String) × List (String × String) × Bool)
      (line : Option (List Char)) =>
    let (env, earlier, stopped) := acc
    if stopped then acc
    else match line with
      | none => (env, earlier, true)
      | some l =>
        match readLine ⟨env, earlier⟩ l with
        | .skip => acc
        | .unreadable => (env, earlier, true)
        | .setting key value =>
          let env := if (List.lookup key env).isSome then env else env ++ [(key, value)]
          (env, (key, value) :: earlier, false)
  ((logicalLines (physicalLines bytes)).foldl step (env, [], false)).1

end IdFactory.Server
