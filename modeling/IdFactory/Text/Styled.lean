namespace IdFactory.Text

/-!
# Styled text

Messages for a terminal are styled text: plain text with the terminal's
escape sequences for bold, underlined and coloured spans. A style opens
with one sequence per effect (bold `ESC[1m`, underline `ESC[4m`), then one
for the foreground colour (`ESC[3Nm`), and a span closes with `ESC[0m`; a
plain style writes nothing around its span.

Where colours are not wanted the text is shown with every control removed,
as a terminal's escape-sequence parser reads it: the parser walks the
bytes, and a byte is shown when the parser would print it (a visible ASCII
character other than delete, in its ground state), when it starts a
character of several bytes there, or when it is one of the blanks tab, line
feed, form feed and carriage return that the parser executes. The bytes of
a multi-byte character following a shown first byte are shown with it.
Everything else goes: other control characters, delete, and the escape
sequences (`ESC` and what follows it up to the byte that ends the
sequence, command strings up to their terminator). A shown byte after a
byte that is not shown is found by the parser from the state the bytes
before left it in.

Two readers differ in one point. Rendering the text as a string restarts
the parser in its ground state at each shown byte; writing it to a stream
keeps the parser's state, so that a blank met inside an escape sequence is
shown and the sequence is still open after it.
-/

/-- A style of a span: bold, underlined, and a foreground colour among the eight basic ones. -/
structure Style where
  bold : Bool := false
  underline : Bool := false
  foreground : Option Nat := none
  deriving Repr, DecidableEq

/-- The escape character. -/
def escapeChar : String := String.singleton (Char.ofNat 27)

/-- The sequence that closes a styled span. -/
def resetSequence : String := escapeChar ++ "[0m"

/-- Whether a style has no effect and no colour. -/
def Style.isPlain (s : Style) : Bool :=
  !s.bold && !s.underline && s.foreground.isNone

/-- The sequences that open a span of a style: the effects, then the colour. -/
def Style.opening (s : Style) : String :=
  (if s.bold then escapeChar ++ "[1m" else "") ++
  (if s.underline then escapeChar ++ "[4m" else "") ++
  match s.foreground with
  | some n => escapeChar ++ "[3" ++ toString n ++ "m"
  | none => ""

/-- A span of text in a style. -/
def Style.paint (s : Style) (text : String) : String :=
  if s.isPlain then text else s.opening ++ text ++ resetSequence

/-- The states of a terminal's escape-sequence parser. -/
inductive ParserState where
  | ground
  | escape
  | escapeIntermediate
  | csiEntry
  | csiParam
  | csiIntermediate
  | csiIgnore
  | dcsEntry
  | dcsParam
  | dcsIntermediate
  | dcsPassthrough
  | dcsIgnore
  | oscString
  | sosPmApcString
  deriving Repr, DecidableEq

/-- What the parser does with a byte, as far as showing it goes. -/
inductive ByteAction where
  | print
  | beginMultiByte
  | execute
  | other
  deriving Repr, DecidableEq

/-- Whether a byte is a control the parser executes or ignores without leaving its state:
below `0x20`, except cancel, substitute and escape. -/
def isQuietControl (b : UInt8) : Bool :=
  b ≤ 0x17 || b == 0x19 || (0x1C ≤ b && b ≤ 0x1F)

/-- Whether a byte lies in a closed range. -/
def inByteRange (lo hi b : UInt8) : Bool :=
  lo ≤ b && b ≤ hi

/-- The parser's move on a byte: the state it goes to, if it changes, and its action. Cancel
and substitute return to the ground state and escape opens a sequence from any state. -/
def transition (s : ParserState) (b : UInt8) : Option ParserState × ByteAction :=
  if b == 0x18 || b == 0x1A then (some .ground, .execute)
  else if b == 0x1B then (some .escape, .other)
  else match s with
    | .ground =>
      if isQuietControl b then (none, .execute)
      else if b ≤ 0x7F then (none, .print)
      else if b ≤ 0x8F || inByteRange 0x91 0x9A b || b == 0x9C then (none, .execute)
      else if inByteRange 0xC2 0xF4 b then (some .ground, .beginMultiByte)
      else (none, .other)
    | .escape =>
      if isQuietControl b then (none, .execute)
      else if inByteRange 0x20 0x2F b then (some .escapeIntermediate, .other)
      else if b == 0x5B then (some .csiEntry, .other)
      else if b == 0x5D then (some .oscString, .other)
      else if b == 0x50 then (some .dcsEntry, .other)
      else if b == 0x58 || b == 0x5E || b == 0x5F then (some .sosPmApcString, .other)
      else if inByteRange 0x30 0x7E b then (some .ground, .other)
      else (none, .other)
    | .escapeIntermediate =>
      if isQuietControl b then (none, .execute)
      else if inByteRange 0x30 0x7E b then (some .ground, .other)
      else (none, .other)
    | .csiEntry =>
      if isQuietControl b then (none, .execute)
      else if inByteRange 0x20 0x2F b then (some .csiIntermediate, .other)
      else if inByteRange 0x30 0x3F b then (some .csiParam, .other)
      else if inByteRange 0x40 0x7E b then (some .ground, .other)
      else (none, .other)
    | .csiParam =>
      if isQuietControl b then (none, .execute)
      else if inByteRange 0x3C 0x3F b then (some .csiIgnore, .other)
      else if inByteRange 0x20 0x2F b then (some .csiIntermediate, .other)
      else if inByteRange 0x40 0x7E b then (some .ground, .other)
      else (none, .other)
    | .csiIntermediate =>
      if isQuietControl b then (none, .execute)
      else if inByteRange 0x30 0x3F b then (some .csiIgnore, .other)
      else if inByteRange 0x40 0x7E b then (some .ground, .other)
      else (none, .other)
    | .csiIgnore =>
      if isQuietControl b then (none, .execute)
      else if inByteRange 0x40 0x7E b then (some .ground, .other)
      else (none, .other)
    | .dcsEntry =>
      if inByteRange 0x20 0x2F b then (some .dcsIntermediate, .other)
      else if inByteRange 0x30 0x3F b then (some .dcsParam, .other)
      else if inByteRange 0x40 0x7E b then (some .dcsPassthrough, .other)
      else (none, .other)
    | .dcsParam =>
      if inByteRange 0x3C 0x3F b then (some .dcsIgnore, .other)
      else if inByteRange 0x20 0x2F b then (some .dcsIntermediate, .other)
      else if inByteRange 0x40 0x7E b then (some .dcsPassthrough, .other)
      else (none, .other)
    | .dcsIntermediate =>
      if inByteRange 0x30 0x3F b then (some .dcsIgnore, .other)
      else if inByteRange 0x40 0x7E b then (some .dcsPassthrough, .other)
      else (none, .other)
    | .dcsPassthrough | .dcsIgnore | .sosPmApcString =>
      if b == 0x9C then (some .ground, .other) else (none, .other)
    | .oscString =>
      if b == 0x07 then (some .ground, .other) else (none, .other)

/-- The state after a byte: the new one, or the same when the move keeps it. -/
def nextState (s : ParserState) (b : UInt8) : ParserState :=
  (transition s b).1.getD s

/-- Whether the parser's action on a byte shows it. -/
def isShown (action : ByteAction) (b : UInt8) : Bool :=
  match action with
  | .print => b != 0x7F
  | .beginMultiByte => true
  | .execute => b == 0x09 || b == 0x0A || b == 0x0C || b == 0x0D
  | .other => false

/-- Where removing the controls stands: the parser's state, and whether the bytes shown last
are still going on. -/
structure Reader where
  parser : ParserState := .ground
  showing : Bool := false
  deriving Repr, DecidableEq

/-- Look for the next shown character from a reader that is not showing: whether this one is
shown, and the reader after it. A stream keeps the parser's state at a shown blank. -/
def Reader.seek (keep : Bool) (r : Reader) (bytes : List UInt8) : Bool × Reader :=
  match bytes with
  | [] => (false, r)
  | b :: more =>
    let (next, action) := transition r.parser b
    let parser := next.getD r.parser
    if isShown action b then
      (true, { parser := if keep && more.isEmpty then parser else .ground, showing := true })
    else (false, { parser := more.foldl nextState parser, showing := false })

/-- Read one character: whether it is shown, and the reader after it. While showing, each
character is judged as the ground state would judge it; a stream still follows the state
changes, and the first character not shown is looked at again from where the parser stands. -/
def Reader.read (keep : Bool) (r : Reader) (c : Char) : Bool × Reader :=
  let bytes := (String.singleton c).toUTF8.toList
  if r.showing then
    match bytes with
    | [b] =>
      let (next, action) := transition .ground b
      let parser := if keep then next.getD r.parser else .ground
      if isShown action b then (true, { parser := parser, showing := true })
      else Reader.seek keep { parser := parser, showing := false } bytes
    | _ => (true, { parser := .ground, showing := true })
  else Reader.seek keep r bytes

/-- The characters of a text that a reader shows. -/
def showChars (keep : Bool) (r : Reader) : List Char → List Char
  | [] => []
  | c :: rest =>
    let (shown, r) := r.read keep c
    if shown then c :: showChars keep r rest else showChars keep r rest

/-- A styled text as a string shows it, with every control removed. -/
def plainText (text : String) : String :=
  String.ofList (showChars false {} text.toList)

/-- A styled text as a stream without colours writes it, with every control removed. -/
def plainStream (text : String) : String :=
  String.ofList (showChars true {} text.toList)

end IdFactory.Text
