namespace IdFactory.Remote

/-!
# Destinations

A client connects to a Unix socket, named `unix:path` or `unix://path`,
or to a URI. A URI is one of: a lone `/` or `*`; a path, starting with `/`;
an authority alone; or a scheme, `://`, a non-empty authority, then a path.
The scheme is `http` or `https` in any case, or letters, digits, `+`, `-`,
`.` and `~` (at most 64) before `://`. Nothing at all after the scheme is
an empty URI.

An authority ends at the first `/`, `?` or `#`. Its bytes are URI
characters or `%`; it has at most one colon outside brackets and user
information, brackets that open once and close once, nothing empty after an
`@`, and no `%` after the user information outside brackets. A path and
query hold the characters that need no escaping in them (and a few that
clients send unescaped), and any byte of a multi-byte character, but no
control character and no delete; a fragment after `#` may hold anything. At most
65534 bytes are accepted.

The checks are made in that order, and the first failure is the answer.
-/

/-- Why a text is not a URI. -/
inductive UriProblem where
  | invalidUriChar
  | invalidAuthority
  | invalidFormat
  | tooLong
  | empty
  | schemeTooLong
  deriving Repr, DecidableEq

/-- The message of a URI problem. -/
def UriProblem.message : UriProblem → String
  | .invalidUriChar => "invalid uri character"
  | .invalidAuthority => "invalid authority"
  | .invalidFormat => "invalid format"
  | .tooLong => "uri too long"
  | .empty => "empty string"
  | .schemeTooLong => "scheme too long"

/-- The longest URI accepted, in bytes. -/
def maxUriLength : Nat := 65534

/-- The longest scheme accepted, in bytes. -/
def maxSchemeLength : Nat := 64

/-- Whether a byte is an ASCII letter or digit. -/
def isAlphanumeric (b : UInt8) : Bool :=
  (0x30 ≤ b && b ≤ 0x39) || (0x41 ≤ b && b ≤ 0x5A) || (0x61 ≤ b && b ≤ 0x7A)

/-- Whether a byte may stand in a URI outside a path: letters, digits and
`! # $ & ' ( ) * + , - . / : ; = ? @ [ ] _ ~`. -/
def isUriChar (b : UInt8) : Bool :=
  isAlphanumeric b || "!#$&'()*+,-./:;=?@[]_~".toUTF8.toList.contains b

/-- Whether a byte may stand in a scheme: letters, digits, `+`, `-`, `.` and `~`. -/
def isSchemeChar (b : UInt8) : Bool :=
  isAlphanumeric b || b == 0x2B || b == 0x2D || b == 0x2E || b == 0x7E

/-- The bytes of a text. -/
def bytesOf (s : String) : List UInt8 :=
  s.toUTF8.toList

/-- What scanning an authority has seen. -/
structure AuthorityScan where
  colons : Nat := 0
  opened : Bool := false
  closed : Bool := false
  percent : Bool := false
  atSign : Option Nat := none

/-- Scan an authority from index `i`: what was seen and where it ends. -/
def scanAuthority (st : AuthorityScan) (i : Nat) : List UInt8 → Except UriProblem (AuthorityScan × Nat)
  | [] => .ok (st, i)
  | b :: rest =>
    if b == 0x2F || b == 0x3F || b == 0x23 then .ok (st, i)
    else if b == 0x3A then
      if 8 ≤ st.colons then .error .invalidAuthority
      else scanAuthority { st with colons := st.colons + 1 } (i + 1) rest
    else if b == 0x5B then
      if st.percent || st.opened then .error .invalidAuthority
      else scanAuthority { st with opened := true } (i + 1) rest
    else if b == 0x5D then
      if !st.opened || st.closed then .error .invalidAuthority
      else scanAuthority { st with closed := true, colons := 0, percent := false } (i + 1) rest
    else if b == 0x40 then
      scanAuthority { st with atSign := some i, colons := 0, percent := false } (i + 1) rest
    else if b == 0x25 then scanAuthority { st with percent := true } (i + 1) rest
    else if isUriChar b then scanAuthority st (i + 1) rest
    else .error .invalidUriChar

/-- The length of the authority at the start of some bytes, if it is well formed. -/
def authorityEnd (bytes : List UInt8) : Except UriProblem Nat := do
  let (st, stop) ← scanAuthority {} 0 bytes
  if st.opened != st.closed then throw .invalidAuthority
  if 1 < st.colons then throw .invalidAuthority
  if 0 < stop && st.atSign == some (stop - 1) then throw .invalidAuthority
  if st.percent then throw .invalidAuthority
  pure stop

/-- Whether a byte may stand in a path unescaped. -/
def isPathByte (b : UInt8) : Bool :=
  b == 0x21 || (0x24 ≤ b && b ≤ 0x3B) || b == 0x3D || (0x40 ≤ b && b ≤ 0x5F) ||
    (0x61 ≤ b && b ≤ 0x7A) || b == 0x7C || b == 0x7E || 0x80 ≤ b || b == 0x22 || b == 0x7B ||
    b == 0x7D

/-- Whether a byte may stand in a query unescaped. -/
def isQueryByte (b : UInt8) : Bool :=
  b == 0x21 || (0x24 ≤ b && b ≤ 0x3B) || b == 0x3D || (0x3F ≤ b && b ≤ 0x7E) || 0x80 ≤ b

/-- Check a query, up to a fragment. -/
def checkQuery : List UInt8 → Except UriProblem Unit
  | [] => .ok ()
  | b :: rest =>
    if b == 0x23 then .ok ()
    else if isQueryByte b then checkQuery rest
    else .error .invalidUriChar

/-- Check a path and query, up to a fragment. -/
def checkPath : List UInt8 → Except UriProblem Unit
  | [] => .ok ()
  | b :: rest =>
    if b == 0x3F then checkQuery rest
    else if b == 0x23 then .ok ()
    else if isPathByte b then checkPath rest
    else .error .invalidUriChar

/-- Whether some bytes start with an ASCII word, ignoring case. -/
def startsWithIgnoringCase (bytes : List UInt8) (word : String) : Bool :=
  let w := bytesOf word
  w.length ≤ bytes.length &&
    ((bytes.take w.length).zip w).all fun (b, c) =>
      (if 0x41 ≤ b && b ≤ 0x5A then b + 0x20 else b) == c

/-- Look for a scheme `name://` among the first bytes, from index `i`. -/
def findScheme (bytes : List UInt8) (i : Nat) : List UInt8 → Except UriProblem (Option Nat)
  | [] => .ok none
  | b :: rest =>
    if b == 0x3A then
      if bytes.length < i + 3 then .ok none
      else if (bytes.drop (i + 1)).take 2 != bytesOf "//" then .ok none
      else if maxSchemeLength < i then .error .schemeTooLong
      else .ok (some (i + 3))
    else if isSchemeChar b then findScheme bytes (i + 1) rest
    else .ok none

/-- The length of the scheme prefix, `://` included, if there is one. -/
def schemePrefix (bytes : List UInt8) : Except UriProblem (Option Nat) :=
  if startsWithIgnoringCase bytes "http://" then .ok (some 7)
  else if startsWithIgnoringCase bytes "https://" then .ok (some 8)
  else if 3 < bytes.length then findScheme bytes 0 bytes
  else .ok none

/-- Check a URI that is neither a path nor one byte long. -/
def checkFull (bytes : List UInt8) : Except UriProblem Unit := do
  match ← schemePrefix bytes with
  | none =>
    if (← authorityEnd bytes) != bytes.length then throw .invalidFormat
  | some k =>
    let rest := bytes.drop k
    if rest.isEmpty then throw .empty
    let stop ← authorityEnd rest
    if stop = 0 then throw .invalidFormat
    checkPath (rest.drop stop)

/-- Check a URI. -/
def checkUri (text : String) : Except UriProblem Unit :=
  let bytes := bytesOf text
  if maxUriLength < bytes.length then .error .tooLong
  else match bytes with
    | [] => .error .empty
    | [b] =>
      if b == 0x2F || b == 0x2A then .ok ()
      else do
        if (← authorityEnd [b]) != 1 then throw .invalidUriChar
    | b :: _ => if b == 0x2F then checkPath bytes else checkFull bytes

/-- Where a client connects. -/
inductive Destination where
  | unixSocket (path : String)
  | uri (text : String)
  deriving Repr, DecidableEq

/-- Read a destination. -/
def Destination.parse (text : String) : Except UriProblem Destination :=
  if text.startsWith "unix://" then .ok (.unixSocket (text.drop 7).toString)
  else if text.startsWith "unix:" then .ok (.unixSocket (text.drop 5).toString)
  else (checkUri text).map fun () => .uri text

end IdFactory.Remote
