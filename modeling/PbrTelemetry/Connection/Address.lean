import PbrTelemetry.Text.Cut

/-!
# Server addresses

A server address is an authority, as in `user@host:port` or `[v6 address]:port`, which may be
followed by a path, a query and a fragment.  `Address.isValid` says whether it can be used.
-/

namespace PbrTelemetry.Address

/-- The characters of an authority besides letters and digits. -/
def authorityMarks : List Char :=
  ['!', '$', '&', '\'', '(', ')', '*', '+', ',', '-', '.', ':', ';', '=', '@', '[', ']', '_', '~']

def isAuthorityChar (c : Char) : Bool := c.isAlphanum || authorityMarks.contains c

def endsAuthority (c : Char) : Bool := c = '/' || c = '?' || c = '#'

/-- What is known after some characters of an authority. -/
structure Scan where
  /-- The colons since the last bracket or user mark. -/
  colons : Nat := 0
  opened : Bool := false
  closed : Bool := false
  /-- Whether a percent sign came since the last bracket or user mark. -/
  percent : Bool := false
  /-- Whether the last character was the user mark. -/
  afterUser : Bool := false

/-- Take one more character.  Eight colons are the most that an address in brackets has. -/
def Scan.step (scan : Scan) (c : Char) : Option Scan :=
  let scan := { scan with afterUser := c = '@' }
  if c = ':' then
    if 8 ≤ scan.colons then none else some { scan with colons := scan.colons + 1 }
  else if c = '[' then
    if scan.percent || scan.opened then none else some { scan with opened := true }
  else if c = ']' then
    if !scan.opened || scan.closed then none
    else some { scan with closed := true, colons := 0, percent := false }
  else if c = '@' then some { scan with colons := 0, percent := false }
  else if c = '%' then some { scan with percent := true }
  else if isAuthorityChar c then some scan
  else none

/-- Whether a text is an authority: brackets match, at most one colon stands outside of them, and
something follows the user. -/
def isAuthority (text : List Char) : Bool :=
  match text.foldlM Scan.step {} with
  | none => false
  | some scan =>
    !text.isEmpty && scan.opened == scan.closed && scan.colons ≤ 1 && !scan.afterUser
      && !scan.percent

def isBeyondAscii (c : Char) : Bool := 0x80 ≤ c.toNat

def isPathChar (c : Char) : Bool :=
  c = '!' || ('$' ≤ c && c ≤ ';') || c = '=' || ('@' ≤ c && c ≤ '_') || ('a' ≤ c && c ≤ 'z')
    || c = '|' || c = '~' || c = '"' || c = '\x7b' || c = '\x7d' || isBeyondAscii c

def isQueryChar (c : Char) : Bool :=
  c = '!' || ('$' ≤ c && c ≤ ';') || c = '=' || ('?' ≤ c && c ≤ '~') || isBeyondAscii c

/-- Whether a text may follow an authority.  A fragment may hold anything. -/
def isTail (text : List Char) : Bool :=
  let path := text.takeWhile fun c => c ≠ '?' && c ≠ '#'
  let rest := text.dropWhile fun c => c ≠ '?' && c ≠ '#'
  let query := match rest with
    | '?' :: query => query.takeWhile (· ≠ '#')
    | _ => []
  path.all isPathChar && query.all isQueryChar

/-- The longest address that is taken, in bytes, scheme included. -/
def lengthLimit : Nat := 65534

def isValid (scheme address : String) : Bool :=
  let text := address.toList
  let authority := text.takeWhile fun c => !endsAuthority c
  let tail := text.dropWhile fun c => !endsAuthority c
  isAuthority authority && isTail tail
    && scheme.utf8ByteSize + 3 + address.utf8ByteSize ≤ lengthLimit

end PbrTelemetry.Address
