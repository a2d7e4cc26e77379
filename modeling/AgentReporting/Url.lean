import AgentReporting.Decimal.Reading
import AgentReporting.Fault

/-! # Web addresses

A web address is read into its components, normalised and written again. Scheme
and host become lower case, dot segments of the path are resolved, and characters
a component must not hold are percent-encoded.
-/

namespace AgentReporting

structure Url where
  scheme : String
  userinfo : String
  host : String
  port : Option Int
  path : String
  query : Option String
  fragment : Option String

namespace Url

/-- The components of an address as they are written. -/
structure Raw where
  scheme : List Char := []
  authority : Option (List Char) := none
  path : List Char := []
  query : Option (List Char) := none
  fragment : Option (List Char) := none

def isSchemeChar (c : Char) : Bool :=
  c.isAlphanum || c == '+' || c == '.' || c == '-'

/-- Splits a scheme off, which begins with a letter and ends before a colon. -/
def splitScheme (cs : List Char) : List Char × List Char :=
  let scheme := cs.takeWhile isSchemeChar
  match scheme, cs.dropWhile isSchemeChar with
  | [], ':' :: rest => ([], rest)
  | c :: _, ':' :: rest => if c.isAlpha then (scheme, rest) else ([], cs)
  | _, _ => ([], cs)

def splitComponents (cs : List Char) : Raw :=
  let (scheme, rest) := splitScheme cs
  let stops (marks : List Char) (c : Char) : Bool := !marks.contains c
  let (authority, rest) := match rest with
    | '/' :: '/' :: rest =>
      (some (rest.takeWhile (stops ['/', '?', '#'])), rest.dropWhile (stops ['/', '?', '#']))
    | rest => (none, rest)
  let path := rest.takeWhile (stops ['?', '#'])
  let rest := rest.dropWhile (stops ['?', '#'])
  let (query, rest) := match rest with
    | '?' :: rest => (some (rest.takeWhile (stops ['#'])), rest.dropWhile (stops ['#']))
    | rest => (none, rest)
  let fragment := match rest with
    | '#' :: rest => some rest
    | _ => none
  { scheme, authority, path, query, fragment }

/-- Splits the user part off, which ends at the last at sign. -/
def splitUserinfo (cs : List Char) : List Char × List Char :=
  match Text.beforeLast? ['@'] cs with
  | some user => (user, cs.drop (user.length + 1))
  | none => ([], cs)

/-- Splits the host off; one in square brackets may hold colons. -/
def splitHost (cs : List Char) : List Char × List Char :=
  match cs, Text.beforeLast? [']'] cs with
  | '[' :: _, some inside => (inside ++ [']'], cs.drop (inside.length + 1))
  | cs, _ => (cs.takeWhile (· != ':'), cs.dropWhile (· != ':'))

def splitPort (cs : List Char) : List Char :=
  match cs with
  | ':' :: port => port
  | port => port

def percentByte (b : UInt8) : List Char :=
  '%' :: (Text.paddedDigits 16 2 b.toNat).map Char.toUpper

/-- Percent-encodes what `allowed` refuses; an escape that is there already stays. -/
def percentEncode (allowed : Char → Bool) : List Char → List Char
  | [] => []
  | c :: cs =>
    if allowed c then c :: percentEncode allowed cs
    else if c = '%' && (cs.take 2).length == 2 && (cs.take 2).all isHexDigit then
      c :: percentEncode allowed cs
    else c.toString.toUTF8.toList.flatMap percentByte ++ percentEncode allowed cs
where
  isHexDigit (c : Char) : Bool :=
    c.isDigit || 'a' ≤ c && c ≤ 'f' || 'A' ≤ c && c ≤ 'F'

/-- Visible ASCII characters other than those listed. -/
def visibleExcept (refused : String) (c : Char) : Bool :=
  0x21 ≤ c.toNat && c.toNat < 0x7F && !refused.toList.contains c

def inPath : Char → Bool := visibleExcept "\"#<>?`\x7b\x7d"

def inQuery : Char → Bool := visibleExcept "\"#<>"

def inFragment : Char → Bool := visibleExcept "\"<>`"

def inUserinfo : Char → Bool := visibleExcept "\"#<>?`\x7b\x7d/;=@[\\]^|"

def inHost (c : Char) : Bool :=
  c.isAlphanum || "-._~!$&'()*+,;=\"`\x7b\x7d%|\\".toList.contains c

def normalizePath (path : List Char) : List Char :=
  let segments := Text.pieces '/' [] path
  if segments.contains ['.'] || segments.contains ['.', '.'] then
    let kept := segments.foldl (fun kept segment =>
      if segment == ['.'] then kept
      else if segment == ['.', '.'] then
        if kept == [] || kept == [[]] then kept else kept.tail
      else segment :: kept) ([] : List (List Char))
    ['/'].intercalate kept.reverse
  else path

/-- Whether the text can be read as four numbers with a character between each two, which
may be a digit as well. -/
def looksDotted (host : List Char) : Bool :=
  let runs := Text.pieces '.' [] (host.map fun c => if c.isDigit then c else '.')
  let spare := runs.foldl (fun spare run => spare + (run.length - 1) / 2) 0
  runs.all (!·.isEmpty) && runs.length ≤ 4 && 4 ≤ runs.length + spare

/-- Whether the text is four bytes without leading zeros, joined by dots. -/
def isDottedAddress (host : List Char) : Bool :=
  let parts := Text.pieces '.' [] host
  parts.length == 4 && parts.all fun p =>
    !p.isEmpty && p.length ≤ 3 && p.all Char.isDigit && (p.length == 1 || p.head? != some '0') &&
      Decimal.ofDigits (Decimal.digitsOf p) ≤ 255

/-- Whether the parts are groups of at most four hexadecimal digits. -/
def areGroups (parts : List (List Char)) : Bool :=
  parts.all fun p => !p.isEmpty && p.length ≤ 4 && p.all percentEncode.isHexDigit

/-- How many groups the parts stand for, where a dotted address at the end stands for two. -/
def groupCount? (parts : List (List Char)) : Option Nat :=
  match parts.getLast? with
  | none => some 0
  | some last =>
    if last.contains '.' then
      if isDottedAddress last && areGroups parts.dropLast then
        some (parts.length + 1)
      else none
    else if areGroups parts then some parts.length else none

/-- Whether the text is a numeric address of eight groups, a run of which may be left out. -/
def isGroupedAddress (host : List Char) : Bool :=
  let groups (cs : List Char) : Option Nat :=
    if cs.isEmpty then some 0 else groupCount? (Text.pieces ':' [] cs)
  match Text.cut? [':', ':'] (host.takeWhile (· != '%')) with
  | none => groups host == some 8
  | some (before, after) =>
    match groups before, groups after with
    | some m, some n => m + n < 8 && !before.contains '.'
    | _, _ => false

def normalizeHost (host : List Char) : Except Fault (List Char) :=
  if host.isEmpty then .ok []
  else if looksDotted host then
    if isDottedAddress host then .ok host
    else .error (.invalidUrl s!"Invalid IPv4 address: {Text.quoted (String.ofList host)}")
  else if host.head? == some '[' && host.getLast? == some ']' then
    if isGroupedAddress host.tail.dropLast then .ok host.tail.dropLast
    else .error (.invalidUrl s!"Invalid IPv6 address: {Text.quoted (String.ofList host)}")
  else if host.all fun c => c.toNat < 0x80 then
    .ok (percentEncode inHost (host.map Char.toLower))
  else .error (.invalidUrl s!"Invalid IDNA hostname: {Text.quoted (String.ofList host)}")

/-- The port that a scheme, as it is written, implies. -/
def defaultPort? (scheme : String) : Option Int :=
  [("ftp", 21), ("http", 80), ("https", 443), ("ws", 80), ("wss", 443)].lookup scheme

def normalizePort (scheme : String) (port : List Char) : Except Fault (Option Int) :=
  if port.isEmpty then .ok none
  else
    let text := String.ofList port
    match Decimal.int? text with
    | none => .error (.invalidUrl s!"Invalid port: {Text.quoted text}")
    | some n => .ok (if defaultPort? scheme == some n then none else some n)

def firstControl? (cs : List Char) : Option (Char × Nat) :=
  cs.zipIdx.find? fun (c, _) => c.toNat < 0x20 || c.toNat == 0x7F

/-- How many characters an address may have. -/
def maxLength : Nat := 65536

def ofString (s : String) : Except Fault Url := do
  let cs := s.toList
  if maxLength < cs.length then throw (.invalidUrl "URL too long")
  if let some (c, i) := firstControl? cs then
    throw (.invalidUrl ("Invalid non-printable ASCII character in URL, " ++
      s!"{Text.quoted c.toString} at position {i}."))
  let raw := splitComponents cs
  let (user, rest) := splitUserinfo (raw.authority.getD [])
  let (host, rest) := splitHost rest
  let scheme := String.ofList raw.scheme
  let host ← normalizeHost host
  let port ← normalizePort scheme (splitPort rest)
  let hasAuthority := !user.isEmpty || !host.isEmpty || port.isSome
  if scheme.isEmpty && !hasAuthority then
    if ['/', '/'].isPrefixOf raw.path then
      throw (.invalidUrl "Relative URLs cannot have a path starting with '//'")
    if [':'].isPrefixOf raw.path then
      throw (.invalidUrl "Relative URLs cannot have a path starting with ':'")
  let path :=
    if scheme.isEmpty && !hasAuthority then raw.path
    else if hasAuthority && raw.path.isEmpty then ['/']
    else normalizePath raw.path
  return {
    scheme := scheme.toLower
    userinfo := String.ofList (percentEncode inUserinfo user)
    host := String.ofList host
    port
    path := String.ofList (percentEncode inPath path)
    query := raw.query.map fun q => String.ofList (percentEncode inQuery q)
    fragment := raw.fragment.map fun f => String.ofList (percentEncode inFragment f) }

def hexValue (c : Char) : Nat :=
  if c.isDigit then c.toNat - '0'.toNat else c.toLower.toNat - 'a'.toNat + 10

/-- The bytes of a text, in which escapes stand for the bytes that they name. -/
def unescaped : List Char → List UInt8
  | [] => []
  | '%' :: a :: b :: cs =>
    if percentEncode.isHexDigit a && percentEncode.isHexDigit b then
      UInt8.ofNat (16 * hexValue a + hexValue b) :: unescaped cs
    else '%'.toString.toUTF8.toList ++ unescaped (a :: b :: cs)
  | c :: cs => c.toString.toUTF8.toList ++ unescaped cs

/-- The credentials of the user part: a name and a password with a colon between them. -/
def credentials? (url : Url) : Option (List UInt8) :=
  let user := url.userinfo.toList
  let bytes (cs : List Char) := unescaped (cs.takeWhile (· != ':')) ++ ":".toUTF8.toList ++
    unescaped ((cs.dropWhile (· != ':')).drop 1)
  if user.all (· == ':') && user.length ≤ 1 then none else some (bytes user)

/-- The host as an authority holds it. -/
def bracketedHost (url : Url) : String :=
  if url.host.toList.contains ':' then s!"[{url.host}]" else url.host

def authority (url : Url) : String :=
  (if url.userinfo.isEmpty then "" else url.userinfo ++ "@") ++ url.bracketedHost ++
    (match url.port with
      | some port => s!":{port}"
      | none => "")

def toText (url : Url) : String :=
  (if url.scheme.isEmpty then "" else url.scheme ++ ":") ++
    (if url.authority.isEmpty then "" else "//" ++ url.authority) ++ url.path ++
    (match url.query with
      | some query => "?" ++ query
      | none => "") ++
    (match url.fragment with
      | some fragment => "#" ++ fragment
      | none => "")

/-- The address of `route` below `base`, whose query precedes the route. -/
def extend (base : Url) (route : String) : Url :=
  let path := if base.path.isEmpty then "/" else base.path
  let target := match base.query with
    | some query => path ++ "?" ++ query
    | none => path
  let target := if target.endsWith "/" then target else target ++ "/"
  let target := target.toList ++ route.toList.dropWhile (· == '/')
  let query := match target.dropWhile (· != '?') with
    | '?' :: query => some (String.ofList query)
    | _ => none
  { base with path := String.ofList (target.takeWhile (· != '?')), query }

end Url

end AgentReporting
