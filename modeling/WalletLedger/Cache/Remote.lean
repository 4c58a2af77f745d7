import WalletLedger.Text.Hexadecimal
import WalletLedger.Text.Query

/-!
# Remote caches

A remote cache is opened by a client, which is a parameter: what a client makes
of a URL is up to it. A connection is made only when it is first used, so what
is known of a remote cache is its client and how long its entries live
(`RemoteCache`).

A client that runs has to read URLs. `Remote.Address.ofUrl?` stands in for one:
a URL names a host and a port, or a socket in the file system, and the number of
a database.
-/

namespace WalletLedger

/-- A remote cache: its client, and how many seconds its entries live. -/
structure RemoteCache (Client : Type) where
  client : Client
  ttl : Nat
deriving DecidableEq, Repr

namespace RemoteCache

variable {Client : Type}

/-- The remote cache of a URL, if a client takes the URL. Entries live a second at least. -/
def ofUrl? (client? : String → Option Client) (url : String) (ttl : Nat) :
    Option (RemoteCache Client) :=
  (client? url).map fun client => ⟨client, max ttl 1⟩

/-- The text that describes a remote cache to which no connection was made. -/
def text (c : RemoteCache Client) : String :=
  "RedisCache \x7b ttl_secs: " ++ Text.ofNat c.ttl ++ ", connected: false \x7d"

end RemoteCache

end WalletLedger

namespace WalletLedger.Remote

/-! ## The parts of a URL -/

/-- The parts of a URL whose scheme has no rules of its own. -/
structure Url where
  scheme : List Char
  /-- The part between two slashes and the path, when there is one. -/
  authority : Option (List Char)
  /-- The segments of a path that starts with a slash; none for any other path. -/
  segments : Option (List (List Char))
  query : List Char
  fragment : List Char

/-- The characters before and after the first that satisfies a condition. -/
def cut (stops : Char → Bool) (cs : List Char) : List Char × List Char :=
  (cs.takeWhile fun c => !stops c, cs.dropWhile fun c => !stops c)

/-- Whether a character is a control or a space. -/
def isControlOrSpace (c : Char) : Bool := c ≤ ' '

/-- The text without controls and spaces at its ends and without tabs and line ends. -/
def clean (s : String) : List Char :=
  let cs := s.toList.dropWhile isControlOrSpace
  let cs := (cs.reverse.dropWhile isControlOrSpace).reverse
  cs.filter fun c => c ≠ '\t' && c ≠ '\n' && c ≠ '\r'

/-- The scheme before the first colon, in lower case. -/
def scheme? (cs : List Char) : Option (List Char × List Char) :=
  match cut (· = ':') cs with
  | (c :: name, _ :: rest) =>
    if c.isAlpha && name.all (fun c => c.isAlphanum || c = '+' || c = '-' || c = '.') then
      some ((c :: name).map Char.toLower, rest)
    else none
  | _ => none

/-- Whether a segment stands for the directory it is in. -/
def isDot (segment : List Char) : Bool :=
  let s := segment.map Char.toLower
  s == ['.'] || s == "%2e".toList

/-- Whether a segment stands for the directory above. -/
def isDoubleDot (segment : List Char) : Bool :=
  let s := segment.map Char.toLower
  s == "..".toList || s == ".%2e".toList || s == "%2e.".toList || s == "%2e%2e".toList

/-- The segments of a path with dots and double dots carried out, given those
before them, last first. -/
def resolve (before : List (List Char)) : List (List Char) → List (List Char)
  | [] => before.reverse
  | segment :: rest =>
    let last := rest.isEmpty
    if isDoubleDot segment then
      resolve (if last then [] :: before.drop 1 else before.drop 1) rest
    else if isDot segment then resolve (if last then [] :: before else before) rest
    else resolve (segment :: before) rest

/-- The parts of a URL. -/
def Url.ofString? (s : String) : Option Url := do
  let (scheme, rest) ← scheme? (clean s)
  let (rest, fragment) := cut (· = '#') rest
  let (rest, query) := cut (· = '?') rest
  let (authority, path) : Option (List Char) × List Char := match rest with
    | '/' :: '/' :: rest => let (a, p) := cut (· = '/') rest; (some a, p)
    | _ => (none, rest)
  let segments := match path with
    | '/' :: path => some (resolve [] (path.splitOn '/'))
    | _ => none
  some ⟨scheme, authority, segments, query.drop 1, fragment.drop 1⟩

/-! ## Hosts -/

/-- Whether a character may not stand in a host. -/
def isForbidden (c : Char) : Bool :=
  c == '\x00' || c == '\t' || c == '\n' || c == '\r' || " #/:<>?@[\\]^|".toList.contains c

/-- Whether a text is a number from 0 to 255 without leading zeros. -/
def isOctet (cs : List Char) : Bool :=
  cs.length ≤ 3 && cs != [] && cs.all Text.isDigit && (cs.length == 1 || cs.head? != some '0') &&
    decide (Text.digitsValue cs < 256)

/-- The number of 16-bit groups that a part of an address between two colons
stands for; the last one may be an address of four octets. -/
def groupsOf (last : Bool) (part : List Char) : Option Nat :=
  if part != [] && part.length ≤ 4 && part.all Text.isHexDigit then some 1
  else
    let octets := part.splitOn '.'
    if last && octets.length == 4 && octets.all isOctet then some 2 else none

/-- The number of groups in a list of parts, of which the last may be four octets. -/
def groups : List (List Char) → Option Nat
  | [] => some 0
  | [part] => groupsOf true part
  | part :: rest => do return (← groupsOf false part) + (← groups rest)

/-- Whether a text is an address of eight groups, a run of which may be left
out once between two colons. -/
def isAddress (cs : List Char) : Bool :=
  let count (cs : List Char) : Option Nat := if cs = [] then some 0 else groups (cs.splitOn ':')
  match (List.range cs.length).find? fun i => (cs.drop i).take 2 == [':', ':'] with
  | some i =>
    let before := cs.take i
    let noOctets := !before.contains '.'
    match count before, count (cs.drop (i + 2)) with
    | some a, some b => noOctets && a + b ≤ 7
    | _, _ => false
  | none => count cs == some 8

/-- The host of a text: an address in brackets, or a name, which may be empty. -/
def host? (cs : List Char) : Option (List Char) :=
  match cs with
  | '[' :: rest =>
    if rest.getLast? = some ']' && isAddress rest.dropLast then some rest.dropLast else none
  | _ => if cs.any isForbidden then none else some cs

/-- The port that digits name; no digits leave it open. -/
def port? (cs : List Char) : Option (Option Nat) :=
  if cs = [] then some none
  else match Text.readDigits? cs with
    | some n => if n < 65536 then some (some n) else none
    | none => none

/-- The user, password, host and port of an authority. -/
structure Authority where
  user : List Char
  password : List Char
  host : List Char
  port : Option Nat

/-- The parts of an authority. -/
def Authority.ofChars? (cs : List Char) : Option Authority := do
  let (info, rest) := match cs.reverse.span (· ≠ '@') with
    | (rest, _ :: info) => (info.reverse, rest.reverse)
    | (_, []) => ([], cs)
  if cs.contains '@' && rest.isEmpty && info.isEmpty then none
  let inBrackets := rest.head? = some '['
  let (host, port) :=
    if inBrackets then
      match cut (· = ']') rest with
      | (h, c :: p) => (h ++ [c], p)
      | (h, []) => (h, [])
    else cut (· = ':') rest
  let host ← host? host
  let port ← match port with
    | [] => some none
    | ':' :: digits => if host.isEmpty then none else port? digits
    | _ => none
  let (user, password) := cut (· = ':') info
  some ⟨user, password.drop 1, host, port⟩

/-! ## Addresses -/

/-- Where a remote cache listens, and the number of its database. -/
inductive Address
  | tcp (host : List Char) (port : Nat) (database : Int)
  | socket (path : List Char) (database : Int)
deriving DecidableEq, Repr

/-- The port when a URL names none. -/
def defaultPort : Nat := 6379

/-- The number of a database. -/
def database? (s : String) : Option Int :=
  Text.readInt? Int64.minValue.toInt Int64.maxValue.toInt s

/-- The value of a parameter; of several the last. -/
def parameter? (query : List Char) (name : String) : Option String :=
  (Text.queryParameters query).reverse.lookup name

/-- Whether the version of the protocol is one that is spoken. -/
def speaks (query : List Char) : Bool :=
  match parameter? query "protocol" with
  | some version => ["2", "resp2", "3", "resp3"].contains version
  | none => true

/-- Whether octets written with percent signs are UTF-8. -/
def isText (cs : List Char) : Bool :=
  match Text.Percent.decode (String.ofList cs) with
  | .ok _ => true
  | .error _ => false

/-- The address of a URL of a host. -/
def Address.tcp? (url : Url) : Option Address := do
  let authority ← Authority.ofChars? (← url.authority)
  if authority.host.isEmpty then none
  let path := List.intercalate ['/'] (url.segments.getD [])
  let path := path.dropWhile (· = '/')
  let path := (path.reverse.dropWhile (· = '/')).reverse
  let database ← if path = [] then some 0 else database? (String.ofList path)
  if isText authority.user && isText authority.password && speaks url.query then
    some (.tcp authority.host (authority.port.getD defaultPort) database)
  else none

/-- The address of a URL of a socket. -/
def Address.socket? (url : Url) : Option Address := do
  let segments ← url.segments
  let authority ← Authority.ofChars? (url.authority.getD [])
  if !authority.host.isEmpty && authority.host ≠ "localhost".toList then none
  let database ← match parameter? url.query "db" with
    | some s => database? s
    | none => some 0
  let path := '/' :: List.intercalate ['/'] segments
  if speaks url.query then some (.socket path database) else none

/-- The address of a URL. A connection that has to be encrypted is refused. -/
def Address.ofUrl? (s : String) : Option Address := do
  let url ← Url.ofString? s
  let scheme := String.ofList url.scheme
  if ["redis", "valkey"].contains scheme then tcp? url
  else if ["unix", "redis+unix", "valkey+unix"].contains scheme then socket? url
  else none

end WalletLedger.Remote
