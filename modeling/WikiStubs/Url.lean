import WikiStubs.Url.HostName

/-!
# URLs

A URL that names a server: a scheme, perhaps a user, a host, perhaps a port, a path, and perhaps
a query and a fragment.

* `Url.ofText` reads a URL. Many texts spell the same one: case, default ports, dots in paths and
  characters that need encoding do not matter.
* `Url.render` writes a URL in its one normal form.
* `Address.ofPage` is where a page stands on the web, `Address.refusal` why an address cannot be
  used.
-/
namespace WikiStubs

/-- A URL that names a server. User, path, query and fragment are encoded. -/
structure Url where
  scheme : Text
  user : Option Text
  host : HostName
  port : Option Nat
  path : List Text
  query : Option Text
  fragment : Option Text
  deriving DecidableEq

namespace Url

/-! ## Schemes -/

/-- What is known about a scheme, which decides how the rest is read. -/
inductive Kind where
  /-- A scheme with servers, where a backslash is as good as a slash. -/
  | server
  /-- The scheme of files. -/
  | file
  /-- Any other scheme. -/
  | unknown
  deriving DecidableEq

/-- The schemes with servers, and their default ports. -/
def defaultPorts : List (Text × Nat) :=
  [("http", 80), ("https", 443), ("ws", 80), ("wss", 443), ("ftp", 21)]

def Kind.ofScheme (scheme : Text) : Kind :=
  if scheme = ("file" : Text) then file
  else if (defaultPorts.lookup scheme).isSome then server
  else unknown

/-- A character that a scheme may have after its first letter. -/
def isSchemeChar (c : Char) : Bool := c.isAlphanum || c == '+' || c == '-' || c == '.'

/-- The scheme at the start of a text, in lower case, and what follows its colon. -/
def splitScheme? (t : Text) : Option (Text × Text) :=
  match t.span isSchemeChar with
  | (c :: cs, ':' :: rest) => if c.isAlpha then some ((c :: cs).map Char.toLower, rest) else none
  | _ => none

/-! ## Authority -/

/-- Whether a character divides paths. -/
def Kind.isSlash (k : Kind) (c : Char) : Bool := c == '/' || (k ≠ .unknown && c == '\\')

def Kind.authority? (k : Kind) (rest : Text) : Option Text :=
  match k, rest with
  | .server, rest => some (rest.dropWhile k.isSlash)
  | _, a :: b :: rest => if k.isSlash a ∧ k.isSlash b then some rest else none
  | _, _ => none

def Kind.endsAuthority (k : Kind) (c : Char) : Bool := k.isSlash c || c == '?' || c == '#'

/-- The user information that a text spells: a name, and a password after a colon. -/
def userOf (t : Text) : Option Text :=
  let name := t.takeWhile (· ≠ ':')
  let password := (t.dropWhile (· ≠ ':')).drop 1
  let user := Percent.encode Percent.user name ++
    if password = [] then [] else ':' :: Percent.encode Percent.user password
  if user = [] then none else some user

/-- Splits host and port before the first colon outside brackets. -/
def splitPort (inBrackets : Bool) : Text → Text × Text
  | [] => ([], [])
  | c :: t =>
    if c = ':' ∧ !inBrackets then ([], c :: t)
    else
      let (host, port) := splitPort (c = '[' ∨ (inBrackets ∧ c ≠ ']')) t
      (c :: host, port)

/-- The port that follows a host, unless it is the default of the scheme, and what follows the
port: nothing, or a backslash and more. -/
def portOf (scheme : Text) : Text → Except UrlFault (Option Nat × Text)
  | [] => .ok (none, [])
  | _ :: t =>
    let digits := t.takeWhile Char.isDigit
    let rest := t.dropWhile Char.isDigit
    let port := Text.number 10 digits
    if 65535 < port ∨ (rest ≠ [] ∧ rest.head? ≠ some '\\') then .error .badPort
    else if digits = [] ∨ defaultPorts.lookup scheme = some port then .ok (none, rest)
    else .ok (some port, rest)

/-- A drive letter, which stands where a host may stand in the scheme of files. -/
def isDrive (t : Text) : Bool :=
  match t with
  | [c, d] => c.isAlpha && (d == ':' || d == '|')
  | _ => false

def Kind.hostOf (k : Kind) (t : Text) : Except UrlFault HostName :=
  match k with
  | .server => if t = [] then .error .emptyHost else HostName.domain? t
  | .unknown => if t = [] then .error .emptyHost else HostName.opaque? t
  | .file =>
    if t = [] ∨ isDrive t then .error .emptyHost
    else
      match HostName.domain? t with
      | .ok host => if host = .named "localhost" then .error .emptyHost else .ok host
      | .error e => .error e

/-! ## Path -/

def isHere (segment : Text) : Bool :=
  ([".", "%2e"] : List Text).contains (segment.map Char.toLower)

def isUp (segment : Text) : Bool :=
  (["..", ".%2e", "%2e.", "%2e%2e"] : List Text).contains (segment.map Char.toLower)

/-- Whether a segment is a drive letter, or starts with one and a backslash. -/
def startsWithDrive (segment : Text) : Bool :=
  isDrive (segment.take 2) && (segment.drop 2).head?.all (· == '\\')

/-- The reverse of the directories above those whose reverse is given. A drive is not left
upwards. -/
def leave : List Text → List Text
  | [] => []
  | s :: before => if startsWithDrive s then s :: before else before

/-- Resolves the segments that stand for directories, given the reverse of what stands before. -/
def resolveFrom (before : List Text) : List Text → List Text
  | [] => before.reverse
  | s :: rest =>
    if isUp s then
      if rest = [] then ([] :: leave before).reverse else resolveFrom (leave before) rest
    else if isHere s then
      if rest = [] then ([] :: before).reverse else resolveFrom before rest
    else resolveFrom (s :: before) rest

def Kind.pieces (k : Kind) (t : Text) : List Text :=
  let raw :=
    match t with
    | [] => if k = Kind.unknown then [] else [[]]
    | c :: cs => (if k.isSlash c then cs else c :: cs).splitOnP k.isSlash
  raw.map (Percent.encode Percent.path)

/-- The segments of the path of a file on a server. There are no empty ones at the start, and a
drive letter leaves no room for a server, unless it is cut off from the rest of its segment: then
both are segments, and the rest stands for nothing else. -/
def filePath (cut : Bool) (pieces : List Text) : Except UrlFault (List Text) :=
  match cut, pieces with
  | true, (c :: d :: name) :: pieces => .ok (resolveFrom [name, [c, d]] pieces)
  | _, pieces =>
    let segments := resolveFrom [] pieces
    if segments.head?.any isDrive then .error .emptyHost
    else
      let path := segments.dropWhile (· = [])
      .ok (if path = [] then [[]] else path)

/-! ## Reading and writing -/

/-- A tab or a line end, which is passed over wherever it stands. -/
def isBreak (c : Char) : Bool := c == '\t' || c == '\n' || c == '\r'

def unbroken (t : Text) : Text := t.filter (!isBreak ·)

/-- Whether, in the text of a URL of a file on a server, a tab or a line end cuts off a drive letter
from the rest of the first segment of the path. -/
def cutsDrive (t : Text) : Bool :=
  let k := Kind.file
  let afterSlash := fun (t : Text) => (t.dropWhile (!k.isSlash ·)).drop 1
  let path := ((afterSlash (afterSlash t)).dropWhile (!k.endsAuthority ·))
  let segment := ((path.drop 1).takeWhile (!k.endsAuthority ·))
  let rest := (segment.dropWhile (· ≠ ':')).drop 1
  path.head?.any k.isSlash && isDrive (unbroken (segment.takeWhile (· ≠ ':')) ++ [':']) &&
    rest.head?.any isBreak && unbroken rest ≠ []

def ofAuthority (scheme : Text) (k : Kind) (cut : Bool) (rest : Text) : Except UrlFault Url := do
  let authority := rest.takeWhile (!k.endsAuthority ·)
  let tail := rest.dropWhile (!k.endsAuthority ·)
  let (user, server) :=
    match (if k = Kind.file then none else Text.splitAtLast? '@' authority) with
    | some (user, server) => (userOf user, server)
    | none => (none, authority)
  let (name, port) := if k = Kind.file then (server, []) else splitPort false server
  let host ← k.hostOf name
  let (port, more) ← portOf scheme port
  let path := (more ++ tail).takeWhile fun c => c ≠ '?' ∧ c ≠ '#'
  let tail := (more ++ tail).dropWhile fun c => c ≠ '?' ∧ c ≠ '#'
  let query := (tail.takeWhile (· ≠ '#')).drop 1
  let fragment := (tail.dropWhile (· ≠ '#')).drop 1
  let pieces := k.pieces path
  let path ← if k = Kind.file then filePath cut pieces else .ok (resolveFrom [] pieces)
  let reserved := if k = Kind.unknown then Percent.query else Percent.knownQuery
  return {
    scheme := scheme
    user := user
    host := host
    port := port
    path := path
    query := if tail.head? = some '?' then some (Percent.encode reserved query) else none
    fragment :=
      if '#' ∈ tail then some (Percent.encode Percent.fragment fragment) else none }

/-- Reads a URL. Blanks and controls at its ends are passed over. -/
def ofText (t : Text) : Except UrlFault Url :=
  let t := t.trimBy (· ≤ ' ')
  match splitScheme? (unbroken t) with
  | none => .error .relative
  | some (scheme, rest) =>
    let k := Kind.ofScheme scheme
    match k.authority? rest with
    | none => .error .emptyHost
    | some rest => ofAuthority scheme k (cutsDrive t) rest

def render (u : Url) : Text :=
  u.scheme ++ "://" ++ (u.user.map (· ++ ['@'])).getD [] ++ u.host.render ++
    (u.port.map (':' :: Nat.toDigits 10 ·)).getD [] ++ u.path.flatMap ('/' :: ·) ++
    (u.query.map ('?' :: ·)).getD [] ++ (u.fragment.map ('#' :: ·)).getD []

end Url

/-! ## Addresses of pages -/

namespace Address

/-- The root of the raw wiki pages. -/
def defaultBase : Text := "https://raw.githubusercontent.com/wiki/nesbox/TIC-80"

/-- The address of a page under a base. Slashes at the end of the base do not count. Mirrors
`url_for`. -/
def ofPage (base page : Text) : Text := base.trimEndBy (· == '/') ++ "/" ++ page ++ ".md"

/-- Why nothing can be transferred from an address, the nearest cause first: it is no usable URL,
its scheme names no way of transfer, or no transfer is at hand. -/
def refusal (address : Text) : List Text :=
  match Url.ofText address with
  | .error fault =>
    ["Bad URL: failed to parse URL: " ++ fault.label ++ ": " ++ fault.message, fault.message]
  | .ok url =>
    if (["http", "https"] : List Text).contains url.scheme then
      [url.render ++ ": Connection Failed: no transfer is at hand"]
    else [url.render ++ ": Unknown Scheme: unknown scheme '" ++ url.scheme ++ "'"]

end Address
end WikiStubs
