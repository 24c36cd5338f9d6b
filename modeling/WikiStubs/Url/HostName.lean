import WikiStubs.Url.Domain

/-!
# Host names

The server that a URL names: by a name, or by a number of the fourth or the sixth version of the
internet protocol.

A URL is written in printable ASCII. Every other character, and in each part of a URL some further
ones, is written as its UTF-8 bytes, each as a percent sign and two digits.

* `UrlFault` is why a text is no URL at which a server can be reached.
* `Percent.encode` writes a text, given the characters that its part reserves (`path`, `query`,
  `knownQuery`, `fragment` or `user`), and `Percent.decode?` reads one.
* `HostName.opaque?` reads the host of a scheme about which nothing is known, `HostName.domain?`
  that of a known scheme: a domain name, or a number in one of its old spellings.
* `HostName.render` writes a host in its one normal form.
-/
namespace WikiStubs

/-! ## Faults -/

/-- Why a text is no usable URL. -/
inductive UrlFault where
  /-- There is no scheme, so the text is relative to some other URL. -/
  | relative
  | emptyHost
  | badHostCharacter
  | badDomainName
  | badAddress4
  | badAddress6
  | badPort
  deriving DecidableEq

namespace UrlFault

def label : UrlFault → Text
  | relative => "RelativeUrlWithoutBase"
  | emptyHost => "EmptyHost"
  | badHostCharacter => "InvalidDomainCharacter"
  | badDomainName => "IdnaError"
  | badAddress4 => "InvalidIpv4Address"
  | badAddress6 => "InvalidIpv6Address"
  | badPort => "InvalidPort"

def message : UrlFault → Text
  | relative => "relative URL without a base"
  | emptyHost => "empty host"
  | badHostCharacter => "invalid domain character"
  | badDomainName => "invalid international domain name"
  | badAddress4 => "invalid IPv4 address"
  | badAddress6 => "invalid IPv6 address"
  | badPort => "invalid port number"

end UrlFault

/-! ## Percent encoding -/

namespace Percent

def encodeByte (b : UInt8) : Text :=
  '%' :: ((Nat.toDigits 16 (b.toNat / 16) ++ Nat.toDigits 16 (b.toNat % 16)).map Char.toUpper)

/-- Whether the character stands for itself in a part with the given reserved characters. -/
def isPlain (reserved : Text) (c : Char) : Bool :=
  0x20 ≤ c.toNat && c.toNat < 0x7f && !List.contains reserved c

def encodeChar (reserved : Text) (c : Char) : Text :=
  if isPlain reserved c then [c] else (String.utf8EncodeChar c).flatMap encodeByte

def encode (reserved t : Text) : Text := t.flatMap (encodeChar reserved)

def fragment : Text := " \"<>`"

def path : Text := fragment ++ "#?\x7b\x7d"

def user : Text := path ++ "/:;=@[\\]^|"

def query : Text := " \"#<>"

def knownQuery : Text := query ++ "'"

/-- The bytes of a text, with those put back for which a percent sign and two digits stand. -/
def bytes : Text → List UInt8
  | '%' :: a :: b :: t =>
    match Text.digit? a, Text.digit? b with
    | some m, some n => UInt8.ofNat (16 * m + n) :: bytes t
    | _, _ => String.utf8EncodeChar '%' ++ bytes (a :: b :: t)
  | c :: t => String.utf8EncodeChar c ++ bytes t
  | [] => []

/-- Decodes a text; nothing if its bytes are no text in UTF-8. -/
def decode? (t : Text) : Option Text :=
  (String.fromUTF8? ⟨(bytes t).toArray⟩).map String.toList

end Percent

/-! ## Hosts -/

inductive HostName where
  | named (name : Text)
  | address4 (number : Nat)
  | address6 (groups : List Nat)
  deriving DecidableEq

namespace HostName
open Text (areDigits number)

/-! ### Sixth version -/

/-- A group of one to four hexadecimal digits. -/
def group? (t : Text) : Option Nat :=
  if t ≠ [] ∧ t.length ≤ 4 ∧ areDigits 16 t then some (number 16 t) else none

/-- A byte in decimal digits without leading zeros. -/
def octet? (t : Text) : Option Nat :=
  if t ≠ [] ∧ areDigits 10 t ∧ (t.head? ≠ some '0' ∨ t.length = 1) ∧ number 10 t ≤ 255 then
    some (number 10 t)
  else none

/-- Two groups spelled as four bytes with dots. -/
def dotted? (t : Text) : Option (List Nat) :=
  match (t.splitOn '.').mapM octet? with
  | some [a, b, c, d] => some [256 * a + b, 256 * c + d]
  | _ => none

/-- Groups with colons between them, the last two perhaps spelled with dots. -/
def groups? (t : Text) : Option (List Nat) :=
  if t = [] then some []
  else
    let pieces := t.splitOn ':'
    let last := pieces.getLastD []
    match pieces.dropLast.mapM group?, (group? last).map ([·]) <|> dotted? last with
    | some front, some back => some (front ++ back)
    | _, _ => none

/-- An address of the sixth version: eight groups, or less with `::` in place of zeros. -/
def address6? (t : Text) : Option (List Nat) :=
  match Text.splitAtFirst? "::" t with
  | none =>
    match groups? t with
    | some gs => if gs.length = 8 then some gs else none
    | none => none
  | some (front, back) =>
    match groups? front, groups? back with
    | some fs, some bs =>
      if fs.length + bs.length ≤ 7 ∧ '.' ∉ front then
        some (fs ++ List.replicate (8 - (fs.length + bs.length)) 0 ++ bs)
      else none
    | _, _ => none

/-- Where the first of the longest runs of zeros starts, and its length. -/
def longestZeros : List Nat → Nat × Nat
  | [] => (0, 0)
  | g :: gs =>
    let here := ((g :: gs).takeWhile (· = 0)).length
    let (start, length) := longestZeros gs
    if length ≤ here then (0, here) else (start + 1, length)

def joinGroups (gs : List Nat) : Text := List.intercalate [':'] (gs.map (Nat.toDigits 16))

/-- An address of the sixth version, with `::` for its longest run of several zeros. -/
def renderAddress6 (gs : List Nat) : Text :=
  let (start, length) := longestZeros gs
  if length < 2 then joinGroups gs
  else joinGroups (gs.take start) ++ "::" ++ joinGroups (gs.drop (start + length))

def bracketed (t : Text) : Except UrlFault HostName :=
  match (if t.getLast? = some ']' then address6? (t.drop 1).dropLast else none) with
  | some gs => .ok (address6 gs)
  | none => .error .badAddress6

/-! ### Fourth version -/

/-- The number that a part of an address of the fourth version spells: hexadecimal after `0x`,
octal after `0`, else decimal. -/
def part? (t : Text) : Option Nat :=
  match t with
  | [] => none
  | '0' :: 'x' :: ds => if areDigits 16 ds then some (number 16 ds) else none
  | '0' :: d :: ds => if areDigits 8 (d :: ds) then some (number 8 (d :: ds)) else none
  | _ => if areDigits 10 t then some (number 10 t) else none

/-- The parts of a name between its dots, without an empty last one. -/
def parts (name : Text) : List Text :=
  let ps := name.splitOn '.'
  if ps.getLast? = some [] then ps.dropLast else ps

/-- Whether the last part of a name is a number, so that the name must be an address. -/
def endsInNumber (name : Text) : Bool :=
  match (parts name).getLast? with
  | none => false
  | some t => (t ≠ [] && areDigits 10 t) || (part? t).isSome

/-- An address of the fourth version in up to four parts. The last part fills what the others
leave. -/
def address4? (name : Text) : Option Nat :=
  match (parts name).mapM part? with
  | none => none
  | some ns =>
    let front := ns.dropLast
    let last := ns.getLastD 0
    let room := Nat.pow 256 (4 - front.length)
    if ns.length ≤ 4 ∧ front.all (· ≤ 255) ∧ last < room then
      some (front.foldl (fun n k => 256 * n + k) 0 * room + last)
    else none

def renderAddress4 (n : Nat) : Text :=
  List.intercalate ['.']
    ([n / 0x1000000, n / 0x10000 % 256, n / 0x100 % 256, n % 256].map (Nat.toDigits 10))

/-! ### Names -/

/-- What no host may hold. -/
def forbidden : Text := "\x00\t\n\r #/:<>?@[\\]^|"

def opaque? (t : Text) : Except UrlFault HostName :=
  if t.head? = some '[' then bracketed t
  else if t.any (List.contains forbidden) then .error .badHostCharacter
  else .ok (named (Percent.encode [] t))

def domain? (t : Text) : Except UrlFault HostName :=
  if t.head? = some '[' then bracketed t
  else
    match (Percent.decode? t).bind Domain.ascii? with
    | none => .error .badDomainName
    | some [] => .error .emptyHost
    | some name =>
      if endsInNumber name then
        match address4? name with
        | some n => .ok (address4 n)
        | none => .error .badAddress4
      else .ok (named name)

def render : HostName → Text
  | named name => name
  | address4 n => renderAddress4 n
  | address6 gs => '[' :: renderAddress6 gs ++ [']']

end HostName

end WikiStubs
