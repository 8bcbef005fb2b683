import FeedDesk.Net.SocketAddress
import FeedDesk.Text.Invisible
import FeedDesk.Text.Lower
import FeedDesk.Text.Mark
import FeedDesk.Text.Utf8
import FeedDesk.Text.WordChar

namespace FeedDesk

/-!
Absolute addresses of the web. An address begins with a scheme. The schemes of the web proper are
always followed by a host, however many slashes stand between; behind any other scheme a host is
there only after two slashes, and an address without one is opaque or a mere path. Of an address
only its scheme and its host are kept, the rest can hold anything. A host is a name, four bytes,
which may be written in several ways, or eight groups in brackets.
-/

structure Url where
  /-- In lower case. -/
  scheme : Text
  /-- The host as it is written; it is missing in opaque addresses and mere paths. -/
  host : Option Text
  deriving DecidableEq

namespace Url

def isControlOrBlank (char : Char) : Bool :=
  char.toNat ≤ 0x20

/-- Tabs and line ends count for nothing wherever they stand. -/
def isPassedOver (char : Char) : Bool :=
  char == '\t' || char == '\n' || char == '\r'

def isSchemePart (char : Char) : Bool :=
  Text.isAsciiAlphanumeric char || char == '+' || char == '-' || char == '.'

/-- The scheme before its colon, in lower case, and what follows the colon. -/
def scheme? (text : Text) : Option (Text × Text) :=
  let name := text.takeWhile isSchemePart
  match name.head?, text.dropWhile isSchemePart with
  | some first, ':' :: rest =>
    if Text.isAsciiLetter first then some (Text.asciiLower name, rest) else none
  | _, _ => none

/-- Schemes of the web proper. -/
def isWebScheme (scheme : Text) : Bool :=
  (["http", "https", "ws", "wss", "ftp"] : List String).any fun name => scheme == name.toList

/-- Addresses of files, whose host may be empty. -/
def isFileScheme (scheme : Text) : Bool :=
  scheme == "file"

def isSlash (web : Bool) (char : Char) : Bool :=
  char == '/' || (web && char == '\\')

/-- The character ends the part with the host. -/
def endsAuthority (web : Bool) (char : Char) : Bool :=
  isSlash web char || char == '?' || char == '#'

/-- Characters that no name of a host may hold. -/
def isForbidden (char : Char) : Bool :=
  isControlOrBlank char || char.toNat == 0x7f || ("%#/:<>?@[\\]^|" : Text).elem char

def hexValue? (char : Char) : Option Nat := SocketAddress.digitValue? 16 char

/-- The bytes of a text in which a byte may be written by its digits after a percent sign. -/
def percentBytes : (fuel : Nat) → Text → List Nat
  | _, [] => []
  | 0, _ => []
  | fuel + 1, '%' :: high :: low :: rest =>
    match hexValue? high, hexValue? low with
    | some highValue, some lowValue => (highValue * 16 + lowValue) :: percentBytes fuel rest
    | _, _ => '%'.toNat :: percentBytes fuel (high :: low :: rest)
  | fuel + 1, char :: rest => Text.utf8Bytes char ++ percentBytes fuel rest

def isRightToLeft (char : Char) : Bool :=
  Ranges.covers [(0x0590, 0x08FF), (0xFB1D, 0xFDFF), (0xFE70, 0xFEFC), (0x10800, 0x10FFF),
    (0x1E800, 0x1EFFF)] char.toNat

/-- The character may stand in the name of a host. -/
def isNameChar (char : Char) : Bool :=
  if char.toNat < 0x80 then !isForbidden char
  else char != '\ufffd' && (Text.isMark char || !Text.isInvisible char)

/-- A point of any script. -/
def isPoint (char : Char) : Bool :=
  char == '.' || char == '\u3002' || char == '\uff0e' || char == '\uff61'

/-- In a name with right-to-left letters no part begins with a digit or mixes directions. -/
def isDirected (part : Text) : Bool :=
  !part.head?.any Text.isAsciiDigit &&
    !(part.any isRightToLeft && part.any Text.isAsciiLetter)

/-- A name of a host, given without percent signs. -/
def isName (name : Text) : Bool :=
  let parts := name.splitBy isPoint
  name.all isNameChar && parts.all (fun part => !part.head?.any Text.isMark) &&
    (!name.any isRightToLeft || parts.all isDirected)

/-- A number in one of three bases; `none` if the text is no number. -/
def hostNumber? (text : Text) : Option Nat :=
  let within (base : Nat) (digits : Text) : Option Nat :=
    if digits.all fun digit => (SocketAddress.digitValue? base digit).isSome then
      some (SocketAddress.numberIn base digits)
    else none
  match text with
  | [] => none
  | '0' :: 'x' :: digits => within 16 digits
  | '0' :: 'X' :: digits => within 16 digits
  | '0' :: digit :: digits => within 8 (digit :: digits)
  | digits => within 10 digits

/-- The parts of a name, without the empty one after a closing point. -/
def nameParts (name : Text) : List Text :=
  let parts := name.splitBy isPoint
  match parts.reverse with
  | [] :: before :: others => (before :: others).reverse
  | _ => parts

/-- The last part of a name is a number, so that the name must stand for four bytes. -/
def endsInNumber (name : Text) : Bool :=
  match (nameParts name).getLast? with
  | some last =>
    (!last.isEmpty && last.all Text.isAsciiDigit) || (hostNumber? last).isSome
  | none => false

/-- At most four numbers; the last one fills the bytes that the others leave. -/
def isFourBytes (name : Text) : Bool :=
  match (nameParts name).mapM hostNumber? with
  | none => false
  | some numbers =>
    match numbers.reverse with
    | [] => false
    | last :: others =>
      others.length ≤ 3 && others.all (· ≤ 255) && last < Nat.pow 256 (4 - others.length)

/-- Eight groups between brackets. -/
def isBracketed (host : Text) : Bool :=
  match host with
  | '[' :: inner =>
    match inner.reverse with
    | ']' :: reversed =>
      (SocketAddress.eightGroups? reversed.reverse).any fun (_, rest) => rest.isEmpty
    | _ => false
  | _ => false

/-- A host behind a scheme of the web. -/
def isWebHost (host : Text) : Bool :=
  if host.head? == some '[' then isBracketed host
  else
    let name := (Text.ofBytes (percentBytes host.length host)).lower
    isName name && !name.isEmpty && (!endsInNumber name || isFourBytes name)

/-- A host behind any other scheme. -/
def isOpaqueHost (host : Text) : Bool :=
  if host.head? == some '[' then isBracketed host
  else host.all fun char => !(char == '\x00' || char == ' ' || ("#/:<>?@[\\]^|" : Text).elem char)

/-- The host at the front of a text, up to a colon outside of brackets, and what follows it. -/
def splitHost : (bracketed : Bool) → Text → Text × Text
  | _, [] => ([], [])
  | bracketed, char :: text =>
    if char == ':' && !bracketed then ([], char :: text)
    else
      let bracketed := if char == '[' then true else if char == ']' then false else bracketed
      let (host, rest) := splitHost bracketed text
      (char :: host, rest)

/-- Nothing, or a colon with a port, which may be empty. -/
def isPortPart : Text → Bool
  | [] => true
  | ':' :: digits => digits.all Text.isAsciiDigit && Text.digitsValue digits ≤ 0xFFFF
  | _ => false

/-- What follows the last sign between a user and a host, and whether a user is named. -/
def afterUser (authority : Text) : Text × Bool :=
  let host := (authority.reverse.takeWhile (· != '@')).reverse
  (host, host.length + 1 < authority.length)

/-- The host of the part of an address that begins after its slashes. -/
def authority? (web : Bool) (text : Text) : Option Text :=
  let authority := text.takeWhile fun char => !endsAuthority web char
  let (rest, hasUser) := afterUser authority
  let (host, port) := splitHost false rest
  if !isPortPart port then none
  else if web then if isWebHost host then some host else none
  else if host.isEmpty then if hasUser || !port.isEmpty then none else some []
  else if isOpaqueHost host then some host
  else none

/-- A letter of a drive is no host. -/
def isDrive : Text → Bool
  | [letter, mark] => Text.isAsciiLetter letter && (mark == ':' || mark == '|')
  | _ => false

/-- The host of an address of a file, which may be empty. -/
def fileHost? (text : Text) : Option Text :=
  match text with
  | first :: second :: rest =>
    if isSlash true first && isSlash true second then
      let host := rest.takeWhile fun char => !endsAuthority true char
      if host.isEmpty || isDrive host then some []
      else if isWebHost host then some host
      else none
    else some []
  | _ => some []

def nonEmpty? (host : Text) : Option Text :=
  if host.isEmpty then none else some host

/-- Reads an absolute address. -/
def ofText? (text : Text) : Option Url := do
  let text := (text.trimBy isControlOrBlank).filter fun char => !isPassedOver char
  let (scheme, rest) ← scheme? text
  if isWebScheme scheme then
    let host ← authority? true (rest.dropWhile (isSlash true))
    return ⟨scheme, some host⟩
  else if isFileScheme scheme then
    let host ← fileHost? rest
    return ⟨scheme, nonEmpty? host⟩
  else
    match rest with
    | '/' :: '/' :: rest =>
      let host ← authority? false rest
      return ⟨scheme, nonEmpty? host⟩
    | _ => return ⟨scheme, none⟩

/-- Upper-case hexadecimal digits of a byte after a percent sign. -/
def percentByte (byte : Nat) : Text :=
  let digit (value : Nat) : Char :=
    if value < 10 then Nat.digitChar value else Char.ofNat (value + 55)
  ['%', digit (byte / 16), digit (byte % 16)]

/-- Writes the characters of a class, and all that are not printable ASCII, as bytes. -/
def percentEncoded (reserved : Text) (text : Text) : Text :=
  text.flatMap fun char =>
    if char.toNat ≤ 0x20 || 0x7f ≤ char.toNat || reserved.elem char then
      (Text.utf8Bytes char).flatMap percentByte
    else [char]

/-- The segment stands for the place itself. -/
def isHere (segment : Text) : Bool :=
  let lowered := segment.asciiLower
  lowered == "." || lowered == "%2e"

/-- The segment stands for the place above. -/
def isAbove (segment : Text) : Bool :=
  (["..", ".%2e", "%2e.", "%2e%2e"] : List String).any fun name =>
    segment.asciiLower == name.toList

/-- The segments of a path in order, without those that only move through it. -/
def walk (done : List Text) : List Text → List Text
  | [] => done
  | segment :: rest =>
    let left := if isAbove segment then done.dropLast else done
    if isHere segment || isAbove segment then
      if rest.isEmpty then left ++ [[]] else walk left rest
    else walk (done ++ [percentEncoded "\"#<>?\x60\x7b\x7d" segment]) rest

/-- The path and the query of an address of the web, from what follows its host. -/
def pathAndQuery (rest : Text) : Text :=
  let rest := (rest.takeWhile (· != '#')).filter fun char => !isPassedOver char
  let path := rest.takeWhile (· != '?')
  let query := rest.dropWhile (· != '?')
  let inner : Text := match path with
    | [] => []
    | _ :: inner => inner
  let segments := walk [] (Text.splitBy (isSlash true) inner)
  '/' :: (Text.joined "/" segments ++ percentEncoded "\"<>'" query)

/-- The value of a name in a query, which is a list of names with values. -/
def queryValue? (name query : Text) : Option Text :=
  let entries := (Text.splitBy (· == '&') query).filterMap (Text.cut? "=")
  (entries.lookup name).map fun value =>
    let spaced := value.map fun char => if char == '+' then ' ' else char
    Text.ofBytes (percentBytes spaced.length spaced)

/-- A service can be reached at the address: it has a host and is not that of a file. -/
def isReachable (url : Url) : Bool :=
  url.host.isSome && !isFileScheme url.scheme

end Url
end FeedDesk
