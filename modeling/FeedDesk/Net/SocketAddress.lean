import FeedDesk.Text.Basic

namespace FeedDesk

/-!
Addresses of sockets: a host by number and a port. A host of four bytes is written with points
between them, a host of eight groups in hexadecimal with colons, and in it the longest run of zero
groups may be left out. The written form is unique: it leaves out the first of the longest runs,
if it is longer than one group, and it shows a host of four bytes inside a host of eight groups.
-/

inductive HostAddress
  | four (bytes : List Nat)
  /-- Eight groups, and the number of the link to which the address is local, or zero. -/
  | eight (groups : List Nat) (scope : Nat)
  deriving DecidableEq

structure SocketAddress where
  host : HostAddress
  port : Nat
  deriving DecidableEq

namespace SocketAddress

def digitValue? (base : Nat) (char : Char) : Option Nat :=
  let value? :=
    if Text.isAsciiDigit char then some (char.toNat - 48)
    else if 'a' ≤ char && char ≤ 'f' then some (char.toNat - 87)
    else if 'A' ≤ char && char ≤ 'F' then some (char.toNat - 55)
    else none
  value?.filter (· < base)

def numberIn (base : Nat) (digits : Text) : Nat :=
  digits.foldl (fun value digit => value * base + (digitValue? base digit).getD 0) 0

/-- A number at the front of a text, at most `limit`, and what follows it. -/
def number? (base limit : Nat) (text : Text) : Option (Nat × Text) :=
  let digits := text.takeWhile fun char => (digitValue? base char).isSome
  if digits.isEmpty then none
  else
    let value := numberIn base digits
    if value ≤ limit then some (value, text.drop digits.length) else none

/-- A byte in decimal digits without leading zeros. -/
def byte? (text : Text) : Option (Nat × Text) :=
  let digits := text.takeWhile Text.isAsciiDigit
  if 3 < digits.length ∨ digits.head? = some '0' ∧ 1 < digits.length then none
  else number? 10 255 text

/-- Four bytes with points between them. -/
def fourBytes? (text : Text) : Option (List Nat × Text) := do
  let (first, rest) ← byte? text
  let rest ← Text.strip? "." rest
  let (second, rest) ← byte? rest
  let rest ← Text.strip? "." rest
  let (third, rest) ← byte? rest
  let rest ← Text.strip? "." rest
  let (fourth, rest) ← byte? rest
  return ([first, second, third, fourth], rest)

/-- A group of at most four hexadecimal digits. -/
def group? (text : Text) : Option (Nat × Text) :=
  if 4 < (text.takeWhile fun char => (digitValue? 16 char).isSome).length then none
  else number? 16 0xFFFF text

/-- What follows the colon in front of a group; there is none in front of the first. -/
def afterColon? (isFirst : Bool) (text : Text) : Option Text :=
  if isFirst then some text else Text.strip? ":" text

/-- Up to `room` groups, what follows them, and whether the last two were written as four bytes. -/
def groups : (room : Nat) → (isFirst : Bool) → Text → List Nat × Text × Bool
  | 0, _, text => ([], text, false)
  | room + 1, isFirst, text =>
    match (afterColon? isFirst text).bind fourBytes? with
    | some ([first, second, third, fourth], rest) =>
      if 1 ≤ room then ([first * 256 + second, third * 256 + fourth], rest, true)
      else ([], text, false)
    | _ =>
      match (afterColon? isFirst text).bind group? with
      | none => ([], text, false)
      | some (group, rest) =>
        let (others, rest, bytes) := groups room false rest
        (group :: others, rest, bytes)

/-- Eight groups, of which a run of zeros may be left out. -/
def eightGroups? (text : Text) : Option (List Nat × Text) :=
  let (head, rest, bytes) := groups 8 true text
  if head.length = 8 then some (head, rest)
  else if bytes then none
  else (Text.strip? "::" rest).map fun rest =>
    let (tail, rest, _) := groups (7 - head.length) true rest
    (head ++ List.replicate (8 - head.length - tail.length) 0 ++ tail, rest)

def port? (text : Text) : Option Nat := do
  let rest ← Text.strip? ":" text
  match ← number? 10 0xFFFF rest with
  | (port, []) => some port
  | _ => none

def scope? (text : Text) : Option (Nat × Text) :=
  match text with
  | '%' :: rest => number? 10 4294967295 rest
  | text => some (0, text)

/-- Reads an address that makes up the whole text. -/
def ofText? (text : Text) : Option SocketAddress :=
  match text with
  | '[' :: rest => do
    let (groups, rest) ← eightGroups? rest
    let (scope, rest) ← scope? rest
    let rest ← Text.strip? "]" rest
    let port ← port? rest
    return ⟨.eight groups scope, port⟩
  | text => do
    let (bytes, rest) ← fourBytes? text
    let port ← port? rest
    return ⟨.four bytes, port⟩

def bytesText (bytes : List Nat) : Text :=
  Text.joined "." (bytes.map Text.ofNat)

def groupsText (groups : List Nat) : Text :=
  Text.joined ":" (groups.map (Nat.toDigits 16))

/-- The place and the length of the first of the longest runs of zeros. -/
def longestZeros (groups : List Nat) : Nat × Nat :=
  let runs := (List.range groups.length).map fun place =>
    (place, ((groups.drop place).takeWhile (· == 0)).length)
  runs.foldl (fun longest run => if longest.2 < run.2 then run else longest) (0, 0)

/-- The host of four bytes that stands inside a host of eight groups. -/
def inner? : List Nat → Option (List Nat)
  | [0, 0, 0, 0, 0, 0xFFFF, high, low] => some [high / 256, high % 256, low / 256, low % 256]
  | _ => none

def eightText (groups : List Nat) : Text :=
  match inner? groups with
  | some bytes => "::ffff:" ++ bytesText bytes
  | none =>
    let (place, length) := longestZeros groups
    if 1 < length then
      groupsText (groups.take place) ++ "::" ++ groupsText (groups.drop (place + length))
    else groupsText groups

def text (address : SocketAddress) : Text :=
  let host : Text := match address.host with
    | .four bytes => bytesText bytes
    | .eight groups scope =>
      let link : Text := if scope = 0 then [] else '%' :: Text.ofNat scope
      '[' :: (eightText groups ++ link ++ [']'])
  host ++ ':' :: Text.ofNat address.port

end SocketAddress
end FeedDesk
