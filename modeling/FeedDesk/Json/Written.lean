import FeedDesk.Json.Numeral

namespace FeedDesk
namespace Json

/-!
The grammar of JSON. Reading yields a value as it is written: texts still hold their escapes and
numerals their digits, so that a value nobody asks for is only checked against the grammar, while
half a surrogate pair or a numeral out of range is refused where the value is taken. The amount
of fuel is the length of the text, which bounds the nesting and the number of items together.
-/

/-- A piece of a quoted text: a character, or a code unit given by its four digits. -/
inductive Piece
  | char (value : Char)
  | unit (code : Nat)
  deriving DecidableEq

inductive Written
  | null
  | boolean (value : Bool)
  | numeral (value : Numeral)
  | string (pieces : List Piece)
  | array (items : List Written)
  | object (members : List (List Piece × Written))
  deriving Inhabited

namespace Written

/-- The blanks that may stand between the parts of a value. -/
def isSpace (char : Char) : Bool :=
  char == ' ' || char == '\n' || char == '\t' || char == '\r'

def skipSpace (text : Text) : Text :=
  text.dropWhile isSpace

def hexValue? (char : Char) : Option Nat :=
  if Text.isAsciiDigit char then some (char.toNat - 48)
  else if 'a' ≤ char && char ≤ 'f' then some (char.toNat - 87)
  else if 'A' ≤ char && char ≤ 'F' then some (char.toNat - 55)
  else none

/-- The character that an escape letter stands for. -/
def escaped? : Char → Option Char
  | '"' => some '"'
  | '\\' => some '\\'
  | '/' => some '/'
  | 'b' => some '\x08'
  | 'f' => some '\x0c'
  | 'n' => some '\n'
  | 'r' => some '\r'
  | 't' => some '\t'
  | _ => none

def unit? (first second third fourth : Char) : Option Nat := do
  let first ← hexValue? first
  let second ← hexValue? second
  let third ← hexValue? third
  let fourth ← hexValue? fourth
  return first * 4096 + second * 256 + third * 16 + fourth

/-- The pieces of a quoted text after its opening quote, and the text after its closing one. -/
def pieces? : Text → Option (List Piece × Text)
  | [] => none
  | '"' :: rest => some ([], rest)
  | '\\' :: 'u' :: first :: second :: third :: fourth :: rest => do
    let code ← unit? first second third fourth
    let (pieces, rest) ← pieces? rest
    return (.unit code :: pieces, rest)
  | '\\' :: letter :: rest => do
    let char ← escaped? letter
    let (pieces, rest) ← pieces? rest
    return (.char char :: pieces, rest)
  | char :: rest =>
    if char.toNat < 0x20 || char == '\\' then none
    else do
      let (pieces, rest) ← pieces? rest
      return (.char char :: pieces, rest)

/-- The digits at the front of a text, at least one, and what follows them. -/
def digits? (text : Text) : Option (Text × Text) :=
  match text.takeWhile Text.isAsciiDigit with
  | [] => none
  | digits => some (digits, text.dropWhile Text.isAsciiDigit)

/-- The digits before the point; only a lone zero may begin with zero. -/
def whole? (text : Text) : Option (Text × Text) :=
  match digits? text with
  | some ('0' :: _ :: _, _) => none
  | found => found

def places? : Text → Option (Option Text × Text)
  | '.' :: text => (digits? text).map fun (digits, rest) => (some digits, rest)
  | text => some (none, text)

def power? : Text → Option (Option (Bool × Text) × Text)
  | [] => some (none, [])
  | mark :: text =>
    if mark == 'e' || mark == 'E' then
      match text with
      | '-' :: text => (digits? text).map fun (digits, rest) => (some (true, digits), rest)
      | '+' :: text => (digits? text).map fun (digits, rest) => (some (false, digits), rest)
      | text => (digits? text).map fun (digits, rest) => (some (false, digits), rest)
    else some (none, mark :: text)

def numeral? (text : Text) : Option (Numeral × Text) := do
  let (negative, text) := match text with
    | '-' :: text => (true, text)
    | text => (false, text)
  let (whole, text) ← whole? text
  let (places, text) ← places? text
  let (power, text) ← power? text
  return (⟨negative, whole, places, power⟩, text)

mutual

/-- A value at the front of the text, and what follows it. -/
def value? : (fuel : Nat) → Text → Option (Written × Text)
  | 0, _ => none
  | fuel + 1, text =>
    match skipSpace text with
    | [] => none
    | '"' :: rest => (pieces? rest).map fun (pieces, rest) => (string pieces, rest)
    | '[' :: rest =>
      match skipSpace rest with
      | ']' :: rest => some (array [], rest)
      | rest => (items? fuel rest).map fun (items, rest) => (array items, rest)
    | '\x7b' :: rest =>
      match skipSpace rest with
      | '\x7d' :: rest => some (object [], rest)
      | rest => (members? fuel rest).map fun (members, rest) => (object members, rest)
    | 'n' :: 'u' :: 'l' :: 'l' :: rest => some (null, rest)
    | 't' :: 'r' :: 'u' :: 'e' :: rest => some (boolean true, rest)
    | 'f' :: 'a' :: 'l' :: 's' :: 'e' :: rest => some (boolean false, rest)
    | rest => (numeral? rest).map fun (value, rest) => (numeral value, rest)

/-- Items up to the closing bracket. -/
def items? : (fuel : Nat) → Text → Option (List Written × Text)
  | 0, _ => none
  | fuel + 1, text => do
    let (item, rest) ← value? fuel text
    match skipSpace rest with
    | ',' :: rest =>
      let (items, rest) ← items? fuel rest
      return (item :: items, rest)
    | ']' :: rest => return ([item], rest)
    | _ => none

/-- Members up to the closing brace. -/
def members? : (fuel : Nat) → Text → Option (List (List Piece × Written) × Text)
  | 0, _ => none
  | fuel + 1, text =>
    match skipSpace text with
    | '"' :: rest => do
      let (name, rest) ← pieces? rest
      match skipSpace rest with
      | ':' :: rest =>
        let (value, rest) ← value? fuel rest
        match skipSpace rest with
        | ',' :: rest =>
          let (members, rest) ← members? fuel rest
          return ((name, value) :: members, rest)
        | '\x7d' :: rest => return ([(name, value)], rest)
        | _ => none
      | _ => none
    | _ => none

end

/-- The value that makes up the whole text. -/
def ofText? (text : Text) : Option Written :=
  match value? (text.length + 1) text with
  | some (value, rest) => if (skipSpace rest).isEmpty then some value else none
  | none => none

def isLeadingUnit (code : Nat) : Bool := 0xD800 ≤ code && code ≤ 0xDBFF
def isTrailingUnit (code : Nat) : Bool := 0xDC00 ≤ code && code ≤ 0xDFFF

/-- The characters of a quoted text; a surrogate must stand in a pair. -/
def chars? : List Piece → Option Text
  | [] => some []
  | .char char :: pieces => (chars? pieces).map (char :: ·)
  | .unit leading :: .unit trailing :: pieces =>
    if isLeadingUnit leading then
      if isTrailingUnit trailing then
        (chars? pieces).map
          (Char.ofNat (0x10000 + (leading - 0xD800) * 0x400 + (trailing - 0xDC00)) :: ·)
      else none
    else if isTrailingUnit leading then none
    else (chars? (.unit trailing :: pieces)).map (Char.ofNat leading :: ·)
  | .unit code :: pieces =>
    if isLeadingUnit code || isTrailingUnit code then none
    else (chars? pieces).map (Char.ofNat code :: ·)

mutual

/-- The value with every text and numeral taken. -/
def taken? : Written → Option Json
  | null => some .null
  | boolean value => some (.boolean value)
  | numeral value => value.number?
  | string pieces => (chars? pieces).map .string
  | array items => (takenItems? items).map .array
  | object members => (takenMembers? members).map .object

def takenItems? : List Written → Option (List Json)
  | [] => some []
  | item :: items => do
    let item ← taken? item
    let items ← takenItems? items
    return item :: items

def takenMembers? : List (List Piece × Written) → Option (List (Text × Json))
  | [] => some []
  | (name, value) :: members => do
    let name ← chars? name
    let value ← taken? value
    let members ← takenMembers? members
    return (name, value) :: members

end

end Written

/-- Reads a whole text as one value. -/
def ofText (text : Text) : Option Json :=
  (Written.ofText? text).bind Written.taken?

end Json
end FeedDesk
