import FeedDesk.Text.Basic

namespace FeedDesk
namespace Text

/-!
Characters as bytes in UTF-8, and reading bytes without ever failing. A well-formed sequence gives
its character; of any other bytes the longest beginning of a well-formed sequence, or else one
byte, gives one replacement character.
-/

def replacement : Char := '\ufffd'

/-- For a leading byte: how many bytes follow it, the bounds of the first of them, and the bits of
the character that the leading byte carries. -/
def leading? (byte : Nat) : Option (Nat × Nat × Nat × Nat) :=
  if 0xC2 ≤ byte ∧ byte ≤ 0xDF then some (1, 0x80, 0xBF, byte - 0xC0)
  else if byte = 0xE0 then some (2, 0xA0, 0xBF, 0)
  else if byte = 0xED then some (2, 0x80, 0x9F, 0xD)
  else if 0xE1 ≤ byte ∧ byte ≤ 0xEF then some (2, 0x80, 0xBF, byte - 0xE0)
  else if byte = 0xF0 then some (3, 0x90, 0xBF, 0)
  else if byte = 0xF4 then some (3, 0x80, 0x8F, 4)
  else if 0xF1 ≤ byte ∧ byte ≤ 0xF3 then some (3, 0x80, 0xBF, byte - 0xF0)
  else none

/-- Reads bytes while `pending` of them are still to come for the character begun, the next one
within the bounds. -/
def ofBytesFrom : (pending low high code : Nat) → List Nat → Text
  | 0, _, _, _, [] => []
  | _ + 1, _, _, _, [] => [replacement]
  | pending + 1, low, high, code, byte :: bytes =>
    if low ≤ byte ∧ byte ≤ high then
      let code := code * 64 + (byte - 0x80)
      if pending = 0 then Char.ofNat code :: ofBytesFrom 0 0 0 0 bytes
      else ofBytesFrom pending 0x80 0xBF code bytes
    else
      replacement ::
        (if byte < 0x80 then Char.ofNat byte :: ofBytesFrom 0 0 0 0 bytes
        else match leading? byte with
          | some (count, low, high, code) => ofBytesFrom count low high code bytes
          | none => replacement :: ofBytesFrom 0 0 0 0 bytes)
  | 0, _, _, _, byte :: bytes =>
    if byte < 0x80 then Char.ofNat byte :: ofBytesFrom 0 0 0 0 bytes
    else match leading? byte with
      | some (count, low, high, code) => ofBytesFrom count low high code bytes
      | none => replacement :: ofBytesFrom 0 0 0 0 bytes

def ofBytes (bytes : List Nat) : Text :=
  ofBytesFrom 0 0 0 0 bytes

/-- The bytes of a character. -/
def utf8Bytes (char : Char) : List Nat :=
  let code := char.toNat
  if code < 0x80 then [code]
  else if code < 0x800 then [0xC0 + code / 0x40, 0x80 + code % 0x40]
  else if code < 0x10000 then
    [0xE0 + code / 0x1000, 0x80 + code / 0x40 % 0x40, 0x80 + code % 0x40]
  else
    [0xF0 + code / 0x40000, 0x80 + code / 0x1000 % 0x40, 0x80 + code / 0x40 % 0x40,
      0x80 + code % 0x40]

end Text
end FeedDesk
