namespace FeedDesk

/-!
Text is a list of characters. Everything the desk reads, matches, changes or prints is such a
list, and a string literal stands for the list of its characters. This file keeps the general
operations: finding one text in another, cutting at a mark, and joining. What a character is
(blank, letter, cased) is decided in the modules beside this one.
-/

/-- Characters in reading order. -/
abbrev Text := List Char

instance : Coe String Text := ⟨String.toList⟩

namespace Text

/-- What follows `front`, when the text begins with it. -/
def strip? : (front text : Text) → Option Text
  | [], text => some text
  | _ :: _, [] => none
  | expected :: front, char :: text => if expected = char then strip? front text else none

theorem strip?_eq_some_iff {front text rest : Text} :
    strip? front text = some rest ↔ text = front ++ rest := by
  induction front generalizing text with
  | nil => simp [strip?]
  | cons expected front ih =>
    cases text with
    | nil => simp [strip?]
    | cons char text =>
      by_cases same : expected = char
      · simp [strip?, same, ih]
      · simp [strip?, same, Ne.symm same]

/-- The needle stands somewhere in the text. -/
def contains (needle : Text) : Text → Bool
  | [] => needle.isEmpty
  | char :: text => needle.isPrefixOf (char :: text) || contains needle text

theorem contains_iff {needle text : Text} :
    contains needle text = true ↔ needle <:+: text := by
  induction text with
  | nil => simp [contains]
  | cons char text ih =>
    simp [contains, ih, List.infix_cons_iff]

/-- The text before and after the first occurrence of the mark. -/
def cut? (mark : Text) : Text → Option (Text × Text)
  | [] => (strip? mark []).map fun rest => ([], rest)
  | char :: text =>
    match strip? mark (char :: text) with
    | some rest => some ([], rest)
    | none => (cut? mark text).map fun (before, after) => (char :: before, after)

theorem append_of_cut? {mark text before after : Text}
    (found : cut? mark text = some (before, after)) : text = before ++ mark ++ after := by
  induction text generalizing before with
  | nil =>
    obtain ⟨rest, stripped, same⟩ := Option.map_eq_some_iff.1 found
    obtain ⟨rfl, rfl⟩ := Prod.mk.inj same
    simpa using strip?_eq_some_iff.1 stripped
  | cons char text ih =>
    rw [cut?] at found
    split at found
    · rename_i rest stripped
      obtain ⟨rfl, rfl⟩ := Prod.mk.inj (Option.some.inj found)
      simpa using strip?_eq_some_iff.1 stripped
    · obtain ⟨⟨before', after'⟩, deeper, same⟩ := Option.map_eq_some_iff.1 found
      obtain ⟨rfl, rfl⟩ := Prod.mk.inj same
      simp [ih deeper]

/-- Drops the characters of a class from both ends. -/
def trimBy (unwanted : Char → Bool) (text : Text) : Text :=
  ((text.dropWhile unwanted).reverse.dropWhile unwanted).reverse

/-- Drops the characters of a class from the end. -/
def trimEndBy (unwanted : Char → Bool) (text : Text) : Text :=
  (text.reverse.dropWhile unwanted).reverse

/-- The texts one after another with the separator between neighbours. -/
def joined (separator : Text) : List Text → Text
  | [] => []
  | [text] => text
  | text :: next :: texts => text ++ separator ++ joined separator (next :: texts)

/-- Writes `written` in the place of every occurrence of a character. -/
def replaceChar (char : Char) (written : Text) (text : Text) : Text :=
  text.flatMap fun other => if other = char then written else [other]

/-- The maximal runs of characters outside the class, in order; runs may be empty. -/
def splitBy (separates : Char → Bool) : Text → List Text
  | [] => [[]]
  | char :: text =>
    if separates char then [] :: splitBy separates text
    else match splitBy separates text with
      | [] => [[char]]
      | run :: runs => (char :: run) :: runs

def isAsciiDigit (char : Char) : Bool :=
  '0' ≤ char && char ≤ '9'

def isAsciiLower (char : Char) : Bool :=
  'a' ≤ char && char ≤ 'z'

def isAsciiUpper (char : Char) : Bool :=
  'A' ≤ char && char ≤ 'Z'

def isAsciiLetter (char : Char) : Bool :=
  isAsciiLower char || isAsciiUpper char

def isAsciiAlphanumeric (char : Char) : Bool :=
  isAsciiLetter char || isAsciiDigit char

/-- The lower-case form of the 26 basic letters; every other character is its own. -/
def asciiLowerChar (char : Char) : Char :=
  if isAsciiUpper char then Char.ofNat (char.toNat + 32) else char

/-- Lower-cases the 26 basic letters and nothing else. -/
def asciiLower (text : Text) : Text :=
  text.map asciiLowerChar

/-- The number of bytes of the text in UTF-8. -/
def byteLength : Text → Nat
  | [] => 0
  | char :: text => char.utf8Size + byteLength text

/-- Order of texts by code point; this is also their order as UTF-8 bytes. -/
def order : Text → Text → Ordering
  | [], [] => .eq
  | [], _ :: _ => .lt
  | _ :: _, [] => .gt
  | left :: lefts, right :: rights => (compare left.toNat right.toNat).then (order lefts rights)

/-- The decimal digits of a number. -/
def ofNat (number : Nat) : Text :=
  Nat.toDigits 10 number

/-- The decimal digits of a number after its sign, which is written only below zero. -/
def ofInt : Int → Text
  | .ofNat number => ofNat number
  | .negSucc number => '-' :: ofNat (number + 1)

/-- The value of a run of decimal digits. -/
def digitsValue (digits : Text) : Nat :=
  digits.foldl (fun value digit => value * 10 + (digit.toNat - 48)) 0

end Text
end FeedDesk
