/-!
# Text

How numbers and bytes are written as text and read from it: octets in a radix, blanks around a
text, and bytes as pairs of hexadecimal digits.
-/

namespace PacketSteering

/-!
## Octets in text

An octet is written as one or more digits of a radix, with any number of leading zeros and
optionally one plus sign in front. Digits are taken from left to right, and the first one that is
no digit, or that takes the value past 255, decides what is wrong with the text.
-/

/-- What is wrong with a text that should be an octet. -/
inductive NumeralError
  | empty
  | invalidDigit
  | tooLarge
  deriving DecidableEq

namespace NumeralError

/-- The wording of what is wrong. -/
def message : NumeralError → String
  | empty => "cannot parse integer from empty string"
  | invalidDigit => "invalid digit found in string"
  | tooLarge => "number too large to fit in target type"

end NumeralError

namespace Numeral

/-- The value of an ASCII digit or letter, if it is a digit of the radix. -/
def digit? (radix : Nat) (c : Char) : Option Nat :=
  let value? :=
    if '0' ≤ c ∧ c ≤ '9' then some (c.toNat - 48)
    else if 'a' ≤ c ∧ c ≤ 'z' then some (c.toNat - 87)
    else if 'A' ≤ c ∧ c ≤ 'Z' then some (c.toNat - 55)
    else none
  value?.filter (· < radix)

/-- The value of a run of digits that continues the value read so far. -/
def readDigits (radix : Nat) : (soFar : Nat) → List Char → Except NumeralError Nat
  | soFar, [] => .ok soFar
  | soFar, c :: rest =>
    match digit? radix c with
    | none => .error .invalidDigit
    | some d =>
      if 255 < soFar * radix + d then .error .tooLarge
      else readDigits radix (soFar * radix + d) rest

/-- The octet that a text stands for. A sign on its own is no digit. -/
def readOctet (radix : Nat) (text : List Char) : Except NumeralError UInt8 :=
  match text with
  | [] => .error .empty
  | ['+'] => .error .invalidDigit
  | '+' :: rest => (readDigits radix 0 rest).map UInt8.ofNat
  | _ => (readDigits radix 0 text).map UInt8.ofNat

end Numeral

/-!
## Blank characters

The characters with the Unicode property `White_Space`, and text with the blanks around it removed.
-/

namespace Text

/-- The ranges of code points with the property `White_Space`, ends included. -/
def blankRanges : List (Nat × Nat) :=
  [(0x09, 0x0D), (0x20, 0x20), (0x85, 0x85), (0xA0, 0xA0), (0x1680, 0x1680), (0x2000, 0x200A),
    (0x2028, 0x2029), (0x202F, 0x202F), (0x205F, 0x205F), (0x3000, 0x3000)]

/-- A character is blank when one of the ranges holds it. -/
def isBlank (c : Char) : Bool :=
  blankRanges.any fun range => range.1 ≤ c.toNat && c.toNat ≤ range.2

/-- The text without the blanks at its two ends. -/
def trim (text : List Char) : List Char :=
  ((text.dropWhile isBlank).reverse.dropWhile isBlank).reverse

end Text

/-!
## Hexadecimal text

Bytes are written as two hexadecimal digits each, without separators. Reading accepts digits of
either case and takes them in pairs.
-/

namespace Hex

/-- The lower-case digit of a value below sixteen. -/
def digit (n : Nat) : Char :=
  if n < 10 then Char.ofNat (48 + n) else Char.ofNat (87 + n)

/-- The upper-case digit of a value below sixteen. -/
def upperDigit (n : Nat) : Char :=
  if n < 10 then Char.ofNat (48 + n) else Char.ofNat (55 + n)

/-- The two digits of each byte in turn. -/
def digits : List UInt8 → List Char
  | [] => []
  | b :: rest => digit (b.toNat / 16) :: digit (b.toNat % 16) :: digits rest

/-- The lower-case text of a list of bytes. -/
def text (bytes : List UInt8) : String :=
  String.ofList (digits bytes)

/-- The last `width` upper-case digits of a number, leading zeros included. -/
def upperDigits : (width : Nat) → Nat → List Char
  | 0, _ => []
  | width + 1, n => upperDigits width (n / 16) ++ [upperDigit (n % 16)]

/-- A number as `width` upper-case digits. -/
def upperText (width : Nat) (n : Nat) : String :=
  String.ofList (upperDigits width n)

/-- The bytes that pairs of digits stand for; an odd digit or a foreign character is refused. -/
def readDigits? : List Char → Option (List UInt8)
  | [] => some []
  | [_] => none
  | hi :: lo :: rest => do
    let hi ← Numeral.digit? 16 hi
    let lo ← Numeral.digit? 16 lo
    let bytes ← readDigits? rest
    return UInt8.ofNat (16 * hi + lo) :: bytes

/-- The bytes that a text of digit pairs stands for. -/
def read? (text : String) : Option (List UInt8) :=
  readDigits? text.toList

end Hex

end PacketSteering
