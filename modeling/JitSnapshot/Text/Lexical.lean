set_option autoImplicit false

/-!
What settings and messages are made of: white space, text between separating
characters, and numerals of natural numbers.

White space is what has the Unicode property `White_Space`; there are
twenty-five such characters. A decimal numeral is written by `Nat.repr`, whose
digits are `Nat.toDigits 10`; the reader accepts every numeral so written and,
besides, one leading plus sign and any number of leading zeros.
-/

namespace JitSnapshot

namespace Blank

/-- The code points with the property `White_Space`, as ranges with both ends. -/
def ranges : List (Nat × Nat) :=
  [(0x0009, 0x000D), (0x0020, 0x0020), (0x0085, 0x0085), (0x00A0, 0x00A0), (0x1680, 0x1680),
    (0x2000, 0x200A), (0x2028, 0x2029), (0x202F, 0x202F), (0x205F, 0x205F), (0x3000, 0x3000)]

def isBlank (char : Char) : Bool :=
  ranges.any fun (first, last) => first ≤ char.toNat && char.toNat ≤ last

def trimStart (text : List Char) : List Char :=
  text.dropWhile isBlank

def trimEnd (text : List Char) : List Char :=
  (text.reverse.dropWhile isBlank).reverse

def trim (text : List Char) : List Char :=
  trimEnd (trimStart text)

end Blank

namespace Separated

def cutFirst? (separator : Char) : List Char → Option (List Char × List Char)
  | [] => none
  | char :: rest =>
      if char = separator then some ([], rest)
      else (cutFirst? separator rest).map fun (before, after) => (char :: before, after)

def join (separator : Char) (texts : List (List Char)) : List Char :=
  [separator].intercalate texts

def sameLetters (left right : List Char) : Bool :=
  left.map Char.toLower == right.map Char.toLower

end Separated

namespace Numeral

def lowerHex (value : Nat) : String :=
  String.ofList (Nat.toDigits 16 value)

def upperHex (value : Nat) : String :=
  String.ofList ((Nat.toDigits 16 value).map Char.toUpper)

def ofDigits? (digits : List Char) : Option Nat :=
  if digits.isEmpty || !digits.all Char.isDigit then none
  else some (Nat.ofDigitChars 10 digits 0)

def unsigned : List Char → List Char
  | '+' :: digits => digits
  | digits => digits

/-- The 32-bit word a decimal numeral denotes. A value of 2^32 or more is refused, not wrapped. -/
def toUInt32? (numeral : List Char) : Option UInt32 := do
  let value ← ofDigits? (unsigned numeral)
  if value < UInt32.size then some (UInt32.ofNat value) else none

end Numeral

end JitSnapshot
