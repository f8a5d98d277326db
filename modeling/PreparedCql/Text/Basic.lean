/-! Text as lists of characters, and the numerals that are written into it. -/

namespace PreparedCql

/-- Names, clauses, literals and whole statements are lists of Unicode characters. -/
abbrev Text := List Char

namespace Text

def ofNat (number : Nat) : Text := Nat.toDigits 10 number

def ofInt : Int → Text
  | .ofNat number => ofNat number
  | .negSucc number => '-' :: ofNat (number + 1)

def hex (number : Nat) : Text := Nat.toDigits 16 number

/-- Two lower-case hexadecimal digits for one byte. -/
def hexByte (byte : UInt8) : Text :=
  [Nat.digitChar (byte.toNat / 16), Nat.digitChar (byte.toNat % 16)]

/-- The code point of the character is in one of the ranges, given by their first and last one. -/
def inRanges (ranges : List (Nat × Nat)) (character : Char) : Bool :=
  ranges.any fun range => range.1 ≤ character.toNat && character.toNat ≤ range.2

theorem ofNat_ne_nil (number : Nat) : ofNat number ≠ [] :=
  Nat.toDigits_ne_nil

end Text

end PreparedCql
