import PreparedCql.Binary64.Shortest

/-! How a binary64 number is written: the shortest decimal that reads back, with its digits around a
point or with an exponent, as a layout says. -/

namespace PreparedCql.Binary64

/-- Decimal digits without trailing zeros, and the power of ten that the first of them counts. -/
structure Decimal where
  digits : Text
  exponent : Int
deriving DecidableEq, Repr

def withoutTrailingZeros (digits : Text) : Text :=
  (digits.reverse.dropWhile (· == '0')).reverse

/-- The shortest decimal of the magnitude; zero is the digit `0` at the units. -/
def decimal (number : Binary64) (tie : Tie) : Decimal :=
  if number.isZero then ⟨['0'], 0⟩
  else
    let digits := Text.ofNat (number.shortest tie)
    ⟨withoutTrailingZeros digits, (digits.length : Int) - 1076⟩

/-- What a format decides about its numbers. Exponents from `leastPlain` up to but not including
`leastScientific` are written without an exponent. -/
structure Layout where
  tie : Tie
  leastPlain : Int
  leastScientific : Int
  plusSign : Bool
  notNumber : Text
  infinity : Text
  negativeInfinity : Text
deriving DecidableEq, Repr

namespace Layout

def plain (decimal : Decimal) : Text :=
  match decimal.exponent with
  | .ofNat exponent =>
      let whole := decimal.digits.take (exponent + 1)
      let fraction := decimal.digits.drop (exponent + 1)
      whole ++ List.replicate (exponent + 1 - whole.length) '0' ++ '.' ::
        (if fraction.isEmpty then ['0'] else fraction)
  | .negSucc zeros => '0' :: '.' :: (List.replicate zeros '0' ++ decimal.digits)

/-- One digit, the others after a point if there are any, and the exponent. -/
def scientific (layout : Layout) (decimal : Decimal) : Text :=
  let lead := decimal.digits.take 1
  let fraction := decimal.digits.drop 1
  let sign : Text := if layout.plusSign && 0 ≤ decimal.exponent then ['+'] else []
  lead ++ (if fraction.isEmpty then [] else '.' :: fraction) ++
    'e' :: (sign ++ Text.ofInt decimal.exponent)

def magnitude (layout : Layout) (decimal : Decimal) : Text :=
  if layout.leastPlain ≤ decimal.exponent && decimal.exponent < layout.leastScientific then
    plain decimal
  else layout.scientific decimal

end Layout

/-- The number as the layout writes it; a negative zero keeps its sign. -/
def write (layout : Layout) (number : Binary64) : Text :=
  if number.isNaN then layout.notNumber
  else if number.isInfinite then
    if number.isNegative then layout.negativeInfinity else layout.infinity
  else
    (if number.isNegative then ['-'] else []) ++
      layout.magnitude (number.decimal layout.tie)

end PreparedCql.Binary64
