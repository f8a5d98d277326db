import PreparedCql.Text.Basic

/-! The characters with the Unicode property White_Space. -/

namespace PreparedCql.Text

/-- First and last code point of each range of White_Space. -/
def blankRanges : List (Nat × Nat) :=
  [(0x0009, 0x000D), (0x0020, 0x0020), (0x0085, 0x0085), (0x00A0, 0x00A0), (0x1680, 0x1680),
    (0x2000, 0x200A), (0x2028, 0x2029), (0x202F, 0x202F), (0x205F, 0x205F), (0x3000, 0x3000)]

def isBlank (character : Char) : Bool := inRanges blankRanges character

theorem isBlank_space : isBlank ' ' = true := rfl

theorem isBlank_quote : isBlank '\'' = false := rfl

end PreparedCql.Text
