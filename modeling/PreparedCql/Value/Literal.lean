import PreparedCql.Text.Quoted
import PreparedCql.Binary64.Layout
import PreparedCql.Value.Basic

/-! The literal of a value, as it stands in the text of a statement that is shown in a log. -/

namespace PreparedCql.Value

/-- Float literals have a fraction or an exponent, plain from `1e-4` to below `1e16`; the numbers
that are not finite are spelled as words. -/
def floatLiteral : Binary64.Layout where
  tie := .up
  leastPlain := -4
  leastScientific := 16
  plusSign := false
  notNumber := "NaN".toList
  infinity := "Infinity".toList
  negativeInfinity := "-Infinity".toList

mutual

def literal : Value → Text
  | .null => "NULL".toList
  | .bool flag => (if flag then "true" else "false").toList
  | .int number => Text.ofInt number.toInt
  | .float number => number.write floatLiteral
  | .text content => content.quoted
  | .blob bytes => '0' :: 'x' :: bytes.flatMap Text.hexByte
  | .list items => '[' :: ", ".toList.intercalate (literals items) ++ [']']

def literals : List Value → List Text
  | [] => []
  | item :: items => item.literal :: literals items

end

example : (⟨0x4341C37937E08000⟩ : Binary64).write floatLiteral = "1e16".toList := by decide +kernel
example : (⟨0x4341C37937E07FFF⟩ : Binary64).write floatLiteral = "9999999999999998.0".toList := by
  decide +kernel
example : (⟨0x3F1A36E2EB1C432D⟩ : Binary64).write floatLiteral = "0.0001".toList := by decide +kernel
example : (⟨0x3EE4F8B588E368F1⟩ : Binary64).write floatLiteral = "1e-5".toList := by decide +kernel
example : (⟨0x8000000000000000⟩ : Binary64).write floatLiteral = "-0.0".toList := by decide +kernel
example : (⟨0x0000000000000001⟩ : Binary64).write floatLiteral = "5e-324".toList := by decide +kernel
example : (⟨0x3E60000000000000⟩ : Binary64).write floatLiteral = "2.9802322387695313e-8".toList := by
  decide +kernel

theorem literals_eq_map (items : List Value) : literals items = items.map literal := by
  induction items with
  | nil => rfl
  | cons item items ih => rw [literals, ih, List.map_cons]

theorem literal_list (items : List Value) :
    (list items).literal = '[' :: ", ".toList.intercalate (items.map literal) ++ [']'] := by
  rw [literal, literals_eq_map]

end PreparedCql.Value
