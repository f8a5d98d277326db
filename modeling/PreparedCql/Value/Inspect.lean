import PreparedCql.Text.Inspect
import PreparedCql.Binary64.Layout
import PreparedCql.Value.Basic
import PreparedCql.Value.Literal

/-! The inspection form of a value. -/

namespace PreparedCql.Value

/-- Inspected floats are written like literals, but with other words for infinity. -/
def inspectedFloat : Binary64.Layout :=
  { floatLiteral with infinity := "inf".toList, negativeInfinity := "-inf".toList }

mutual

def inspected : Value → Text
  | .null => "Null".toList
  | .bool flag => Inspect.applied "Bool" (inspect flag)
  | .int number => Inspect.applied "Int" (inspect number)
  | .float number => Inspect.applied "Float" (number.write inspectedFloat)
  | .text content => Inspect.applied "Text" (inspect content)
  | .blob bytes => Inspect.applied "Blob" (inspect bytes)
  | .list items => Inspect.applied "List" (Inspect.bracketed (inspectedItems items))

def inspectedItems : List Value → List Text
  | [] => []
  | item :: items => item.inspected :: inspectedItems items

end

instance : Inspect Value := ⟨inspected⟩

end PreparedCql.Value
