import PreparedCql.Value.Basic

/-! Conversions into bound values: whatever has one can be passed where a value is expected. -/

namespace PreparedCql

class ToValue (α : Type) where
  toValue : α → Value

export ToValue (toValue)

namespace ToValue

instance : ToValue Value := ⟨id⟩
instance : ToValue Bool := ⟨.bool⟩
instance : ToValue Int64 := ⟨.int⟩
instance : ToValue Int32 := ⟨fun number => .int number.toInt64⟩
instance : ToValue Int16 := ⟨fun number => .int number.toInt64⟩
instance : ToValue Int8 := ⟨fun number => .int number.toInt64⟩
instance : ToValue UInt32 := ⟨fun number => .int number.toUInt64.toInt64⟩
instance : ToValue UInt16 := ⟨fun number => .int number.toUInt64.toInt64⟩
instance : ToValue UInt8 := ⟨fun number => .int number.toUInt64.toInt64⟩
instance : ToValue Binary64 := ⟨.float⟩
instance : ToValue Binary32 := ⟨fun number => .float number.widen⟩
instance : ToValue Text := ⟨.text⟩
instance : ToValue String := ⟨fun string => .text string.toList⟩
instance : ToValue (List UInt8) := ⟨.blob⟩

instance {α : Type} [ToValue α] : ToValue (Option α) where
  toValue
    | none => .null
    | some value => toValue value

end ToValue

namespace Value

def ofList {α : Type} [ToValue α] (items : List α) : Value := .list (items.map toValue)

end Value

end PreparedCql
