import PreparedCql.Text.Basic

/-! What may be given where column names are expected: one name or a list of them. -/

namespace PreparedCql

class Names (α : Type) where
  names : α → List Text

export Names (names)

namespace Names

instance : Names Text := ⟨fun name => [name]⟩
instance : Names String := ⟨fun name => [name.toList]⟩
instance : Names (List Text) := ⟨id⟩
instance : Names (List String) := ⟨fun list => list.map String.toList⟩
instance : Names (Array Text) := ⟨Array.toList⟩
instance : Names (Array String) := ⟨fun array => array.toList.map String.toList⟩

end Names

end PreparedCql
