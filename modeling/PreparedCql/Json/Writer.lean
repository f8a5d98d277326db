import PreparedCql.Text.Basic
import PreparedCql.Binary64.Basic

/-! The library that writes JSON. Its functions are a parameter of every JSON text. -/

namespace PreparedCql

/-- The functions that write the parts of a JSON text. Arrays and objects get the texts of what is in
them. -/
structure JsonWriter where
  null : Text
  bool : Bool → Text
  integer : Int → Text
  float : Binary64 → Text
  string : Text → Text
  array : List Text → Text
  object : List (Text × Text) → Text

end PreparedCql
