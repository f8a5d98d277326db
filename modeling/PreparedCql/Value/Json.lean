import PreparedCql.Json.Writer
import PreparedCql.Value.Basic

/-! The JSON text of a value. It does not show which kind of value it is the text of: a blob is the array
of its bytes. -/

namespace PreparedCql.Value

mutual

def json (writer : JsonWriter) : Value → Text
  | .null => writer.null
  | .bool flag => writer.bool flag
  | .int number => writer.integer number.toInt
  | .float number => writer.float number
  | .text content => writer.string content
  | .blob bytes => writer.array (bytes.map fun byte => writer.integer byte.toNat)
  | .list items => writer.array (jsons writer items)

def jsons (writer : JsonWriter) : List Value → List Text
  | [] => []
  | item :: items => item.json writer :: jsons writer items

end

theorem jsons_eq_map (writer : JsonWriter) (items : List Value) :
    jsons writer items = items.map (json writer) := by
  induction items with
  | nil => rfl
  | cons item items ih => rw [jsons, ih, List.map_cons]

theorem json_list (writer : JsonWriter) (items : List Value) :
    (list items).json writer = writer.array (items.map (json writer)) := by
  rw [json, jsons_eq_map]

end PreparedCql.Value
