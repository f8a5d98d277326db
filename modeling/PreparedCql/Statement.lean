import PreparedCql.Marker
import PreparedCql.Value.Json

/-! A finished statement. -/

namespace PreparedCql

/-- The text of a statement and the values of its markers, in the order of the markers. -/
structure Statement where
  query : Text
  params : List Value
deriving BEq, Repr

namespace Statement

def interpolated (statement : Statement) : Text := statement.query.interpolate statement.params

def json (writer : JsonWriter) (statement : Statement) : Text :=
  writer.object [("query".toList, writer.string statement.query),
    ("params".toList, writer.array (statement.params.map (Value.json writer)))]

end Statement

end PreparedCql
