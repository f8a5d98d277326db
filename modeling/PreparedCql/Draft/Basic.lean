import PreparedCql.Value.Basic

/-! What has been collected for a statement so far. Texts and values are kept apart from the start,
since the texts go into the statement and the values beside it. -/

namespace PreparedCql

/-- Names and the values given with them, in the order of the calls. -/
structure Bindings where
  names : List Text := []
  values : List Value := []
deriving BEq, Repr

namespace Bindings

def add (bindings : Bindings) (name : Text) (value : Value) : Bindings where
  names := bindings.names ++ [name]
  values := bindings.values ++ [value]

end Bindings

/-- Predicates and the values of all their markers, in the order of the calls. -/
structure Predicates where
  clauses : List Text := []
  values : List Value := []
deriving BEq, Repr

namespace Predicates

def add (predicates : Predicates) (clause : Text) (values : List Value) : Predicates where
  clauses := predicates.clauses ++ [clause]
  values := predicates.values ++ values

end Predicates

/-- The limit on the number of rows. The count that was asked for is kept even if it sets no limit. -/
structure RowLimit where
  enabled : Bool := false
  count : Int64 := 0
deriving BEq, Repr

namespace RowLimit

def ofCount (count : Int64) : RowLimit where
  enabled := 0 < count
  count := count

end RowLimit

structure Draft where
  keyspace : Option Text := none
  table : Option Text := none
  fields : List Text := []
  predicates : Predicates := {}
  order : Option Text := none
  limit : RowLimit := {}
  inserts : Bindings := {}
  assignments : Bindings := {}
  options : Bindings := {}
  upsert : Bool := false
deriving BEq, Repr

namespace Draft

/-- The table; an empty name counts as none. -/
def tableName? (draft : Draft) : Option Text := draft.table.filter (!·.isEmpty)

def keyspaceName? (draft : Draft) : Option Text := draft.keyspace.filter (!·.isEmpty)

def orderClause? (draft : Draft) : Option Text := draft.order.filter (!·.isEmpty)

end Draft

end PreparedCql
