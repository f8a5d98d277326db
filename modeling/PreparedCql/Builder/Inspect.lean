import PreparedCql.Builder.Basic
import PreparedCql.Value.Inspect

/-! The inspection form of a builder, with all that it has collected. -/

namespace PreparedCql

instance : Inspect Draft where
  inspect draft :=
    Inspect.record "BuilderState"
      [("keyspace", inspect draft.keyspace),
        ("table", inspect draft.table),
        ("fields", inspect draft.fields),
        ("predicates", inspect draft.predicates.clauses),
        ("predicate_values", inspect draft.predicates.values),
        ("order", inspect draft.order),
        ("limit_enabled", inspect draft.limit.enabled),
        ("limit_value", inspect draft.limit.count),
        ("insert_columns", inspect draft.inserts.names),
        ("insert_values", inspect draft.inserts.values),
        ("set_columns", inspect draft.assignments.names),
        ("set_values", inspect draft.assignments.values),
        ("option_names", inspect draft.options.names),
        ("option_values", inspect draft.options.values),
        ("upsert", inspect draft.upsert)]

instance : Inspect Builder where
  inspect builder :=
    Inspect.record "CqlBuilder"
      [("command", inspect builder.command), ("state", inspect builder.draft)]

end PreparedCql
